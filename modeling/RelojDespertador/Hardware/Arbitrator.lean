import RelojDespertador.Library.FirstSetBit
import RelojDespertador.Library.InputMachine
import RelojDespertador.Library.RoundRobin

/-!
# The arbitrator of the interconnect

`altera_merlin_arbitrator.sv`, for any number of requesters. Its decision is an
addition: the request vector stands twice in a word, and the first set bit from
the top priority on, folded back to the width of a vector, is the grant. Narrow
sums are formed by a chain of full adders.
-/

namespace RelojDespertador

/-! ## The adder -/

namespace ArbAdder

variable {w : Nat} (a b : BitVec w)

/-- The carry out of a full adder of the chain. -/
def cout : Nat → Bool
  | 0 => a.getLsbD 0 && b.getLsbD 0
  | i + 1 => (a.getLsbD (i + 1) && b.getLsbD (i + 1)) ||
      (cout i && (a.getLsbD (i + 1) ^^ b.getLsbD (i + 1)))

/-- The sum of a full adder of the chain. -/
def sum : Nat → Bool
  | 0 => a.getLsbD 0 ^^ b.getLsbD 0
  | i + 1 => (a.getLsbD (i + 1) ^^ b.getLsbD (i + 1)) ^^ cout a b i

/-- The word of the sums of the first `k` full adders. -/
def sums : (k : Nat) → BitVec w
  | 0 => 0
  | k + 1 => sums k ||| if sum a b k then BitVec.twoPow w k else 0

/-- The block `carry_chain`: the low bits of a sum that is one bit wider. -/
def carryChain : BitVec w := (a.setWidth (w + 1) + b.setWidth (w + 1)).setWidth w

end ArbAdder

/-- `altera_merlin_arb_adder`. -/
def arbAdder {w : Nat} (a b : BitVec w) : BitVec w :=
  if w ≤ 8 then ArbAdder.sums a b w else ArbAdder.carryChain a b

namespace ArbAdder

variable {w : Nat} (a b : BitVec w)

theorem cout_eq_carry (i : Nat) : cout a b i = BitVec.carry (i + 1) a b false := by
  induction i with
  | zero =>
      rw [BitVec.carry_succ, BitVec.carry_zero, cout]
      cases a.getLsbD 0 <;> cases b.getLsbD 0 <;> rfl
  | succ i ih =>
      rw [BitVec.carry_succ, cout, ih]
      cases a.getLsbD (i + 1) <;> cases b.getLsbD (i + 1) <;>
        cases BitVec.carry (i + 1) a b false <;> rfl

theorem sum_eq {i : Nat} (h : i < w) : sum a b i = (a + b).getLsbD i := by
  rw [BitVec.getLsbD_add h]
  cases i with
  | zero => simp [sum]
  | succ i => rw [sum, cout_eq_carry, Bool.xor_assoc]

theorem getLsbD_sums {k i : Nat} (h : i < w) :
    (sums a b k).getLsbD i = (decide (i < k) && (a + b).getLsbD i) := by
  induction k with
  | zero => simp [sums]
  | succ k ih =>
      rw [sums, BitVec.getLsbD_or, ih]
      rcases Nat.lt_trichotomy i k with hlt | rfl | hgt
      · have hne : ¬ k = i := by omega
        have hsucc : i < k + 1 := by omega
        cases sum a b k <;> simp [hlt, hne, hsucc]
      · rw [← sum_eq a b h]
        cases sum a b i <;> simp [h]
      · have hne : ¬ k = i := by omega
        have hsucc : ¬ i < k + 1 := by omega
        have hlt : ¬ i < k := by omega
        cases sum a b k <;> simp [hlt, hne, hsucc]

end ArbAdder

/-- The adder adds, whichever of its two forms is taken. -/
theorem arbAdder_eq {w : Nat} (a b : BitVec w) : arbAdder a b = a + b := by
  rw [arbAdder]
  split_ifs
  · apply BitVec.eq_of_getLsbD_eq
    intro i hi
    rw [ArbAdder.getLsbD_sums a b hi]
    simp [hi]
  · rw [ArbAdder.carryChain, BitVec.setWidth_add _ _ (Nat.le_succ w)]
    simp

/-! ## The arbitrator -/

/-- `SCHEME`. -/
inductive Scheme
  | roundRobin | fixedPriority | noArb
  deriving DecidableEq, Repr

/-- What an edge finds at the inputs of an arbitrator. -/
structure ArbInput (n : Nat) where
  request : BitVec n
  incrementTopPriority : Bool
  saveTopPriority : Bool
  deriving DecidableEq, Repr

namespace Arbitrator

variable {n : Nat}

/-- `top_priority`. -/
def topPriority (scheme : Scheme) (topPriorityReg : BitVec n) : BitVec n :=
  if scheme = .roundRobin ∧ n > 1 then topPriorityReg else 1

/-- `grant_double_vector`. -/
def grantDoubleVector (request top : BitVec n) : BitVec (n + n) :=
  (request ++ request) &&& arbAdder (~~~request ++ ~~~request) (0#n ++ top)

/-- `grant`. -/
def grant (scheme : Scheme) (request topPriorityReg : BitVec n) : BitVec n :=
  if scheme = .noArb then request
  else
    let double := grantDoubleVector request (topPriority scheme topPriorityReg)
    double.setWidth n ||| (double >>> n).setWidth n

/-- `top_priority_reg` after reset. -/
def reset : BitVec n := 1

/-- One rising clock edge of `top_priority_reg`. -/
def edge (scheme : Scheme) (pipeline : Bool) (i : ArbInput n) (topPriorityReg : BitVec n) :
    BitVec n :=
  let grant := grant scheme i.request topPriorityReg
  if pipeline then
    if i.incrementTopPriority then
      if i.request ≠ 0 then grant.rotateLeft 1 else topPriorityReg
    else topPriorityReg
  else if i.incrementTopPriority then
    if i.request ≠ 0 then grant.rotateLeft 1 else topPriorityReg.rotateLeft 1
  else if i.saveTopPriority then grant
  else topPriorityReg

/-! ## The grant -/

/-- The requesters of a vector. -/
def Requests (request : BitVec n) (i : Fin n) : Prop := request.getLsbD i = true

instance (request : BitVec n) (i : Fin n) : Decidable (Requests request i) :=
  inferInstanceAs (Decidable (request.getLsbD i = true))

theorem getLsbD_double (x : BitVec n) (i : Fin n) :
    (x ++ x).getLsbD i = x.getLsbD i ∧ (x ++ x).getLsbD (i + n) = x.getLsbD i := by
  rw [BitVec.getLsbD_append, BitVec.getLsbD_append, if_pos i.isLt, if_neg (by omega),
    Nat.add_sub_cancel]
  exact ⟨rfl, rfl⟩

/-- No bit from `top` up to `m` is set in the doubled vector: the requesters stand
elsewhere, in both copies. -/
theorem double_clear_iff (request : BitVec n) {top m : Nat} (hm : m ≤ n + n) :
    (∀ k, top ≤ k → k < m → (request ++ request).getLsbD k = false) ↔
      ∀ j, Requests request j → ¬ (top ≤ j.val ∧ j.val < m) ∧ ¬ (top ≤ j.val + n ∧ j.val + n < m) := by
  constructor
  · intro hclear j hj
    obtain ⟨hlow, hhigh⟩ := getLsbD_double request j
    constructor
    · rintro ⟨htop, hjm⟩
      exact Bool.false_ne_true ((hclear j htop hjm).symm.trans (hlow.trans hj))
    · rintro ⟨htop, hjm⟩
      exact Bool.false_ne_true ((hclear (j + n) htop hjm).symm.trans (hhigh.trans hj))
  · intro hnone k htop hkm
    apply Bool.eq_false_iff.mpr
    intro hset
    rcases Nat.lt_or_ge k n with hlow | hhigh
    · have hj : Requests request ⟨k, hlow⟩ := (getLsbD_double request ⟨k, hlow⟩).1.symm.trans hset
      exact (hnone ⟨k, hlow⟩ hj).1 ⟨htop, hkm⟩
    · obtain ⟨j, rfl⟩ := Nat.exists_eq_add_of_le' hhigh
      have hlt : j < n := by omega
      have hj : Requests request ⟨j, hlt⟩ := (getLsbD_double request ⟨j, hlt⟩).2.symm.trans hset
      exact (hnone ⟨j, hlt⟩ hj).2 ⟨htop, hkm⟩

theorem zero_append_twoPow {k : Nat} (hk : k < n) :
    (0#n ++ BitVec.twoPow n k) = BitVec.twoPow (n + n) k := by
  apply BitVec.eq_of_getLsbD_eq
  intro i hi
  rw [BitVec.getLsbD_append, BitVec.getLsbD_twoPow, BitVec.getLsbD_twoPow]
  by_cases hlow : i < n
  · simp [hlow, hk, Nat.lt_add_left n hk]
  · have hne : ¬ k = i := by omega
    simp [hlow, hne]

theorem grantDoubleVector_eq (request : BitVec n) {k : Nat} (hk : k < n) :
    grantDoubleVector request (BitVec.twoPow n k) =
      FirstSetBit.firstSet (request ++ request) k := by
  rw [grantDoubleVector, arbAdder_eq, zero_append_twoPow hk, FirstSetBit.firstSet,
    BitVec.not_append]

/-- A bit of the folded double vector: the first requester from the top priority on. -/
theorem fold_iff_isFirst (request : BitVec n) (top i : Fin n) :
    ((grantDoubleVector request (BitVec.twoPow n top)).getLsbD i = true ∨
      (grantDoubleVector request (BitVec.twoPow n top)).getLsbD (i + n) = true) ↔
      RoundRobin.IsFirst (Requests request) top i := by
  have hi := i.isLt
  rw [grantDoubleVector_eq request top.isLt, FirstSetBit.getLsbD_firstSet _ (by omega),
    FirstSetBit.getLsbD_firstSet _ (by omega), decide_eq_true_iff, decide_eq_true_iff,
    (getLsbD_double request i).1, (getLsbD_double request i).2,
    double_clear_iff request (by omega), double_clear_iff request (by omega)]
  rcases Nat.lt_or_ge i.val top.val with hbelow | habove
  · rw [RoundRobin.isFirst_iff_of_lt hbelow]
    constructor
    · rintro (⟨hle, -⟩ | ⟨-, hrequest, hnone⟩)
      · omega
      · refine ⟨hrequest, fun j hj => ?_⟩
        have hclear := hnone j hj
        have hjn := j.isLt
        omega
    · rintro ⟨hrequest, hbetween⟩
      refine Or.inr ⟨by omega, hrequest, fun j hj => ?_⟩
      have hplace := hbetween j hj
      omega
  · rw [RoundRobin.isFirst_iff_of_le habove]
    constructor
    · rintro (⟨-, hrequest, hnone⟩ | ⟨-, hrequest, hnone⟩)
      · exact ⟨hrequest, fun j hj => (hnone j hj).1⟩
      · have hclear := hnone i hrequest
        omega
    · rintro ⟨hrequest, hbetween⟩
      refine Or.inl ⟨habove, hrequest, fun j hj => ?_⟩
      have hplace := hbetween j hj
      omega

section Grant

variable {request topPriorityReg : BitVec n} {top g : Fin n}

theorem topPriority_roundRobin (h : 1 < n) :
    topPriority .roundRobin topPriorityReg = topPriorityReg := if_pos ⟨rfl, h⟩

/-- A bit of the grant is that of the first requester from the top priority on. -/
theorem getLsbD_grant_iff (h : 1 < n) (i : Fin n) :
    (grant .roundRobin request (BitVec.twoPow n top)).getLsbD i = true ↔
      RoundRobin.IsFirst (Requests request) top i := by
  rw [← fold_iff_isFirst, grant, if_neg (by decide), topPriority_roundRobin h]
  simp [Nat.add_comm]

/-- Without a request nobody is granted. -/
theorem grant_zero (h : 1 < n) : grant .roundRobin 0#n (BitVec.twoPow n top) = 0#n := by
  apply BitVec.eq_of_getLsbD_eq
  intro k hk
  rw [BitVec.getLsbD_zero, Bool.eq_false_iff]
  intro hgrant
  have hrequest := ((getLsbD_grant_iff h ⟨k, hk⟩).mp hgrant).1
  simp [Requests] at hrequest

/-- Otherwise exactly one requester is, the first one. -/
theorem grant_of_isFirst [NeZero n] (h : 1 < n)
    (hfirst : RoundRobin.IsFirst (Requests request) top g) :
    grant .roundRobin request (BitVec.twoPow n top) = BitVec.twoPow n g := by
  apply BitVec.eq_of_getLsbD_eq
  intro k hk
  rw [Bool.eq_iff_iff, getLsbD_grant_iff h ⟨k, hk⟩, BitVec.getLsbD_twoPow]
  constructor
  · intro hk'
    simp [hfirst.unique hk', hk]
  · intro heq
    obtain rfl : g = ⟨k, hk⟩ := by
      apply Fin.ext
      simpa using heq
    exact hfirst

/-- Of some requesters, one is the first. -/
theorem exists_isFirst (h : request ≠ 0#n) (top : Fin n) :
    ∃ g, RoundRobin.IsFirst (Requests request) top g := by
  have hsome : ∃ j, Requests request j := by
    by_contra hnone
    apply h
    apply BitVec.eq_of_getLsbD_eq
    intro k hk
    rw [BitVec.getLsbD_zero, Bool.eq_false_iff]
    intro hk'
    exact hnone ⟨⟨k, hk⟩, hk'⟩
  exact RoundRobin.exists_isFirst hsome

end Grant

/-! ## The rotation of the top priority -/

/-- Rotating the vector of one requester gives that of the next. -/
theorem rotateLeft_twoPow [NeZero n] (h : 1 < n) (g : Fin n) :
    (BitVec.twoPow n g).rotateLeft 1 = BitVec.twoPow n (g + 1 : Fin n) := by
  have hg := g.isLt
  have hone : ((1 : Fin n) : Nat) = 1 := by
    rw [Fin.val_one', Nat.mod_eq_of_lt h]
  apply BitVec.eq_of_getLsbD_eq
  intro k hk
  rw [BitVec.getLsbD_rotateLeft, Nat.mod_eq_of_lt h, BitVec.getLsbD_twoPow, BitVec.getLsbD_twoPow,
    BitVec.getLsbD_twoPow, Fin.val_add_eq_ite, hone, Bool.eq_iff_iff]
  clear hone
  by_cases hlast : n ≤ g.val + 1
  · rw [if_pos hlast]
    cases k with
    | zero => simp; omega
    | succ k => simp [hk]; omega
  · rw [if_neg hlast]
    cases k with
    | zero => simp; omega
    | succ k => simp [hk]; omega

/-! ## Runs -/

section Run

/-- `top_priority_reg` along a run of a pipelined round-robin arbitrator. -/
def topAt (w : Nat → ArbInput n) (k : Nat) : BitVec n :=
  InputMachine.states (edge .roundRobin true) reset w k

/-- The grant in a cycle of the run. -/
def grantAt (w : Nat → ArbInput n) (k : Nat) : BitVec n :=
  grant .roundRobin (w k).request (topAt w k)

/-- In the cycle somebody requests, and the top priority moves on. -/
def Arbitrates (w : Nat → ArbInput n) (k : Nat) : Prop :=
  (w k).incrementTopPriority = true ∧ (w k).request ≠ 0

instance (w : Nat → ArbInput n) (k : Nat) : Decidable (Arbitrates w k) :=
  inferInstanceAs (Decidable (_ ∧ _))

variable [NeZero n]

/-- A cycle is a turn of the circle. -/
theorem edge_turn (h : 1 < n) (i : ArbInput n) (top : Fin n) :
    ∃ (top' : Fin n) (granted : Option (Fin n)),
      edge .roundRobin true i (BitVec.twoPow n top) = BitVec.twoPow n top' ∧
        RoundRobin.Turn (Requests i.request) top top' granted ∧
        (granted = none → ¬ (i.incrementTopPriority = true ∧ i.request ≠ 0)) ∧
        ∀ g, granted = some g ↔ (i.incrementTopPriority = true ∧ i.request ≠ 0) ∧
          (grant .roundRobin i.request (BitVec.twoPow n top)).getLsbD g = true := by
  by_cases harb : i.incrementTopPriority = true ∧ i.request ≠ 0
  · obtain ⟨hincrement, hrequest⟩ := harb
    obtain ⟨g, hfirst⟩ := exists_isFirst hrequest top
    refine ⟨g + 1, some g, ?_, ⟨hfirst, rfl⟩, nofun, fun g' => ?_⟩
    · simp only [edge, hincrement, if_true, if_pos hrequest]
      rw [grant_of_isFirst h hfirst, rotateLeft_twoPow h]
    · rw [getLsbD_grant_iff h, and_iff_right ⟨hincrement, hrequest⟩, Option.some.injEq]
      constructor
      · rintro rfl
        exact hfirst
      · exact hfirst.unique
  · refine ⟨top, none, ?_, rfl, fun _ => harb, fun g' => ?_⟩
    · simp only [edge, if_true]
      split_ifs with hincrement hrequest
      · exact absurd ⟨hincrement, hrequest⟩ harb
      · rfl
      · rfl
    · exact ⟨nofun, fun hg => absurd hg.1 harb⟩

/-- A run goes round the circle. -/
theorem run_turns (h : 1 < n) (w : Nat → ArbInput n) :
    ∃ (t : Nat → Fin n) (granted : Nat → Option (Fin n)), t 0 = 0 ∧ ∀ k,
      topAt w k = BitVec.twoPow n (t k) ∧
        RoundRobin.Turn (Requests (w k).request) (t k) (t (k + 1)) (granted k) ∧
        (granted k = none → ¬ Arbitrates w k) ∧
        ∀ g, granted k = some g ↔ Arbitrates w k ∧ (grantAt w k).getLsbD g = true := by
  choose next granted hedge hturn hnone hgranted using edge_turn (n := n) h
  let t := InputMachine.states next (0 : Fin n) w
  have htop (k : Nat) : topAt w k = BitVec.twoPow n (t k) := by
    refine InputMachine.states_simulate (R := fun reg top => reg = BitVec.twoPow n (top : Fin n))
      (fun i reg top hreg => ?_) ?_ w k
    · rw [hreg]
      exact hedge i top
    · rw [reset, Fin.val_zero, BitVec.twoPow_zero]
      rfl
  refine ⟨t, fun k => granted (w k) (t k), rfl, fun k => ?_⟩
  refine ⟨htop k, hturn (w k) (t k), hnone (w k) (t k), fun g => ?_⟩
  rw [hgranted, grantAt, htop k]
  rfl

/-- The one that has top priority: the one after the last to be granted, and requester 0
if there is no such. -/
def IsNext (w : Nat → ArbInput n) (k : Nat) (top : Fin n) : Prop :=
  (∃ j g, InputMachine.Latest (Arbitrates w) k j ∧ (grantAt w j).getLsbD (g : Fin n) = true ∧
      top = g + 1) ∨
    (∀ j < k, ¬ Arbitrates w j) ∧ top = 0

/-- In every cycle of every run: nobody is granted if nobody requests, and otherwise
exactly the first requester after the one that was granted last. -/
theorem round_robin_grants (h : 1 < n) (w : Nat → ArbInput n) (k : Nat) :
    ∃ top, IsNext w k top ∧ ∀ i : Fin n, (grantAt w k).getLsbD i = true ↔
      RoundRobin.IsFirst (Requests (w k).request) top i := by
  obtain ⟨t, granted, hzero, hrun⟩ := run_turns h w
  refine ⟨t k, ?_, fun i => ?_⟩
  · induction k with
    | zero => exact Or.inr ⟨fun j hj => absurd hj (Nat.not_lt_zero j), hzero⟩
    | succ k ih =>
        obtain ⟨-, hturn, hnone, hgranted⟩ := hrun k
        cases hg : granted k with
        | none =>
            have hidle := hnone hg
            rw [hg] at hturn
            rw [hturn]
            rcases ih with ⟨j, g, hlatest, hgrant⟩ | ⟨hnever, htop⟩
            · exact Or.inl ⟨j, g, InputMachine.latest_succ_iff.mpr (Or.inr ⟨hidle, hlatest⟩), hgrant⟩
            · exact Or.inr ⟨Nat.forall_lt_succ_right.mpr ⟨hnever, hidle⟩, htop⟩
        | some g =>
            obtain ⟨harb, hgrant⟩ := (hgranted g).mp hg
            rw [hg] at hturn
            exact Or.inl ⟨k, g, InputMachine.latest_succ_iff.mpr (Or.inl ⟨rfl, harb⟩), hgrant, hturn.2⟩
  · rw [grantAt, (hrun k).1]
    exact getLsbD_grant_iff h i

/-- Three requesters that request all the time. -/
def allRequest (_ : Nat) : ArbInput 3 := ⟨0b111, true, false⟩

theorem round_robin_grants_allRequest :
    ∃ top, IsNext allRequest 2 top ∧ ∀ i : Fin 3, (grantAt allRequest 2).getLsbD i = true ↔
      RoundRobin.IsFirst (Requests (allRequest 2).request) top i :=
  round_robin_grants (by decide) allRequest 2

/-- A requester that keeps requesting is granted within `n` arbitrations: while it is not,
there are less. -/
theorem arbitrations_lt_of_waiting (h : 1 < n) (w : Nat → ArbInput n) (m l : Nat) (i : Fin n)
    (hrequests : ∀ k < l, Requests (w (m + k)).request i)
    (hgranted : ∀ k < l, Arbitrates w (m + k) → (grantAt w (m + k)).getLsbD i = false) :
    Nat.count (fun k => Arbitrates w (m + k)) l < n := by
  obtain ⟨t, granted, -, hrun⟩ := run_turns h w
  have hcount : Nat.count (fun k => (granted (m + k)).isSome) l < n := by
    apply RoundRobin.count_lt_of_not_granted (t := fun k => t (m + k)) (i := i)
      (fun k _ => (hrun (m + k)).2.1) hrequests
    intro k hk hg
    obtain ⟨harb, hgrant⟩ := ((hrun (m + k)).2.2.2 i).mp hg
    exact Bool.false_ne_true ((hgranted k hk harb).symm.trans hgrant)
  refine lt_of_le_of_lt (Nat.count_mono_left fun k _ harb => ?_) hcount
  cases hg : granted (m + k) with
  | none => exact absurd harb ((hrun (m + k)).2.2.1 hg)
  | some g => rfl

theorem arbitrations_lt_of_waiting_allRequest :
    Nat.count (fun k => Arbitrates allRequest (0 + k)) 2 < 3 :=
  arbitrations_lt_of_waiting (by decide) allRequest 0 2 2 (by decide) (by decide)

end Run

end Arbitrator

end RelojDespertador
