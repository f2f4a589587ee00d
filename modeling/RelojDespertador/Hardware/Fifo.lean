import RelojDespertador.Library.InputMachine
import RelojDespertador.Library.Streams

/-!
# The response queues of the interconnect

`altera_avalon_sc_fifo.v` with its storage in registers and without the store
and forward logic, for any depth. The registers are a shift register with an
occupancy bit for each slot; they hold a queue, and along every run what has
come out and what is inside is what has gone in. With an empty latency of zero
an item may pass an empty queue in the cycle it comes in.
-/

namespace RelojDespertador

/-- `FIFO_DEPTH`, and whether `EMPTY_LATENCY` is zero. -/
structure FifoParams where
  depth : Nat
  lookahead : Bool
  deriving DecidableEq, Repr

/-- What an edge finds at the ports. -/
structure FifoInput (α : Type*) where
  inValid : Bool
  inPayload : α
  outReady : Bool

/-- The slots below the depth: what they store, and whether they are occupied. -/
structure Fifo (α : Type*) where
  mem : Nat → α
  memUsed : Nat → Bool

namespace Fifo

variable {α : Type*}

/-- After reset. -/
def reset [Inhabited α] : Fifo α := ⟨fun _ => default, fun _ => false⟩

variable (P : FifoParams) (i : FifoInput α) (f : Fifo α)

/-- `empty`. -/
def empty : Bool := if P.lookahead then !f.memUsed 0 && !i.inValid else !f.memUsed 0

/-- `out_payload`. -/
def outPayload : α := if P.lookahead && !f.memUsed 0 && i.inValid then i.inPayload else f.mem 0

/-- `out_valid`. -/
def outValid : Bool := !f.empty P i

/-- `internal_out_ready`. -/
def internalOutReady : Bool := i.outReady || !f.outValid P i

/-- `read`. -/
def read : Bool := f.internalOutReady P i && f.outValid P i

/-- `full`. Reading makes room at once in a queue with one slot. -/
def full : Bool :=
  if P.depth = 1 then f.memUsed 0 && !f.read P i else f.memUsed (P.depth - 1)

/-- `in_ready`. -/
def inReady : Bool := !f.full P i

/-- `write`. -/
def write : Bool := f.inReady P i && i.inValid

/-- A slot of the shift register below the last one. -/
def shifted (k : Nat) : α :=
  if f.read P i || !f.memUsed k then
    if !f.memUsed (k + 1) then i.inPayload else f.mem (k + 1)
  else f.mem k

/-- The last slot. -/
def last : α :=
  if P.depth = 1 then if f.write P i then i.inPayload else f.mem (P.depth - 1)
  else if !f.memUsed (P.depth - 1) then i.inPayload else f.mem (P.depth - 1)

/-- The occupancy bit of the first slot, where it changes. -/
def headUsed : Bool :=
  if f.write P i then true
  else if f.read P i then (if P.depth > 1 then f.memUsed 1 else false) else f.memUsed 0

/-- The occupancy bit of the last slot of several, where it changes. -/
def tailUsed : Bool := if f.write P i then f.memUsed (P.depth - 2) else false

/-- The occupancy bit of a slot between the first and the last, where it changes. -/
def innerUsed (k : Nat) : Bool :=
  if f.write P i then f.memUsed (k - 1) else if f.read P i then f.memUsed (k + 1) else f.memUsed k

/-- One rising clock edge. -/
def edge : Fifo α where
  mem k :=
    if k < P.depth - 1 then f.shifted P i k else if k = P.depth - 1 then f.last P i else f.mem k
  memUsed k :=
    if f.write P i ^^ f.read P i then
      if k = 0 then f.headUsed P i
      else if k = P.depth - 1 then f.tailUsed P i
      else if k < P.depth - 1 then f.innerUsed P i k
      else f.memUsed k
    else f.memUsed k

/-! ## The queue inside -/

/-- The slots hold the items of `q`, the oldest first. -/
structure Holds (q : List α) : Prop where
  length : q.length ≤ P.depth
  used : ∀ k < P.depth, f.memUsed k = decide (k < q.length)
  items : ∀ k (hk : k < q.length), f.mem k = q[k]

section Signals

variable {P i f} {q : List α}

theorem Holds.used_zero (h : f.Holds P q) (hdepth : 0 < P.depth) :
    f.memUsed 0 = decide (q ≠ []) := by
  rw [h.used 0 hdepth]
  simp [List.length_pos_iff]

theorem Holds.outValid_iff (h : f.Holds P q) (hdepth : 0 < P.depth) :
    f.outValid P i = true ↔ q ≠ [] ∨ (P.lookahead = true ∧ i.inValid = true) := by
  simp only [outValid, empty, h.used_zero hdepth]
  cases P.lookahead <;> cases i.inValid <;> simp

theorem Holds.read_iff (h : f.Holds P q) (hdepth : 0 < P.depth) :
    f.read P i = true ↔
      i.outReady = true ∧ (q ≠ [] ∨ (P.lookahead = true ∧ i.inValid = true)) := by
  rw [← h.outValid_iff hdepth (i := i), read, internalOutReady]
  cases i.outReady <;> cases f.outValid P i <;> simp

theorem Holds.inReady_iff (h : f.Holds P q) (hdepth : 0 < P.depth) :
    f.inReady P i = true ↔ q.length < P.depth ∨ (P.depth = 1 ∧ i.outReady = true) := by
  rw [inReady, full]
  by_cases hone : P.depth = 1
  · have hread := h.read_iff hdepth (i := i)
    rw [if_pos hone, h.used_zero hdepth]
    cases q with
    | nil => simp [hone]
    | cons x q => simp [hone, hread]
  · rw [if_neg hone, h.used _ (by omega)]
    simp only [Bool.not_eq_true', decide_eq_false_iff_not, hone, false_and, or_false]
    omega

theorem Holds.write_iff (h : f.Holds P q) (hdepth : 0 < P.depth) :
    f.write P i = true ↔
      (q.length < P.depth ∨ (P.depth = 1 ∧ i.outReady = true)) ∧ i.inValid = true := by
  rw [write, Bool.and_eq_true, h.inReady_iff hdepth]

end Signals

/-! ## One cycle of the registers -/

section Registers

variable {P i f} {q : List α} {k : Nat}

/-- An occupied slot keeps its item while nothing is read. -/
theorem edge_mem_keep (hk : k < P.depth) (hused : f.memUsed k = true)
    (hread : f.read P i = false) : (f.edge P i).mem k = f.mem k := by
  by_cases hlow : k < P.depth - 1
  · simp [edge, shifted, hlow, hused, hread]
  · obtain rfl : k = P.depth - 1 := by omega
    simp only [edge, last, if_true]
    split_ifs with hone hwrite hfree
    · have hused0 : f.memUsed 0 = true := by simpa [hone] using hused
      simp [write, inReady, full, hone, hused0, hread] at hwrite
    · rfl
    · simp [hused] at hfree
    · rfl

/-- A read moves the item of an occupied slot to the slot below. -/
theorem edge_mem_shift (hk : k + 1 < P.depth) (hused : f.memUsed (k + 1) = true)
    (hread : f.read P i = true) : (f.edge P i).mem k = f.mem (k + 1) := by
  have hlow : k < P.depth - 1 := by omega
  simp [edge, shifted, hlow, hused, hread]

/-- The new item goes to the slot above the occupied ones. -/
theorem edge_mem_push (hk : k < P.depth) (hfree : f.memUsed k = false ∨ f.read P i = true)
    (habove : k + 1 < P.depth → f.memUsed (k + 1) = false)
    (hlast : k + 1 = P.depth → f.memUsed k = false ∨ P.depth = 1)
    (hwrite : f.write P i = true) : (f.edge P i).mem k = i.inPayload := by
  by_cases hlow : k < P.depth - 1
  · have hnext := habove (by omega)
    simp only [edge, shifted, hlow, hnext, if_true, Bool.not_false]
    rcases hfree with hfree | hfree <;> simp [hfree]
  · obtain rfl : k = P.depth - 1 := by omega
    simp only [edge, last, hwrite, if_true]
    rcases hlast (by omega) with hfree | hone
    · simp [hfree]
    · simp [hone]

/-- Without a read or a write, and with both, the occupancy stays. -/
theorem edge_used_keep (hsame : f.write P i = f.read P i) :
    (f.edge P i).memUsed k = f.memUsed k := by
  simp [edge, hsame]

/-- A write alone shifts the occupancy up. -/
theorem edge_used_push (hk : k < P.depth) (hwrite : f.write P i = true)
    (hread : f.read P i = false) :
    (f.edge P i).memUsed k = if k = 0 then true else f.memUsed (k - 1) := by
  simp only [edge, hwrite, hread, headUsed, tailUsed, innerUsed, Bool.xor_false, if_true]
  split_ifs with hzero hlast
  · rfl
  · rw [hlast, Nat.sub_sub]
  · rfl
  · omega

/-- A read alone shifts it down. -/
theorem edge_used_pop (hk : k < P.depth) (hwrite : f.write P i = false)
    (hread : f.read P i = true) :
    (f.edge P i).memUsed k = if k + 1 < P.depth then f.memUsed (k + 1) else false := by
  simp only [edge, hwrite, hread, headUsed, tailUsed, innerUsed, Bool.false_xor, if_true,
    Bool.false_eq_true, if_false]
  by_cases hzero : k = 0
  · subst hzero
    simp
  · rw [if_neg hzero]
    split_ifs <;> first | rfl | omega

end Registers

/-! ## One cycle of the queue -/

section Queue

variable {P i f} {q : List α}

/-- Nothing comes in or goes out. -/
theorem Holds.edge_keep (h : f.Holds P q) (hwrite : f.write P i = false)
    (hread : f.read P i = false) : (f.edge P i).Holds P q where
  length := h.length
  used k hk := by
    rw [edge_used_keep (hwrite.trans hread.symm), h.used k hk]
  items k hk := by
    have hlt : k < P.depth := Nat.lt_of_lt_of_le hk h.length
    rw [edge_mem_keep hlt (by rw [h.used k hlt]; simpa using hk) hread, h.items k hk]

/-- An item comes in. -/
theorem Holds.edge_push (h : f.Holds P q) (hdepth : 0 < P.depth) (hwrite : f.write P i = true)
    (hread : f.read P i = false) : (f.edge P i).Holds P (q ++ [i.inPayload]) := by
  have hroom : q.length < P.depth := by
    rcases ((h.write_iff hdepth).mp hwrite).1 with hroom | ⟨hone, hready⟩
    · exact hroom
    · by_contra hfull
      have hsome : q ≠ [] := by
        rintro rfl
        exact hfull hdepth
      rw [(h.read_iff hdepth).mpr ⟨hready, Or.inl hsome⟩] at hread
      cases hread
  refine ⟨?_, fun k hk => ?_, fun k hk => ?_⟩
  · rw [List.length_append]
    exact hroom
  · rw [edge_used_push hk hwrite hread, List.length_append, List.length_singleton]
    split_ifs with hzero
    · simp [hzero]
    · rw [h.used _ (by omega)]
      exact decide_eq_decide.mpr (by omega)
  · rw [List.length_append, List.length_singleton] at hk
    rcases Nat.lt_succ_iff_lt_or_eq.mp hk with hlt | rfl
    · have hk' : k < P.depth := Nat.lt_trans hlt hroom
      rw [edge_mem_keep hk' (by rw [h.used k hk']; simpa using hlt) hread, h.items k hlt,
        List.getElem_append_left hlt]
    · rw [edge_mem_push hroom (Or.inl ?_) (fun hlt => ?_) (fun _ => Or.inl ?_) hwrite]
      · simp
      · rw [h.used _ hroom]; simp
      · rw [h.used _ hlt]; simp
      · rw [h.used _ hroom]; simp

/-- The oldest item goes out. -/
theorem Holds.edge_pop {x : α} (h : f.Holds P (x :: q)) (hwrite : f.write P i = false)
    (hread : f.read P i = true) : (f.edge P i).Holds P q := by
  have hlength : q.length + 1 ≤ P.depth := h.length
  refine ⟨by omega, fun k hk => ?_, fun k hk => ?_⟩
  · rw [edge_used_pop hk hwrite hread]
    split_ifs with hlt
    · rw [h.used _ hlt, List.length_cons]
      exact decide_eq_decide.mpr (by omega)
    · exact (decide_eq_false (by omega)).symm
  · have hlt : k + 1 < P.depth := by omega
    rw [edge_mem_shift hlt (by rw [h.used _ hlt]; simpa using hk) hread,
      h.items (k + 1) (Nat.succ_lt_succ hk), List.getElem_cons_succ]

/-- An item comes in while the oldest goes out. -/
theorem Holds.edge_both {x : α} (h : f.Holds P (x :: q)) (hdepth : 0 < P.depth)
    (hwrite : f.write P i = true) (hread : f.read P i = true) :
    (f.edge P i).Holds P (q ++ [i.inPayload]) := by
  have hlength : q.length + 1 ≤ P.depth := h.length
  have hroom : q.length + 1 < P.depth ∨ P.depth = 1 := by
    rcases ((h.write_iff hdepth).mp hwrite).1 with hroom | ⟨hone, -⟩
    · exact Or.inl hroom
    · exact Or.inr hone
  refine ⟨by simpa using hlength, fun k hk => ?_, fun k hk => ?_⟩
  · rw [edge_used_keep (hwrite.trans hread.symm), h.used k hk]
    simp
  · rw [List.length_append, List.length_singleton] at hk
    rcases Nat.lt_succ_iff_lt_or_eq.mp hk with hlt | rfl
    · have hlt' : k + 1 < P.depth := by omega
      rw [edge_mem_shift hlt' (by rw [h.used _ hlt']; simpa using hlt) hread,
        h.items (k + 1) (Nat.succ_lt_succ hlt), List.getElem_cons_succ,
        List.getElem_append_left hlt]
    · rw [edge_mem_push (by omega) (Or.inr hread) (fun hlt => ?_) (fun heq => ?_) hwrite]
      · simp
      · rw [h.used _ hlt]; simp
      · exact Or.inr (hroom.resolve_left (by omega))

/-- An item passes an empty queue. -/
theorem Holds.edge_pass (h : f.Holds P []) (hsame : f.write P i = f.read P i) :
    (f.edge P i).Holds P ([] : List α) where
  length := Nat.zero_le _
  used k hk := by
    rw [edge_used_keep hsame, h.used k hk]
  items k hk := absurd hk (Nat.not_lt_zero k)

/-- The payload at the output of a queue with items is the oldest one. -/
theorem Holds.outPayload_cons {x : α} (h : f.Holds P (x :: q)) (hdepth : 0 < P.depth) :
    f.outPayload P i = x := by
  rw [outPayload, h.used_zero hdepth]
  simpa using h.items 0 (Nat.succ_pos _)

/-- What comes in goes to the end of the queue, and what goes out is its front. -/
theorem Holds.edge (h : f.Holds P q) (hdepth : 0 < P.depth) : ∃ q', (f.edge P i).Holds P q' ∧
    q ++ (if f.write P i then [i.inPayload] else []) =
      (if f.read P i then [f.outPayload P i] else []) ++ q' := by
  cases q with
  | nil =>
      cases hread : f.read P i with
      | true =>
          have hpass : P.lookahead = true ∧ i.inValid = true := by
            simpa using ((h.read_iff hdepth).mp hread).2
          have hwrite : f.write P i = true := (h.write_iff hdepth).mpr ⟨Or.inl hdepth, hpass.2⟩
          have hout : f.outPayload P i = i.inPayload := by
            rw [outPayload, h.used_zero hdepth]
            simp [hpass]
          refine ⟨[], h.edge_pass (hwrite.trans hread.symm), ?_⟩
          simp [hwrite, hout]
      | false =>
          cases hwrite : f.write P i with
          | true => exact ⟨_, h.edge_push hdepth hwrite hread, rfl⟩
          | false => exact ⟨_, h.edge_keep hwrite hread, rfl⟩
  | cons x q =>
      rw [h.outPayload_cons hdepth]
      cases hread : f.read P i with
      | true =>
          cases hwrite : f.write P i with
          | true => exact ⟨_, h.edge_both hdepth hwrite hread, rfl⟩
          | false => exact ⟨_, h.edge_pop hwrite hread, by simp⟩
      | false =>
          cases hwrite : f.write P i with
          | true => exact ⟨_, h.edge_push hdepth hwrite hread, rfl⟩
          | false => exact ⟨_, h.edge_keep hwrite hread, by simp⟩

end Queue

theorem reset_holds [Inhabited α] : (reset : Fifo α).Holds P [] where
  length := Nat.zero_le _
  used _ _ := rfl
  items k hk := absurd hk (Nat.not_lt_zero k)

/-! ## Runs -/

section Run

variable [Inhabited α]

/-- The registers along a run. -/
def fifoAt (w : Nat → FifoInput α) (k : Nat) : Fifo α := InputMachine.states (edge P) reset w k

/-- The item that goes in in a cycle. -/
def writtenAt (w : Nat → FifoInput α) (k : Nat) : Option α :=
  if (fifoAt P w k).inReady P (w k) && (w k).inValid then some (w k).inPayload else none

/-- The item that comes out in a cycle. -/
def readAt (w : Nat → FifoInput α) (k : Nat) : Option α :=
  if (w k).outReady && (fifoAt P w k).outValid P (w k) then
    some ((fifoAt P w k).outPayload P (w k))
  else none

theorem writtenAt_toList (w : Nat → FifoInput α) (k : Nat) : (writtenAt P w k).toList =
    if (fifoAt P w k).write P (w k) then [(w k).inPayload] else [] := by
  rw [writtenAt, write]
  split_ifs <;> rfl

theorem readAt_toList (w : Nat → FifoInput α) (k : Nat) : (readAt P w k).toList =
    if (fifoAt P w k).read P (w k) then [(fifoAt P w k).outPayload P (w k)] else [] := by
  have hread : (fifoAt P w k).read P (w k) = ((w k).outReady && (fifoAt P w k).outValid P (w k)) := by
    rw [read, internalOutReady]
    cases (w k).outReady <;> cases (fifoAt P w k).outValid P (w k) <;> rfl
  rw [readAt, hread]
  split_ifs <;> rfl

/-- In every run of a queue of positive depth: the items that have gone in are those that
have come out, in the same order, followed by those inside, of which there are at most
`depth`. The output is valid if some are inside, or one is passing, and the input is
ready if there is room. -/
theorem fifo_conserves (hdepth : 0 < P.depth) (w : Nat → FifoInput α) (n : Nat) : ∃ q : List α,
    Streams.items (writtenAt P w) n = Streams.items (readAt P w) n ++ q ∧
      q.length ≤ P.depth ∧
      ((fifoAt P w n).outValid P (w n) = true ↔
        q ≠ [] ∨ (P.lookahead = true ∧ (w n).inValid = true)) ∧
      ((fifoAt P w n).inReady P (w n) = true ↔
        q.length < P.depth ∨ (P.depth = 1 ∧ (w n).outReady = true)) := by
  have hholds : ∃ q, (fifoAt P w n).Holds P q ∧
      Streams.items (writtenAt P w) n = Streams.items (readAt P w) n ++ q := by
    induction n with
    | zero => exact ⟨[], reset_holds P, rfl⟩
    | succ n ih =>
        obtain ⟨q, hq, hitems⟩ := ih
        obtain ⟨q', hq', hcycle⟩ := hq.edge hdepth (i := w n)
        refine ⟨q', hq', ?_⟩
        rw [Streams.items_succ, Streams.items_succ, hitems, writtenAt_toList, readAt_toList,
          List.append_assoc, List.append_assoc, hcycle]
  obtain ⟨q, hq, hitems⟩ := hholds
  exact ⟨q, hitems, hq.length, hq.outValid_iff hdepth, hq.inReady_iff hdepth⟩

/-- The parameters of the queues behind the slave agents. -/
def rspFifo : FifoParams := ⟨2, false⟩

/-- A stream of packets of one beat. -/
def beats (_ : Nat) : FifoInput (BitVec 95) := ⟨true, 3, true⟩

theorem fifo_conserves_beats : ∃ q : List (BitVec 95),
    Streams.items (writtenAt rspFifo beats) 3 = Streams.items (readAt rspFifo beats) 3 ++ q ∧
      q.length ≤ rspFifo.depth ∧
      ((fifoAt rspFifo beats 3).outValid rspFifo (beats 3) = true ↔
        q ≠ [] ∨ (rspFifo.lookahead = true ∧ (beats 3).inValid = true)) ∧
      ((fifoAt rspFifo beats 3).inReady rspFifo (beats 3) = true ↔
        q.length < rspFifo.depth ∨ (rspFifo.depth = 1 ∧ (beats 3).outReady = true)) :=
  fifo_conserves rspFifo (by decide) beats 3

end Run

end Fifo

end RelojDespertador
