import RelojDespertador.Hardware.Arbitrator
import RelojDespertador.Library.Streams

/-!
# The command multiplexer of a slave with two masters

`TimerWithClock_mm_interconnect_0_cmd_mux_001.sv`, in front of the memory and of
the debug memory. Its two sinks are the two masters of the processor. The
arbitration is pipelined: a grant is saved for the cycles of a packet, and the
arbitrator decides for the next one.
-/

namespace RelojDespertador

/-- `src_payload`: channel, data, start and end of packet. -/
abbrev Payload := BitVec 108

namespace Payload

/-- The lowest bit. -/
def endofpacket (p : Payload) : Bool := p.getLsbD 0

/-- `PKT_TRANS_LOCK`, bit 54 of the data. -/
def transLock (p : Payload) : Bool := p.getLsbD (2 + 54)

end Payload

/-- What an edge finds at the two sinks and at the source. -/
structure MuxInput where
  sinkValid : Fin 2 → Bool
  sinkPayload : Fin 2 → Payload
  srcReady : Bool

/-- The vector of a signal of both sinks. -/
def sinks (f : Fin 2 → Bool) : BitVec 2 := BitVec.ofBool (f 1) ++ BitVec.ofBool (f 0)

/-- The registers of the multiplexer and of its arbitrator. -/
structure CommandMux where
  locked : BitVec 2
  packetInProgress : Bool
  shareCount : BitVec 1
  shareCountZeroFlag : Bool
  savedGrant : BitVec 2
  prevRequest : BitVec 2
  topPriorityReg : BitVec 2
  deriving DecidableEq, Repr

namespace CommandMux

/-- After reset. -/
def reset : CommandMux where
  locked := 0
  packetInProgress := false
  shareCount := 0
  shareCountZeroFlag := true
  savedGrant := 0
  prevRequest := 0
  topPriorityReg := Arbitrator.reset

variable (i : MuxInput) (m : CommandMux)

/-- `valid`. -/
def valid : BitVec 2 := sinks i.sinkValid

/-- `eop`. -/
def eop : BitVec 2 := sinks fun k => (i.sinkPayload k).endofpacket

/-- `lock`. -/
def lock : BitVec 2 := sinks fun k => (i.sinkPayload k).transLock

/-- `request` of the pipelined arbitration. -/
def request : BitVec 2 := valid i ||| m.locked

/-- `next_grant`. -/
def nextGrant : BitVec 2 := Arbitrator.grant .roundRobin (m.request i) m.topPriorityReg

/-- `src_valid`. -/
def srcValid : Bool := m.savedGrant &&& valid i != 0

/-- A payload under the mask of a grant bit. -/
def masked (k : Fin 2) : Payload :=
  i.sinkPayload k &&& if m.savedGrant.getLsbD k then BitVec.allOnes 108 else 0

/-- `src_payload`, a sum of products. -/
def srcPayload : Payload := m.masked i 0 ||| m.masked i 1

/-- `sink0_ready` and `sink1_ready`. -/
def sinkReady (k : Fin 2) : Bool := i.srcReady && m.savedGrant.getLsbD k

/-- `last_cycle`. -/
def lastCycle : Bool :=
  m.srcValid i && i.srcReady && (m.srcPayload i).endofpacket && (lock i &&& m.savedGrant == 0)

/-- `share_0` and `share_1`. -/
def share (_ : Fin 2) : BitVec 1 := 0

/-- `next_grant_share`. -/
def nextGrantShare : BitVec 1 :=
  (share 0 &&& BitVec.ofBool ((m.nextGrant i).getLsbD 0)) |||
    (share 1 &&& BitVec.ofBool ((m.nextGrant i).getLsbD 1))

/-- `p1_share_count`. -/
def p1ShareCount : BitVec 1 := if m.shareCountZeroFlag then 0 else m.shareCount - 1

/-- `update_grant`. -/
def updateGrant : Bool :=
  (!m.packetInProgress && !m.srcValid i) || (m.lastCycle i && m.shareCountZeroFlag)

/-- One rising clock edge. -/
def edge : CommandMux where
  locked := m.nextGrant i &&& lock i
  packetInProgress :=
    if m.lastCycle i then false else if m.srcValid i then true else m.packetInProgress
  shareCount :=
    if m.updateGrant i then m.nextGrantShare i
    else if m.lastCycle i then m.p1ShareCount else m.shareCount
  shareCountZeroFlag :=
    if m.updateGrant i then m.nextGrantShare i == 0
    else if m.lastCycle i then m.p1ShareCount == 0 else m.shareCountZeroFlag
  savedGrant := if m.updateGrant i then m.nextGrant i else m.savedGrant
  prevRequest := m.request i &&& ~~~(valid i &&& eop i)
  topPriorityReg :=
    Arbitrator.edge .roundRobin true ⟨m.request i, m.updateGrant i, m.srcValid i⟩ m.topPriorityReg

/-! ## Who is granted -/

/-- The grant vector of the sink that holds the grant, if one does. -/
def grantOf : Option (Fin 2) → BitVec 2
  | none => 0
  | some k => BitVec.twoPow 2 k

/-- What holds at every edge: `holder` has the grant, and `top` has the top priority of the
next arbitration. -/
structure Holds (holder : Option (Fin 2)) (top : Fin 2) : Prop where
  grant : m.savedGrant = grantOf holder
  priority : m.topPriorityReg = BitVec.twoPow 2 top
  share : m.shareCountZeroFlag = true
  /-- A packet in progress is that of the holder. -/
  progress : m.packetInProgress = true → holder ≠ none
  /-- The other sink is next. -/
  next : ∀ k, holder = some k → top = k + 1

section Step

variable {i m} {holder : Option (Fin 2)} {top : Fin 2}

theorem getLsbD_sinks (f : Fin 2 → Bool) (k : Fin 2) : (sinks f).getLsbD k = f k := by
  match k with
  | 0 => cases h0 : f 0 <;> cases h1 : f 1 <;> simp [sinks, h0, h1]
  | 1 => cases h0 : f 0 <;> cases h1 : f 1 <;> simp [sinks, h0, h1]

theorem grantOf_getLsbD (k : Fin 2) : (grantOf holder).getLsbD k = decide (holder = some k) := by
  match holder, k with
  | none, _ => simp [grantOf]
  | some 0, 0 | some 0, 1 | some 1, 0 | some 1, 1 => decide

theorem nextGrantShare_eq : m.nextGrantShare i = 0 := by
  simp [nextGrantShare, share]

theorem Holds.getLsbD_grant (h : m.Holds holder top) (k : Fin 2) :
    m.savedGrant.getLsbD k = decide (holder = some k) := by
  rw [h.grant, grantOf_getLsbD]

/-- The source is valid if the holder of the grant is. -/
theorem Holds.srcValid_iff (h : m.Holds holder top) :
    m.srcValid i = true ↔ ∃ k, holder = some k ∧ i.sinkValid k = true := by
  rw [srcValid, h.grant, valid, bne_iff_ne]
  match holder with
  | none => simp [grantOf]
  | some 0 | some 1 =>
      cases h0 : i.sinkValid 0 <;> cases h1 : i.sinkValid 1 <;> simp [grantOf, sinks, h0, h1] <;>
        decide

/-- Only the payload of the holder gets through its mask. -/
theorem Holds.masked_eq (h : m.Holds holder top) (k : Fin 2) :
    m.masked i k = if holder = some k then i.sinkPayload k else 0 := by
  rw [masked, h.getLsbD_grant]
  by_cases hk : holder = some k
  · simp only [hk, decide_true, if_true, BitVec.and_allOnes]
  · simp only [hk, decide_false, Bool.false_eq_true, if_false]
    exact BitVec.and_zero

/-- The payload at the source is that of the holder. -/
theorem Holds.srcPayload_eq {k : Fin 2} (h : m.Holds (some k) top) :
    m.srcPayload i = i.sinkPayload k := by
  rw [srcPayload, h.masked_eq, h.masked_eq]
  match k with
  | 0 => exact BitVec.or_zero
  | 1 => exact BitVec.zero_or

/-- The lock of the holder is the one that keeps the grant. -/
theorem Holds.lock_iff {k : Fin 2} (h : m.Holds (some k) top) :
    (lock i &&& m.savedGrant == 0) = !(i.sinkPayload k).transLock := by
  rw [h.grant, lock]
  match k with
  | 0 | 1 =>
      cases h0 : (i.sinkPayload 0).transLock <;> cases h1 : (i.sinkPayload 1).transLock <;>
        simp [grantOf, sinks, h0, h1] <;> decide

/-- The last beat of a packet, whose sink lets go of the lock. -/
def IsLast (p : Payload) : Prop := p.endofpacket = true ∧ p.transLock = false

instance (p : Payload) : Decidable (IsLast p) := inferInstanceAs (Decidable (_ ∧ _))

/-- The last cycle of a packet is one in which the holder's last beat is taken. -/
theorem Holds.lastCycle_iff (h : m.Holds holder top) :
    m.lastCycle i = true ↔ ∃ k, holder = some k ∧ i.sinkValid k = true ∧ i.srcReady = true ∧
      IsLast (i.sinkPayload k) := by
  simp only [lastCycle, Bool.and_eq_true, h.srcValid_iff]
  constructor
  · rintro ⟨⟨⟨⟨k, rfl, hvalid⟩, hready⟩, heop⟩, hlock⟩
    rw [h.srcPayload_eq] at heop
    rw [h.lock_iff, Bool.not_eq_true'] at hlock
    exact ⟨k, rfl, hvalid, hready, heop, hlock⟩
  · rintro ⟨k, rfl, hvalid, hready, heop, hlock⟩
    rw [h.srcPayload_eq, h.lock_iff, hlock]
    exact ⟨⟨⟨⟨k, rfl, hvalid⟩, hready⟩, heop⟩, rfl⟩

/-- Without a new decision everything stays with the holder. -/
theorem Holds.edge_of_not_update (h : m.Holds holder top) (hkeep : m.updateGrant i = false) :
    (m.edge i).Holds holder top where
  grant := by
    simp only [edge, hkeep, Bool.false_eq_true, if_false]
    exact h.grant
  priority := by
    simp only [edge, hkeep, Arbitrator.edge, Bool.false_eq_true, if_true, if_false]
    exact h.priority
  share := by
    simp only [edge, hkeep, p1ShareCount, h.share, Bool.false_eq_true, if_true, if_false]
    split_ifs
    · rfl
    · rfl
  progress := by
    simp only [edge]
    split_ifs with hlast hvalid
    · intro hfalse
      cases hfalse
    · obtain ⟨k, hk, -⟩ := h.srcValid_iff.mp hvalid
      intro _ hnone
      cases hk.symm.trans hnone
    · exact h.progress
  next := h.next

/-- No packet is in progress after a decision. -/
theorem packetInProgress_of_update (hupdate : m.updateGrant i = true) :
    (m.edge i).packetInProgress = false := by
  simp only [updateGrant, Bool.or_eq_true, Bool.and_eq_true, Bool.not_eq_true'] at hupdate
  simp only [edge]
  rcases hupdate with ⟨hprogress, hvalid⟩ | ⟨hlast, -⟩
  · simp [hprogress, hvalid]
  · simp [hlast]

theorem share_of_update (hupdate : m.updateGrant i = true) :
    (m.edge i).shareCountZeroFlag = true := by
  simp only [edge, hupdate, if_true, nextGrantShare_eq]
  rfl

/-- A decision without a request takes the grant away. -/
theorem Holds.edge_of_idle (h : m.Holds holder top) (hupdate : m.updateGrant i = true)
    (hidle : m.request i = 0#2) : (m.edge i).Holds none top where
  grant := by
    simp only [edge, hupdate, if_true, nextGrant, hidle, h.priority]
    exact Arbitrator.grant_zero (by decide)
  priority := by
    simp only [edge, Arbitrator.edge, hupdate, hidle, if_true]
    exact h.priority
  share := share_of_update hupdate
  progress hprogress := by
    rw [packetInProgress_of_update hupdate] at hprogress
    cases hprogress
  next := nofun

/-- A decision gives the grant to the first requester. -/
theorem Holds.edge_of_isFirst {g : Fin 2} (h : m.Holds holder top)
    (hupdate : m.updateGrant i = true)
    (hfirst : RoundRobin.IsFirst (Arbitrator.Requests (m.request i)) top g) :
    (m.edge i).Holds (some g) (g + 1) := by
  have hgrant : m.nextGrant i = BitVec.twoPow 2 g := by
    rw [nextGrant, h.priority]
    exact Arbitrator.grant_of_isFirst (by decide) hfirst
  have hrequest : m.request i ≠ 0 := by
    intro hzero
    have hg := hfirst.1
    simp [Arbitrator.Requests, hzero] at hg
  refine ⟨?_, ?_, share_of_update hupdate, ?_, ?_⟩
  · simp only [edge, hupdate, if_true, hgrant]
    rfl
  · simp only [edge, Arbitrator.edge, hupdate, if_true, if_pos hrequest]
    change (m.nextGrant i).rotateLeft 1 = _
    rw [hgrant, Arbitrator.rotateLeft_twoPow (by decide)]
  · intro hprogress
    rw [packetInProgress_of_update hupdate] at hprogress
    cases hprogress
  · intro k hk
    rw [Option.some.inj hk]

/-- One cycle: the grant stays, is taken away, or goes to the first requester. -/
theorem Holds.edge (h : m.Holds holder top) : ∃ holder' top', (m.edge i).Holds holder' top' ∧
    ((m.updateGrant i = false ∧ holder' = holder) ∨
      (m.updateGrant i = true ∧ m.request i = 0#2 ∧ holder' = none) ∨
      ∃ g, m.updateGrant i = true ∧ holder' = some g ∧
        RoundRobin.IsFirst (Arbitrator.Requests (m.request i)) top g) := by
  cases hupdate : m.updateGrant i with
  | false => exact ⟨holder, top, h.edge_of_not_update hupdate, Or.inl ⟨rfl, rfl⟩⟩
  | true =>
      by_cases hidle : m.request i = 0#2
      · exact ⟨none, top, h.edge_of_idle hupdate hidle, Or.inr (Or.inl ⟨rfl, hidle, rfl⟩)⟩
      · obtain ⟨g, hfirst⟩ := Arbitrator.exists_isFirst hidle top
        exact ⟨some g, g + 1, h.edge_of_isFirst hupdate hfirst,
          Or.inr (Or.inr ⟨g, rfl, rfl, hfirst⟩)⟩

end Step

theorem reset_holds : reset.Holds none 0 where
  grant := rfl
  priority := rfl
  share := rfl
  progress := nofun
  next := nofun

/-! ## Runs -/

section Run

/-- The multiplexer along a run. -/
def muxAt (w : Nat → MuxInput) (k : Nat) : CommandMux := InputMachine.states edge reset w k

/-- What the multiplexer takes from a sink in a cycle. -/
def takenAt (w : Nat → MuxInput) (s : Fin 2) (k : Nat) : Option Payload :=
  if (w k).sinkValid s && (muxAt w k).sinkReady (w k) s then some ((w k).sinkPayload s) else none

/-- What the multiplexer passes on in a cycle. -/
def sentAt (w : Nat → MuxInput) (k : Nat) : Option Payload :=
  if (muxAt w k).srcValid (w k) && (w k).srcReady then some ((muxAt w k).srcPayload (w k))
  else none

variable (w : Nat → MuxInput)

theorem muxAt_succ (k : Nat) : muxAt w (k + 1) = (muxAt w k).edge (w k) := rfl

theorem exists_holds (k : Nat) : ∃ holder top, (muxAt w k).Holds holder top := by
  apply InputMachine.states_invariant (P := fun m => ∃ holder top, Holds m holder top)
  · exact ⟨none, 0, reset_holds⟩
  · rintro i m ⟨holder, top, h⟩
    obtain ⟨holder', top', h', -⟩ := h.edge (i := i)
    exact ⟨holder', top', h'⟩

variable {w} {s s' : Fin 2} {k : Nat} {p p' : Payload} {holder : Option (Fin 2)} {top : Fin 2}

/-- Only the holder of the grant gets a beat through. -/
theorem takenAt_eq_some_iff (h : (muxAt w k).Holds holder top) :
    takenAt w s k = some p ↔ holder = some s ∧ (w k).sinkValid s = true ∧
      (w k).srcReady = true ∧ (w k).sinkPayload s = p := by
  simp only [takenAt, sinkReady, h.getLsbD_grant, Option.ite_none_right_eq_some, Bool.and_eq_true,
    decide_eq_true_eq, Option.some.injEq]
  constructor
  · rintro ⟨⟨hvalid, hready, hholder⟩, hp⟩
    exact ⟨hholder, hvalid, hready, hp⟩
  · rintro ⟨hholder, hvalid, hready, hp⟩
    exact ⟨⟨hvalid, hready, hholder⟩, hp⟩

/-- The source passes what is taken from one sink, and nothing is taken from the other. -/
theorem sentAt_cases (w : Nat → MuxInput) (k : Nat) :
    (sentAt w k = none ∧ ∀ s, takenAt w s k = none) ∨
      ∃ s p, sentAt w k = some p ∧ takenAt w s k = some p ∧ ∀ j, j ≠ s → takenAt w j k = none := by
  obtain ⟨holder, top, h⟩ := exists_holds w k
  have hnone (s : Fin 2) (hs : ∀ p, takenAt w s k ≠ some p) : takenAt w s k = none :=
    Option.eq_none_iff_forall_ne_some.mpr hs
  by_cases hsent : (muxAt w k).srcValid (w k) = true ∧ (w k).srcReady = true
  · obtain ⟨s, rfl, hvalid⟩ := h.srcValid_iff.mp hsent.1
    refine Or.inr ⟨s, (w k).sinkPayload s, ?_, ?_, fun j hj => hnone j fun p hp => ?_⟩
    · rw [sentAt, h.srcPayload_eq]
      simp [hsent]
    · exact (takenAt_eq_some_iff h).mpr ⟨rfl, hvalid, hsent.2, rfl⟩
    · exact hj (Option.some.inj ((takenAt_eq_some_iff h).mp hp).1).symm
  · refine Or.inl ⟨?_, fun s => hnone s fun p hp => hsent ?_⟩
    · simpa [sentAt] using hsent
    · obtain ⟨hholder, hvalid, hready, -⟩ := (takenAt_eq_some_iff h).mp hp
      exact ⟨h.srcValid_iff.mpr ⟨s, hholder, hvalid⟩, hready⟩

/-- Nothing is lost, doubled or reordered: what has left the multiplexer is a shuffle of
what it has taken from the two masters. -/
theorem mux_merges (w : Nat → MuxInput) (n : Nat) :
    Streams.IsMerge (Streams.items (sentAt w) n) fun s => Streams.items (takenAt w s) n :=
  Streams.isMerge_items (sentAt_cases w) n

/-! ## Packets -/

/-- A packet of the sink is in progress. -/
def InPacket (w : Nat → MuxInput) (s : Fin 2) (k : Nat) : Prop :=
  (muxAt w k).packetInProgress = true ∧ ∃ top, (muxAt w k).Holds (some s) top

/-- A packet stays in progress until its last beat has been taken. -/
theorem InPacket.succ (h : (muxAt w k).Holds (some s) top)
    (hbusy : (muxAt w k).packetInProgress = true ∨ (muxAt w k).srcValid (w k) = true)
    (hmore : ∀ p, takenAt w s k = some p → ¬ IsLast p) : InPacket w s (k + 1) := by
  have hlast : (muxAt w k).lastCycle (w k) = false := by
    rw [Bool.eq_false_iff]
    intro hlast
    obtain ⟨s', hs, hvalid, hready, hp⟩ := h.lastCycle_iff.mp hlast
    obtain rfl := Option.some.inj hs
    exact hmore _ ((takenAt_eq_some_iff h).mpr ⟨rfl, hvalid, hready, rfl⟩) hp
  have hupdate : (muxAt w k).updateGrant (w k) = false := by
    rcases hbusy with hbusy | hbusy <;> simp [updateGrant, hlast, hbusy]
  refine ⟨?_, top, h.edge_of_not_update hupdate⟩
  rw [muxAt_succ]
  simp only [edge, hlast, Bool.false_eq_true, if_false]
  rcases hbusy with hbusy | hbusy <;> simp [hbusy]

/-- After a beat that is not the last, the packet is in progress until the next one. -/
theorem inPacket_of_taken {w : Nat → MuxInput} {j : Nat} (hj : takenAt w s j = some p)
    (hmore : ¬ IsLast p) (hjk : j < k) (hidle : ∀ m, j < m → m < k → ∀ s, takenAt w s m = none) :
    InPacket w s k := by
  induction k, hjk using Nat.le_induction with
  | base =>
      obtain ⟨holder, top, h⟩ := exists_holds w j
      obtain ⟨rfl, hvalid, -, hp⟩ := (takenAt_eq_some_iff h).mp hj
      apply InPacket.succ h (Or.inr (h.srcValid_iff.mpr ⟨s, rfl, hvalid⟩))
      intro q hq
      obtain rfl := Option.some.inj (hj.symm.trans hq)
      exact hmore
  | succ k hjk ih =>
      obtain ⟨hbusy, top, h⟩ := ih fun m hjm hmk => hidle m hjm (Nat.lt_succ_of_lt hmk)
      apply InPacket.succ h (Or.inl hbusy)
      intro q hq
      rw [hidle k hjk (Nat.lt_succ_self k) s] at hq
      cases hq

/-- A packet is passed on in one piece: after a beat that is not its last, the next beat
that is taken at all comes from the same master. -/
theorem packets_contiguous (w : Nat → MuxInput) {j k : Nat} {s s' : Fin 2} {p p' : Payload}
    (hj : takenAt w s j = some p) (hmore : ¬ IsLast p) (hjk : j < k)
    (hidle : ∀ m, j < m → m < k → ∀ s, takenAt w s m = none) (hk : takenAt w s' k = some p') :
    s' = s := by
  obtain ⟨-, top, h⟩ := inPacket_of_taken hj hmore hjk hidle
  exact (Option.some.inj ((takenAt_eq_some_iff h).mp hk).1).symm

/-- Both masters have beats all the time: those with the payload `p`. -/
def contention (p : Payload) (_ : Nat) : MuxInput := ⟨fun _ => true, fun _ => p, true⟩

/-- The first two beats of a long packet. -/
theorem packets_contiguous_contention :
    takenAt (contention 0) 0 1 = some 0 ∧ takenAt (contention 0) 0 2 = some 0 ∧ (0 : Fin 2) = 0 := by
  have hfirst : takenAt (contention 0) 0 1 = some 0 := by decide
  have hnext : takenAt (contention 0) 0 2 = some 0 := by decide
  have hidle : ∀ m, 1 < m → m < 2 → ∀ s, takenAt (contention 0) s m = none := by
    intro m hlow hhigh
    omega
  exact ⟨hfirst, hnext,
    packets_contiguous (contention 0) hfirst (by decide) (by decide) hidle hnext⟩

/-! ## Waiting -/

/-- In the cycles from `m` to `m + l` the sink has a beat, and it is not taken. -/
def Waits (w : Nat → MuxInput) (s : Fin 2) (m l : Nat) : Prop :=
  ∀ k < l, (w (m + k)).sinkValid s = true ∧ takenAt w s (m + k) = none

/-- The decisions that may still go against a sink that waits. -/
def decisionsAgainst (s : Fin 2) : Option (Fin 2) → Nat
  | none => 2
  | some j => if j = s then 0 else 1

/-- The packets that may still end before its own. -/
def packetsBefore (s : Fin 2) : Option (Fin 2) → Nat
  | none => 1
  | some j => if j = s then 0 else 1

section Waiting

theorem decisionsAgainst_le (holder : Option (Fin 2)) : decisionsAgainst s holder ≤ 2 := by
  cases holder with
  | none => exact Nat.le_refl 2
  | some j =>
      simp only [decisionsAgainst]
      split_ifs <;> decide

theorem packetsBefore_le (holder : Option (Fin 2)) : packetsBefore s holder ≤ 1 := by
  cases holder with
  | none => exact Nat.le_refl 1
  | some j =>
      simp only [packetsBefore]
      split_ifs <;> decide

variable {i : MuxInput} {m : CommandMux}

/-- A sink with a beat is a requester. -/
theorem requests_of_valid (hvalid : i.sinkValid s = true) :
    Arbitrator.Requests (m.request i) s := by
  rw [Arbitrator.Requests, request, BitVec.getLsbD_or, valid, getLsbD_sinks, hvalid, Bool.true_or]

/-- The end of a packet is a decision. -/
theorem Holds.update_of_lastCycle (h : m.Holds holder top) (hlast : m.lastCycle i = true) :
    m.updateGrant i = true := by
  simp [updateGrant, hlast, h.share]

/-- While the holder has a beat that is not taken as its last, there is no decision. -/
theorem Holds.not_update (h : m.Holds (some s) top) (hvalid : i.sinkValid s = true)
    (hlast : m.lastCycle i = false) : m.updateGrant i = false := by
  have hsrc := h.srcValid_iff.mpr ⟨s, rfl, hvalid⟩
  simp [updateGrant, hlast, hsrc]

/-- The other sink comes first when the packet of the holder ends. -/
theorem Holds.first_of_other {j g : Fin 2} (h : m.Holds (some j) top) (hj : j ≠ s)
    (hvalid : i.sinkValid s = true)
    (hfirst : RoundRobin.IsFirst (Arbitrator.Requests (m.request i)) top g) : g = s := by
  have htop : top = s := by
    rw [h.next j rfl]
    omega
  subst htop
  have hle := hfirst.2 top (requests_of_valid hvalid)
  rw [sub_self] at hle
  exact sub_eq_zero.mp (Fin.ext (Nat.le_zero.mp hle))

/-- A cycle of waiting. -/
theorem Holds.waiting (h : m.Holds holder top) (hvalid : i.sinkValid s = true)
    (hwait : holder = some s → m.lastCycle i = false) :
    ∃ holder' top', (m.edge i).Holds holder' top' ∧
      decisionsAgainst s holder' + (if m.updateGrant i then 1 else 0) ≤
        decisionsAgainst s holder ∧
      packetsBefore s holder' + (if m.lastCycle i then 1 else 0) ≤ packetsBefore s holder := by
  obtain ⟨holder', top', h', hcases⟩ := h.edge (i := i)
  refine ⟨holder', top', h', ?_⟩
  rcases hcases with ⟨hupdate, rfl⟩ | ⟨-, hidle, -⟩ | ⟨g, hupdate, rfl, hfirst⟩
  · have hlast : m.lastCycle i = false := by
      rw [Bool.eq_false_iff]
      intro hlast
      exact Bool.false_ne_true (hupdate.symm.trans (h.update_of_lastCycle hlast))
    simp [hupdate, hlast]
  · have hrequest := requests_of_valid (m := m) hvalid
    simp [Arbitrator.Requests, hidle] at hrequest
  · cases holder with
    | none =>
        have hlast : m.lastCycle i = false := by
          rw [Bool.eq_false_iff]
          intro hlast
          obtain ⟨k, hk, -⟩ := h.lastCycle_iff.mp hlast
          cases hk
        simp only [hupdate, hlast, decisionsAgainst, packetsBefore, if_true, Bool.false_eq_true,
          if_false]
        split_ifs <;> simp
    | some j =>
        by_cases hj : j = s
        · subst hj
          rw [h.not_update hvalid (hwait rfl)] at hupdate
          cases hupdate
        · obtain rfl := h.first_of_other hj hvalid hfirst
          simp only [hupdate, decisionsAgainst, packetsBefore, if_neg hj, if_true]
          split_ifs <;> simp

end Waiting

/-- The decisions and the ends of packets in the cycles from `m` to `m + l`. -/
def decisions (w : Nat → MuxInput) (m l : Nat) : Nat :=
  Nat.count (fun k => (muxAt w (m + k)).updateGrant (w (m + k)) = true) l

def packetEnds (w : Nat → MuxInput) (m l : Nat) : Nat :=
  Nat.count (fun k => (muxAt w (m + k)).lastCycle (w (m + k)) = true) l

/-- A master that waits sees at most one packet of the other end, and at most two
decisions of the arbitrator. -/
theorem waits_for_one_packet (w : Nat → MuxInput) (s : Fin 2) (m l : Nat) (h : Waits w s m l) :
    packetEnds w m l ≤ 1 ∧ decisions w m l ≤ 2 := by
  have hrank : ∃ holder top, (muxAt w (m + l)).Holds holder top ∧
      decisionsAgainst s holder + decisions w m l ≤ 2 ∧
      packetsBefore s holder + packetEnds w m l ≤ 1 := by
    induction l with
    | zero =>
        obtain ⟨holder, top, h⟩ := exists_holds w m
        exact ⟨holder, top, h, decisionsAgainst_le holder, packetsBefore_le holder⟩
    | succ l ih =>
        obtain ⟨holder, top, hholds, hdecisions, hpackets⟩ :=
          ih fun k hk => h k (Nat.lt_succ_of_lt hk)
        obtain ⟨hvalid, hnone⟩ := h l (Nat.lt_succ_self l)
        have hwait : holder = some s → (muxAt w (m + l)).lastCycle (w (m + l)) = false := by
          rintro rfl
          rw [Bool.eq_false_iff]
          intro hlast
          obtain ⟨k, hk, -, hready, -⟩ := hholds.lastCycle_iff.mp hlast
          rw [(takenAt_eq_some_iff hholds).mpr ⟨rfl, hvalid, hready, rfl⟩] at hnone
          cases hnone
        obtain ⟨holder', top', hholds', hdecisions', hpackets'⟩ := hholds.waiting hvalid hwait
        refine ⟨holder', top', hholds', ?_, ?_⟩
        · rw [decisions, Nat.count_succ]
          rw [decisions] at hdecisions
          omega
        · rw [packetEnds, Nat.count_succ]
          rw [packetEnds] at hpackets
          omega
  obtain ⟨holder, top, -, hdecisions, hpackets⟩ := hrank
  omega

/-- Of packets of one beat, the first is that of the other master. -/
theorem waits_for_one_packet_contention :
    packetEnds (contention 1) 0 2 ≤ 1 ∧ decisions (contention 1) 0 2 ≤ 2 :=
  waits_for_one_packet (contention 1) 1 0 2 (by rw [Waits]; decide)

end Run

end CommandMux

end RelojDespertador
