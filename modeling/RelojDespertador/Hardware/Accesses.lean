import RelojDespertador.Hardware.Transactions

/-!
# The accesses of the masters

Along every run each access of a master is carried out exactly once, at the slave
it is routed to, and a read is answered with what that slave puts out for it.
-/

namespace RelojDespertador

namespace Interconnect

variable {w : Nat → InterconnectInput} {m : Master} {s : Slave} {k : Nat}

/-! ## Accesses -/

/-- An access, and the data that it answers a read with. -/
structure Access where
  address : BitVec 14
  write : Bool
  byteenable : BitVec 4
  writedata : U32
  readdata : U32
  deriving DecidableEq, Repr

/-- The access of a packet. -/
def Access.ofPacket (p : Packet) (readdata : U32) : Access where
  address := p.addr
  write := p.transWrite
  byteenable := p.byteen
  writedata := p.data
  readdata := if p.transRead then readdata else 0

/-- The access that a master asks for. -/
def Access.ofCommand (m : Master) (c : AvalonCommand) (readdata : U32) : Access where
  address := c.address.extractLsb' 2 12 ++ 0#2
  write := MasterPort.uavWritePre m c
  byteenable := c.byteenable
  writedata := c.writedata
  readdata := if c.read then readdata else 0

/-- What a slave puts out for a read that is accepted in a cycle: in the next one, if its
port has a read latency. -/
def delivered (w : Nat → InterconnectInput) (s : Slave) (k : Nat) : U32 :=
  ((if s.params.readLatency ≠ 0 then (w (k + 1)).readdata s else (w k).readdata s).setWidth
    s.params.dataW).setWidth 32

/-- The accesses that are done for a master. -/
def completedAt (w : Nat → InterconnectInput) (m : Master) (k : Nat) : Option Access :=
  if completesAt w m k then
    some (Access.ofCommand m ((w k).av m) ((stateAt w k).avReaddata (w k) m))
  else none

/-- The accesses whose command a master's port sends to a slave. -/
def issuedTo (w : Nat → InterconnectInput) (m : Master) (s : Slave) (k : Nat) : Option Access :=
  if sendsAt w m k &&
      m.reaches ((stateAt w k).cpData (w k) m).addr ((stateAt w k).cpData (w k) m).transRead s then
    some (Access.ofCommand m ((w k).av m) (delivered w s k))
  else none

/-- The accesses that a slave's port accepts. -/
def acceptedAt (w : Nat → InterconnectInput) (s : Slave) (k : Nat) : Option Access :=
  if (stateAt w k).commandValid (w k) s && (stateAt w k).slaveReady (w k) s then
    some (Access.ofPacket ((stateAt w k).command (w k) s).data (delivered w s k))
  else none

/-- The slave that the command of a master goes to in a cycle. -/
def targetAt (w : Nat → InterconnectInput) (m : Master) (k : Nat) : Option Slave :=
  Slave.target m ((stateAt w k).cpData (w k) m).addr ((stateAt w k).cpData (w k) m).transRead

/-- The accesses whose command a master's port sends. -/
def issuedAt (w : Nat → InterconnectInput) (m : Master) (k : Nat) : Option Access :=
  (targetAt w m k).bind fun s => issuedTo w m s k

theorem exists_targetAt (w : Nat → InterconnectInput) (m : Master) (k : Nat) :
    ∃ s, targetAt w m k = some s ∧ ∀ s',
      m.reaches ((stateAt w k).cpData (w k) m).addr ((stateAt w k).cpData (w k) m).transRead s' =
        decide (s' = s) := by
  obtain ⟨s, hs⟩ := m.reaches_unique ((stateAt w k).cpData (w k) m).addr
    ((stateAt w k).cpData (w k) m).transRead
  exact ⟨s, Slave.target_eq_some_iff.mpr ((hs s).trans (decide_eq_true rfl)), hs⟩

/-- A master sends an access to one slave. -/
theorem issuedAt_cases (w : Nat → InterconnectInput) (m : Master) (k : Nat) :
    (issuedAt w m k = none ∧ ∀ s, issuedTo w m s k = none) ∨
      ∃ s a, issuedAt w m k = some a ∧ issuedTo w m s k = some a ∧
        ∀ s', s' ≠ s → issuedTo w m s' k = none := by
  obtain ⟨s, htarget, hreaches⟩ := exists_targetAt w m k
  rw [issuedAt, htarget, Option.bind_some]
  cases hsends : sendsAt w m k with
  | false => exact Or.inl ⟨by simp [issuedTo, hsends], fun s' => by simp [issuedTo, hsends]⟩
  | true =>
      refine Or.inr ⟨s, Access.ofCommand m ((w k).av m) (delivered w s k), ?_, ?_, fun s' hs' => ?_⟩
      · simp [issuedTo, hsends, hreaches]
      · simp [issuedTo, hsends, hreaches]
      · simp [issuedTo, hsends, hreaches, hs']

theorem issuedAt_none (hsends : sendsAt w m k = false) : issuedAt w m k = none := by
  rcases issuedAt_cases w m k with ⟨hnone, -⟩ | ⟨s, a, -, hissued, -⟩
  · exact hnone
  · simp [issuedTo, hsends] at hissued

theorem issuedAt_eq (hsends : sendsAt w m k = true) (hs : targetAt w m k = some s) :
    issuedAt w m k = some (Access.ofCommand m ((w k).av m) (delivered w s k)) := by
  have hreaches := Slave.target_eq_some_iff.mp hs
  rw [issuedAt, hs, Option.bind_some, issuedTo, hsends, hreaches]
  rfl

theorem issuedTo_eq_some_iff {a : Access} : issuedTo w m s k = some a ↔
    ((stateAt w k).Through (w k) m s ∧ (stateAt w k).slaveReady (w k) s = true) ∧
      Access.ofCommand m ((w k).av m) (delivered w s k) = a := by
  rw [issuedTo, Option.ite_none_right_eq_some, Bool.and_eq_true, Option.some.injEq]
  exact and_congr_left fun _ => sends_reaches_iff

section Cycles

variable (hw : Polite w)
include hw

/-- A command that goes out is the access that the master holds. -/
theorem Polite.ofPacket_eq (hsends : sendsAt w m k = true) (readdata : U32) :
    Access.ofPacket ((stateAt w k).beat (w k) m).data readdata =
      Access.ofCommand m ((w k).av m) readdata := by
  have hfresh : ((stateAt w k).master m).pending = false := by
    by_contra hpending
    have hserves := (hw.cycle k).serves m
    have hnot := MasterPort.Serves.not_sends (i := masterInputAt w m k) hserves
      (Bool.eq_true_of_not_eq_false hpending)
    exact Bool.false_ne_true (hnot.symm.trans hsends)
  simp only [MasterPort.pending, Bool.or_eq_false_iff] at hfresh
  simp [Access.ofPacket, Access.ofCommand, beat, cpData, MasterPort.cpData, MasterPort.uavRead,
    MasterPort.uavWrite, hfresh]

/-- A slave accepts what one master sends to it. -/
theorem Polite.acceptedAt_cases (s : Slave) (k : Nat) :
    (acceptedAt w s k = none ∧ ∀ m, issuedTo w m s k = none) ∨
      ∃ m a, acceptedAt w s k = some a ∧ issuedTo w m s k = some a ∧
        ∀ m', m' ≠ m → issuedTo w m' s k = none := by
  have hmux := (hw.cycle k).mux
  by_cases haccepted : (stateAt w k).commandValid (w k) s = true ∧
      (stateAt w k).slaveReady (w k) s = true
  · obtain ⟨m, hthrough⟩ := (commandValid_iff hmux).mp haccepted.1
    have hsends : sendsAt w m k = true := (sends_reaches_iff.mpr ⟨hthrough, haccepted.2⟩).1
    refine Or.inr ⟨m, Access.ofCommand m ((w k).av m) (delivered w s k), ?_, ?_, fun m' hm' => ?_⟩
    · rw [acceptedAt, haccepted.1, haccepted.2, hthrough.command_eq hmux, hw.ofPacket_eq hsends]
      rfl
    · exact issuedTo_eq_some_iff.mpr ⟨⟨hthrough, haccepted.2⟩, rfl⟩
    · rw [Option.eq_none_iff_forall_ne_some]
      intro a ha
      exact hm' ((issuedTo_eq_some_iff.mp ha).1.1.unique hmux hthrough)
  · refine Or.inl ⟨?_, fun m => ?_⟩
    · rw [acceptedAt, if_neg]
      rwa [Bool.and_eq_true]
    · rw [Option.eq_none_iff_forall_ne_some]
      intro a ha
      obtain ⟨⟨hthrough, hready⟩, -⟩ := issuedTo_eq_some_iff.mp ha
      exact haccepted ⟨(commandValid_iff hmux).mpr ⟨m, hthrough⟩, hready⟩

/-- The command of the access that the master waits for has gone out. -/
def pendingAt (w : Nat → InterconnectInput) (m : Master) (k : Nat) : Bool :=
  ((stateAt w k).master m).pending

theorem Polite.pendingAt_succ (m : Master) (k : Nat) :
    pendingAt w m (k + 1) = (sendsAt w m k && !completesAt w m k) :=
  ((hw.cycle k).serves m).pending_edge ((hw.cycle k).response m)

theorem Polite.not_sends (hpending : pendingAt w m k = true) : sendsAt w m k = false :=
  MasterPort.Serves.not_sends (i := masterInputAt w m k) ((hw.cycle k).serves m) hpending

/-- A read is not done in the cycle in which its command goes out. -/
theorem Polite.not_read_of_fresh (hpending : pendingAt w m k = false)
    (hdone : completesAt w m k = true) : ((w k).av m).read = false := by
  rw [Bool.eq_false_iff]
  intro hread
  have hrp : completesAt w m k = (masterInputAt w m k).rpValid :=
    MasterPort.completes_of_read (i := masterInputAt w m k) hread
  simp only [pendingAt, MasterPort.pending, Bool.or_eq_false_iff] at hpending
  rw [hdone, (hw.cycle k).response m, hpending.1] at hrp
  cases hrp

/-- An access that is done without having waited after its command went out is a write
whose command goes out in this cycle. -/
theorem Polite.completedAt_fresh (hpending : pendingAt w m k = false) :
    completedAt w m k = if pendingAt w m (k + 1) then none else issuedAt w m k := by
  rw [hw.pendingAt_succ m k]
  cases hdone : completesAt w m k with
  | false =>
      rw [completedAt, hdone]
      cases hsends : sendsAt w m k with
      | false => simp [issuedAt_none hsends]
      | true => rfl
  | true =>
      have hsends : sendsAt w m k = true :=
        MasterPort.Serves.sends_of_completes (i := masterInputAt w m k) ((hw.cycle k).serves m)
          ((hw.cycle k).response m) hpending hdone
      have hwrite := hw.not_read_of_fresh hpending hdone
      obtain ⟨s, hs, -⟩ := exists_targetAt w m k
      rw [completedAt, hdone, issuedAt_eq hsends hs]
      simp [Access.ofCommand, hwrite]

/-- The access that has waited is done in the next cycle, and a read is answered with what
its slave has put out. -/
theorem Polite.completedAt_late (hpending : pendingAt w m (k + 1) = true) :
    completedAt w m (k + 1) = issuedAt w m k := by
  have hsent := hpending
  rw [hw.pendingAt_succ m k, Bool.and_eq_true, Bool.not_eq_true'] at hsent
  obtain ⟨hsends, hwait⟩ := hsent
  have hdone : completesAt w m (k + 1) = true :=
    MasterPort.Serves.completes_of_pending (i := masterInputAt w m (k + 1))
      ((hw.cycle (k + 1)).serves m) ((hw.cycle (k + 1)).response m) hpending
  have hactive : MasterPort.active m ((w k).av m) = true := by
    by_contra hidle
    simp only [MasterPort.active, Bool.or_eq_true, not_or, Bool.not_eq_true] at hidle
    simp [sendsAt, MasterPort.sends, MasterPort.cpValid, MasterPort.uavRead, MasterPort.uavWrite,
      masterInputAt, masterInput, hidle] at hsends
  have hkeep := hw.keeps k m hactive hwait
  obtain ⟨s, hs, -⟩ := exists_targetAt w m k
  rw [completedAt, hdone, issuedAt_eq hsends hs, if_pos rfl, hkeep, Option.some.injEq,
    Access.ofCommand, Access.ofCommand]
  cases hread : ((w k).av m).read with
  | false => rfl
  | true =>
      have hwaiting : waitingAfter (w k) (stateAt w k) m = some s := by
        rw [waitingAfter, if_pos]
        · exact hs
        · rw [Bool.and_eq_true]
          exact ⟨hsends, hread⟩
      have hdata := (hw.cycle k).next.avReaddata_eq (i := w (k + 1)) hwaiting
      have hdelivered : ((stateAt w (k + 1)).port s).m0Readdata s.params ((w (k + 1)).readdata s) =
          delivered w s k := by
        rw [SlavePort.m0Readdata, delivered]
        split_ifs <;> rfl
      rw [hdata, hdelivered]

/-- A read is done in the cycle after the one in which its command is sent. -/
theorem Polite.issuedAt_of_read {a : Access} (hdone : completedAt w m k = some a)
    (hread : a.write = false) : ∃ j, k = j + 1 ∧ issuedAt w m j = some a := by
  cases hpending : pendingAt w m k with
  | true =>
      cases k with
      | zero => cases hpending
      | succ j => exact ⟨j, rfl, (hw.completedAt_late hpending).symm.trans hdone⟩
  | false =>
      rw [completedAt, Option.ite_none_right_eq_some, Option.some.injEq] at hdone
      obtain ⟨hcompletes, rfl⟩ := hdone
      have hactive : MasterPort.active m ((w k).av m) = true := by
        simp only [completesAt, MasterPort.completes, Bool.and_eq_true] at hcompletes
        exact hcompletes.1
      have hwrite : MasterPort.uavWritePre m ((w k).av m) = false := hread
      rw [MasterPort.active, hw.not_read_of_fresh hpending hcompletes, hwrite] at hactive
      cases hactive

/-- A master's accesses are done in the order in which they are sent. -/
theorem Polite.issued_eq_completed (m : Master) (n : Nat) :
    ∃ underWay : List Access, underWay.length ≤ 1 ∧
      Streams.items (issuedAt w m) n = Streams.items (completedAt w m) n ++ underWay := by
  have hlate (k : Nat) (hk : pendingAt w m k = true) : issuedAt w m k = none ∧
      completedAt w m k = Streams.before (issuedAt w m) k ∧ pendingAt w m (k + 1) = false := by
    have hnone := issuedAt_none (hw.not_sends hk)
    refine ⟨hnone, ?_, ?_⟩
    · cases k with
      | zero => cases hk
      | succ k => exact hw.completedAt_late hk
    · rw [hw.pendingAt_succ m k, hw.not_sends hk, Bool.false_and]
  have hitems := Streams.items_late (fun k hk => hw.completedAt_fresh hk) hlate n
  refine ⟨if pendingAt w m n then (Streams.before (issuedAt w m) n).toList else [], ?_, hitems⟩
  split_ifs
  · cases Streams.before (issuedAt w m) n <;> simp
  · exact Nat.zero_le 1

end Cycles

/-- Every access of a master is carried out exactly once, at the slave that it is routed to,
and answered with what that slave puts out for it: a master's accesses are done in the
order in which they are sent, at most one being under way; each is sent to one slave; and a
slave accepts a shuffle of what the masters send to it. -/
theorem accesses_exactly_once (hw : Polite w) (n : Nat) :
    (∀ m, ∃ underWay : List Access, underWay.length ≤ 1 ∧
      Streams.items (issuedAt w m) n = Streams.items (completedAt w m) n ++ underWay) ∧
    (∀ m, Streams.IsMerge (Streams.items (issuedAt w m) n) fun s =>
      Streams.items (issuedTo w m s) n) ∧
    ∀ s, Streams.IsMerge (Streams.items (acceptedAt w s) n) fun m =>
      Streams.items (issuedTo w m s) n := by
  refine ⟨fun m => ?_, fun m => ?_, fun s => ?_⟩
  · exact hw.issued_eq_completed m n
  · exact Streams.isMerge_items (issuedAt_cases w m) n
  · exact Streams.isMerge_items (hw.acceptedAt_cases s) n

/-- Both masters read the memory all the time. -/
def contention (_ : Nat) : InterconnectInput where
  data := ⟨true, false, 0x1000, 0b1111, 0, false⟩
  fetchRead := true
  fetchAddress := 0x1004
  readdata _ := 0
  waitrequest _ := false

theorem accesses_exactly_once_contention :
    (∀ m, ∃ underWay : List Access, underWay.length ≤ 1 ∧
      Streams.items (issuedAt contention m) 4 =
        Streams.items (completedAt contention m) 4 ++ underWay) ∧
    (∀ m, Streams.IsMerge (Streams.items (issuedAt contention m) 4) fun s =>
      Streams.items (issuedTo contention m s) 4) ∧
    ∀ s, Streams.IsMerge (Streams.items (acceptedAt contention s) 4) fun m =>
      Streams.items (issuedTo contention m s) 4 :=
  accesses_exactly_once ⟨fun _ _ => rfl, fun _ _ _ _ => rfl⟩ 4

end Interconnect

end RelojDespertador
