import RelojDespertador.Hardware.Interconnect

/-!
# The transactions of the interconnect

Between the cycle in which the command of a read is accepted and the next one,
the slave owes a response to the master that waits for it. A master waits for
one slave at most, so the response multiplexers never have two responses at
once, although nothing arbitrates between them.
-/

namespace RelojDespertador

namespace Interconnect

/-- What a slave owes when the masters wait for the responses of `waiting`. -/
def Owes (waiting : Master → Option Slave) (s : Slave) : Option RspItem → Prop
  | none => ∀ m, waiting m ≠ some s
  | some x => ∃ m, (∀ m', waiting m' = some s ↔ m' = m) ∧ x.data.srcId = m.id ∧
      x.data.transRead = true

/-- The invariant of the interconnect. -/
structure Holds (waiting : Master → Option Slave) (y : Interconnect) : Prop where
  mux : y.MuxesHold
  running : ∀ m, (y.master m).holdWaitrequest = false
  accepted : ∀ m, (y.master m).readAccepted = (waiting m).isSome
  output : ∀ m s, waiting m = some s → (m.output s).isSome = true
  port : ∀ s, ∃ owed, (y.port s).Holds owed ∧ Owes waiting s owed

section Responses

variable {i : InterconnectInput} {y : Interconnect} {waiting : Master → Option Slave}
  (h : y.Holds waiting)
include h

/-- The response of a slave is for the master that waits for it. -/
theorem Holds.responds_eq (s : Slave) (m : Master) :
    y.responds i s m = decide (waiting m = some s) := by
  obtain ⟨owed, hport, howes⟩ := h.port s
  cases owed with
  | none =>
      have hvalid : (y.port s).rpValid = false := hport.rpValid_eq
      rw [responds, hvalid, Bool.and_false, Bool.and_false]
      exact (decide_eq_false (howes m)).symm
  | some x =>
      obtain ⟨m₀, hm₀, hid, hread⟩ := howes
      have hvalid : (y.port s).rpValid = true := hport.rpValid_eq
      have hresponse : y.response i s = x.response _ := hport.rpData_eq _
      have houtput := h.output m₀ s ((hm₀ m₀).mpr rfl)
      have hchannel : y.rspChannel i s = if m₀ = .instruction then 0b10#14 else 0b01#14 := by
        rw [rspChannel, hresponse]
        simp only [RspItem.response, hid, hread]
        cases m₀ with
        | data => cases s.shared <;> rfl
        | instruction =>
            rcases (Slave.output_isSome_iff _ _).mp houtput with hdata | hshared
            · cases hdata
            · rw [hshared]
              rfl
      rw [responds, hvalid, hchannel]
      simp only [hm₀ m]
      cases m with
      | data => cases m₀ <;> rfl
      | instruction =>
          cases m₀ with
          | data => simp [Master.rspOutput]
          | instruction => simp [Master.rspOutput, houtput]

/-- The response network takes what a slave owes. -/
theorem Holds.rspReady_eq {s : Slave} {m : Master} (hm : waiting m = some s) :
    y.rspReady i s = true := by
  have hresponds : y.responds i s m = true := by
    rw [h.responds_eq s m]
    exact decide_eq_true hm
  have hchannel : (y.rspChannel i s).getLsbD m.rspOutput = true := by
    simp only [responds, Bool.and_eq_true] at hresponds
    exact hresponds.2.1
  rw [rspReady]
  cases m with
  | data => rw [hresponds, hchannel, Bool.and_self, Bool.true_or]
  | instruction => rw [hresponds, hchannel, Bool.and_self, Bool.or_true]

/-- A master has a response exactly if it waits for one. -/
theorem Holds.masterRpValid_eq (m : Master) :
    y.masterRpValid i m = (y.master m).readAccepted := by
  rw [h.accepted m, Bool.eq_iff_iff, masterRpValid, List.any_eq_true, Option.isSome_iff_exists]
  constructor
  · rintro ⟨s, -, hs⟩
    rw [h.responds_eq s m] at hs
    exact ⟨s, of_decide_eq_true hs⟩
  · rintro ⟨s, hs⟩
    refine ⟨s, s.mem_all, ?_⟩
    rw [h.responds_eq s m]
    exact decide_eq_true hs

/-- The data are those of the slave that the master waits for, and of no other. -/
theorem Holds.avReaddata_eq {s : Slave} {m : Master} (hm : waiting m = some s) :
    y.avReaddata i m = (y.port s).m0Readdata s.params (i.readdata s) := by
  have hother : ∀ s', s' ≠ s → (y.response i s').toPayload &&&
      (if y.responds i s' m then BitVec.allOnes 108 else 0) = 0 := by
    intro s' hs'
    have hnot : y.responds i s' m = false := by
      rw [h.responds_eq s' m]
      apply decide_eq_false
      intro hs
      exact hs' (Option.some.inj (hs.symm.trans hm))
    rw [hnot]
    exact BitVec.and_zero
  have hresponds : y.responds i s m = true := by
    rw [h.responds_eq s m]
    exact decide_eq_true hm
  have hpayload : y.rspPayload i m = (y.response i s).toPayload := by
    rw [rspPayload, Word.foldr_or_single Slave.all hother, if_pos s.mem_all, hresponds, if_pos rfl,
      BitVec.and_allOnes]
  obtain ⟨owed, hport, howes⟩ := h.port s
  cases owed with
  | none => exact absurd hm (howes m)
  | some x =>
      have hresponse : y.response i s = x.response _ := hport.rpData_eq _
      rw [avReaddata, hpayload, Beat.ofPayload_toPayload, hresponse]
      rfl

end Responses

/-! ## One cycle -/

/-- The slave that a master waits for after a cycle. -/
def waitingAfter (i : InterconnectInput) (y : Interconnect) (m : Master) : Option Slave :=
  if (y.master m).sends m (y.masterInput i m) && (i.av m).read then
    Slave.target m (y.cpData i m).addr (y.cpData i m).transRead
  else none

section Cycle

variable {i : InterconnectInput} {y : Interconnect} {waiting : Master → Option Slave}
  {m : Master} {s : Slave}

/-- A master that sends the command of a read to a slave will wait for it. -/
theorem waitingAfter_eq_some_iff :
    waitingAfter i y m = some s ↔
      y.Through i m s ∧ y.slaveReady i s = true ∧ (i.av m).read = true := by
  rw [waitingAfter, Option.ite_none_right_eq_some, Bool.and_eq_true, Slave.target_eq_some_iff,
    and_right_comm, sends_reaches_iff, and_assoc]

theorem waitingAfter_isSome :
    (waitingAfter i y m).isSome =
      ((y.master m).sends m (y.masterInput i m) && (i.av m).read) := by
  obtain ⟨s, hs⟩ := m.reaches_unique (y.cpData i m).addr (y.cpData i m).transRead
  have htarget := Slave.target_eq_some_iff.mpr ((hs s).trans (decide_eq_true rfl))
  rw [waitingAfter, htarget]
  split_ifs with hsends
  · exact hsends.symm
  · exact (Bool.eq_false_iff.mpr hsends).symm

/-- The command at a port is one that a master's agent makes. -/
theorem Holds.plain (h : y.Holds waiting) (s : Slave)
    (hvalid : (y.slaveInput i s).cpValid = true) : (y.slaveInput i s).cp.data.Plain := by
  obtain ⟨m, hthrough⟩ := (commandValid_iff h.mux).mp hvalid
  change (y.command i s).data.Plain
  rw [hthrough.command_eq h.mux]
  exact MasterPort.cpData_plain m (i.av m) (y.master m)

/-- A port accepts the reads that will be waited for. -/
theorem Holds.owes_taken (h : y.Holds waiting) (hserves : ∀ m, (y.master m).Serves m (i.av m))
    (s : Slave) :
    Owes (waitingAfter i y) s (SlavePort.taken s.params (y.slaveInput i s) (y.port s)) := by
  have hread {m : Master} (hthrough : y.Through i m s) (hready : y.slaveReady i s = true) :
      (y.command i s).data.transRead = (i.av m).read := by
    have hsends := sends_iff.mpr ⟨s, hthrough, hready⟩
    have hfresh : (y.master m).readAccepted = false := by
      by_contra haccepted
      have hpending : (y.master m).pending = true := by
        rw [MasterPort.pending, Bool.eq_true_of_not_eq_false haccepted, Bool.true_or]
      rw [(hserves m).not_sends hpending] at hsends
      cases hsends
    rw [hthrough.command_eq h.mux]
    change ((i.av m).read && !(y.master m).readAccepted) = _
    rw [hfresh, Bool.not_false, Bool.and_true]
  cases htaken : SlavePort.taken s.params (y.slaveInput i s) (y.port s) with
  | none =>
      intro m hm
      obtain ⟨hthrough, hready, hav⟩ := waitingAfter_eq_some_iff.mp hm
      have hvalid : (y.slaveInput i s).cpValid = true := (commandValid_iff h.mux).mpr ⟨m, hthrough⟩
      have hcommand := (hread hthrough hready).trans hav
      change (if (y.slaveInput i s).cpValid && (y.command i s).data.transRead &&
        y.slaveReady i s then _ else none) = none at htaken
      simp [hvalid, hcommand, hready] at htaken
  | some x =>
      change (if (y.slaveInput i s).cpValid && (y.command i s).data.transRead &&
        y.slaveReady i s then _ else none) = some x at htaken
      rw [Option.ite_none_right_eq_some] at htaken
      simp only [Bool.and_eq_true] at htaken
      obtain ⟨⟨⟨hvalid, htransRead⟩, hready⟩, hx⟩ := htaken
      obtain rfl := Option.some.inj hx
      obtain ⟨m, hthrough⟩ := (commandValid_iff h.mux).mp hvalid
      have hav := (hread hthrough hready).symm.trans htransRead
      refine ⟨m, fun m' => ?_, ?_, htransRead⟩
      · rw [waitingAfter_eq_some_iff]
        constructor
        · rintro ⟨hthrough', -, -⟩
          exact hthrough'.unique h.mux hthrough
        · rintro rfl
          exact ⟨hthrough, hready, hav⟩
      · change (y.command i s).data.srcId = m.id
        rw [hthrough.command_eq h.mux]
        rfl

theorem MuxesHold.edge (h : y.MuxesHold) : (y.edge i).MuxesHold := by
  intro s mux hmux
  rw [cmdMux_edge, Option.map_eq_some_iff] at hmux
  obtain ⟨mux₀, hmux₀, rfl⟩ := hmux
  obtain ⟨holder, top, hholds⟩ := h s mux₀ hmux₀
  obtain ⟨holder', top', hholds', -⟩ := hholds.edge (i := y.muxInput i s (y.slaveReady i s))
  exact ⟨holder', top', hholds'⟩

/-- One cycle: the responses owed are paid, and the reads accepted are owed. -/
theorem Holds.edge (h : y.Holds waiting) (hserves : ∀ m, (y.master m).Serves m (i.av m)) :
    (y.edge i).Holds (waitingAfter i y) where
  mux := h.mux.edge
  running _ := rfl
  accepted m := by
    rw [waitingAfter_isSome]
    exact (hserves m).readAccepted_edge (h.masterRpValid_eq m)
  output m s hm := output_of_offers (waitingAfter_eq_some_iff.mp hm).1.1
  port s := by
    obtain ⟨owed, hport, howes⟩ := h.port s
    refine ⟨_, hport.edge (h.plain s) ?_, h.owes_taken hserves s⟩
    intro howed
    obtain ⟨x, rfl⟩ := Option.isSome_iff_exists.mp howed
    obtain ⟨m, hm, -⟩ := howes
    exact h.rspReady_eq ((hm m).mpr rfl)

theorem reset_muxesHold : reset.MuxesHold := by
  intro s mux hmux
  cases s with
  | debugMem | sram =>
      obtain rfl := Option.some.inj hmux
      exact ⟨none, 0, CommandMux.reset_holds⟩
  | debug | leds | sseg | buttons | timer | switch | buzzer => cases hmux

/-- The first cycle after reset. -/
theorem reset_edge (i : InterconnectInput) : (reset.edge i).Holds fun _ => none where
  mux := reset_muxesHold.edge
  running _ := rfl
  accepted m := by
    simp [Interconnect.edge, reset, MasterPort.edge, MasterPort.reset, MasterPort.uavWaitrequest]
  output _ _ hm := by cases hm
  port s := by
    refine ⟨none, SlavePort.reset_edge ?_, fun _ hm => by cases hm⟩
    change reset.commandValid i s = false
    have hoffers (m : Master) : reset.offers i m s = false := by
      simp [offers, reset, MasterPort.cpValid, MasterPort.reset]
    rw [Bool.eq_false_iff]
    intro hvalid
    obtain ⟨m, hthrough⟩ := (commandValid_iff reset_muxesHold).mp hvalid
    exact Bool.false_ne_true ((hoffers m).symm.trans hthrough.1)

end Cycle

/-! ## Runs -/

section Run

/-- The registers along a run. -/
def stateAt (w : Nat → InterconnectInput) (k : Nat) : Interconnect :=
  InputMachine.states edge reset w k

/-- What a master finds at its port in a cycle. -/
def masterInputAt (w : Nat → InterconnectInput) (m : Master) (k : Nat) : MasterPortInput :=
  (stateAt w k).masterInput (w k) m

def sendsAt (w : Nat → InterconnectInput) (m : Master) (k : Nat) : Bool :=
  ((stateAt w k).master m).sends m (masterInputAt w m k)

def completesAt (w : Nat → InterconnectInput) (m : Master) (k : Nat) : Bool :=
  ((stateAt w k).master m).completes m (masterInputAt w m k)

/-- What the translators ask of the masters: none reads and writes at once, and an access
is held until it is done. -/
structure Polite (w : Nat → InterconnectInput) : Prop where
  exclusive : ∀ k, (w k).data.read = true → (w k).data.write = false
  keeps : ∀ k m, MasterPort.active m ((w k).av m) = true → completesAt w m k = false →
    (w (k + 1)).av m = (w k).av m

variable {w : Nat → InterconnectInput} {m : Master} {s : Slave} {k : Nat}

theorem stateAt_succ (w : Nat → InterconnectInput) (k : Nat) :
    stateAt w (k + 1) = (stateAt w k).edge (w k) := rfl

theorem Polite.not_both (hw : Polite w) (m : Master) (k : Nat)
    (hread : ((w k).av m).read = true) : MasterPort.uavWritePre m ((w k).av m) = false := by
  cases m with
  | data => exact hw.exclusive k hread
  | instruction => rfl

/-- What holds in every cycle, and after it. -/
structure Cycle (w : Nat → InterconnectInput) (k : Nat) : Prop where
  serves : ∀ m, ((stateAt w k).master m).Serves m ((w k).av m)
  response : ∀ m, (masterInputAt w m k).rpValid = ((stateAt w k).master m).readAccepted
  mux : (stateAt w k).MuxesHold
  next : (stateAt w (k + 1)).Holds (waitingAfter (w k) (stateAt w k))

theorem Polite.cycle (hw : Polite w) (k : Nat) : Cycle w k := by
  induction k with
  | zero =>
      have hnone : waitingAfter (w 0) (stateAt w 0) = fun _ => none := by
        funext m
        rw [← Option.isNone_iff_eq_none, ← Option.not_isSome, waitingAfter_isSome]
        simp [MasterPort.sends, MasterPort.cpValid, stateAt, reset, MasterPort.reset]
      refine ⟨fun m => MasterPort.reset_serves (hw.not_both m 0), fun m => ?_, reset_muxesHold, ?_⟩
      · change (Slave.all.any fun s => reset.responds (w 0) s m) = false
        rw [List.any_eq_false]
        intro s _
        have hidle : (reset.port s).rpValid = false := rfl
        simp [responds, hidle]
      · rw [hnone]
        exact reset_edge (w 0)
  | succ k ih =>
      have hserves (m : Master) :
          ((stateAt w (k + 1)).master m).Serves m ((w (k + 1)).av m) :=
        (ih.serves m).edge (ih.response m) (hw.not_both m (k + 1)) (hw.keeps k m)
      exact ⟨hserves, ih.next.masterRpValid_eq, ih.next.mux, ih.next.edge hserves⟩

/-! ## The command at the port of a slave -/

section Port

variable (hw : Polite w)
include hw

omit hw in
/-- The masters send nothing in the first cycle. -/
theorem pos_of_offers (hoffers : (stateAt w k).offers (w k) m s = true) : 0 < k := by
  apply Nat.pos_of_ne_zero
  rintro rfl
  simp [offers, stateAt, reset, MasterPort.cpValid, MasterPort.reset] at hoffers

theorem Polite.not_pending_of_offers (hoffers : (stateAt w k).offers (w k) m s = true) :
    ((stateAt w k).master m).pending = false := by
  rw [Bool.eq_false_iff]
  intro hpending
  have hvalid := ((hw.cycle k).serves m).not_cpValid hpending
  simp [offers, hvalid] at hoffers

theorem Polite.port_holds (hk : 0 < k) (s : Slave) :
    ∃ owed, ((stateAt w k).port s).Holds owed := by
  obtain ⟨k, rfl⟩ := Nat.exists_eq_succ_of_ne_zero (Nat.pos_iff_ne_zero.mp hk)
  obtain ⟨owed, hport, -⟩ := (hw.cycle k).next.port s
  exact ⟨owed, hport⟩

theorem Polite.plain (k : Nat) (s : Slave)
    (hvalid : ((stateAt w k).slaveInput (w k) s).cpValid = true) :
    ((stateAt w k).slaveInput (w k) s).cp.data.Plain := by
  obtain ⟨m, hthrough⟩ := (commandValid_iff (hw.cycle k).mux).mp hvalid
  change ((stateAt w k).command (w k) s).data.Plain
  rw [hthrough.command_eq (hw.cycle k).mux]
  exact MasterPort.cpData_plain m ((w k).av m) ((stateAt w k).master m)

/-- At the port of a slave is the access of one master. -/
theorem Polite.m0Read_eq (hk : 0 < k) (hthrough : (stateAt w k).Through (w k) m s) :
    ((stateAt w k).port s).m0Read ((stateAt w k).slaveInput (w k) s) =
      ((stateAt w k).cpData (w k) m).transRead := by
  obtain ⟨owed, hport⟩ := hw.port_holds hk s
  have hvalid := (commandValid_iff (hw.cycle k).mux).mpr ⟨m, hthrough⟩
  rw [hport.m0Read_eq (hw.plain k s)]
  change ((stateAt w k).commandValid (w k) s && ((stateAt w k).command (w k) s).data.transRead) = _
  rw [hvalid, hthrough.command_eq (hw.cycle k).mux]
  rfl

theorem Polite.m0Write_eq (hk : 0 < k) (hthrough : (stateAt w k).Through (w k) m s) :
    ((stateAt w k).port s).m0Write ((stateAt w k).slaveInput (w k) s) =
      ((stateAt w k).cpData (w k) m).transWrite := by
  obtain ⟨owed, hport⟩ := hw.port_holds hk s
  have hvalid := (commandValid_iff (hw.cycle k).mux).mpr ⟨m, hthrough⟩
  rw [hport.m0Write_eq]
  change ((stateAt w k).commandValid (w k) s && ((stateAt w k).command (w k) s).data.transWrite) = _
  rw [hvalid, hthrough.command_eq (hw.cycle k).mux]
  rfl

theorem Polite.through_of_m0Read
    (hread : ((stateAt w k).port s).m0Read ((stateAt w k).slaveInput (w k) s) = true) :
    ∃ m, (stateAt w k).Through (w k) m s := by
  apply (commandValid_iff (hw.cycle k).mux).mp
  simp only [SlavePort.m0Read, Bool.and_eq_true, Bool.or_eq_true] at hread
  rcases hread.2 with ⟨hvalid, -⟩ | ⟨hvalid, -⟩
  · exact hvalid
  · exact hvalid

/-- A command at a port is a read or a write, and not both. -/
theorem Polite.transWrite_eq (hthrough : (stateAt w k).Through (w k) m s) :
    ((stateAt w k).cpData (w k) m).transWrite = !((stateAt w k).cpData (w k) m).transRead := by
  have hfresh := hw.not_pending_of_offers hthrough.1
  have hexclusive := ((hw.cycle k).serves m).exclusive
  have hvalid : ((stateAt w k).master m).cpValid m ((w k).av m) = true := by
    have hoffers := hthrough.1
    simp only [offers, Bool.and_eq_true] at hoffers
    exact hoffers.1
  rw [cpData, MasterPort.cpData]
  simp only [MasterPort.cpValid, Bool.and_eq_true, Bool.or_eq_true] at hvalid
  simp only [MasterPort.pending, Bool.or_eq_false_iff] at hfresh
  cases hread : ((w k).av m).read with
  | true => simp [MasterPort.uavRead, MasterPort.uavWrite, hread, hfresh, hexclusive hread]
  | false =>
      rcases hvalid.1 with hwrite | hnone
      · simp [MasterPort.uavRead, hread, hwrite]
      · simp [MasterPort.uavRead, hread] at hnone

theorem Polite.m0_exclusive
    (hread : ((stateAt w k).port s).m0Read ((stateAt w k).slaveInput (w k) s) = true) :
    ((stateAt w k).port s).m0Write ((stateAt w k).slaveInput (w k) s) = false := by
  obtain ⟨m, hthrough⟩ := hw.through_of_m0Read hread
  have hk := pos_of_offers hthrough.1
  rw [hw.m0Read_eq hk hthrough] at hread
  rw [hw.m0Write_eq hk hthrough, hw.transWrite_eq hthrough, hread, Bool.not_true]

theorem Polite.m0_of_through (hthrough : (stateAt w k).Through (w k) m s) :
    (((stateAt w k).port s).m0Read ((stateAt w k).slaveInput (w k) s) ||
      ((stateAt w k).port s).m0Write ((stateAt w k).slaveInput (w k) s)) = true := by
  have hk := pos_of_offers hthrough.1
  rw [hw.m0Read_eq hk hthrough, hw.m0Write_eq hk hthrough, hw.transWrite_eq hthrough,
    Bool.or_not_self]

omit hw in
/-- A command at the port of a slave goes out when the slave is ready. -/
theorem sendsAt_of_through (hthrough : (stateAt w k).Through (w k) m s) :
    sendsAt w m k = (stateAt w k).slaveReady (w k) s := by
  rw [Bool.eq_iff_iff]
  constructor
  · intro hsends
    obtain ⟨s', hthrough', hready⟩ := sends_iff.mp hsends
    obtain rfl := offers_unique hthrough'.1 hthrough.1
    exact hready
  · intro hready
    exact sends_iff.mpr ⟨s, hthrough, hready⟩

/-- Only the data master writes. -/
theorem Polite.transWrite_iff (hthrough : (stateAt w k).Through (w k) m s) :
    ((stateAt w k).cpData (w k) m).transWrite = true ↔ m = .data ∧ (w k).data.write = true := by
  have hfresh := hw.not_pending_of_offers hthrough.1
  rw [cpData, MasterPort.cpData_of_not_pending hfresh]
  cases m with
  | data => simp [MasterPort.cpData, MasterPort.uavWrite, MasterPort.uavWritePre, MasterPort.reset,
      Master.registersIncoming, Master.useWrite, InterconnectInput.av]
  | instruction => simp [MasterPort.cpData, MasterPort.uavWrite, MasterPort.uavWritePre,
      Master.registersIncoming, Master.useWrite]

end Port

end Run

end Interconnect

end RelojDespertador
