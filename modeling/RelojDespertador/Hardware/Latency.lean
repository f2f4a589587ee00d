import RelojDespertador.Hardware.Accesses
import RelojDespertador.Library.Soon

/-!
# How long an access takes

A command that is held goes through the interconnect: the other master gets ahead of
it once at most, and only in front of a slave that both masters reach. How long the
slave itself takes is up to its wait port, if it has one.
-/

namespace RelojDespertador

/-- The cycles after which a slave is ready for a command at its port, if those with a
wait port take those of `b`. -/
def Slave.patience (b : Slave → Nat) (s : Slave) : Nat :=
  if s.params.useWaitrequest then b s else s.params.readWaitCycles

/-- A slave without a wait port is ready at once, or lets a read wait for one cycle. -/
theorem Slave.readWaitCycles_cases (s : Slave) (hwait : s.params.useWaitrequest = false) :
    s.params.readWaitCycles = 0 ∨ s.params.readWaitCycles = 1 := by
  cases s with
  | debug | debugMem => cases hwait
  | sram => exact Or.inl rfl
  | leds | sseg | buttons | timer | switch | buzzer => exact Or.inr rfl

/-- The cycles after which an access to a slave is done. -/
def Slave.latency (b : Slave → Nat) (s : Slave) : Nat :=
  if s.shared then 2 * s.patience b + 3 else s.patience b + 1

namespace Interconnect

/-- From a cycle on, a slave with a wait port does not keep a command waiting for longer
than `b` says. -/
def Answers (b : Slave → Nat) (w : Nat → InterconnectInput) (s : Slave) (k : Nat) : Prop :=
  ∀ j, k ≤ j → s.params.useWaitrequest = true → (stateAt w j).commandValid (w j) s = true →
    Soon (b s) (fun j => (w j).waitrequest s = false) j

variable {b : Slave → Nat} {w : Nat → InterconnectInput} {m m' : Master} {s : Slave} {j k : Nat}

theorem Answers.later (h : Answers b w s k) (hkj : k ≤ j) : Answers b w s j :=
  fun i hji => h i (Nat.le_trans hkj hji)

/-! ## Commands that are held -/

section Held

/-- A command is one beat, without a lock. -/
theorem isLast_beat (i : InterconnectInput) (y : Interconnect) (m : Master) :
    CommandMux.IsLast (y.beat i m).toPayload := by
  rw [CommandMux.IsLast, Beat.endofpacket_toPayload, Beat.transLock_toPayload]
  exact ⟨rfl, rfl⟩

theorem holdWaitrequest_succ (w : Nat → InterconnectInput) (m : Master) (k : Nat) :
    ((stateAt w (k + 1)).master m).holdWaitrequest = false := rfl

variable (hw : Polite w)
include hw

/-- A command that has not gone out is there in the next cycle, the same. -/
theorem Polite.held (hoffers : (stateAt w k).offers (w k) m s = true)
    (hsends : sendsAt w m k = false) :
    (stateAt w (k + 1)).offers (w (k + 1)) m s = true ∧
      (stateAt w (k + 1)).cpData (w (k + 1)) m = (stateAt w k).cpData (w k) m := by
  have hfresh := hw.not_pending_of_offers hoffers
  have hrunning : ((stateAt w k).master m).holdWaitrequest = false := by
    by_contra hhold
    simp [offers, MasterPort.cpValid, hhold] at hoffers
  have hwait : completesAt w m k = false := by
    rw [Bool.eq_false_iff]
    intro hdone
    have hsent := MasterPort.Serves.sends_of_completes (i := masterInputAt w m k)
      ((hw.cycle k).serves m) ((hw.cycle k).response m) hfresh hdone
    exact Bool.false_ne_true (hsends.symm.trans hsent)
  have hactive : MasterPort.active m ((w k).av m) = true := by
    rw [← MasterPort.cpValid_of_not_pending hfresh hrunning]
    simp only [offers, Bool.and_eq_true] at hoffers
    exact hoffers.1
  have hkeep := hw.keeps k m hactive hwait
  have hnext : ((stateAt w (k + 1)).master m).pending = false := by
    have hpending := hw.pendingAt_succ m k
    rw [hsends] at hpending
    exact hpending
  have hdata : (stateAt w (k + 1)).cpData (w (k + 1)) m = (stateAt w k).cpData (w k) m := by
    rw [cpData, cpData, hkeep, MasterPort.cpData_of_not_pending hnext,
      MasterPort.cpData_of_not_pending hfresh]
  refine ⟨?_, hdata⟩
  rw [offers, hdata, hkeep, MasterPort.cpValid_of_not_pending hnext (holdWaitrequest_succ w m k),
    hactive]
  simp only [offers, Bool.and_eq_true] at hoffers
  rw [hoffers.2, Bool.and_self]

/-- A command at a port keeps the other one where it is. -/
theorem Polite.not_sends_of_other (hthrough : (stateAt w k).Through (w k) m' s)
    (hoffers : (stateAt w k).offers (w k) m s = true) (hm : m ≠ m') : sendsAt w m k = false := by
  rw [Bool.eq_false_iff]
  intro hsends
  obtain ⟨s', hthrough', -⟩ := sends_iff.mp hsends
  obtain rfl := offers_unique hthrough'.1 hoffers
  exact hm (hthrough'.unique (hw.cycle k).mux hthrough)

/-- The command at a port stays there until the port is ready. -/
theorem Polite.through_succ (hthrough : (stateAt w k).Through (w k) m s)
    (hready : (stateAt w k).slaveReady (w k) s = false) :
    (stateAt w (k + 1)).Through (w (k + 1)) m s := by
  have hsends := (sendsAt_of_through hthrough).trans hready
  refine ⟨(hw.held hthrough.1 hsends).1, fun mux' hmux' => ?_⟩
  rw [stateAt_succ, cmdMux_edge, Option.map_eq_some_iff] at hmux'
  obtain ⟨mux, hmux, rfl⟩ := hmux'
  obtain ⟨holder, top, hholds⟩ := (hw.cycle k).mux s mux hmux
  have hgrant := hthrough.2 mux hmux
  have hholder := hgrant
  rw [hholds.getLsbD_grant, decide_eq_true_eq] at hholder
  subst hholder
  have hlast : mux.lastCycle ((stateAt w k).muxInput (w k) s ((stateAt w k).slaveReady (w k) s)) =
      false := by
    rw [Bool.eq_false_iff]
    intro hlast
    obtain ⟨-, -, -, hsrc, -⟩ := hholds.lastCycle_iff.mp hlast
    exact Bool.false_ne_true (hready.symm.trans hsrc)
  have hupdate := hholds.not_update ((muxInput_sinkValid _).trans hthrough.1) hlast
  simp only [CommandMux.edge, hupdate, Bool.false_eq_true, if_false]
  exact hgrant

end Held

/-! ## A slave that is ready -/

section Ready

variable (hw : Polite w)
include hw

/-- A command that waits at a port is the same in the next cycle. -/
theorem Polite.port_succ (hthrough : (stateAt w k).Through (w k) m s)
    (hready : (stateAt w k).slaveReady (w k) s = false) :
    ((stateAt w (k + 1)).port s).m0Read ((stateAt w (k + 1)).slaveInput (w (k + 1)) s) =
        ((stateAt w k).port s).m0Read ((stateAt w k).slaveInput (w k) s) ∧
      ((stateAt w (k + 1)).port s).m0Write ((stateAt w (k + 1)).slaveInput (w (k + 1)) s) =
        ((stateAt w k).port s).m0Write ((stateAt w k).slaveInput (w k) s) := by
  have hk := pos_of_offers hthrough.1
  have hnext := hw.through_succ hthrough hready
  have hsends := (sendsAt_of_through hthrough).trans hready
  have hsame := (hw.held hthrough.1 hsends).2
  constructor
  · rw [hw.m0Read_eq (Nat.succ_pos k) hnext, hsame, hw.m0Read_eq hk hthrough]
  · rw [hw.m0Write_eq (Nat.succ_pos k) hnext, hsame, hw.m0Write_eq hk hthrough]

theorem Polite.m0Read_succ
    (hread : ((stateAt w k).port s).m0Read ((stateAt w k).slaveInput (w k) s) = true)
    (hready : (stateAt w k).slaveReady (w k) s = false) :
    ((stateAt w (k + 1)).port s).m0Read ((stateAt w (k + 1)).slaveInput (w (k + 1)) s) = true := by
  obtain ⟨m, hthrough⟩ := hw.through_of_m0Read hread
  exact (hw.port_succ hthrough hready).1.trans hread

section OneWait

variable (hwait : s.params.useWaitrequest = false) (hone : s.params.readWaitCycles = 1)
include hwait hone

/-- A port that counts is waiting with a read. -/
theorem Polite.counter_cases (hk : 0 < k) :
    ((stateAt w k).port s).waitLatencyCounter = 0 ∨
      ((stateAt w k).port s).waitLatencyCounter = 1 ∧
        ((stateAt w k).port s).m0Read ((stateAt w k).slaveInput (w k) s) = true := by
  induction k, hk using Nat.le_induction with
  | base =>
      apply Or.inl
      change (SlavePort.edge s.params _ SlavePort.reset).waitLatencyCounter = 0
      simp [SlavePort.edge, SlavePort.reset]
  | succ k hk ih =>
      obtain ⟨owed, hport⟩ := hw.port_holds hk s
      have hcounter := hport.counter_edge hwait hone ih hw.m0_exclusive
      split_ifs at hcounter with hwaits
      · simp only [Bool.and_eq_true, Bool.not_eq_true'] at hwaits
        exact Or.inr ⟨hcounter, hw.m0Read_succ hwaits.1 hwaits.2⟩
      · exact Or.inl hcounter

/-- A command that waits at such a port does not wait again. -/
theorem Polite.slaveReady_succ (hk : 0 < k) (hthrough : (stateAt w k).Through (w k) m s)
    (hready : (stateAt w k).slaveReady (w k) s = false) :
    (stateAt w (k + 1)).slaveReady (w (k + 1)) s = true := by
  obtain ⟨owed, hport⟩ := hw.port_holds hk s
  obtain ⟨owed', hport'⟩ := hw.port_holds (Nat.succ_pos k) s
  have hcommand := hw.m0_of_through hthrough
  have hcounter := hw.counter_cases hwait hone hk
  have hread := hport.m0Read_of_waits hwait hone hcounter hcommand hready
  have hnext := hw.m0_exclusive (hw.m0Read_succ hread hready)
  have hcount : ((stateAt w (k + 1)).port s).waitLatencyCounter = 1 := by
    have hedge := hport.counter_edge hwait hone hcounter hw.m0_exclusive
    rw [if_pos (by rw [hread, Bool.true_and]; exact congrArg not hready)] at hedge
    exact hedge
  rw [slaveReady, hport'.cpReady_of_oneWait hwait hone, hnext, hcount]
  rfl

/-- A read that is accepted at such a port was there in the cycle before. -/
theorem Polite.read_waited (hthrough : (stateAt w k).Through (w k) m s)
    (hready : (stateAt w k).slaveReady (w k) s = true)
    (hread : ((stateAt w k).cpData (w k) m).transRead = true) :
    ∃ j, k = j + 1 ∧ (stateAt w j).Through (w j) m s ∧
      (stateAt w j).slaveReady (w j) s = false ∧
      (stateAt w k).cpData (w k) m = (stateAt w j).cpData (w j) m := by
  have hk := pos_of_offers hthrough.1
  obtain ⟨owed, hport⟩ := hw.port_holds hk s
  have hcount : ((stateAt w k).port s).waitLatencyCounter.toNat = 1 := by
    rw [← hw.m0Read_eq hk hthrough] at hread
    rw [slaveReady, hport.cpReady_of_oneWait hwait hone, hw.m0_exclusive hread] at hready
    simpa using hready
  obtain ⟨j, rfl⟩ := Nat.exists_eq_succ_of_ne_zero (Nat.pos_iff_ne_zero.mp hk)
  rcases Nat.eq_zero_or_pos j with rfl | hj
  · change (SlavePort.edge s.params _ SlavePort.reset).waitLatencyCounter.toNat = 1 at hcount
    simp [SlavePort.edge, SlavePort.reset] at hcount
  · obtain ⟨owed', hport'⟩ := hw.port_holds hj s
    have hedge := hport'.counter_edge hwait hone (hw.counter_cases hwait hone hj)
      hw.m0_exclusive
    change ((stateAt w (j + 1)).port s).waitLatencyCounter = _ at hedge
    rw [hedge] at hcount
    split_ifs at hcount with hwaits
    · simp only [Bool.and_eq_true, Bool.not_eq_true'] at hwaits
      obtain ⟨m', hthrough'⟩ := hw.through_of_m0Read hwaits.1
      obtain rfl := (hw.through_succ hthrough' hwaits.2).unique (hw.cycle (j + 1)).mux hthrough
      have hsends := (sendsAt_of_through hthrough').trans hwaits.2
      exact ⟨j, rfl, hthrough', hwaits.2, (hw.held hthrough'.1 hsends).2⟩
    · cases hcount

end OneWait

/-- A slave is ready for the command at its port in time. -/
theorem Polite.slaveReady_soon (hanswers : Answers b w s k) (hk : 0 < k)
    (hthrough : (stateAt w k).Through (w k) m s) :
    Soon (s.patience b) (fun j => (stateAt w j).slaveReady (w j) s = true) k := by
  rw [Slave.patience]
  cases hwait : s.params.useWaitrequest with
  | true =>
      have hvalid := (commandValid_iff (hw.cycle k).mux).mpr ⟨m, hthrough⟩
      obtain ⟨j, hj, hlow⟩ := hanswers k (Nat.le_refl k) hwait hvalid
      obtain ⟨owed, hport⟩ := hw.port_holds (Nat.add_pos_left hk j) s
      refine ⟨j, hj, ?_⟩
      change ((stateAt w (k + j)).port s).cpReady _ _ = true
      rw [hport.cpReady_of_waitrequest hwait]
      change (!(w (k + j)).waitrequest s) = true
      rw [hlow, Bool.not_false]
  | false =>
      obtain ⟨owed, hport⟩ := hw.port_holds hk s
      by_cases hready : (stateAt w k).slaveReady (w k) s = true
      · exact Soon.now hready
      · rcases s.readWaitCycles_cases hwait with hzero | hone
        · exact absurd (hport.cpReady_of_noWait hwait hzero) hready
        · rw [hone]
          apply Soon.of_succ
          apply Soon.now
          exact hw.slaveReady_succ hwait hone hk hthrough (Bool.eq_false_iff.mpr hready)

end Ready

/-! ## Arbitration -/

section Arbitration

variable {mux : CommandMux} {holder : Option (Fin 2)} {top : Fin 2}

/-- What the multiplexer in front of a slave finds in a cycle. -/
abbrev muxInputAt (w : Nat → InterconnectInput) (s : Slave) (k : Nat) : MuxInput :=
  (stateAt w k).muxInput (w k) s ((stateAt w k).slaveReady (w k) s)

theorem exists_cmdMux (w : Nat → InterconnectInput) (k : Nat) (hshared : s.shared = true) :
    ∃ mux, (stateAt w k).cmdMux s = some mux := by
  rw [← Option.ne_none_iff_exists']
  intro hnone
  rw [cmdMux_eq_none_iff.mp hnone] at hshared
  cases hshared

theorem commandValid_eq (hmux : (stateAt w k).cmdMux s = some mux) :
    (stateAt w k).commandValid (w k) s = mux.srcValid (muxInputAt w s k) := by
  rw [commandValid, hmux]
  rfl

/-- No command locks a multiplexer. -/
theorem locked_eq (w : Nat → InterconnectInput) (k : Nat) (hmux : (stateAt w k).cmdMux s = some mux) :
    mux.locked = 0#2 := by
  cases k with
  | zero =>
      cases s with
      | debugMem | sram =>
          obtain rfl := Option.some.inj hmux
          rfl
      | debug | leds | sseg | buttons | timer | switch | buzzer => cases hmux
  | succ k =>
      rw [stateAt_succ, cmdMux_edge, Option.map_eq_some_iff] at hmux
      obtain ⟨mux, -, rfl⟩ := hmux
      have hlock : CommandMux.lock ((stateAt w k).muxInput (w k) s
          ((stateAt w k).slaveReady (w k) s)) = 0 := by
        have hnone (j : Fin 2) : ((stateAt w k).beat (w k) (Master.ofSink j)).toPayload.transLock =
            false := (isLast_beat (w k) (stateAt w k) (Master.ofSink j)).2
        simp [CommandMux.lock, muxInput, hnone, sinks]
      simp only [CommandMux.edge, hlock]
      exact BitVec.and_zero

variable (hw : Polite w)
include hw

/-- The command at the port of a slave that is ready is the last beat of its packet. -/
theorem Polite.lastCycle_eq (hmux : (stateAt w k).cmdMux s = some mux) :
    mux.lastCycle (muxInputAt w s k) =
      ((stateAt w k).commandValid (w k) s && (stateAt w k).slaveReady (w k) s) := by
  obtain ⟨holder, top, hholds⟩ := (hw.cycle k).mux s mux hmux
  rw [Bool.eq_iff_iff, hholds.lastCycle_iff, Bool.and_eq_true, commandValid_eq hmux,
    hholds.srcValid_iff]
  constructor
  · rintro ⟨j, hj, hsink, hready, -⟩
    exact ⟨⟨j, hj, hsink⟩, hready⟩
  · rintro ⟨⟨j, hj, hsink⟩, hready⟩
    exact ⟨j, hj, hsink, hready, isLast_beat (w k) (stateAt w k) (Master.ofSink j)⟩

/-- A packet in progress is at the port. -/
theorem Polite.commandValid_of_packetInProgress (hmux : (stateAt w k).cmdMux s = some mux)
    (hprogress : mux.packetInProgress = true) : (stateAt w k).commandValid (w k) s = true := by
  induction k generalizing mux with
  | zero =>
      cases s with
      | debugMem | sram =>
          obtain rfl := Option.some.inj hmux
          cases hprogress
      | debug | leds | sseg | buttons | timer | switch | buzzer => cases hmux
  | succ k ih =>
      rw [stateAt_succ, cmdMux_edge, Option.map_eq_some_iff] at hmux
      obtain ⟨mux, hmux, rfl⟩ := hmux
      have hlast := hw.lastCycle_eq hmux
      simp only [CommandMux.edge, hlast, ← commandValid_eq hmux] at hprogress
      have hvalid : (stateAt w k).commandValid (w k) s = true := by
        by_contra hvalid
        simp only [Bool.eq_false_iff.mpr hvalid, Bool.false_and, Bool.false_eq_true, if_false]
          at hprogress
        exact hvalid (ih hmux hprogress)
      have hready : (stateAt w k).slaveReady (w k) s = false := by
        by_contra hready
        simp [hvalid, hready] at hprogress
      obtain ⟨m, hthrough⟩ := (commandValid_iff (hw.cycle k).mux).mp hvalid
      exact (commandValid_iff (hw.cycle (k + 1)).mux).mpr ⟨m, hw.through_succ hthrough hready⟩

/-- The arbitrator decides when there is no command at the port, and when one is taken. -/
theorem Polite.updateGrant_eq (hmux : (stateAt w k).cmdMux s = some mux) :
    mux.updateGrant (muxInputAt w s k) =
      (!(stateAt w k).commandValid (w k) s || (stateAt w k).slaveReady (w k) s) := by
  obtain ⟨holder, top, hholds⟩ := (hw.cycle k).mux s mux hmux
  rw [CommandMux.updateGrant, hw.lastCycle_eq hmux, ← commandValid_eq hmux, hholds.share,
    Bool.and_true]
  cases hvalid : (stateAt w k).commandValid (w k) s with
  | true => simp
  | false =>
      have hprogress : mux.packetInProgress = false := by
        rw [Bool.eq_false_iff]
        intro hprogress
        have hbusy := hw.commandValid_of_packetInProgress hmux hprogress
        exact Bool.false_ne_true (hvalid.symm.trans hbusy)
      simp [hprogress]

/-- The grant goes to a master that has a command, and to the one that does not hold it if
both have. -/
theorem Polite.decides (hmux : (stateAt w k).cmdMux s = some mux)
    (hholds : mux.Holds holder top)
    (hupdate : (!(stateAt w k).commandValid (w k) s || (stateAt w k).slaveReady (w k) s) = true)
    (hoffers : (stateAt w k).offers (w k) m s = true) :
    ∃ g, (stateAt w k).offers (w k) (Master.ofSink g) s = true ∧
      (mux.edge (muxInputAt w s k)).Holds (some g) (g + 1) ∧
      ∀ j, holder = some j → j ≠ m.sink → g = m.sink := by
  have hvalid := (muxInput_sinkValid ((stateAt w k).slaveReady (w k) s)).trans hoffers
  have hrequest := CommandMux.requests_of_valid (m := mux) hvalid
  have hsome : mux.request (muxInputAt w s k) ≠ 0#2 := by
    intro hzero
    simp [Arbitrator.Requests, hzero] at hrequest
  obtain ⟨g, hfirst⟩ := Arbitrator.exists_isFirst hsome top
  refine ⟨g, ?_, hholds.edge_of_isFirst ((hw.updateGrant_eq hmux).trans hupdate) hfirst, ?_⟩
  · have hg := hfirst.1
    rw [Arbitrator.Requests, CommandMux.request, locked_eq w k hmux, BitVec.or_zero,
      CommandMux.valid, CommandMux.getLsbD_sinks] at hg
    exact hg
  · rintro j rfl hj
    exact hholds.first_of_other hj hvalid hfirst

/-- The command of the master that the grant goes to is at the port. -/
theorem Polite.through_of_grant {g : Fin 2} (hmux : (stateAt w k).cmdMux s = some mux)
    (hgrant : (mux.edge (muxInputAt w s k)).Holds (some g) top)
    (hoffers : (stateAt w k).offers (w k) (Master.ofSink g) s = true)
    (hsends : sendsAt w (Master.ofSink g) k = false) :
    (stateAt w (k + 1)).Through (w (k + 1)) (Master.ofSink g) s := by
  refine ⟨(hw.held hoffers hsends).1, fun mux' hmux' => ?_⟩
  rw [stateAt_succ, cmdMux_edge, hmux] at hmux'
  obtain rfl := Option.some.inj hmux'
  rw [hgrant.getLsbD_grant, Master.sink_ofSink]
  exact decide_eq_true rfl

/-- A master whose command waits while the other one holds the grant comes next. -/
theorem Polite.through_succ_of_other {j : Fin 2} (hmux : (stateAt w k).cmdMux s = some mux)
    (hholds : mux.Holds (some j) top) (hj : j ≠ m.sink)
    (hupdate : (!(stateAt w k).commandValid (w k) s || (stateAt w k).slaveReady (w k) s) = true)
    (hoffers : (stateAt w k).offers (w k) m s = true) :
    (stateAt w (k + 1)).Through (w (k + 1)) m s := by
  obtain ⟨g, hg, hgrant, hother⟩ := hw.decides hmux hholds hupdate hoffers
  obtain rfl := hother j rfl hj
  have hsends : sendsAt w m k = false := by
    rw [Bool.eq_false_iff]
    intro hsends
    obtain ⟨s', hthrough, -⟩ := sends_iff.mp hsends
    obtain rfl := offers_unique hthrough.1 hoffers
    have hholder := hthrough.2 mux hmux
    rw [hholds.getLsbD_grant, decide_eq_true_eq] at hholder
    exact hj (Option.some.inj hholder)
  rw [← Master.ofSink_sink m] at hsends ⊢
  exact hw.through_of_grant hmux hgrant hg hsends

theorem Polite.through_soon_of_other {j : Fin 2} (hanswers : Answers b w s k) (hk : 0 < k)
    (hshared : s.shared = true) (hmux : (stateAt w k).cmdMux s = some mux)
    (hholds : mux.Holds (some j) top) (hj : j ≠ m.sink)
    (hoffers : (stateAt w k).offers (w k) m s = true) :
    Soon (s.patience b + 1) (fun j => (stateAt w j).Through (w j) m s) k := by
  cases hvalid : (stateAt w k).commandValid (w k) s with
  | false =>
      have hnext := hw.through_succ_of_other hmux hholds hj (by rw [hvalid]; rfl) hoffers
      exact (Soon.of_succ (Soon.now hnext)).mono (Nat.le_add_left 1 _)
  | true =>
      obtain ⟨m', hthrough⟩ := (commandValid_iff (hw.cycle k).mux).mp hvalid
      have hother : m ≠ m' := by
        rintro rfl
        have hholder := hthrough.2 mux hmux
        rw [hholds.getLsbD_grant, decide_eq_true_eq] at hholder
        exact hj (Option.some.inj hholder)
      have hready := (hw.slaveReady_soon hanswers hk hthrough).held
        (P := fun j => (stateAt w j).Through (w j) m' s ∧ (stateAt w j).offers (w j) m s = true)
        ⟨hthrough, hoffers⟩ (by
          rintro j - ⟨hthrough, hoffers⟩ hready
          have hsends := hw.not_sends_of_other hthrough hoffers hother
          exact ⟨hw.through_succ hthrough (Bool.eq_false_iff.mpr hready), (hw.held hoffers hsends).1⟩)
      apply hready.trans
      rintro j - ⟨⟨hthrough, hoffers⟩, hready⟩
      obtain ⟨mux, hmux⟩ := exists_cmdMux w j hshared
      obtain ⟨holder, top, hholds⟩ := (hw.cycle j).mux s mux hmux
      have hholder := hthrough.2 mux hmux
      rw [hholds.getLsbD_grant, decide_eq_true_eq] at hholder
      subst hholder
      have hsink : m'.sink ≠ m.sink := by
        intro hsink
        rw [← Master.ofSink_sink m, ← hsink, Master.ofSink_sink] at hother
        exact hother rfl
      apply Soon.of_succ
      apply Soon.now
      exact hw.through_succ_of_other hmux hholds hsink (by rw [hready, Bool.or_true]) hoffers

/-- The command of a master gets to the port of a shared slave in time. -/
theorem Polite.through_soon (hanswers : Answers b w s k) (hk : 0 < k) (hshared : s.shared = true)
    (hoffers : (stateAt w k).offers (w k) m s = true) :
    Soon (s.patience b + 2) (fun j => (stateAt w j).Through (w j) m s) k := by
  obtain ⟨mux, hmux⟩ := exists_cmdMux w k hshared
  obtain ⟨holder, top, hholds⟩ := (hw.cycle k).mux s mux hmux
  cases holder with
  | some j =>
      by_cases hj : j = m.sink
      · subst hj
        refine Soon.now ⟨hoffers, fun mux' hmux' => ?_⟩
        obtain rfl := Option.some.inj (hmux.symm.trans hmux')
        rw [hholds.getLsbD_grant]
        exact decide_eq_true rfl
      · exact (hw.through_soon_of_other hanswers hk hshared hmux hholds hj hoffers).mono
          (Nat.le_succ _)
  | none =>
      have hvalid : (stateAt w k).commandValid (w k) s = false := by
        rw [Bool.eq_false_iff]
        intro hvalid
        rw [commandValid_eq hmux, hholds.srcValid_iff] at hvalid
        obtain ⟨j, hj, -⟩ := hvalid
        cases hj
      have hsends {m : Master} (hoffers : (stateAt w k).offers (w k) m s = true) :
          sendsAt w m k = false := by
        rw [Bool.eq_false_iff]
        intro hsends
        obtain ⟨s', hthrough, -⟩ := sends_iff.mp hsends
        obtain rfl := offers_unique hthrough.1 hoffers
        have hbusy := (commandValid_iff (hw.cycle k).mux).mpr ⟨m, hthrough⟩
        exact Bool.false_ne_true (hvalid.symm.trans hbusy)
      obtain ⟨g, hg, hgrant, -⟩ := hw.decides hmux hholds (by rw [hvalid]; rfl) hoffers
      apply Soon.of_succ
      by_cases hm : g = m.sink
      · have hthrough := hw.through_of_grant hmux hgrant hg (hsends hg)
        rw [hm, Master.ofSink_sink] at hthrough
        exact Soon.now hthrough
      · have hnext : (stateAt w (k + 1)).cmdMux s = some (mux.edge (muxInputAt w s k)) := by
          rw [stateAt_succ, cmdMux_edge, hmux]
          rfl
        exact hw.through_soon_of_other (hanswers.later (Nat.le_succ k)) (Nat.succ_pos k) hshared
          hnext hgrant hm (hw.held hoffers (hsends hoffers)).1

end Arbitration

/-! ## The latency of an access -/

section Latency

/-- The slave that the access of a master is routed to. -/
def Addresses (m : Master) (c : AvalonCommand) (s : Slave) : Prop :=
  m.reaches (c.address.extractLsb' 2 12 ++ 0#2) c.read s = true

section Done

variable (hw : Polite w)
include hw

theorem Polite.sends_soon_of_through (hanswers : Answers b w s k) (hk : 0 < k)
    (hthrough : (stateAt w k).Through (w k) m s) :
    Soon (s.patience b) (fun j => sendsAt w m j = true) k := by
  have hready := (hw.slaveReady_soon hanswers hk hthrough).held
    (P := fun j => (stateAt w j).Through (w j) m s) hthrough
    fun j _ hthrough hready => hw.through_succ hthrough (Bool.eq_false_iff.mpr hready)
  apply hready.imp
  rintro j - ⟨hthrough, hready⟩
  exact (sendsAt_of_through hthrough).trans hready

/-- The command of an access is sent in time. -/
theorem Polite.sends_soon (hanswers : Answers b w s k) (hk : 0 < k)
    (hoffers : (stateAt w k).offers (w k) m s = true) :
    Soon (s.latency b - 1) (fun j => sendsAt w m j = true) k := by
  rw [Slave.latency]
  cases hshared : s.shared with
  | true =>
      apply ((hw.through_soon hanswers hk hshared hoffers).trans fun j hkj hthrough =>
        hw.sends_soon_of_through (hanswers.later hkj) (Nat.lt_of_lt_of_le hk hkj) hthrough).mono
      simp only [if_true]
      omega
  | false =>
      refine hw.sends_soon_of_through hanswers hk ⟨hoffers, fun mux hmux => ?_⟩
      rw [cmdMux_eq_none_iff.mpr hshared] at hmux
      cases hmux

/-- An access whose command is sent is done in this cycle or in the next one. -/
theorem Polite.completes_soon (hsends : sendsAt w m k = true) :
    Soon 1 (fun j => completesAt w m j = true) k := by
  cases hdone : completesAt w m k with
  | true => exact Soon.now hdone
  | false =>
      have hpending := hw.pendingAt_succ m k
      rw [hsends, hdone] at hpending
      apply Soon.of_succ
      apply Soon.now
      exact MasterPort.Serves.completes_of_pending (i := masterInputAt w m (k + 1))
        ((hw.cycle (k + 1)).serves m) ((hw.cycle (k + 1)).response m) hpending

end Done

/-- Every access is done in time, whatever the other master does. -/
theorem Polite.completes_of_active (hw : Polite w) (hanswers : Answers b w s k) (hk : 0 < k)
    (hactive : MasterPort.active m ((w k).av m) = true) (hs : Addresses m ((w k).av m) s) :
    Soon (s.latency b) (fun j => completesAt w m j = true) k := by
  cases hpending : ((stateAt w k).master m).pending with
  | true =>
      exact Soon.now (MasterPort.Serves.completes_of_pending (i := masterInputAt w m k)
        ((hw.cycle k).serves m) ((hw.cycle k).response m) hpending)
  | false =>
      obtain ⟨k, rfl⟩ := Nat.exists_eq_succ_of_ne_zero (Nat.pos_iff_ne_zero.mp hk)
      have hoffers : (stateAt w (k + 1)).offers (w (k + 1)) m s = true := by
        rw [offers, MasterPort.cpValid_of_not_pending hpending (holdWaitrequest_succ w m k), hactive,
          Bool.true_and, cpData, MasterPort.cpData_of_not_pending hpending]
        rw [Addresses] at hs
        simpa [MasterPort.cpData, MasterPort.uavRead, MasterPort.reset] using hs
      have hsum := (hw.sends_soon hanswers hk hoffers).trans fun j _ hsends =>
        hw.completes_soon hsends
      apply hsum.mono
      rw [Slave.latency]
      split_ifs
      · exact Nat.le_refl _
      · exact Nat.le_refl _

end Latency

end Interconnect

end RelojDespertador
