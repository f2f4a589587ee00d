import RelojDespertador.Final2.Firmware
import RelojDespertador.Final2.Spec

/-!
# The Final2 firmware refines its abstract machine

Each kind of round has a closed form on the states the relation allows: a
set-mode round, a run-mode round and a round of the handler. From them the
relation is kept by every round, and the trace of a round is the one the
abstract machine prescribes.
-/

namespace RelojDespertador.Final2

open Panel

/-- `main` has control: no alarm is active and everything is dark and silent. -/
structure Idle (s : State) : Prop where
  pc : s.pc = .mainLoop
  alarmaActiva : s.alarmaActiva = false
  leds : s.leds = 0
  buzzer : s.buzzer = 0
  periodl : s.periodl = 61568
  periodh : s.periodh = 762

/-- The handler has control, with guard cycles to spare for the rest of the alarm. -/
structure Sounding (s : State) (a : Spec) : Prop where
  pc : s.pc = .buzzerLoop a.buttons
  alarmaActiva : s.alarmaActiva = true
  leds : s.leds = 1023
  periodl : s.periodl = 7183
  periodh : s.periodh = 0
  cycles_le : s.buzzerPwmCycles.toNat ≤ 69
  cycles_ge : 69 ≤ s.buzzerPwmCycles.toNat + a.elapsed / 7183

/-- The firmware state `s` is one of the abstract state `a`. -/
structure Refines (s : State) (a : Spec) : Prop where
  shows : s.toPanel.Shows a.clock
  buttons : s.prevButtonsState = a.buttons
  seconds : s.segundosAlarmaActiva.toNat = a.elapsed / 7183
  counter : s.buzzerPwmCounter.toNat = a.elapsed % 7183
  level : s.buzzerState = a.level
  control : if a.sounding then Sounding s a else Idle s

theorem Refines.idle {s : State} {a : Spec} (h : Refines s a) (hs : a.sounding = false) :
    Idle s := by
  simpa [hs] using h.control

theorem Refines.sounding {s : State} {a : Spec} (h : Refines s a) (hs : a.sounding = true) :
    Sounding s a := by
  simpa [hs] using h.control

/-- The panel before the first round. -/
theorem start_panel (buttons : U32) : (start buttons).toPanel =
    showing { initTimer Panel.reset with prevButtonsState := buttons } AlarmClock.initial.time
      (timeTrace AlarmClock.initial.time) :=
  updateAll_eq { initTimer Panel.reset with prevButtonsState := buttons }
    AlarmClock.initial.time rfl

theorem start_trace (buttons : U32) :
    (start buttons).trace = programTrace 61568 762 ++ timeTrace AlarmClock.initial.time := by
  rw [start_panel]
  rfl

/-- Before the first round. -/
theorem start_refines (buttons : U32) : Refines (start buttons) (Spec.start buttons) := by
  have hpanel := start_panel buttons
  have hseconds : (0 : U8).toNat = ((0 : Fin 215490) : Nat) / 7183 := by decide
  refine ⟨⟨?_, ?_, ?_⟩, ?_, hseconds, rfl, rfl, ⟨rfl, rfl, ?_, rfl, ?_, ?_⟩⟩
  all_goals
    rw [hpanel]
    rfl

/-- The state at the top of a round: a fresh trace. -/
def freshTrace (s : State) : State := s.onPanel ({ · with trace := [] })

theorem step_main {s : State} (h : s.pc = .mainLoop) (i : Sample) :
    step i s = mainRound i (freshTrace s) := by
  have hpc : (s.onPanel ({ · with trace := [] })).pc = .mainLoop := h
  simp only [step, hpc, freshTrace]

theorem step_buzzer {s : State} {prev : U32} (h : s.pc = .buzzerLoop prev) (i : Sample) :
    step i s = buzzerRound prev i (freshTrace s) := by
  have hpc : (s.onPanel ({ · with trace := [] })).pc = .buzzerLoop prev := h
  simp only [step, hpc, freshTrace]

/-- With the clock stopped no alarm fires. -/
theorem fireAlarm_stopped {s : State} (h : s.counting = false) : fireAlarm s = s := by
  simp [fireAlarm, h]

/-- A round of `main` that leaves no alarm active ends at the loop head. -/
theorem mainRound_quiet {s s' : State} {i : Sample}
    (h : fireAlarm (s.onAlarm (·.loopBody i)) = s') (hq : s'.alarmaActiva = false) :
    mainRound i s = s' := by
  simp [mainRound, h, hq]

/-- A round of `main` that leaves the alarm active calls the handler. -/
theorem mainRound_active {s s' : State} {i : Sample}
    (h : fireAlarm (s.onAlarm (·.loopBody i)) = s') (hq : s'.alarmaActiva = true) :
    mainRound i s = enterBuzzer s'.prevButtonsState s' := by
  simp [mainRound, h, hq]

section Rounds

variable {s : State} {a : Spec} {i : Sample}

/-- The panel after a set-mode round. -/
def setPanel (i : Sample) (a : Spec) (p : Panel) : Panel :=
  showing { p with
      prevButtonsState := i.buttons
      alarma := Hora.ofAlarm (a.clock.press (rising a.buttons i.buttons)).alarm
      counting := false
      trace := [] }
    (a.clock.press (rising a.buttons i.buttons)).time
    (setTrace (rising a.buttons i.buttons) a.clock.time)

/-- A set-mode round presses buttons and does nothing else. -/
theorem step_set (h : Refines s a) (hs : a.sounding = false) (hi : i.switchOn = false) :
    step i s = s.onPanel (setPanel i a) := by
  have hidle := h.idle hs
  have hset := setMode_off hi
    (p := (freshTrace s).toPanel) ⟨h.shows.hora, h.shows.alarma, h.shows.display⟩
  rw [show (freshTrace s).prevButtonsState = a.buttons from h.buttons] at hset
  have hbody : (freshTrace s).onAlarm (·.loopBody i) = s.onPanel (setPanel i a) := by
    rw [State.onAlarm, AlarmPanel.loopBody_off hi,
      AlarmPanel.countActive_inactive (by exact hidle.alarmaActiva), AlarmPanel.onPanel, hset]
    rfl
  rw [step_main hidle.pc]
  refine mainRound_quiet ?_ hidle.alarmaActiva
  rw [hbody]
  exact fireAlarm_stopped rfl

/-- The panel after the clock code of a run-mode round. -/
def runPanel (a : Spec) (p : Panel) : Panel :=
  showing { p with counting := true, trace := [] } a.clock.tick.time
    (waitTrace 50000001 ++ .tick :: timeTrace a.clock.tick.time)

/-- A run-mode round counts a second, and fires the alarm when that is its time. -/
theorem step_run (h : Refines s a) (hs : a.sounding = false) (hi : i.switchOn = true) :
    step i s =
      if a.clock.tick.AtAlarm then
        enterBuzzer s.prevButtonsState
          (((s.onPanel (runPanel a)).onAlarm ({ · with alarmaActiva := true })).onPanel
            (·.writeLeds 1023))
      else s.onPanel (runPanel a) := by
  have hidle := h.idle hs
  have hbody : (freshTrace s).onAlarm (·.loopBody i) = s.onPanel (runPanel a) := by
    have hdark : (freshTrace s).readLeds = 0 := by
      rw [readLeds, show (freshTrace s).leds = 0 from hidle.leds]
      rfl
    have hkeep (p : Panel) : p.dismissLeds i 0 = p := by simp [dismissLeds]
    rw [State.onAlarm, AlarmPanel.loopBody_on hi,
      AlarmPanel.countActive_inactive (by exact hidle.alarmaActiva), hdark]
    simp only [hkeep, AlarmPanel.onPanel]
    rw [waitForTimer_countSecond (t := a.clock.time) (by exact h.shows.hora)]
    have hexpiry : s.expiry = 50000001 := by
      rw [expiry, hidle.periodl, hidle.periodh]
      rfl
    have hpanel : runPanel a s.toPanel =
        showing { s.toPanel with counting := true, trace := [] } a.clock.tick.time
          (waitTrace s.expiry ++ .tick :: timeTrace a.clock.tick.time) := by
      rw [hexpiry, runPanel]
    rw [State.onPanel, State.onAlarm, AlarmPanel.onPanel, hpanel]
    rfl
  have hshows : Shows (runPanel a s.toPanel) a.clock.tick := ⟨rfl, h.shows.alarma, rfl⟩
  have hmatch : (s.onPanel (runPanel a)).alarmMatches = decide a.clock.tick.AtAlarm :=
    hshows.alarmMatches
  rw [step_main hidle.pc]
  split_ifs with hat
  · refine mainRound_active ?_ rfl
    rw [hbody, fireAlarm, if_pos]
    rw [hmatch, decide_eq_true hat]
    rfl
  · refine mainRound_quiet ?_ hidle.alarmaActiva
    rw [hbody, fireAlarm, if_neg]
    rw [hmatch, decide_eq_false hat]
    exact Bool.false_ne_true

/-- Entering the handler sets its half period and 69 guard cycles. -/
theorem enterBuzzer_eq (prev : U32) (s : State) :
    enterBuzzer prev s =
      { s.onPanel fun p => { p with
          periodl := 7183
          periodh := 0
          trace := p.trace ++ .enterBuzzer :: programTrace 7183 0 } with
        buzzerPwmCycles := 69
        pc := .buzzerLoop prev } := by
  have hguard : (1000 * 1000) / (2 * buzzerPwmHalfPeriod) = (69 : U32) := by decide
  rw [enterBuzzer, hguard, buzzerGuard, if_pos (by simp)]
  simp only [State.onPanel, State.onAlarm, AlarmPanel.onPanel, log, programTimer_eq,
    List.append_assoc, List.singleton_append]
  rfl

/-- Leaving the handler programs the period of a second again. -/
theorem leaveBuzzer_eq (exit : BuzzerExit) (s : State) :
    leaveBuzzer exit s =
      { s.onAlarm fun p => { p with
          periodl := 61568
          periodh := 762
          alarmaActiva := false
          trace := p.trace ++
            .leaveBuzzer exit :: .timer .control 0 :: programTrace 61568 762 } with
        pc := .mainLoop } := by
  simp only [leaveBuzzer, State.onPanel, State.onAlarm, AlarmPanel.onPanel, initTimer,
    programTimer_eq, log, writeTimer, List.append_assoc, List.singleton_append]
  rfl

/-- The counter of half periods reaches its limit when a second is done. -/
theorem halfPeriod_le_iff (h : Refines s a) :
    buzzerPwmHalfPeriod ≤ s.buzzerPwmCounter + 1 ↔ a.secondDone := by
  have hcounter := h.counter
  have hhalf : buzzerPwmHalfPeriod.toNat = 7183 := by decide
  rw [BitVec.le_def, Word.toNat_succ (by omega), hhalf, hcounter, Spec.secondDone]
  omega

/-- The panel after a handler round has counted its half period. -/
def soundPanel (a : Spec) (p : Panel) : Panel :=
  showing { p with trace := [] } a.soundingClock.time
    (waitTrace 7184 ++ [.buzzer (if a.level then 0 else 1)] ++
      if a.secondDone then .tick :: timeTrace a.clock.time.tick else [])

/-- The state after a handler round has counted its half period. -/
def soundState (a : Spec) (s : State) : State :=
  { (s.onPanel (soundPanel a)).onAlarm ({ · with
      segundosAlarmaActiva := BitVec.ofNat 8 ((a.elapsed + 1) / 7183) }) with
    buzzerState := !a.level
    buzzer := if a.level then 0 else 1
    buzzerPwmCounter := BitVec.ofNat 32 ((a.elapsed + 1) % 7183)
    buzzerPwmCycles := if a.secondDone then s.buzzerPwmCycles - 1 else s.buzzerPwmCycles }

theorem countHalfPeriod_done {s : State} (h : buzzerPwmHalfPeriod ≤ s.buzzerPwmCounter + 1) :
    countHalfPeriod s =
      (State.onAlarm
        (fun a => { a with segundosAlarmaActiva := a.segundosAlarmaActiva + 1 })
        { s with buzzerPwmCounter := 0, buzzerPwmCycles := s.buzzerPwmCycles - 1 }).onPanel
          (·.countSecond) :=
  if_pos h

theorem countHalfPeriod_more {s : State} (h : ¬ buzzerPwmHalfPeriod ≤ s.buzzerPwmCounter + 1) :
    countHalfPeriod s = { s with buzzerPwmCounter := s.buzzerPwmCounter + 1 } :=
  if_neg h

theorem countHalfPeriod_eq (h : Refines s a) (hs : a.sounding = true) :
    countHalfPeriod (toggleBuzzer ((freshTrace s).onPanel (·.waitForTimer))) = soundState a s := by
  have hsound := h.sounding hs
  have hlt := a.elapsed.isLt
  have hexpiry : (freshTrace s).expiry = 7184 := by
    rw [expiry, show (freshTrace s).periodl = 7183 from hsound.periodl,
      show (freshTrace s).periodh = 0 from hsound.periodh]
    rfl
  have htoggle : toggleBuzzer ((freshTrace s).onPanel (·.waitForTimer)) =
      { s.onPanel ({ · with trace := waitTrace 7184 ++ [.buzzer (if a.level then 0 else 1)] }) with
        buzzerState := !a.level
        buzzer := if a.level then 0 else 1 } := by
    have hlevel : (freshTrace s).buzzerState = a.level := h.level
    simp only [toggleBuzzer, State.writeBuzzer, State.onPanel, State.onAlarm, AlarmPanel.onPanel,
      waitForTimer_eq, hexpiry, hlevel, log]
    cases a.level <;> rfl
  rw [htoggle]
  by_cases hdone : a.secondDone
  · have hzero : (a.elapsed + 1 : Nat) % 7183 = 0 := hdone
    have hsecond : s.segundosAlarmaActiva + 1 = BitVec.ofNat 8 ((a.elapsed + 1) / 7183) := by
      have hseconds := h.seconds
      apply (Word.eq_ofNat_iff (by omega)).mpr
      rw [Word.toNat_succ (by omega), hseconds]
      omega
    rw [countHalfPeriod_done (by exact (halfPeriod_le_iff h).mpr hdone)]
    simp only [State.onPanel, State.onAlarm, AlarmPanel.onPanel]
    rw [countSecond_eq _ a.clock.time (by exact h.shows.hora)]
    simp only [soundState, soundPanel, Spec.soundingClock, hdone, hzero, ← hsecond, showing,
      State.onPanel, State.onAlarm, AlarmPanel.onPanel]
    rfl
  · have hcount : s.buzzerPwmCounter + 1 = BitVec.ofNat 32 ((a.elapsed + 1) % 7183) := by
      have hcounter := h.counter
      simp only [Spec.secondDone] at hdone
      apply (Word.eq_ofNat_iff (by omega)).mpr
      rw [Word.toNat_succ (by omega), hcounter]
      omega
    have hsecond : s.segundosAlarmaActiva = BitVec.ofNat 8 ((a.elapsed + 1) / 7183) := by
      simp only [Spec.secondDone] at hdone
      apply (Word.eq_ofNat_iff (by omega)).mpr
      rw [h.seconds]
      omega
    rw [countHalfPeriod_more (by exact fun hle => hdone ((halfPeriod_le_iff h).mp hle))]
    simp only [soundState, soundPanel, Spec.soundingClock, hdone, ← hsecond, ← hcount, showing,
      State.onPanel, State.onAlarm, AlarmPanel.onPanel]
    simp [h.shows.hora, h.shows.display]

theorem toNat_soundState_seconds (a : Spec) (s : State) :
    (soundState a s).segundosAlarmaActiva.toNat = (a.elapsed + 1) / 7183 := by
  have hlt := a.elapsed.isLt
  apply Word.toNat_ofNat
  omega

theorem toNat_soundState_counter (a : Spec) (s : State) :
    (soundState a s).buzzerPwmCounter.toNat = (a.elapsed + 1) % 7183 := by
  apply Word.toNat_ofNat
  omega

/-- The seconds of the alarm reach 30 with its last half period. -/
theorem soundState_timeout_iff (a : Spec) (s : State) :
    (soundState a s).segundosAlarmaActiva = 30 ↔ a.elapsed.val + 1 = 215490 := by
  have hlt := a.elapsed.isLt
  rw [← BitVec.toNat_inj, toNat_soundState_seconds]
  change _ = 30 ↔ _
  omega

/-- The guard cycles fall by one for each second of the alarm, from 69. -/
theorem soundState_cycles (h : Refines s a) (hs : a.sounding = true) :
    (soundState a s).buzzerPwmCycles.toNat ≤ 69 ∧
      69 ≤ (soundState a s).buzzerPwmCycles.toNat + (a.elapsed + 1) / 7183 := by
  have hge := (h.sounding hs).cycles_ge
  have hle := (h.sounding hs).cycles_le
  have hlt := a.elapsed.isLt
  change (if a.secondDone then s.buzzerPwmCycles - 1 else s.buzzerPwmCycles).toNat ≤ 69 ∧
    69 ≤ (if a.secondDone then s.buzzerPwmCycles - 1 else s.buzzerPwmCycles).toNat + _
  split_ifs with hdone
  · simp only [Spec.secondDone] at hdone
    have hsub : (s.buzzerPwmCycles - 1).toNat = s.buzzerPwmCycles.toNat - 1 :=
      Word.toNat_pred (by omega)
    omega
  · omega

/-- A handler round counts its half period and then leaves by one of the two
`break`s or stays: the guard cycles never run out. -/
theorem step_sound (h : Refines s a) (hs : a.sounding = true) :
    step i s =
      if a.elapsed.val + 1 = 215490 then
        leaveBuzzer .timeout
          ((silence (soundState a s)).onAlarm ({ · with segundosAlarmaActiva := 0 }))
      else if a.dismisses i then leaveBuzzer .button (silence (soundState a s))
      else { soundState a s with pc := .buzzerLoop a.buttons } := by
  have hsound := h.sounding hs
  have hlit : (freshTrace s).readLeds = 1023 := by
    rw [readLeds, show (freshTrace s).leds = 1023 from hsound.leds]
    rfl
  have hguard (hlast : a.elapsed.val + 1 ≠ 215490) : (soundState a s).buzzerPwmCycles > 0 := by
    have hlt := a.elapsed.isLt
    have hcycles := (soundState_cycles h hs).2
    have hpos : 0 < (soundState a s).buzzerPwmCycles.toNat := by omega
    exact hpos
  rw [step_buzzer hsound.pc, buzzerRound, countHalfPeriod_eq h hs, hlit]
  simp only [soundState_timeout_iff]
  by_cases hlast : a.elapsed.val + 1 = 215490
  · rw [if_pos hlast, if_pos hlast]
  · have hbutton : (i.buttons != a.buttons && i.switchOn && (1023 : U32) == 1023) =
        a.dismisses i := by simp [Spec.dismisses]
    rw [if_neg hlast, if_neg hlast, hbutton, buzzerGuard, if_pos (hguard hlast)]

/-- One round keeps the firmware and the abstract machine together. -/
theorem step_refines (i : Sample) (h : Refines s a) : Refines (step i s) (a.step i) := by
  cases hs : a.sounding with
  | false =>
      have hidle := h.idle hs
      cases hi : i.switchOn with
      | false =>
          rw [step_set h hs hi]
          simp only [Spec.step, hs, hi]
          exact ⟨⟨rfl, rfl, rfl⟩, rfl, h.seconds, h.counter, h.level,
            ⟨hidle.pc, hidle.alarmaActiva, hidle.leds, hidle.buzzer, hidle.periodl, hidle.periodh⟩⟩
      | true =>
          rw [step_run h hs hi]
          have hshows : Shows (runPanel a s.toPanel) a.clock.tick := ⟨rfl, h.shows.alarma, rfl⟩
          simp only [Spec.step, hs, hi, if_true, if_false, Bool.false_eq_true]
          by_cases hat : a.clock.tick.AtAlarm
          · rw [if_pos hat, enterBuzzer_eq]
            refine ⟨⟨rfl, h.shows.alarma, rfl⟩, h.buttons, h.seconds, h.counter, h.level, ?_⟩
            rw [decide_eq_true hat]
            have hcycles : 69 ≤ (69 : U32).toNat + a.elapsed / 7183 := Nat.le_add_right _ _
            exact ⟨congrArg Pc.buzzerLoop h.buttons, rfl, rfl, rfl, rfl, le_rfl, hcycles⟩
          · rw [if_neg hat]
            refine ⟨hshows, h.buttons, h.seconds, h.counter, h.level, ?_⟩
            rw [decide_eq_false hat]
            exact ⟨hidle.pc, hidle.alarmaActiva, hidle.leds, hidle.buzzer, hidle.periodl,
              hidle.periodh⟩
  | true =>
      have hsound := h.sounding hs
      have hlt := a.elapsed.isLt
      have halarm : s.alarma = Hora.ofAlarm a.soundingClock.alarm := by
        rw [a.soundingClock_alarm]
        exact h.shows.alarma
      rw [step_sound h hs]
      simp only [Spec.step, hs, if_true]
      by_cases hlast : a.elapsed.val + 1 = 215490
      · rw [if_pos hlast, dif_neg (by omega), leaveBuzzer_eq]
        have hcounter : (soundState a s).buzzerPwmCounter.toNat = 0 := by
          rw [toNat_soundState_counter, hlast]
        have hseconds : (0 : U8).toNat = ((0 : Fin 215490) : Nat) / 7183 := by decide
        exact ⟨⟨rfl, halarm, rfl⟩, h.buttons, hseconds, hcounter, rfl,
          ⟨rfl, rfl, rfl, rfl, rfl, rfl⟩⟩
      · have hseconds := toNat_soundState_seconds a s
        have hcounter := toNat_soundState_counter a s
        rw [if_neg hlast, dif_pos (by omega)]
        cases hdis : a.dismisses i with
        | true =>
            rw [if_pos rfl, leaveBuzzer_eq]
            exact ⟨⟨rfl, halarm, rfl⟩, h.buttons, hseconds, hcounter, rfl,
              ⟨rfl, rfl, rfl, rfl, rfl, rfl⟩⟩
        | false =>
            rw [if_neg Bool.false_ne_true]
            obtain ⟨hle, hge⟩ := soundState_cycles h hs
            exact ⟨⟨rfl, halarm, rfl⟩, h.buttons, hseconds, hcounter, rfl,
              ⟨rfl, hsound.alarmaActiva, hsound.leds, hsound.periodl, hsound.periodh, hle, hge⟩⟩

/-- The trace of a round is the one the abstract machine prescribes. -/
theorem step_trace (i : Sample) (h : Refines s a) : (step i s).trace = a.trace i := by
  cases hs : a.sounding with
  | false =>
      cases hi : i.switchOn with
      | false =>
          rw [step_set h hs hi]
          simp [Spec.trace, hs, hi, setPanel, showing]
      | true =>
          rw [step_run h hs hi]
          simp only [Spec.trace, hs, hi, if_true, if_false, Bool.false_eq_true]
          by_cases hat : a.clock.tick.AtAlarm
          · rw [if_pos hat, if_pos hat, enterBuzzer_eq]
            simp [runPanel, showing, writeLeds, Spec.enterTrace]
          · rw [if_neg hat, if_neg hat]
            simp [runPanel, showing]
  | true =>
      rw [step_sound h hs]
      simp only [Spec.trace, hs, if_true]
      by_cases hlast : a.elapsed.val + 1 = 215490
      · rw [if_pos hlast, if_pos hlast, leaveBuzzer_eq]
        simp [soundState, soundPanel, showing, silence, State.writeBuzzer, log, writeLeds,
          Spec.leaveTrace]
      · rw [if_neg hlast, if_neg hlast]
        cases hdis : a.dismisses i with
        | true =>
            rw [if_pos rfl, if_pos rfl, leaveBuzzer_eq]
            simp [soundState, soundPanel, showing, silence, State.writeBuzzer, log, writeLeds,
              Spec.leaveTrace]
        | false =>
            rw [if_neg Bool.false_ne_true, if_neg Bool.false_ne_true]
            simp [soundState, soundPanel, showing]

end Rounds

end RelojDespertador.Final2
