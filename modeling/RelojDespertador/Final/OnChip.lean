import RelojDespertador.Final.Tone
import RelojDespertador.Panel.OnChip

/-!
# The Final firmware on the chip

It writes the digits to the displays as numbers, but the registers drive the
segments directly. A zero lights up as an 8, a two as a 6, and no other digit is
legible: the displays never show the time of the program.
-/

namespace RelojDespertador.Final

open EventLog

/-! ## The code accounts for the pins -/

namespace State

/-- Trace and pins of a state. -/
def view : View State Event Pins where
  log s := s.trace
  output s := ⟨s.leds, s.buzzer, s.display⟩
  act := Pins.act

variable (s : State)

theorem accounts_log {e : Event} (h : ∀ o : Pins, o.act e = o) : Accounts view s (s.log e) :=
  .event rfl (h _).symm

theorem accounts_writeLeds (value : U32) : Accounts view s (s.writeLeds value) :=
  .event (e := .leds value) rfl rfl

theorem accounts_writeBuzzer (value : U32) : Accounts view s (s.writeBuzzer value) :=
  .event (e := .buzzer value) rfl rfl

theorem accounts_writeSseg (base : SsegBase) (value : Int) :
    Accounts view s (s.writeSseg base value) :=
  .event (e := .sseg base (BitVec.ofInt 32 value)) rfl rfl

theorem accounts_writeTimer (register : TimerRegister) (value : U32) :
    Accounts view s (s.writeTimer register value) := by
  refine .event (e := .timer register (value.setWidth 16)) ?_ ?_
  · cases register <;> rfl
  · cases register <;> rfl

theorem accounts_programTimer (low high : U32) : Accounts view s (s.programTimer low high) :=
  (accounts_writeTimer s .control 0x00).trans
    ((accounts_writeTimer _ .periodl low).trans
      ((accounts_writeTimer _ .periodh high).trans (accounts_writeTimer _ .control 0x07)))

theorem accounts_pollTimer : Accounts view s s.pollTimer :=
  accounts_log s fun _ => rfl

theorem accounts_waitForTimer : Accounts view s s.waitForTimer :=
  (accounts_pollTimer s).trans (accounts_writeTimer _ .status 0x01)

theorem accounts_updateSeconds : Accounts view s s.updateSeconds :=
  (accounts_writeSseg s _ _).trans (accounts_writeSseg _ _ _)

theorem accounts_updateMinutes : Accounts view s s.updateMinutes :=
  (accounts_writeSseg s _ _).trans (accounts_writeSseg _ _ _)

theorem accounts_updateHours : Accounts view s s.updateHours :=
  (accounts_writeSseg s _ _).trans (accounts_writeSseg _ _ _)

end State

open State

section Code

variable (s : State) (i : Sample)

theorem accounts_initTimer : Accounts view s (initTimer s) :=
  accounts_programTimer s _ _

theorem accounts_incSegundos : Accounts view s (incSegundos s) :=
  calc
    Accounts view s (s.log (.action 0)) := accounts_log s fun _ => rfl
    Accounts view _ { s.log (.action 0) with
        hora := { s.hora with segundos := (s.hora.segundos + 1).tmod 60 } } := .silent rfl rfl
    Accounts view _ (incSegundos s) := accounts_updateSeconds _

theorem accounts_incMinutos : Accounts view s (incMinutos s) :=
  calc
    Accounts view s (s.log (.action 1)) := accounts_log s fun _ => rfl
    Accounts view _ { s.log (.action 1) with
        hora := { s.hora with minutos := (s.hora.minutos + 1).tmod 60 } } := .silent rfl rfl
    Accounts view _ (incMinutos s) := accounts_updateMinutes _

theorem accounts_incHoras : Accounts view s (incHoras s) :=
  calc
    Accounts view s (s.log (.action 2)) := accounts_log s fun _ => rfl
    Accounts view _ { s.log (.action 2) with
        hora := { s.hora with horas := (s.hora.horas + 1).tmod 24 } } := .silent rfl rfl
    Accounts view _ (incHoras s) := accounts_updateHours _

theorem accounts_captureAlarm : Accounts view s (captureAlarm s) :=
  (accounts_log s (e := .action 3) fun _ => rfl).trans (.silent rfl rfl)

theorem accounts_setMode : Accounts view s (setMode i s) := by
  refine .guard ?_
  calc
    Accounts view s { s with prevButtonsState := i.buttons } := .silent rfl rfl
    Accounts view _ _ := .guard (accounts_incSegundos _)
    Accounts view _ _ := .guard (accounts_incMinutos _)
    Accounts view _ _ := .guard (accounts_incHoras _)
    Accounts view _ _ := .guard (accounts_captureAlarm _)

theorem accounts_dismissLeds (newLedsState : U32) :
    Accounts view s (dismissLeds i newLedsState s) :=
  .guard (accounts_writeLeds s _)

theorem accounts_followSwitch : Accounts view s (followSwitch i s) := by
  have hcounting (t : State) (c : Bool) : Accounts view t { t with counting := c } :=
    .silent rfl rfl
  calc
    Accounts view s _ := .guard (hcounting s true)
    Accounts view _ (followSwitch i s) := .guard (hcounting _ false)

theorem accounts_countActive : Accounts view s (countActive s) := by
  refine .guard ?_
  have hcount : Accounts view s { s with segundosAlarmaActiva := s.segundosAlarmaActiva + 1 } :=
    .silent rfl rfl
  refine hcount.trans (.guard ?_)
  exact (accounts_writeLeds _ 0x00).trans (.silent rfl rfl)

theorem accounts_countSecond : Accounts view s (countSecond s) :=
  calc
    Accounts view s (s.log .tick) := accounts_log s fun _ => rfl
    Accounts view _ { s.log .tick with hora := s.hora.carry } := .silent rfl rfl
    Accounts view _ _ := accounts_updateSeconds _
    Accounts view _ _ := accounts_updateMinutes _
    Accounts view _ (countSecond s) := accounts_updateHours _

theorem accounts_leaveBuzzer : Accounts view s (leaveBuzzer s) :=
  calc
    Accounts view s (s.log (.leaveBuzzer .cycles)) := accounts_log s fun _ => rfl
    Accounts view _ _ := accounts_writeBuzzer _ 0x00
    Accounts view _ _ := accounts_writeTimer _ .control 0x00
    Accounts view _ (leaveBuzzer s) := .silent rfl rfl

theorem accounts_buzzerGuard : Accounts view s (buzzerGuard s) :=
  .ite (fun _ => .silent rfl rfl) fun _ => accounts_leaveBuzzer s

theorem accounts_showBuzzer : Accounts view s (showBuzzer s) :=
  accounts_writeBuzzer s _

theorem accounts_enterBuzzer : Accounts view s (enterBuzzer s) := by
  have hprogram (low high : U32) : Accounts view s (s |>.log .enterBuzzer |>.programTimer low high) :=
    (accounts_log s fun _ => rfl).trans (accounts_programTimer _ low high)
  have hvariables (t : State) :
      Accounts view t { t with buzzerSoundCounter := 0, buzzerState := false } := .silent rfl rfl
  calc
    Accounts view s _ := hprogram _ _
    Accounts view _ _ := hvariables _
    Accounts view _ _ := accounts_showBuzzer _
    Accounts view _ (enterBuzzer s) := accounts_buzzerGuard _

theorem accounts_buzzerRound : Accounts view s (buzzerRound s) := by
  have htoggle (t : State) : Accounts view t { t with buzzerState := !t.buzzerState } :=
    .silent rfl rfl
  have hcount (t : State) :
      Accounts view t { t with buzzerSoundCounter := t.buzzerSoundCounter + 1 } := .silent rfl rfl
  calc
    Accounts view s s.pollTimer := accounts_pollTimer s
    Accounts view _ _ := htoggle _
    Accounts view _ _ := accounts_showBuzzer _
    Accounts view _ _ := hcount _
    Accounts view _ _ := accounts_writeTimer _ .status 0x01
    Accounts view _ _ := .guard (accounts_countSecond _)
    Accounts view _ (buzzerRound s) := accounts_buzzerGuard _

theorem accounts_fireAlarm : Accounts view s (fireAlarm s) := by
  have hactive (t : State) :
      Accounts view t { t with alarmaActiva := true, segundosAlarmaActiva := 0 } := .silent rfl rfl
  refine .guard ?_
  calc
    Accounts view s (s.writeLeds 1023) := accounts_writeLeds s 1023
    Accounts view _ _ := hactive _
    Accounts view _ _ := accounts_enterBuzzer _

theorem accounts_loopBody : Accounts view s (loopBody i s) :=
  calc
    Accounts view s _ := accounts_setMode s i
    Accounts view _ _ := accounts_dismissLeds _ i _
    Accounts view _ _ := accounts_followSwitch _ i
    Accounts view _ (loopBody i s) := accounts_countActive _

theorem accounts_mainRound : Accounts view s (mainRound i s) := by
  have hcount (t : State) : Accounts view t (fireAlarm (countSecond t.waitForTimer)) :=
    (accounts_waitForTimer t).trans ((accounts_countSecond _).trans (accounts_fireAlarm _))
  calc
    Accounts view s (loopBody i s) := accounts_loopBody s i
    Accounts view _ (mainRound i s) := .guard (hcount _)

/-- The trace of a round accounts for what it does to the pins. -/
theorem step_pins :
    view.output (step i s) = (step i s).trace.foldl Pins.act (view.output s) := by
  have hround : Accounts view (freshTrace s) (step i s) := by
    cases hpc : s.pc with
    | mainLoop =>
        rw [step_mainLoop hpc]
        exact accounts_mainRound _ i
    | buzzerLoop =>
        rw [step_buzzerLoop hpc]
        exact accounts_buzzerRound _
  exact hround.replay_log rfl

theorem start_pins (b : U32) :
    view.output (start b) = (start b).trace.foldl Pins.act Pins.reset := by
  have hstart : Accounts view State.reset (start b) :=
    calc
      Accounts view State.reset (initTimer State.reset) := accounts_initTimer _
      Accounts view _ { initTimer State.reset with prevButtonsState := b } := .silent rfl rfl
      Accounts view _ _ := accounts_updateHours _
      Accounts view _ _ := accounts_updateMinutes _
      Accounts view _ (start b) := accounts_updateSeconds _
  exact hstart.replay_log rfl

end Code

/-- The firmware with its account of the pins. -/
def firmware : Firmware Sample State where
  step := step
  start s := ∃ buttonsState, s = start buttonsState
  setsBuzzer := true
  trace s := s.trace
  pins := view.output
  start_pins := by
    rintro s ⟨b, rfl⟩
    exact start_pins b
  step_pins i s := step_pins s i

/-! ## What the displays show -/

/-- The digit that is lit by the number of a digit. -/
theorem digitOf_digitWord : ∀ digit < 10, Display.digitOf ((digitWord digit).setWidth 7) =
    if digit = 0 then some 8 else if digit = 2 then some 6 else none := by
  decide

/-- Two displays that are given the digits of a number never show it. -/
theorem twoDigits_digitWord_ne {n : Nat} (h : n < 100) :
    Display.twoDigits ((digitWord (n / 10)).setWidth 7) ((digitWord (n % 10)).setWidth 7) ≠
      some n := by
  have htens := digitOf_digitWord (n / 10) (by omega)
  have hunits := digitOf_digitWord (n % 10) (by omega)
  rw [Display.twoDigits, htens, hunits]
  split_ifs with hten0 hunit0 hunit2 hten2 hunit0 hunit2 <;> simp <;> omega

/-- The displays of a time in numbers do not show the time. -/
theorem decode_numbers_ne (t : TimeOfDay) :
    (numbers t).decode ≠ some ((t.hi : Nat), (t.mid : Nat), (t.lo : Nat)) := by
  have hhi := t.hi.isLt
  intro hdecode
  simp only [Display.decode, numbers, Option.bind_eq_bind, Option.bind_eq_some_iff,
    Option.pure_def, Option.some.injEq, Prod.mk.injEq] at hdecode
  obtain ⟨hours, hhours, -, -, -, -, rfl, -, -⟩ := hdecode
  exact twoDigits_digitWord_ne (by omega) hhours

/-! ## The buzzer outside the handler -/

/-- While `main` has control the buzzer is off. -/
def Quiet (s : State) : Prop := s.pc = .mainLoop → s.buzzer = 0

theorem step_quiet {s : State} {a : Spec} (i : Sample) (h : Refines s a) (hquiet : Quiet s) :
    Quiet (step i s) := by
  intro hpc
  rcases a.mode_cases with ⟨k, hk⟩ | hmain
  · have hloop : s.pc = .buzzerLoop := h.pc.trans (Mode.pc_eq_buzzerLoop_iff.mpr ⟨k, hk⟩)
    rw [step_buzzerLoop hloop, buzzerRound_eq h hk, buzzerGuard] at hpc ⊢
    split_ifs at hpc ⊢
    -- the guard has failed, and the handler returns
    rfl
  · have hoff : s.buzzer = 0 := hquiet (h.pc.trans hmain)
    rw [step_mainLoop (h.pc.trans hmain)] at hpc ⊢
    cases hi : i.switchOn with
    | false =>
        obtain ⟨activa, segundos, -, hround⟩ := mainRound_off h hi
        rw [hround]
        exact hoff
    | true =>
        obtain ⟨activa, segundos, -, hround⟩ := mainRound_on h hi
        rw [hround, fireAlarm] at hpc ⊢
        split_ifs at hpc ⊢ with hat
        · rw [enterBuzzer_eq] at hpc
          cases hpc
        · exact hoff

theorem start_quiet (b : U32) : Quiet (start b) := fun _ => rfl

/-- Every reachable state is one of the abstract machine, with the buzzer off in `main`. -/
theorem refines_of_reachable {s : State}
    (h : InputMachine.Reachable step (fun s => ∃ buttonsState, s = start buttonsState) s) :
    ∃ a, Refines s a ∧ Quiet s := by
  refine h.invariant (P := fun s => ∃ a, Refines s a ∧ Quiet s) ?_ ?_
  · rintro s ⟨b, rfl⟩
    exact ⟨Spec.start b, start_refines b, start_quiet b⟩
  · rintro i s ⟨a, hrefines, hquiet⟩
    exact ⟨a.step i, step_refines i hrefines, step_quiet i hrefines hquiet⟩

/-- On the chip, at the loop heads of every interleaving: the pins are those of the
program, the buzzer is off while `main` has control, and the displays do not show the
time of the program. No register write strays into the memory but two to direction
registers. -/
theorem chip_never_shows_time (image : Sram) {y : SocSystem State} (h : firmware.OnChip image y) :
    firmware.Follows y ∧
      (y.pending = [] →
        (y.software.pc = .mainLoop → y.soc.pins.buzzer = 0) ∧
        y.soc.pins.display.decode ≠ some (y.software.hora.horas.toNat,
          y.software.hora.minutos.toNat, y.software.hora.segundos.toNat)) := by
  refine ⟨h.follows, fun hdone => ?_⟩
  have hpins := h.follows.pins hdone
  obtain ⟨a, hrefines, hquiet⟩ := refines_of_reachable (SocSystem.Reachable.software h)
  have hdisplay : y.soc.pins.display = y.software.display := congrArg Pins.display hpins
  have hbuzzer : y.soc.pins.buzzer = y.software.buzzer := congrArg Pins.buzzer hpins
  constructor
  · rw [hbuzzer]
    exact hquiet
  · rw [hdisplay, hrefines.display, hrefines.hora]
    exact decode_numbers_ne a.clock.time

/-- Up to the return of the handler the timer does not stop. -/
theorem midnightAlarm_live {k : Nat} (hk : k < 3120) :
    (Spec.run 0 midnightAlarm k).mode ≠ .stopped := by
  have hoff : ∀ j < 119, (midnightAlarm j).switchOn = false := by decide
  intro hstopped
  obtain ⟨p, hpk, ⟨hp, ⟨j, hjp, hj⟩, -⟩, -⟩ := stopped_iff.mp hstopped
  have hlate (j : Nat) (hon : (midnightAlarm j).switchOn = true) : 119 ≤ j := by
    by_contra hearly
    rw [hoff j (Nat.lt_of_not_le hearly)] at hon
    cases hon
  have hfirst := hlate j (firesAt_iff.mp hj).2.1
  -- after the round that fires, the handler has control for 3000 rounds
  have hloop := tone_pc midnightAlarm_fires (k := p - 120) (by omega)
  have hindex : 119 + 1 + (p - 120) = p := by omega
  rw [hindex, hp.1] at hloop
  cases hloop

/-- The head of `main` after the tone of an alarm. -/
def afterTone : SocSystem State := firmware.promptAt (fun _ => 0) (start 0) midnightAlarm 3120

theorem afterTone_onChip : firmware.OnChip (fun _ => 0) afterTone := by
  apply firmware.promptAt_onChip (D := Motion.discipline) (p := .setup .none)
    (m := fun k => (Spec.run 0 midnightAlarm k).mode.motion) Motion.pollsEnd
  · exact ⟨0, rfl⟩
  · exact Motion.holds_unknown Timer.reset
  · exact program_start 0
  · intro k hk
    have htrace : (InputMachine.states step (start 0) midnightAlarm (k + 1)).trace =
        (Spec.run 0 midnightAlarm k).trace (midnightAlarm k) := run_trace 0 midnightAlarm k
    change Motion.discipline.program _ (timerAccesses
      (InputMachine.states step (start 0) midnightAlarm (k + 1)).trace) = _
    rw [htrace]
    exact Spec.program_trace fun _ => midnightAlarm_live hk

theorem chip_never_shows_time_afterTone :
    afterTone.soc.pins.leds = 1023 ∧ afterTone.soc.pins.buzzer = 0 ∧
      afterTone.soc.pins.display.decode ≠ some (afterTone.software.hora.horas.toNat,
        afterTone.software.hora.minutos.toNat, afterTone.software.hora.segundos.toNat) := by
  have hdone : afterTone.pending = [] := Firmware.promptAt_pending
  obtain ⟨hfollows, hhead⟩ := chip_never_shows_time (fun _ => 0) afterTone_onChip
  obtain ⟨hbuzzer, hdisplay⟩ := hhead hdone
  have hsoftware : afterTone.software = run 0 midnightAlarm 3120 := Firmware.promptAt_software
  have hrefines := run_refines 0 midnightAlarm 3120
  have hleds (s : State) : (firmware.pins s).leds = s.leds := rfl
  refine ⟨?_, hbuzzer ?_, hdisplay⟩
  · rw [hfollows.pins hdone, hleds, hsoftware, hrefines.leds,
      tone_lit midnightAlarm_fires (Nat.le_refl 3000)]
    rfl
  · obtain ⟨t, hmode, -⟩ := run_after_tone midnightAlarm_fires
    rw [hsoftware, hrefines.pc, hmode]
    rfl

end RelojDespertador.Final
