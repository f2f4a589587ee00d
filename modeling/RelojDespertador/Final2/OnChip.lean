import RelojDespertador.Final2.LoopHead
import RelojDespertador.Final2.Polling
import RelojDespertador.Panel.OnChip

/-!
# The Final2 firmware on the chip

The code accounts for the pins, the buzzer among them. So on the chip the
displays show the time of the program, whatever the clock cycles between its
writes.
-/

namespace RelojDespertador.Final2

open EventLog

namespace State

/-- Trace and pins of a state. -/
def view : View State Event Pins where
  log s := s.trace
  output s := ⟨s.leds, s.buzzer, s.display⟩
  act := Pins.act

variable (s : State)

theorem accounts_onPanel {f : Panel → Panel}
    (h : Accounts (Panel.view s.buzzer) s.toPanel (f s.toPanel)) :
    Accounts view s (s.onPanel f) := h

theorem accounts_onAlarm {f : AlarmPanel → AlarmPanel}
    (h : Accounts (AlarmPanel.view s.buzzer) s.toAlarmPanel (f s.toAlarmPanel)) :
    Accounts view s (s.onAlarm f) := h

theorem accounts_writeBuzzer (value : U32) : Accounts view s (s.writeBuzzer value) :=
  .event (e := .buzzer value) rfl rfl

end State

open State

variable (s : State)

theorem accounts_initTimer : Accounts view s (s.onPanel initTimer) :=
  s.accounts_onPanel (Panel.accounts_programTimer _ _ _ _)

theorem accounts_leaveBuzzer (exit : BuzzerExit) : Accounts view s (leaveBuzzer exit s) := by
  have hstop : Accounts view s
      (s.onPanel (·.log (.leaveBuzzer exit) |>.writeTimer .control 0x00)) :=
    s.accounts_onPanel ((Panel.accounts_log _ _ fun _ => rfl).trans
      (Panel.accounts_writeTimer _ _ _ _))
  calc
    Accounts view s _ := hstop
    Accounts view _ _ := .silent rfl rfl
    Accounts view _ _ := accounts_initTimer _
    Accounts view _ (leaveBuzzer exit s) := .silent rfl rfl

theorem accounts_buzzerGuard (b : U32) : Accounts view s (buzzerGuard b s) :=
  .ite (fun _ => .silent rfl rfl) fun _ => accounts_leaveBuzzer s .cycles

theorem accounts_programTimer (low high : U32) :
    Accounts view s (s.onPanel (·.log .enterBuzzer |>.programTimer low high)) :=
  s.accounts_onPanel ((Panel.accounts_log _ _ fun _ => rfl).trans
    (Panel.accounts_programTimer _ _ _ _))

theorem accounts_setCycles (cycles : U32) :
    Accounts view s { s with buzzerPwmCycles := cycles } := .silent rfl rfl

theorem accounts_enterBuzzer (b : U32) : Accounts view s (enterBuzzer b s) :=
  (accounts_programTimer s _ _).trans
    ((accounts_setCycles _ _).trans (accounts_buzzerGuard _ b))

theorem accounts_toggleBuzzer : Accounts view s (toggleBuzzer s) :=
  calc
    Accounts view s { s with buzzerState := !s.buzzerState } := .silent rfl rfl
    Accounts view _ (toggleBuzzer s) := accounts_writeBuzzer _ _

theorem accounts_countHalfPeriod : Accounts view s (countHalfPeriod s) := by
  have hcount : Accounts view s { s with buzzerPwmCounter := s.buzzerPwmCounter + 1 } :=
    .silent rfl rfl
  refine hcount.trans (.ite (fun _ => ?_) fun _ => .refl _)
  refine .trans (.silent rfl rfl) (State.accounts_onPanel _ ?_)
  exact Panel.accounts_countSecond _ _

theorem accounts_silence : Accounts view s (silence s) :=
  (s.accounts_onPanel (Panel.accounts_writeLeds _ _ _)).trans (accounts_writeBuzzer _ _)

theorem accounts_buzzerRound (b : U32) (i : Sample) : Accounts view s (buzzerRound b i s) := by
  have hwait : Accounts view s (s.onPanel (·.waitForTimer)) :=
    s.accounts_onPanel (Panel.accounts_waitForTimer _ _)
  refine (hwait.trans ((accounts_toggleBuzzer _).trans (accounts_countHalfPeriod _))).trans ?_
  refine .ite (fun _ => ?_) fun _ => .ite (fun _ => ?_) fun _ => ?_
  · refine (accounts_silence _).trans (.trans (.silent rfl rfl) (accounts_leaveBuzzer _ .timeout))
  · exact (accounts_silence _).trans (accounts_leaveBuzzer _ .button)
  · exact accounts_buzzerGuard _ b

theorem accounts_fireAlarm : Accounts view s (fireAlarm s) := by
  refine .guard ?_
  calc
    Accounts view s (s.onAlarm ({ · with alarmaActiva := true })) := .silent rfl rfl
    Accounts view _ _ := State.accounts_onPanel _ (Panel.accounts_writeLeds _ _ 1023)

theorem accounts_mainRound (i : Sample) : Accounts view s (mainRound i s) :=
  calc
    Accounts view s (s.onAlarm (·.loopBody i)) :=
      s.accounts_onAlarm (AlarmPanel.accounts_loopBody i s.toAlarmPanel)
    Accounts view _ _ := accounts_fireAlarm _
    Accounts view _ (mainRound i s) := .ite (fun _ => accounts_enterBuzzer _ _) fun _ => .refl _

/-- The trace of a round accounts for what it does to the pins. -/
theorem step_pins (i : Sample) :
    view.output (step i s) = (step i s).trace.foldl Pins.act (view.output s) := by
  have hround : Accounts view (s.onPanel ({ · with trace := [] })) (step i s) := by
    unfold step
    dsimp only
    split
    · exact accounts_mainRound _ i
    · exact accounts_buzzerRound _ _ i
  exact hround.replay_log rfl

theorem start_pins (b : U32) :
    view.output (start b) = (start b).trace.foldl Pins.act Pins.reset := by
  have hpanel : Accounts (Panel.view 0) Panel.reset (start b).toPanel :=
    calc
      Accounts (Panel.view 0) Panel.reset (initTimer Panel.reset) :=
        Panel.accounts_programTimer _ _ _ _
      Accounts (Panel.view 0) _ { initTimer Panel.reset with prevButtonsState := b } :=
        .silent rfl rfl
      Accounts (Panel.view 0) _ (start b).toPanel := Panel.accounts_updateAll _ _
  exact hpanel.replay_log rfl

/-- The firmware with its account of the pins. -/
def firmware : Firmware Sample State where
  step := step
  start s := ∃ buttonsState, s = start buttonsState
  setsBuzzer := true
  trace s := s.trace
  pins := view.output
  start_pins := by
    rintro s ⟨b, rfl⟩
    exact start_pins b
  step_pins i s := step_pins s i

/-- On the chip, at every point of every interleaving: at the loop heads the pins are
those of the program, and the displays show its time; no register write strays into the
memory but two to direction registers; and a poll loop finds the timeout flag set or the
timer on its way to set it. -/
theorem chip_follows (image : Sram) {y : SocSystem State} (h : firmware.OnChip image y) :
    firmware.Follows y ∧
      (y.pending = [] → y.soc.pins.display.decode = some (y.software.hora.horas.toNat,
        y.software.hora.minutos.toNat, y.software.hora.segundos.toNat)) ∧
      ∀ rest, y.pending = .poll :: rest →
        y.soc.timer.timeoutOccurred = true ∨ y.soc.timer.counterIsRunning = true := by
  refine ⟨h.follows, fun hdone => ?_, fun rest hpoll => ?_⟩
  · obtain ⟨a, hrefines, -⟩ := Reachable.refines (SocSystem.Reachable.software h)
    have hdisplay : y.soc.pins.display = y.software.display :=
      congrArg Pins.display (h.follows.pins hdone)
    rw [hdisplay, hrefines.shows.display, hrefines.shows.hora, Display.decode_ofTime,
      Hora.toNat_horas, Hora.toNat_minutos, Hora.toNat_segundos]
  · have harmed : Phase.armed.Holds y.soc.timer := by
      refine h.armed_of_poll ?_ program_round hpoll
      rintro s ⟨b, rfl⟩
      exact program_start b
    exact Or.inr harmed.2.1

/-- A loop head of `main` two seconds after an alarm that has been dismissed. -/
def dismissed : SocSystem State := firmware.promptAt (fun _ => 0) (start 0) dismissing 133

theorem dismissed_onChip : firmware.OnChip (fun _ => 0) dismissed :=
  firmware.promptAt_onChip_of_armed ⟨0, rfl⟩ (program_start 0) program_round

theorem dismissed_refines :
    Refines dismissed.software ⟨⟨⟨0, 0, 3⟩, some ⟨0, 0, 1⟩⟩, 1, 10, false, false⟩ := by
  have hspec : Spec.run 0 dismissing 133 =
      ⟨⟨⟨0, 0, 3⟩, some ⟨0, 0, 1⟩⟩, 1, 10, false, false⟩ := by
    decide +kernel
  have hsoftware : dismissed.software = run 0 dismissing 133 := Firmware.promptAt_software
  rw [hsoftware, ← hspec]
  exact run_refines 0 dismissing 133

theorem chip_follows_dismissed :
    dismissed.soc.pins.leds = 0 ∧ dismissed.soc.pins.buzzer = 0 ∧
      dismissed.soc.pins.display.decode = some (0, 0, 3) := by
  have hdone : dismissed.pending = [] := Firmware.promptAt_pending
  obtain ⟨hfollows, hhead, -⟩ := chip_follows (fun _ => 0) dismissed_onChip
  have hpins (s : State) : (firmware.pins s).leds = s.leds ∧ (firmware.pins s).buzzer = s.buzzer :=
    ⟨rfl, rfl⟩
  have hidle := dismissed_refines.idle rfl
  refine ⟨?_, ?_, ?_⟩
  · rw [hfollows.pins hdone, (hpins _).1, hidle.leds]
  · rw [hfollows.pins hdone, (hpins _).2, hidle.buzzer]
  · rw [hhead hdone, dismissed_refines.shows.hora]
    rfl

end RelojDespertador.Final2
