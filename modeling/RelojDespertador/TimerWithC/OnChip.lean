import RelojDespertador.TimerWithC.Runs
import RelojDespertador.TimerWithClock.Runs
import RelojDespertador.Panel.OnChip

/-!
# The TimerWithC firmware on the chip

It never touches the buzzer, and it programs the timer once: every poll loop
finds it running.
-/

namespace RelojDespertador.TimerWithC

open EventLog Panel

/-- Trace and pins of a state. -/
def view : View State Event Pins where
  log s := s.trace
  output s := ⟨s.leds, 0, s.display⟩
  act := Pins.act

section Code

variable (s : State) (i : Sample)

theorem accounts_onPanel {f : Panel → Panel}
    (h : Accounts (Panel.view 0) s.toPanel (f s.toPanel)) : Accounts view s (s.onPanel f) := h

theorem accounts_runMode (newLedsState : U32) (p : Panel) :
    Accounts (Panel.view 0) p (runMode i newLedsState p) := by
  refine .guard ?_
  have hbuttons : Accounts (Panel.view 0) p { p with prevButtonsState := i.buttons } :=
    .silent rfl rfl
  exact hbuttons.trans (.guard (accounts_writeLeds _ _ _))

theorem accounts_followChange : Accounts view s (followChange i s) := by
  have hcounting (c : Bool) : Accounts view s (s.onPanel ({ · with counting := c })) :=
    .silent rfl rfl
  have hswitch (t : State) : Accounts view t { t with switchState := i.switch } := .silent rfl rfl
  refine .guard (.trans ?_ (hswitch _))
  exact .ite (fun _ => hcounting true) fun _ => hcounting false

theorem accounts_fireAlarm : Accounts view s (fireAlarm i s) :=
  .guard (accounts_onPanel s (accounts_writeLeds _ _ _))

end Code

/-- The trace of a round accounts for what it does to the pins. -/
theorem step_pins (i : Sample) (s : State) :
    view.output (step i s) = (step i s).trace.foldl Pins.act (view.output s) := by
  have hwait (s : State) : Accounts view s (s.onPanel (·.waitForTimer.countSecond)) :=
    accounts_onPanel s ((accounts_waitForTimer _ _).trans (accounts_countSecond _ _))
  have hround : Accounts view (s.onPanel ({ · with trace := [] })) (step i s) :=
    calc
      Accounts view (s.onPanel ({ · with trace := [] })) _ :=
        accounts_onPanel _ (accounts_setMode _ _ i)
      Accounts view _ _ := accounts_onPanel _ (accounts_runMode i _ _)
      Accounts view _ _ := accounts_followChange _ i
      Accounts view _ _ := .guard (hwait _)
      Accounts view _ (step i s) := accounts_fireAlarm _ i
  exact hround.replay_log rfl

theorem start_pins (boot : Sample) :
    view.output (start boot) = (start boot).trace.foldl Pins.act Pins.reset := by
  have hpanel : Accounts (Panel.view 0) Panel.reset (start boot).toPanel :=
    calc
      Accounts (Panel.view 0) Panel.reset (initTimer Panel.reset) :=
        accounts_programTimer _ _ _ _
      Accounts (Panel.view 0) _ { initTimer Panel.reset with prevButtonsState := boot.buttons } :=
        .silent rfl rfl
      Accounts (Panel.view 0) _ (start boot).toPanel := accounts_updateAll _ _
  exact hpanel.replay_log rfl

/-- The firmware with its account of the pins. -/
def firmware : Firmware Sample State where
  step := step
  start s := ∃ boot, s = start boot
  setsBuzzer := false
  trace s := s.trace
  pins := view.output
  start_pins := by
    rintro s ⟨boot, rfl⟩
    exact start_pins boot
  step_pins := step_pins

theorem program_start (boot : Sample) :
    Phase.any.program (timerAccesses (start boot).trace) = some .armed := by
  rw [start_panel]
  change Phase.any.program (timerAccesses (programTrace 61567 762 ++ timeTrace _)) = _
  rw [timerAccesses_append, timerAccesses_timeTrace]
  rfl

/-- A round polls the timer if it counts, and does nothing else to it than clear the flag. -/
theorem Spec.program_trace (i : Sample) (a : Spec) :
    Phase.armed.program (timerAccesses (a.trace i)) = some .armed := by
  have hpoll : timerAccesses (waitTrace 50000000) = [.poll, .write .status 1] := rfl
  simp only [trace]
  cases i.switchOn <;> cases a.lit <;> cases a.dismisses i <;> cases a.counts i <;>
    cases a.lights i <;> simp [hpoll, Event.timerAccess] <;> rfl

theorem program_round (i : Sample) (s : State) (hs : Reachable s) :
    Phase.armed.program (timerAccesses (step i s).trace) = some .armed := by
  obtain ⟨a, h⟩ := hs.refines
  rw [step_trace i h]
  exact a.program_trace i

/-- On the chip, at every point of every interleaving: at the loop heads the pins are
those of the program, the buzzer is silent, the LEDs are all lit or all dark, and the
displays show the time; no register write strays into the memory but two to direction
registers; and every poll loop finds the timer running. -/
theorem chip_shows_clock_and_light (image : Sram) {y : SocSystem State}
    (h : firmware.OnChip image y) :
    firmware.Follows y ∧
      (y.pending = [] → y.soc.pins.buzzer = 0 ∧
        (y.soc.pins.leds = 0 ∨ y.soc.pins.leds = 1023) ∧
        y.soc.pins.display.decode = some (y.software.hora.horas.toNat,
          y.software.hora.minutos.toNat, y.software.hora.segundos.toNat)) ∧
      ∀ rest, y.pending = .poll :: rest → y.soc.timer.counterIsRunning = true := by
  refine ⟨h.follows, fun hdone => ?_, fun rest hpoll => ?_⟩
  · have hpins := h.follows.pins hdone
    obtain ⟨a, hrefines⟩ := Reachable.refines (SocSystem.Reachable.software h)
    have hdisplay : y.soc.pins.display = y.software.display := congrArg Pins.display hpins
    have hleds : y.soc.pins.leds = y.software.leds := congrArg Pins.leds hpins
    refine ⟨congrArg Pins.buzzer hpins, ?_, ?_⟩
    · rw [hleds, hrefines.leds]
      split_ifs
      · exact Or.inr rfl
      · exact Or.inl rfl
    · rw [hdisplay, hrefines.shows.display, hrefines.shows.hora, Display.decode_ofTime,
        Hora.toNat_horas, Hora.toNat_minutos, Hora.toNat_segundos]
  · have harmed : Phase.armed.Holds y.soc.timer := by
      refine h.armed_of_poll ?_ program_round hpoll
      rintro s ⟨boot, rfl⟩
      exact program_start boot
    exact harmed.2.1

/-- The alarm is set to midnight, and the switch turned on one second before it. -/
def pastMidnight (n : Nat) : Sample := TimerWithClock.untilMidnight.getD n ⟨3, 1⟩

/-- A loop head two seconds after the alarm. -/
def lighted : SocSystem State := firmware.promptAt (fun _ => 0) (start ⟨0, 0⟩) pastMidnight 122

theorem lighted_onChip : firmware.OnChip (fun _ => 0) lighted :=
  firmware.promptAt_onChip_of_armed ⟨⟨0, 0⟩, rfl⟩ (program_start ⟨0, 0⟩) program_round

theorem lighted_refines :
    Refines lighted.software ⟨⟨⟨0, 0, 2⟩, some ⟨0, 0, 0⟩⟩, ⟨3, 1⟩, true, true⟩ := by
  have hspec : Spec.run ⟨0, 0⟩ pastMidnight 122 =
      ⟨⟨⟨0, 0, 2⟩, some ⟨0, 0, 0⟩⟩, ⟨3, 1⟩, true, true⟩ := by
    decide +kernel
  have hsoftware : lighted.software = run ⟨0, 0⟩ pastMidnight 122 := Firmware.promptAt_software
  rw [hsoftware, ← hspec]
  exact run_refines ⟨0, 0⟩ pastMidnight 122

theorem chip_shows_clock_and_light_lighted :
    lighted.soc.pins.leds = 1023 ∧ lighted.soc.pins.buzzer = 0 ∧
      lighted.soc.pins.display.decode = some (0, 0, 2) := by
  have hdone : lighted.pending = [] := Firmware.promptAt_pending
  obtain ⟨hfollows, hhead, -⟩ := chip_shows_clock_and_light (fun _ => 0) lighted_onChip
  obtain ⟨hbuzzer, -, hdisplay⟩ := hhead hdone
  have hleds (s : State) : (firmware.pins s).leds = s.leds := rfl
  refine ⟨?_, hbuzzer, ?_⟩
  · rw [hfollows.pins hdone, hleds, lighted_refines.leds]
    rfl
  · rw [hdisplay, lighted_refines.shows.hora]
    rfl

end RelojDespertador.TimerWithC
