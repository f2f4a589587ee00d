import RelojDespertador.TimerWithClock.Stretch
import RelojDespertador.Panel.OnChip

/-!
# The TimerWithClock firmware on the chip

It never touches the buzzer, and it programs the timer once: every poll loop
finds it running.
-/

namespace RelojDespertador.TimerWithClock

open EventLog Panel

/-- Trace and pins of a state. -/
abbrev view : View State Event Pins := AlarmPanel.view 0

theorem accounts_fireAlarm (i : Sample) (s : State) : Accounts view s (fireAlarm i s) :=
  .guard (AlarmPanel.accounts_of_panel (accounts_writeLeds 0 s.toPanel 0x3FF))

/-- The trace of a round accounts for what it does to the pins. -/
theorem step_pins (i : Sample) (s : State) :
    view.output (step i s) = (step i s).trace.foldl Pins.act (view.output s) := by
  have hround : Accounts view (s.onPanel ({ · with trace := [] })) (step i s) :=
    (AlarmPanel.accounts_loopBody i _).trans (accounts_fireAlarm i _)
  exact hround.replay_log rfl

theorem start_pins (b : U32) :
    view.output (start b) = (start b).trace.foldl Pins.act Pins.reset := by
  have hpanel : Accounts (Panel.view 0) Panel.reset (start b).toPanel :=
    calc
      Accounts (Panel.view 0) Panel.reset (initTimer Panel.reset) :=
        accounts_programTimer _ _ _ _
      Accounts (Panel.view 0) _ { initTimer Panel.reset with prevButtonsState := b } :=
        .silent rfl rfl
      Accounts (Panel.view 0) _ (start b).toPanel := accounts_updateAll _ _
  exact hpanel.replay_log rfl

/-- The firmware with its account of the pins. -/
def firmware : Firmware Sample State where
  step := step
  start s := ∃ buttonsState, s = start buttonsState
  setsBuzzer := false
  trace s := s.trace
  pins := view.output
  start_pins := by
    rintro s ⟨b, rfl⟩
    exact start_pins b
  step_pins := step_pins

theorem program_start (b : U32) :
    Phase.any.program (timerAccesses (start b).trace) = some .armed := by
  rw [start_panel]
  change Phase.any.program (timerAccesses (programTrace 61567 762 ++ timeTrace _)) = _
  rw [timerAccesses_append, timerAccesses_timeTrace]
  rfl

theorem program_round (i : Sample) (s : State) (hs : Reachable s) :
    Phase.armed.program (timerAccesses (step i s).trace) = some .armed := by
  obtain ⟨a, h, hsane⟩ := hs.refines
  rw [step_trace i h hsane]
  cases hi : i.switchOn with
  | false => rw [Spec.accesses_off hi]; rfl
  | true => rw [Spec.accesses_on hi]; rfl

/-- On the chip, at every point of every interleaving: at the loop heads the pins are
those of the program, the buzzer is silent, and the displays show the time; no register
write strays into the memory but two to direction registers; and every poll loop finds
the timer running. -/
theorem chip_shows_clock (image : Sram) {y : SocSystem State} (h : firmware.OnChip image y) :
    firmware.Follows y ∧
      (y.pending = [] → y.soc.pins.buzzer = 0 ∧
        y.soc.pins.display.decode = some (y.software.hora.horas.toNat,
          y.software.hora.minutos.toNat, y.software.hora.segundos.toNat)) ∧
      ∀ rest, y.pending = .poll :: rest → y.soc.timer.counterIsRunning = true := by
  refine ⟨h.follows, fun hdone => ?_, fun rest hpoll => ?_⟩
  · have hpins := h.follows.pins hdone
    obtain ⟨a, hrefines, -⟩ := Reachable.refines (SocSystem.Reachable.software h)
    refine ⟨congrArg Pins.buzzer hpins, ?_⟩
    have hdisplay : y.soc.pins.display = y.software.display := congrArg Pins.display hpins
    rw [hdisplay, hrefines.shows.display, hrefines.shows.hora, Display.decode_ofTime,
      Hora.toNat_horas, Hora.toNat_minutos, Hora.toNat_segundos]
  · have harmed : Phase.armed.Holds y.soc.timer := by
      refine h.armed_of_poll ?_ program_round hpoll
      rintro s ⟨b, rfl⟩
      exact program_start b
    exact harmed.2.1

/-- The alarm is set to midnight, and the switch turned on one second before it. -/
def pastMidnight (n : Nat) : Sample := untilMidnight.getD n ⟨3, 1⟩

/-- A loop head two seconds after the alarm. -/
def ringing : SocSystem State := firmware.promptAt (fun _ => 0) (start 0) pastMidnight 122

theorem ringing_onChip : firmware.OnChip (fun _ => 0) ringing :=
  firmware.promptAt_onChip_of_armed ⟨0, rfl⟩ (program_start 0) program_round

theorem ringing_refines :
    Refines ringing.software ⟨⟨⟨0, 0, 2⟩, some ⟨0, 0, 0⟩⟩, 3, some 2, true⟩ := by
  have hspec : Spec.run 0 pastMidnight 122 = ⟨⟨⟨0, 0, 2⟩, some ⟨0, 0, 0⟩⟩, 3, some 2, true⟩ := by
    decide +kernel
  have hsoftware : ringing.software = run 0 pastMidnight 122 := Firmware.promptAt_software
  rw [hsoftware, ← hspec]
  exact (run_refines 0 pastMidnight 122).1

theorem chip_shows_clock_ringing :
    ringing.soc.pins.leds = 1023 ∧ ringing.soc.pins.buzzer = 0 ∧
      ringing.soc.pins.display.decode = some (0, 0, 2) := by
  have hdone : ringing.pending = [] := Firmware.promptAt_pending
  obtain ⟨hfollows, hhead, -⟩ := chip_shows_clock (fun _ => 0) ringing_onChip
  obtain ⟨hbuzzer, hdisplay⟩ := hhead hdone
  have hleds (s : State) : (firmware.pins s).leds = s.leds := rfl
  refine ⟨?_, hbuzzer, ?_⟩
  · rw [hfollows.pins hdone, hleds, ringing_refines.leds]
    rfl
  · rw [hdisplay, ringing_refines.shows.hora]
    rfl

end RelojDespertador.TimerWithClock
