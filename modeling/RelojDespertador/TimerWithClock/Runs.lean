import RelojDespertador.TimerWithClock.Refinement
import RelojDespertador.Panel.Captured

/-!
# Runs of the TimerWithClock firmware

The events of a round and the moves of the clock, read off the abstract
machine and carried over to the runs of the firmware.
-/

namespace RelojDespertador.TimerWithClock

open InputMachine Panel

namespace Spec

variable (i : Sample) (a : Spec)

/-- The events that are neither digits nor button branches. -/
theorem mem_trace_iff {e : Event} (hdigit : isDigit e = false) (haction : ∀ k, e ≠ .action k) :
    e ∈ a.trace i ↔
      (e = .leds 0 ∧ (a.dismisses i = true ∨ a.timesOut = true)) ∨
      (i.switchOn = true ∧ (e ∈ waitTrace 50000000 ∨ e = .tick ∨
        (a.clock.tick.AtAlarm ∧ e = .leds 0x3FF))) := by
  have htime (t : TimeOfDay) : e ∉ timeTrace t := not_mem_timeTrace hdigit
  have hset (down t) : e ∉ setTrace down t := not_mem_setTrace hdigit haction
  simp only [trace]
  cases i.switchOn <;> cases a.dismisses i <;> cases a.timesOut <;>
    by_cases hat : a.clock.tick.AtAlarm <;> simp [htime, hset, hat]

/-- The lamp is lit in run mode only, and exactly when the tick reaches the alarm time. -/
theorem leds_mem_trace :
    .leds 0x3FF ∈ a.trace i ↔ i.switchOn = true ∧ a.clock.tick.AtAlarm := by
  rw [mem_trace_iff i a rfl (by simp)]
  simp [waitTrace]

/-- A write of 0 is a dismissal or the time-out. -/
theorem leds_zero_mem_trace :
    .leds 0 ∈ a.trace i ↔ a.dismisses i = true ∨ a.timesOut = true := by
  rw [mem_trace_iff i a rfl (by simp)]
  simp [waitTrace]

theorem ticks_trace : ticks (a.trace i) = if i.switchOn then 1 else 0 := by
  simp only [trace]
  cases i.switchOn <;> cases a.dismisses i <;> cases a.timesOut <;>
    by_cases hat : a.clock.tick.AtAlarm <;> simp [waitTrace, hat, Event.ticks]

theorem tick_mem_trace : .tick ∈ a.trace i ↔ i.switchOn = true := by
  rw [mem_trace_iff i a rfl (by simp)]
  simp

/-- The branch of a button runs in set mode only, and exactly when its bit rose. -/
theorem action_mem_trace (k : Fin 4) :
    .action k ∈ a.trace i ↔ i.switchOn = false ∧ rising a.buttons i.buttons k = true := by
  have htime (t : TimeOfDay) : Event.action k ∉ timeTrace t := not_mem_timeTrace rfl
  simp only [trace]
  cases i.switchOn <;> cases a.dismisses i <;> cases a.timesOut <;>
    by_cases hat : a.clock.tick.AtAlarm <;>
    simp [waitTrace, htime, hat, action_mem_setTrace]

variable {i a}

theorem step_clock_running (hi : i.switchOn = true) : (a.step i).clock = a.clock.tick := by
  simp only [step]
  split_ifs <;> rfl

/-- A press of button 3 in set mode sets the alarm to the time. -/
theorem step_capture (hi : i.switchOn = false) (hrise : rising a.buttons i.buttons 3 = true) :
    (a.step i).clock.alarm = some (a.step i).clock.time := by
  simp [step, hi, AlarmClock.press, hrise]

/-- Nothing else touches the alarm. -/
theorem step_alarm_of_not_capture (h : .action 3 ∉ a.trace i) :
    (a.step i).clock.alarm = a.clock.alarm := by
  cases hi : i.switchOn with
  | true =>
      rw [step_clock_running hi]
      rfl
  | false =>
      have hrise : rising a.buttons i.buttons 3 = false := by
        apply Bool.eq_false_iff.mpr
        intro hrise
        exact h ((action_mem_trace i a 3).mpr ⟨hi, hrise⟩)
      simp [step, hi, AlarmClock.press, hrise]

/-- Set mode remembers its buttons, run mode does not look at them. -/
theorem step_buttons (i : Sample) (a : Spec) :
    (a.step i).buttons = if i.switchOn then a.buttons else i.buttons := by
  simp only [step]
  split_ifs <;> rfl

end Spec

section Along

variable {s : State} {a : Spec}

/-- From a state of a sane abstract state on, the firmware stays with the abstract
machine, which stays sane. -/
theorem Refines.along (h : Refines s a) (hsane : a.Sane) (w : Nat → Sample) (n : Nat) :
    Refines (InputMachine.states step s w n) (InputMachine.states Spec.step a w n) ∧
      (InputMachine.states Spec.step a w n).Sane :=
  states_simulate (R := fun s a => Refines s a ∧ a.Sane)
    (fun i _ _ h => ⟨step_refines i h.1 h.2, Spec.step_sane i h.2⟩) ⟨h, hsane⟩ w n

/-- The trace of a round in a run. -/
theorem Refines.along_trace (h : Refines s a) (hsane : a.Sane) (w : Nat → Sample) (n : Nat) :
    (InputMachine.states step s w (n + 1)).trace =
      (InputMachine.states Spec.step a w n).trace (w n) :=
  step_trace (w n) (h.along hsane w n).1 (h.along hsane w n).2

end Along

theorem Reachable.refines {s : State} (h : Reachable s) : ∃ a, Refines s a ∧ a.Sane := by
  have hstep : ∀ i s a, Refines s a ∧ a.Sane → Refines (step i s) (Spec.step i a) ∧
      (Spec.step i a).Sane := fun i _ _ h => ⟨step_refines i h.1 h.2, Spec.step_sane i h.2⟩
  have hstart : ∀ s, (∃ buttonsState, s = start buttonsState) →
      ∃ a, (∃ buttonsState, a = Spec.start buttonsState) ∧ Refines s a ∧ a.Sane := by
    rintro s ⟨buttonsState, rfl⟩
    exact ⟨_, ⟨buttonsState, rfl⟩, start_refines buttonsState, Spec.start_sane buttonsState⟩
  obtain ⟨a, -, hR⟩ := InputMachine.Reachable.simulate hstart hstep h
  exact ⟨a, hR⟩

/-- The states at the loop heads of a run, whose buttons before the loop are
`buttonsState` and whose samples are `w`. -/
def run (buttonsState : U32) (w : Nat → Sample) : Nat → State :=
  InputMachine.states step (start buttonsState) w

/-- The abstract states at the loop heads of a run. -/
def Spec.run (buttonsState : U32) (w : Nat → Sample) : Nat → Spec :=
  InputMachine.states Spec.step (Spec.start buttonsState) w

section Run

variable (buttonsState : U32) (w : Nat → Sample) (n : Nat)

/-- Along a run the firmware stays with the abstract machine, which stays sane. -/
theorem run_refines : Refines (run buttonsState w n) (Spec.run buttonsState w n) ∧
    (Spec.run buttonsState w n).Sane :=
  (start_refines buttonsState).along (Spec.start_sane buttonsState) w n

theorem run_trace :
    (run buttonsState w (n + 1)).trace = (Spec.run buttonsState w n).trace (w n) :=
  (start_refines buttonsState).along_trace (Spec.start_sane buttonsState) w n

end Run

/-! ## The second before an alarm -/

/-- Button 3 sets the alarm to midnight, then 59 presses turn the clock to the second
before it: 23 of buttons 0, 1 and 2 together, and 36 of buttons 0 and 1. -/
def untilMidnight : List Sample :=
  ⟨8, 0⟩ :: (List.replicate 23 [⟨0, 0⟩, ⟨7, 0⟩]).flatten ++
    (List.replicate 36 [⟨0, 0⟩, ⟨3, 0⟩]).flatten

/-- The alarm is set to midnight, and the clock is one second before it. -/
def Spec.beforeMidnight : Spec := ⟨⟨⟨23, 59, 59⟩, some ⟨0, 0, 0⟩⟩, 3, none, false⟩

def armed : State := feed step (start 0) untilMidnight

theorem armed_reachable : Reachable armed :=
  (InputMachine.Reachable.init ⟨0, rfl⟩).feed untilMidnight

theorem armed_sane : Spec.beforeMidnight.Sane where
  ahead _ h := by cases h
  lit h := by cases h

theorem armed_refines : Refines armed Spec.beforeMidnight := by
  have hspec : feed Spec.step (Spec.start 0) untilMidnight = Spec.beforeMidnight := by
    decide +kernel
  have hrefines := feed_simulate (R := fun s a => Refines s a ∧ a.Sane)
    (fun i _ _ h => ⟨step_refines i h.1 h.2, Spec.step_sane i h.2⟩)
    ⟨start_refines 0, Spec.start_sane 0⟩ untilMidnight
  rw [hspec] at hrefines
  exact hrefines.1

end RelojDespertador.TimerWithClock
