import RelojDespertador.Final2.Refinement
import Mathlib.Algebra.BigOperators.Intervals

/-!
# Runs of the Final2 firmware

What one round does to the clock, to the progress of the alarm and to the
trace is read off the abstract machine once, and carried over to the runs of
the firmware by the refinement. The properties of the firmware are then
inductions over the rounds of a run.
-/

namespace RelojDespertador.Final2

open InputMachine Panel

namespace Spec

variable (i : Sample) (a : Spec)

/-- The round fires the alarm. -/
def Fires : Prop := a.sounding = false ∧ i.switchOn = true ∧ a.clock.tick.AtAlarm

/-! ## The events of a round -/

/-- The events that are neither digits nor button branches. -/
theorem mem_trace_iff {e : Event} (hdigit : isDigit e = false) (haction : ∀ k, e ≠ .action k) :
    e ∈ a.trace i ↔
      if a.sounding then
        e ∈ waitTrace 7184 ∨ e = .buzzer (if a.level then 0 else 1) ∨ (a.secondDone ∧ e = .tick) ∨
          e ∈ if a.elapsed.val + 1 = 215490 then leaveTrace .timeout
            else if a.dismisses i then leaveTrace .button else []
      else i.switchOn = true ∧
        (e ∈ waitTrace 50000001 ∨ e = .tick ∨ (a.clock.tick.AtAlarm ∧ e ∈ enterTrace)) := by
  have htime (t : TimeOfDay) : e ∉ timeTrace t := not_mem_timeTrace hdigit
  have hset (down t) : e ∉ setTrace down t := not_mem_setTrace hdigit haction
  simp only [trace]
  split_ifs <;> simp_all

theorem leds_mem_trace : .leds 1023 ∈ a.trace i ↔ a.Fires i := by
  rw [mem_trace_iff i a rfl (by simp)]
  simp only [Fires]
  split_ifs <;> simp_all [waitTrace, enterTrace, leaveTrace, programTrace]

theorem enterBuzzer_mem_trace : .enterBuzzer ∈ a.trace i ↔ a.Fires i := by
  rw [mem_trace_iff i a rfl (by simp)]
  simp only [Fires]
  split_ifs <;> simp_all [waitTrace, enterTrace, leaveTrace, programTrace]

theorem tick_mem_trace :
    .tick ∈ a.trace i ↔ if a.sounding then a.secondDone else i.switchOn = true := by
  rw [mem_trace_iff i a rfl (by simp)]
  split_ifs <;> simp_all [waitTrace, enterTrace, leaveTrace, programTrace]

/-- The handler leaves by its time-out in the last round, and before it by a button. -/
theorem leaveBuzzer_mem_trace (exit : BuzzerExit) :
    .leaveBuzzer exit ∈ a.trace i ↔ a.sounding = true ∧
      if a.elapsed.val + 1 = 215490 then exit = .timeout
      else a.dismisses i = true ∧ exit = .button := by
  rw [mem_trace_iff i a rfl (by simp)]
  split_ifs <;> simp_all [waitTrace, enterTrace, leaveTrace, programTrace]

/-- The branch of a button runs in set mode only, and exactly when its bit rose. -/
theorem action_mem_trace (k : Fin 4) :
    .action k ∈ a.trace i ↔
      a.sounding = false ∧ i.switchOn = false ∧ rising a.buttons i.buttons k = true := by
  have htime (t : TimeOfDay) : Event.action k ∉ timeTrace t := not_mem_timeTrace rfl
  simp only [trace]
  split_ifs <;>
    simp_all [waitTrace, enterTrace, leaveTrace, programTrace, action_mem_setTrace]

/-! ## What a round counts -/

theorem ticks_trace :
    ticks (a.trace i) =
      if a.sounding then (if a.secondDone then 1 else 0) else if i.switchOn then 1 else 0 := by
  simp only [trace]
  split_ifs <;>
    simp [waitTrace, enterTrace, leaveTrace, programTrace, Event.ticks]

theorem waits_trace :
    waits (a.trace i) = if a.sounding then 1 else if i.switchOn then 1 else 0 := by
  simp only [trace]
  split_ifs <;>
    simp [waitTrace, enterTrace, leaveTrace, programTrace, Event.waits]

theorem cycles_trace :
    cycles (a.trace i) = if a.sounding then 7184 else if i.switchOn then 50000001 else 0 := by
  simp only [trace]
  split_ifs <;>
    simp [waitTrace, enterTrace, leaveTrace, programTrace, Event.cycles]

/-! ## What a round does to the state -/

section RunMode

variable {i : Sample} {a : Spec}

theorem step_clock_sounding (hs : a.sounding = true) : (a.step i).clock = a.soundingClock := by
  simp only [step, hs, if_true]
  split_ifs <;> rfl

theorem step_clock_running (hs : a.sounding = false) (hi : i.switchOn = true) :
    (a.step i).clock = a.clock.tick := by
  simp [step, hs, hi]

/-- Outside set mode the clock advances by the seconds the round counts. -/
theorem step_value (h : a.sounding = false → i.switchOn = true) :
    (a.step i).clock.time.value = (a.clock.time.value + ticks (a.trace i)) % 86400 := by
  have hlt := a.clock.time.value_lt
  have htick : a.clock.tick.time.value = (a.clock.time.value + 1) % 86400 :=
    a.clock.time.value_tick
  rw [ticks_trace]
  cases hs : a.sounding with
  | false =>
      rw [step_clock_running hs (h hs), h hs]
      exact htick
  | true =>
      rw [step_clock_sounding hs, if_pos rfl]
      simp only [soundingClock]
      split_ifs
      · exact htick
      · exact (Nat.mod_eq_of_lt hlt).symm

/-- Outside set mode the alarm time stays. -/
theorem step_alarm (h : a.sounding = false → i.switchOn = true) :
    (a.step i).clock.alarm = a.clock.alarm := by
  cases hs : a.sounding with
  | false =>
      rw [step_clock_running hs (h hs)]
      rfl
  | true =>
      rw [step_clock_sounding hs]
      exact a.soundingClock_alarm

/-- Outside set mode the remembered buttons stay. -/
theorem step_buttons (h : a.sounding = false → i.switchOn = true) :
    (a.step i).buttons = a.buttons := by
  cases hs : a.sounding with
  | false => simp [step, hs, h hs]
  | true =>
      simp only [step, hs, if_true]
      split_ifs <;> rfl

theorem states_alarm {w : Nat → Sample} {n : Nat}
    (h : ∀ k < n, (states step a w k).sounding = false → (w k).switchOn = true) :
    (states step a w n).clock.alarm = a.clock.alarm := by
  induction n with
  | zero => rfl
  | succ n ih =>
      rw [states_succ, step_alarm (h n (Nat.lt_succ_self n)),
        ih fun k hk => h k (Nat.lt_succ_of_lt hk)]

end RunMode

/-- The rounds of a sounding alarm count its half periods. -/
theorem step_elapsed :
    ((a.step i).elapsed : Nat) = (a.elapsed + if a.sounding then 1 else 0) % 215490 := by
  have hlt := a.elapsed.isLt
  simp only [step]
  split_ifs with hs hmore hon
  · exact (Nat.mod_eq_of_lt hmore).symm
  · change 0 = _
    omega
  · exact (Nat.mod_eq_of_lt hlt).symm
  · exact (Nat.mod_eq_of_lt hlt).symm

/-- A sounding alarm goes on until its last half period or a dismissal. -/
theorem step_sounding :
    (a.step i).sounding = true ↔
      if a.sounding then a.elapsed.val + 1 ≠ 215490 ∧ a.dismisses i = false else a.Fires i := by
  have hlt := a.elapsed.isLt
  simp only [step, Fires]
  split_ifs with hs hmore hon
  · simp [hmore.ne]
  · have hlast : a.elapsed.val + 1 = 215490 := by omega
    simp [hlast]
  · simp [hs, hon]
  · simp [hs, hon]

/-- The seconds a round counts follow from the half periods counted before it. -/
theorem ticks_sounding {i : Sample} {a : Spec} (hs : a.sounding = true) :
    ticks (a.trace i) = (a.elapsed + 1) / 7183 - a.elapsed / 7183 := by
  rw [ticks_trace, if_pos hs]
  split_ifs with hdone
  · simp only [secondDone] at hdone
    omega
  · simp only [secondDone] at hdone
    omega

end Spec

/-! ## Runs from reset -/

/-- The states at the loop heads of a run, whose buttons before the loop are
`buttonsState` and whose samples are `w`. -/
def run (buttonsState : U32) (w : Nat → Sample) : Nat → State :=
  InputMachine.states step (start buttonsState) w

/-- The abstract states at the loop heads of a run. -/
def Spec.run (buttonsState : U32) (w : Nat → Sample) : Nat → Spec :=
  InputMachine.states Spec.step (Spec.start buttonsState) w

section Run

variable (buttonsState : U32) (w : Nat → Sample) (n : Nat)

theorem run_refines : Refines (run buttonsState w n) (Spec.run buttonsState w n) :=
  states_simulate (R := Refines) (fun i _ _ h => step_refines i h) (start_refines buttonsState) w n

theorem run_trace :
    (run buttonsState w (n + 1)).trace = (Spec.run buttonsState w n).trace (w n) :=
  step_trace (w n) (run_refines buttonsState w n)

theorem Spec.run_sane : (Spec.run buttonsState w n).Sane :=
  states_invariant (Spec.start_sane buttonsState) (fun i _ h => Spec.step_sane i h) w n

end Run

section Counting

variable {s : State} {a : Spec} (w : Nat → Sample)

theorem Refines.along (h : Refines s a) (n : Nat) :
    Refines (InputMachine.states step s w n) (InputMachine.states Spec.step a w n) :=
  states_simulate (R := Refines) (fun i _ _ h => step_refines i h) h w n

/-- The trace of a round in a run. -/
theorem Refines.along_trace (h : Refines s a) (n : Nat) :
    (InputMachine.states step s w (n + 1)).trace =
      (InputMachine.states Spec.step a w n).trace (w n) :=
  step_trace (w n) (h.along w n)

/-- A count over the traces of the first `n` rounds from `s`. -/
def countRounds (f : List Event → Nat) (s : State) (w : Nat → Sample) (n : Nat) : Nat :=
  ∑ k ∈ Finset.range n, f (InputMachine.states step s w (k + 1)).trace

theorem Refines.countRounds_eq (h : Refines s a) (f : List Event → Nat) (n : Nat) :
    countRounds f s w n =
      ∑ k ∈ Finset.range n, f ((InputMachine.states Spec.step a w k).trace (w k)) := by
  apply Finset.sum_congr rfl
  intro k _
  rw [h.along_trace w k]

end Counting

/-- A reachable state is one of a reachable state of the abstract machine, where
the alarm time is close behind while the alarm sounds. -/
theorem Reachable.refines {s : State} (h : Reachable s) : ∃ a, Refines s a ∧ a.Sane := by
  have hsim : ∃ a, InputMachine.Reachable Spec.step
      (fun a => ∃ buttonsState, a = Spec.start buttonsState) a ∧ Refines s a := by
    apply InputMachine.Reachable.simulate _ (fun i _ _ h => step_refines i h) h
    rintro s ⟨buttonsState, rfl⟩
    exact ⟨_, ⟨buttonsState, rfl⟩, start_refines buttonsState⟩
  obtain ⟨a, ha, hR⟩ := hsim
  refine ⟨a, hR, ha.invariant ?_ fun i _ h => Spec.step_sane i h⟩
  rintro a ⟨buttonsState, rfl⟩
  exact Spec.start_sane buttonsState

/-- `main` has control exactly when no alarm sounds. -/
theorem Refines.pc_mainLoop_iff {s : State} {a : Spec} (h : Refines s a) :
    s.pc = .mainLoop ↔ a.sounding = false := by
  cases hs : a.sounding with
  | false => simp [(h.idle hs).pc]
  | true => simp [(h.sounding hs).pc]

/-! ## A run up to its alarm -/

/-- Buttons 0 and 3 together set the alarm to 0:00:01, and 59 presses of button 0
turn the seconds round to 0. -/
def setAlarm : List Sample :=
  [⟨0, 0⟩, ⟨9, 0⟩] ++ (List.replicate 59 [⟨0, 0⟩, ⟨1, 0⟩]).flatten

/-- The alarm is one second ahead, set mode has last seen button 0 down, and an
earlier alarm has left `elapsed` half periods behind. -/
def Spec.beforeAlarm (elapsed : Fin 215490) (level : Bool) : Spec :=
  ⟨⟨⟨0, 0, 0⟩, some ⟨0, 0, 1⟩⟩, 1, elapsed, level, false⟩

/-- The state one second before the first alarm. -/
def armed : State := feed step (start 0) setAlarm

theorem armed_reachable : Reachable armed :=
  (Reachable.init ⟨0, rfl⟩).feed setAlarm

theorem armed_refines : Refines armed (Spec.beforeAlarm 0 false) := by
  have hspec : feed Spec.step (Spec.start 0) setAlarm = Spec.beforeAlarm 0 false := by
    decide +kernel
  have hrefines := feed_simulate (R := Refines) (fun i _ _ h => step_refines i h)
    (start_refines 0) setAlarm
  rw [hspec] at hrefines
  exact hrefines

theorem switchOn_one (buttons : U32) : Sample.switchOn ⟨buttons, 1⟩ = true := by
  simp [Sample.switchOn]

/-- Turning the switch on one second before the alarm fires it, whatever the
buttons are, and calls the handler with the buttons that set mode saw last. -/
theorem Refines.fires_next {s : State} {elapsed : Fin 215490} {level : Bool}
    (h : Refines s (Spec.beforeAlarm elapsed level)) (buttons : U32) :
    .enterBuzzer ∈ (step ⟨buttons, 1⟩ s).trace ∧ (step ⟨buttons, 1⟩ s).pc = .buzzerLoop 1 := by
  have hfires : Spec.Fires ⟨buttons, 1⟩ (Spec.beforeAlarm elapsed level) :=
    ⟨rfl, switchOn_one buttons, rfl⟩
  constructor
  · rw [step_trace _ h, Spec.enterBuzzer_mem_trace]
    exact hfires
  · have hpc := ((step_refines ⟨buttons, 1⟩ h).sounding ((Spec.step_sounding _ _).mpr hfires)).pc
    rw [Spec.step_buttons fun _ => switchOn_one buttons] at hpc
    exact hpc

theorem armed_enters (buttons : U32) : .enterBuzzer ∈ (step ⟨buttons, 1⟩ armed).trace :=
  (armed_refines.fires_next buttons).1

theorem armed_calls (buttons : U32) : (step ⟨buttons, 1⟩ armed).pc = .buzzerLoop 1 :=
  (armed_refines.fires_next buttons).2

end RelojDespertador.Final2
