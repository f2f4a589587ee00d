import RelojDespertador.TimerWithC.Refinement
import RelojDespertador.Panel.Captured

/-!
# Runs of the TimerWithC firmware

The events of a round, read off the abstract machine and carried over to the
runs of the firmware, and what the machine remembers of the samples.
-/

namespace RelojDespertador.TimerWithC

open InputMachine Panel

namespace Spec

variable (i : Sample) (a : Spec)

/-- The events that are neither digits nor button branches. -/
theorem mem_trace_iff {e : Event} (hdigit : isDigit e = false) (haction : ∀ k, e ≠ .action k) :
    e ∈ a.trace i ↔
      (e = .leds 0 ∧ a.lit = true ∧ a.dismisses i = true) ∨
      (a.counts i = true ∧ (e ∈ waitTrace 50000000 ∨ e = .tick)) ∨
      (a.lights i = true ∧ e = .leds 0x3FF) := by
  have htime (t : TimeOfDay) : e ∉ timeTrace t := not_mem_timeTrace hdigit
  have hset (down t) : e ∉ setTrace down t := not_mem_setTrace hdigit haction
  simp only [trace]
  cases i.switchOn <;> cases a.lit <;> cases a.dismisses i <;> cases a.counts i <;>
    cases a.lights i <;> simp [htime, hset, or_assoc]

theorem leds_mem_trace : .leds 0x3FF ∈ a.trace i ↔ a.lights i = true := by
  rw [mem_trace_iff i a rfl (by simp)]
  simp [waitTrace]

theorem leds_zero_mem_trace : .leds 0 ∈ a.trace i ↔ a.lit = true ∧ a.dismisses i = true := by
  rw [mem_trace_iff i a rfl (by simp)]
  simp [waitTrace]

theorem tick_mem_trace : .tick ∈ a.trace i ↔ a.counts i = true := by
  rw [mem_trace_iff i a rfl (by simp)]
  simp

/-- The branch of a button runs in set mode only, and exactly when its bit rose. -/
theorem action_mem_trace (k : Fin 4) :
    .action k ∈ a.trace i ↔ i.switchOn = false ∧ a.down i k = true := by
  have htime (t : TimeOfDay) : Event.action k ∉ timeTrace t := not_mem_timeTrace rfl
  simp only [trace]
  cases i.switchOn <;> cases a.lit <;> cases a.dismisses i <;> cases a.counts i <;>
    cases a.lights i <;> simp [waitTrace, htime, action_mem_setTrace]

variable {i a}

/-- A press of button 3 in set mode sets the alarm to the time. -/
theorem step_capture (hi : i.switchOn = false) (hdown : a.down i 3 = true) :
    (a.step i).clock.alarm = some (a.step i).clock.time := by
  simp [step, nextClock, hi, AlarmClock.press, hdown]

/-- Nothing else touches the alarm. -/
theorem step_alarm_of_not_capture (h : .action 3 ∉ a.trace i) :
    (a.step i).clock.alarm = a.clock.alarm := by
  cases hi : i.switchOn with
  | true => exact nextClock_alarm_on hi a
  | false =>
      have hdown : a.down i 3 = false := by
        apply Bool.eq_false_iff.mpr
        intro hdown
        exact h ((action_mem_trace i a 3).mpr ⟨hi, hdown⟩)
      simp [step, nextClock, hi, AlarmClock.press, hdown]

end Spec

/-- The states at the loop heads of a run. Before the loop it reads `boot`, and in
round `n` it reads `w n`. -/
def run (boot : Sample) (w : Nat → Sample) : Nat → State :=
  InputMachine.states step (start boot) w

/-- The abstract states at the loop heads of a run. -/
def Spec.run (boot : Sample) (w : Nat → Sample) : Nat → Spec :=
  InputMachine.states Spec.step (Spec.start boot) w

theorem Reachable.refines {s : State} (h : Reachable s) : ∃ a, Refines s a := by
  have hstart : ∀ s, (∃ boot, s = start boot) →
      ∃ a, (∃ boot, a = Spec.start boot) ∧ Refines s a := by
    rintro s ⟨boot, rfl⟩
    exact ⟨_, ⟨boot, rfl⟩, start_refines boot⟩
  obtain ⟨a, -, hR⟩ :=
    InputMachine.Reachable.simulate hstart (fun i _ _ h => step_refines i h) h
  exact ⟨a, hR⟩

section Run

variable (boot : Sample) (w : Nat → Sample) (n : Nat)

theorem run_refines : Refines (run boot w n) (Spec.run boot w n) :=
  states_simulate (R := Refines) (fun i _ _ h => step_refines i h) (start_refines boot) w n

theorem run_trace : (run boot w (n + 1)).trace = (Spec.run boot w n).trace (w n) :=
  step_trace (w n) (run_refines boot w n)

theorem Spec.run_sane : (Spec.run boot w n).Sane :=
  states_invariant (P := Spec.Sane) (Spec.start_sane boot) (fun i _ h => Spec.step_sane i h) w n

/-- The machine remembers the sample of the round before. -/
theorem run_last : (Spec.run boot w n).last = previous boot w n := by
  cases n with
  | zero => rfl
  | succ n => rfl

/-- The switch register has moved when it has ever differed from its value before
the loop. -/
theorem run_moved_iff : (Spec.run boot w n).moved = true ↔ ∃ k < n, (w k).switch ≠ boot.switch := by
  rw [← exists_ne_previous_iff Sample.switch]
  induction n with
  | zero =>
      constructor
      · intro h
        cases h
      · rintro ⟨k, hk, -⟩
        exact absurd hk (Nat.not_lt_zero k)
  | succ n ih =>
      change (Spec.run boot w n).moves (w n) = true ↔ _
      rw [Spec.moves, run_last, Bool.or_eq_true, ih, bne_iff_ne]
      constructor
      · rintro (⟨k, hk, hne⟩ | hne)
        · exact ⟨k, Nat.lt_succ_of_lt hk, hne⟩
        · exact ⟨n, Nat.lt_succ_self n, hne⟩
      · rintro ⟨k, hk, hne⟩
        rcases Nat.lt_succ_iff_lt_or_eq.mp hk with hlt | rfl
        · exact Or.inl ⟨k, hlt, hne⟩
        · exact Or.inr hne

/-- Round `n` counts when the switch is on and its register has ever moved. -/
theorem tick_mem_iff : .tick ∈ (run boot w (n + 1)).trace ↔
    (w n).switchOn = true ∧ ∃ k ≤ n, (w k).switch ≠ boot.switch := by
  have hmoves : (Spec.run boot w n).moves (w n) = (Spec.run boot w (n + 1)).moved := rfl
  rw [run_trace, Spec.tick_mem_trace, Spec.counts, hmoves, Bool.and_eq_true, run_moved_iff,
    and_comm]
  simp only [Nat.lt_succ_iff]

end Run

/-! ## When the clock counts

`counting` is set by a change of the switch register, and the value that the
first sample is compared with is read before the loop. -/

/-- Round `n` counts a second if and only if it finds the switch on. -/
def FollowsSwitch (boot : Sample) (w : Nat → Sample) (n : Nat) : Prop :=
  .tick ∈ (run boot w (n + 1)).trace ↔ (w n).switchOn = true

/-- The clock counts exactly when the switch is on, as far as it is off or its
register has differed from its value before the loop. -/
theorem followsSwitch_iff (boot : Sample) (w : Nat → Sample) (n : Nat) :
    FollowsSwitch boot w n ↔
      (w n).switchOn = false ∨ ∃ k ≤ n, (w k).switch ≠ boot.switch := by
  rw [FollowsSwitch, tick_mem_iff]
  cases (w n).switchOn <;> simp

/-- Powered up with the switch on, the clock never counts until it is turned off. -/
theorem powered_on_stands_still :
    Sample.switchOn ⟨0, 1⟩ = true ∧ .tick ∉ (run ⟨0, 1⟩ (fun _ => ⟨0, 1⟩) 1).trace ∧
      ¬ FollowsSwitch ⟨0, 1⟩ (fun _ => ⟨0, 1⟩) 0 := by
  have hon : Sample.switchOn ⟨0, 1⟩ = true := by decide
  have hstill : .tick ∉ (run ⟨0, 1⟩ (fun _ => ⟨0, 1⟩) 1).trace := by
    rw [tick_mem_iff]
    rintro ⟨-, k, -, hne⟩
    exact hne rfl
  exact ⟨hon, hstill, fun hfollows => hstill (hfollows.mpr hon)⟩

end RelojDespertador.TimerWithC
