import RelojDespertador.TimerWithC.Runs
import RelojDespertador.TimerWithClock.Runs

/-!
# The alarm light of the TimerWithC firmware

The light is a latch. A tick that reaches the alarm sets it, and button 3,
pressed while the switch is on, clears it. In a round that does both the tick
comes last, so the light stays on.
-/

namespace RelojDespertador.TimerWithC

open InputMachine Panel
open TimerWithClock (untilMidnight)

/-- Round `n` of a run runs the button-4 branch, which copies the time to the alarm. -/
def Captures (r : Nat → State) (n : Nat) : Prop := .action 3 ∈ (r (n + 1)).trace

/-- The switch is on in round `n`, and its tick brings the clock to the time
captured last. -/
def AlarmDue (r : Nat → State) (w : Nat → Sample) (n : Nat) : Prop :=
  (w n).switchOn = true ∧ .tick ∈ (r (n + 1)).trace ∧
    ∃ j, Latest (Captures r) n j ∧ (r (n + 1)).hora = (r (j + 1)).alarma

/-- The switch is on in round `n`, and button 3 is down and was up in the round before. -/
def Dismissed (boot : Sample) (w : Nat → Sample) (n : Nat) : Prop :=
  (w n).switchOn = true ∧ (w n).buttons.getLsbD 3 = true ∧
    (previous boot w n).buttons.getLsbD 3 = false

/-- The light of a run is an exact latch. -/
structure Latches (r : Nat → State) (boot : Sample) (w : Nat → Sample) : Prop where
  lit_iff : ∀ n, (r n).leds = 1023 ↔
    ∃ j < n, AlarmDue r w j ∧ ∀ k, j < k → k < n → ¬ Dismissed boot w k
  off : ∀ n, (r n).leds ≠ 1023 → (r n).leds = 0
  /-- The light comes on in a round that counts a second, after a capture. -/
  lights : ∀ n, .leds 0x3FF ∈ (r (n + 1)).trace →
    .tick ∈ (r (n + 1)).trace ∧ ∃ j < n, Captures r j
  /-- A round that turns the light off ends with it on exactly when its own tick is due. -/
  undone_iff : ∀ n, .leds 0 ∈ (r (n + 1)).trace → ((r (n + 1)).leds = 1023 ↔ AlarmDue r w n)

section Run

variable {boot : Sample} {w : Nat → Sample} {n : Nat}

/-- Captures, and nothing else, set the alarm of a run. -/
theorem run_captured (boot : Sample) (w : Nat → Sample) :
    Captured (fun n => (run boot w n).toPanel) (fun n => (Spec.run boot w n).clock)
      (Captures (run boot w)) where
  shows n := (run_refines boot w n).shows
  start := rfl
  set n hcapture := by
    rw [Captures, run_trace, Spec.action_mem_trace] at hcapture
    exact Spec.step_capture hcapture.1 hcapture.2
  keep n hcapture := by
    rw [Captures, run_trace] at hcapture
    exact Spec.step_alarm_of_not_capture hcapture

/-- The round is due to light exactly when the abstract machine lights the light in it. -/
theorem alarmDue_iff : AlarmDue (run boot w) w n ↔ (Spec.run boot w n).lights (w n) = true := by
  have hlatest := (run_captured boot w).hora_eq_latest_iff (n := n)
  have hclock : (Spec.run boot w (n + 1)).clock = (Spec.run boot w n).nextClock (w n) := rfl
  rw [hclock] at hlatest
  constructor
  · rintro ⟨hi, -, hdue⟩
    have hat := hlatest.mp hdue
    rw [← Spec.nextClock_alarm_on hi] at hat
    rw [Spec.lights, hi, Bool.true_and]
    exact decide_eq_true hat
  · intro hlights
    obtain ⟨hi, hat⟩ := Bool.and_eq_true_iff.mp hlights
    obtain ⟨hcounts, -⟩ := (Spec.run_sane boot w n).counts_of_lights hlights
    refine ⟨hi, ?_, hlatest.mpr ?_⟩
    · rw [run_trace, Spec.tick_mem_trace]
      exact hcounts
    · rw [← Spec.nextClock_alarm_on hi]
      exact of_decide_eq_true hat

theorem dismissed_iff : Dismissed boot w n ↔ (Spec.run boot w n).dismisses (w n) = true := by
  rw [Dismissed, Spec.dismisses, Spec.down, run_last, Bool.and_eq_true, rising, Bool.and_eq_true,
    Bool.not_eq_true']
  rfl

theorem leds_eq_iff : (run boot w n).leds = 1023 ↔ (Spec.run boot w n).lit = true := by
  rw [(run_refines boot w n).leds]
  cases (Spec.run boot w n).lit <;> decide

/-- One round of the light. -/
theorem lit_succ_iff : (Spec.run boot w (n + 1)).lit = true ↔
    AlarmDue (run boot w) w n ∨ ((Spec.run boot w n).lit = true ∧ ¬ Dismissed boot w n) := by
  change ((Spec.run boot w n).lights (w n) ||
    ((Spec.run boot w n).lit && !(Spec.run boot w n).dismisses (w n))) = true ↔ _
  rw [alarmDue_iff, dismissed_iff, Bool.or_eq_true, Bool.and_eq_true, Bool.not_eq_true',
    Bool.not_eq_true]

end Run

/-- The light of every run of the firmware is an exact latch. -/
theorem run_latches (boot : Sample) (w : Nat → Sample) : Latches (run boot w) boot w where
  lit_iff n := by
    rw [leds_eq_iff]
    exact latched_iff (r := fun n => (Spec.run boot w n).lit = true) Bool.false_ne_true
      (fun _ => lit_succ_iff) n
  off n hoff := by
    rw [ne_eq, leds_eq_iff, Bool.not_eq_true] at hoff
    rw [(run_refines boot w n).leds, hoff]
    rfl
  lights n hmem := by
    rw [run_trace, Spec.leds_mem_trace, ← alarmDue_iff] at hmem
    obtain ⟨-, htick, j, hj, -⟩ := hmem
    exact ⟨htick, j, hj.1, hj.2.1⟩
  undone_iff n hmem := by
    rw [run_trace, Spec.leds_zero_mem_trace, ← dismissed_iff] at hmem
    rw [leds_eq_iff, lit_succ_iff]
    constructor
    · rintro (hdue | ⟨-, hkept⟩)
      · exact hdue
      · exact absurd hmem.2 hkept
    · exact Or.inl

/-- Lit at midnight, the firmware is turned back to the second before, in set mode. -/
def turnedBack : State :=
  feed step (start ⟨0, 0⟩) (untilMidnight ++ ⟨3, 1⟩ :: untilMidnight.tail)

theorem turnedBack_refines :
    Refines turnedBack ⟨⟨⟨23, 59, 59⟩, some ⟨0, 0, 0⟩⟩, ⟨3, 0⟩, true, true⟩ := by
  have hspec : feed Spec.step (Spec.start ⟨0, 0⟩) (untilMidnight ++ ⟨3, 1⟩ :: untilMidnight.tail) =
      ⟨⟨⟨23, 59, 59⟩, some ⟨0, 0, 0⟩⟩, ⟨3, 0⟩, true, true⟩ := by
    decide +kernel
  have hrefines := feed_simulate (R := Refines) (fun i _ _ h => step_refines i h)
    (start_refines ⟨0, 0⟩) (untilMidnight ++ ⟨3, 1⟩ :: untilMidnight.tail)
  rw [hspec] at hrefines
  exact hrefines

/-- Button 3 is pressed as the switch is turned on again: the round turns the light
off, and its tick turns it on. -/
theorem turnedBack_undone :
    Reachable turnedBack ∧ .leds 0 ∈ (step ⟨8, 1⟩ turnedBack).trace ∧
      (step ⟨8, 1⟩ turnedBack).leds = 1023 := by
  refine ⟨(InputMachine.Reachable.init ⟨⟨0, 0⟩, rfl⟩).feed _, ?_, ?_⟩
  · rw [step_trace _ turnedBack_refines, Spec.leds_zero_mem_trace]
    decide
  · rw [(step_refines ⟨8, 1⟩ turnedBack_refines).leds]
    decide

end RelojDespertador.TimerWithC
