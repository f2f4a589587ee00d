import RelojDespertador.TimerWithClock.Runs

/-!
# Which presses the TimerWithClock firmware sees

The edge detector remembers the buttons of the last set-mode round, because
`prev_buttons_state` is refreshed in the set-mode branch only. A press made
while the clock runs is therefore seen when the switch is turned off with the
button still down, and one that set mode has seen is not seen again after a
release in run mode.
-/

namespace RelojDespertador.TimerWithClock

open InputMachine Panel

/-- The buttons of the round before, and for the first round those before the loop. -/
def previousSample (buttonsState : U32) (w : Nat → Sample) : Nat → U32
  | 0 => buttonsState
  | n + 1 => (w n).buttons

/-- The buttons of the last round whose switch was off, and until there is one
those before the loop. -/
def lastSetSample (buttonsState : U32) (w : Nat → Sample) : Nat → U32
  | 0 => buttonsState
  | n + 1 => if (w n).switchOn then lastSetSample buttonsState w n else (w n).buttons

/-- In round `n` the branch of button `k` runs exactly when its bit is 1 now and
was 0 in the sample of the round before. -/
def FollowsEdge (buttonsState : U32) (w : Nat → Sample) (n : Nat) (k : Fin 4) : Prop :=
  .action k ∈ (run buttonsState w (n + 1)).trace ↔
    (w n).buttons.getLsbD k = true ∧ (previousSample buttonsState w n).getLsbD k = false

section Run

variable (b : U32) (w : Nat → Sample) (n : Nat)

theorem run_buttons : (Spec.run b w n).buttons = lastSetSample b w n := by
  induction n with
  | zero => rfl
  | succ n ih =>
      change (Spec.step (w n) (Spec.run b w n)).buttons = _
      rw [Spec.step_buttons, ih]
      rfl

/-- What the branch of a button depends on in the samples of the run. -/
theorem action_mem_iff (k : Fin 4) : .action k ∈ (run b w (n + 1)).trace ↔
    (w n).switchOn = false ∧ (w n).buttons.getLsbD k = true ∧
      (lastSetSample b w n).getLsbD k = false := by
  rw [run_trace, Spec.action_mem_trace, run_buttons]
  simp [rising]

end Run

/-- A set-mode round follows the edge of a button exactly when the button is up,
or its bit was the same in the last set-mode round and in the round before. -/
theorem followsEdge_iff (b : U32) (w : Nat → Sample) (n : Nat) (k : Fin 4)
    (hi : (w n).switchOn = false) :
    FollowsEdge b w n k ↔
      (w n).buttons.getLsbD k = false ∨
        (lastSetSample b w n).getLsbD k = (previousSample b w n).getLsbD k := by
  rw [FollowsEdge, action_mem_iff, hi]
  cases (w n).buttons.getLsbD k <;> cases (lastSetSample b w n).getLsbD k <;>
    cases (previousSample b w n).getLsbD k <;> simp

/-- Button 0 goes down in the first round, in set mode. -/
theorem followsEdge_first :
    FollowsEdge 0 (fun _ => ⟨1, 0⟩) 0 0 ↔
      (1 : U32).getLsbD 0 = false ∨
        (lastSetSample 0 (fun _ => ⟨1, 0⟩) 0).getLsbD 0 =
          (previousSample 0 (fun _ => ⟨1, 0⟩) 0).getLsbD 0 :=
  followsEdge_iff 0 (fun _ => ⟨1, 0⟩) 0 0 (by decide)

/-- Button 3 goes down while the clock runs, and the switch is turned off with
the button still down. -/
def heldOver (n : Nat) : Sample := if n = 0 then ⟨8, 1⟩ else ⟨8, 0⟩

/-- Set mode then captures the alarm, although button 3 was down in the round before. -/
theorem heldOver_replayed :
    (heldOver 1).switchOn = false ∧ .action 3 ∈ (run 0 heldOver 2).trace ∧
      (previousSample 0 heldOver 1).getLsbD 3 = true ∧ ¬ FollowsEdge 0 heldOver 1 3 := by
  have hi : (heldOver 1).switchOn = false := by decide
  have haction : .action 3 ∈ (run 0 heldOver 2).trace :=
    (action_mem_iff 0 heldOver 1 3).mpr ⟨hi, by decide, by decide⟩
  refine ⟨hi, haction, by decide, ?_⟩
  intro hedge
  exact absurd (hedge.mp haction).2 (by decide)

end RelojDespertador.TimerWithClock
