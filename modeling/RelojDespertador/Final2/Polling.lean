import RelojDespertador.Final2.Runs
import RelojDespertador.Hardware.TimerProtocol

/-!
# The Final2 firmware and its timer

The firmware programs the timer before its loop, when it enters the handler and
when the handler returns. Between these it polls and clears the timeout flag
only, so every round finds the timer armed and leaves it armed.
-/

namespace RelojDespertador.Final2

open Panel

/-- The firmware and the timer, with any number of clock cycles between the accesses. -/
def Interleaving : TimerSystem State → Prop :=
  TimerSystem.Reachable step (fun s => ∃ buttonsState, s = start buttonsState)
    fun s => timerAccesses s.trace

/-- The accesses before the first round arm the timer. -/
theorem program_start (buttonsState : U32) :
    Phase.any.program (timerAccesses (start buttonsState).trace) = some .armed := by
  rw [start_trace, timerAccesses_append, timerAccesses_timeTrace]
  rfl

/-- The accesses of a round keep the timer armed, and poll it only when it is. -/
theorem Spec.program_trace (i : Sample) (a : Spec) :
    Phase.armed.program (timerAccesses (a.trace i)) = some .armed := by
  unfold trace
  split_ifs <;> simp only [timerAccesses_append, timerAccesses_cons, timerAccesses_timeTrace,
    timerAccesses_setTrace, timerAccesses_nil, List.append_nil] <;> rfl

theorem program_round (i : Sample) (s : State) (hs : Reachable s) :
    Phase.armed.program (timerAccesses (step i s).trace) = some .armed := by
  obtain ⟨a, hrefines, -⟩ := Reachable.refines hs
  rw [step_trace i hrefines]
  exact a.program_trace i

/-- Whenever the firmware polls in `wait_for_timer`, in `main` or in the handler,
the timeout flag is set or the timer is on its way to set it. -/
theorem polls_running_timer {y : TimerSystem State} (h : Interleaving y) {rest : List TimerAccess}
    (hpoll : y.pending = .poll :: rest) :
    y.timer.timeoutOccurred = true ∨
      (y.timer.counterIsRunning = true ∧ y.timer.controlContinuous = true ∧
        y.timer.counterLoadValue ≠ 0) := by
  have harmed : Phase.armed.Holds y.timer := by
    apply TimerSystem.Reachable.armed_of_poll _ program_round h hpoll
    rintro s ⟨buttonsState, rfl⟩
    exact program_start buttonsState
  obtain ⟨hload, hrun, hcont, -⟩ := harmed
  exact Or.inr ⟨hrun, hcont, hload⟩

/-- The first poll of a run whose switch is on: the four writes of `init_timer`
have been taken in four successive cycles. -/
def firstPoll : TimerSystem State where
  software := step ⟨0, 1⟩ (start 0)
  pending := timerAccesses (step ⟨0, 1⟩ (start 0)).trace
  timer := Timer.reset |>.cycle (some (.control, 0)) |>.cycle (some (.periodl, 61568))
    |>.cycle (some (.periodh, 762)) |>.cycle (some (.control, 7))

/-- Four writes taken in four successive cycles, and on to the next round. -/
theorem Interleaving.write_four {s : State} {t : Timer} {r₁ r₂ r₃ r₄ : TimerRegister}
    {v₁ v₂ v₃ v₄ : BitVec 16}
    (h : Interleaving ⟨s, [.write r₁ v₁, .write r₂ v₂, .write r₃ v₃, .write r₄ v₄], t⟩)
    (i : Sample) :
    Interleaving ⟨step i s, timerAccesses (step i s).trace,
      t |>.cycle (some (r₁, v₁)) |>.cycle (some (r₂, v₂)) |>.cycle (some (r₃, v₃))
        |>.cycle (some (r₄, v₄))⟩ := by
  have h₁ := TimerSystem.Reachable.write h rfl
  have h₂ := TimerSystem.Reachable.write h₁ rfl
  have h₃ := TimerSystem.Reachable.write h₂ rfl
  have h₄ := TimerSystem.Reachable.write h₃ rfl
  exact TimerSystem.Reachable.round i h₄ rfl

theorem firstPoll_interleaving : Interleaving firstPoll := by
  have hstart : Interleaving ⟨start 0, timerAccesses (start 0).trace, Timer.reset⟩ :=
    TimerSystem.Reachable.start ⟨0, rfl⟩
  have haccesses : timerAccesses (start 0).trace =
      [.write .control 0, .write .periodl 61568, .write .periodh 762, .write .control 7] := by
    rw [start_trace, timerAccesses_append, timerAccesses_timeTrace]
    rfl
  rw [haccesses] at hstart
  exact hstart.write_four ⟨0, 1⟩

theorem firstPoll_polls : firstPoll.pending = [.poll, .write .status 1] := by
  change timerAccesses (step ⟨0, 1⟩ (start 0)).trace = _
  rw [step_trace _ (start_refines 0)]
  decide

theorem polls_running_timer_first :
    firstPoll.timer.timeoutOccurred = true ∨
      (firstPoll.timer.counterIsRunning = true ∧ firstPoll.timer.controlContinuous = true ∧
        firstPoll.timer.counterLoadValue ≠ 0) :=
  polls_running_timer firstPoll_interleaving firstPoll_polls

end RelojDespertador.Final2
