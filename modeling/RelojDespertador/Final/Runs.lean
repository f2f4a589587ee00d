import RelojDespertador.Final.Refinement

/-!
# Runs of the Final firmware

What a round counts, when it fires the alarm and when it captures one, read off
the abstract machine and carried over to the runs of the firmware.
-/

namespace RelojDespertador.Final

open InputMachine
open Panel (rising waitTrace programTrace isDigit)

namespace Spec

/-- The round of `i` fires the alarm. -/
def Fires (i : Sample) (a : Spec) : Prop :=
  a.mode.pc = .mainLoop ∧ i.switchOn = true ∧ a.clock.tick.AtAlarm

/-- The round of `i` waits for the timer in `main`. -/
def Waits (i : Sample) (a : Spec) : Prop := a.mode.pc = .mainLoop ∧ i.switchOn = true

variable (i : Sample) (a : Spec)

/-- A round of the handler shows digits, counts a second and may leave. -/
theorem not_mem_toneTrace {e : Event} (he : e = .leds 1023 ∨ e = .enterBuzzer) (k : Fin 3000) :
    e ∉ a.toneTrace k := by
  have htime (t : TimeOfDay) : e ∉ timeTrace t := by
    rcases he with rfl | rfl <;> exact not_mem_timeTrace rfl
  have hleave : e ∉ (if k.val + 1 < 3000 then [] else leaveTrace) := by
    rcases he with rfl | rfl <;> split_ifs <;> simp [leaveTrace]
  simp only [toneTrace, List.mem_append, htime, hleave, or_false]
  rcases he with rfl | rfl <;> simp

/-- A round of `main` lights the LEDs and enters the handler exactly when it fires the alarm. -/
theorem mem_mainTrace_iff {e : Event} (he : e = .leds 1023 ∨ e = .enterBuzzer) :
    e ∈ a.mainTrace i ↔ i.switchOn = true ∧ a.clock.tick.AtAlarm := by
  have htime (t : TimeOfDay) : e ∉ timeTrace t := by
    rcases he with rfl | rfl <;> exact not_mem_timeTrace rfl
  have hset (down t) : e ∉ setTrace down t := by
    rcases he with rfl | rfl <;> exact not_mem_setTrace rfl (by simp)
  have henter : e ∈ enterTrace := by
    rcases he with rfl | rfl <;> simp [enterTrace]
  have hwait (n : Nat) : e ∉ waitTrace n := by
    rcases he with rfl | rfl <;> simp [waitTrace]
  have hdark : e ≠ .tick ∧ e ≠ .leds 0#32 := by
    rcases he with rfl | rfl <;> simp
  simp only [mainTrace]
  cases i.switchOn <;> cases TimerWithClock.Spec.dismisses i a.toSpec <;>
    cases TimerWithClock.Spec.timesOut a.toSpec <;> by_cases hat : a.clock.tick.AtAlarm <;>
    simp [hat, htime, hset, hwait, hdark, henter]

theorem mem_trace_iff_fires {e : Event} (he : e = .leds 1023 ∨ e = .enterBuzzer) :
    e ∈ a.trace i ↔ a.Fires i := by
  rcases a.mode_cases with ⟨k, hk⟩ | hmain
  · rw [trace_tone hk]
    have hpc : ¬ a.mode.pc = .mainLoop := fun hpc => Mode.pc_eq_mainLoop_iff.mp hpc k hk
    exact iff_of_false (not_mem_toneTrace a he k) fun hfires => hpc hfires.1
  · rw [trace_main hmain, mem_mainTrace_iff i a he, Fires, and_iff_right hmain]

/-- The alarm is captured in set mode only, and exactly when the bit of button 3 rose. -/
theorem action_mem_trace (k : Fin 4) :
    .action k ∈ a.trace i ↔
      a.mode.pc = .mainLoop ∧ i.switchOn = false ∧ rising a.buttons i.buttons k = true := by
  have htime (t : TimeOfDay) : Event.action k ∉ timeTrace t := not_mem_timeTrace rfl
  rcases a.mode_cases with ⟨j, hj⟩ | hmain
  · rw [trace_tone hj, hj]
    simp only [toneTrace]
    split_ifs <;> simp [htime, leaveTrace, Mode.pc]
  · rw [trace_main hmain, mainTrace, hmain]
    cases i.switchOn <;> cases TimerWithClock.Spec.dismisses i a.toSpec <;>
      cases TimerWithClock.Spec.timesOut a.toSpec <;> by_cases hat : a.clock.tick.AtAlarm <;>
      simp [hat, waitTrace, enterTrace, programTrace, htime, action_mem_setTrace]

/-! ## What a round counts -/

/-- The accesses to the timer of a wait. -/
def waitAccesses : List TimerAccess := [.poll, .write .status 1]

/-- The accesses to the timer on entering the handler. -/
def enterAccesses : List TimerAccess :=
  [.write .control 0, .write .periodl 50000, .write .periodh 0, .write .control 7]

variable {i a}

theorem counts_tone {k : Fin 3000} (h : a.mode = .tone k) :
    ticks (a.trace i) = 1 ∧ cycles (a.trace i) = 50001 ∧
      timerAccesses (a.trace i) =
        waitAccesses ++ if k.val + 1 < 3000 then [] else [.write .control 0] := by
  obtain ⟨hticks, -, hcycles, haccesses⟩ := counts_timeTrace a.clock.time.tick
  rw [trace_tone h, toneTrace]
  split_ifs <;>
    simp [hticks, hcycles, haccesses, leaveTrace, waitAccesses, Event.ticks, Event.cycles,
      Event.timerAccess]

/-- A set-mode round leaves the timer alone. -/
theorem counts_off (h : a.mode.pc = .mainLoop) (hi : i.switchOn = false) :
    ticks (a.trace i) = 0 ∧ cycles (a.trace i) = 0 ∧ timerAccesses (a.trace i) = [] := by
  obtain ⟨hticks, -, hcycles, haccesses⟩ :=
    counts_setTrace a.clock.time (rising a.buttons i.buttons)
  rw [trace_main h, mainTrace]
  cases TimerWithClock.Spec.dismisses i a.toSpec <;> cases TimerWithClock.Spec.timesOut a.toSpec <;>
    simp [hi, hticks, hcycles, haccesses, Event.ticks, Event.cycles, Event.timerAccess]

theorem counts_on (h : a.mode.pc = .mainLoop) (hi : i.switchOn = true) :
    ticks (a.trace i) = 1 ∧ cycles (a.trace i) = a.mode.expiry ∧
      timerAccesses (a.trace i) =
        waitAccesses ++ if a.clock.tick.AtAlarm then enterAccesses else [] := by
  obtain ⟨hticks, -, hcycles, haccesses⟩ := counts_timeTrace a.clock.time.tick
  rw [trace_main h, mainTrace]
  cases TimerWithClock.Spec.dismisses i a.toSpec <;> cases TimerWithClock.Spec.timesOut a.toSpec <;>
    by_cases hat : a.clock.tick.AtAlarm <;>
    simp [hi, hat, hticks, hcycles, haccesses, waitTrace, enterTrace, programTrace, waitAccesses,
      enterAccesses, Event.ticks, Event.cycles, Event.timerAccess]

/-! ## How a round moves the alarm and the timer -/

theorem not_mainLoop_of_tone {k : Fin 3000} (h : a.mode = .tone k) : a.mode.pc ≠ .mainLoop :=
  fun hpc => Mode.pc_eq_mainLoop_iff.mp hpc k h

/-- Only a capture touches the alarm. -/
theorem step_alarm_of_not_capture (h : .action 3 ∉ a.trace i) :
    (a.step i).clock.alarm = a.clock.alarm := by
  rcases a.mode_cases with ⟨k, hk⟩ | hmain
  · rw [step_tone hk]
    rfl
  · rw [step_main hmain]
    simp only [mainStep, TimerWithClock.Spec.step]
    split_ifs with hi hat
    · rfl
    · rfl
    · have hrise : ¬ rising a.buttons i.buttons 3 = true := fun hrise =>
        h ((action_mem_trace i a 3).mpr ⟨hmain, Bool.eq_false_iff.mpr hi, hrise⟩)
      exact if_neg hrise

/-- A round that counts a second makes the clock tick. -/
theorem step_clock_ticks (h : a.mode.pc = .mainLoop → i.switchOn = true) :
    (a.step i).clock = a.clock.tick := by
  rcases a.mode_cases with ⟨k, hk⟩ | hmain
  · rw [step_tone hk]
  · rw [step_main hmain]
    simp only [mainStep, TimerWithClock.Spec.step, h hmain, if_true]
    split_ifs <;> rfl

/-- The mode is no longer that of reset once an alarm has fired. -/
theorem step_afterAlarm :
    (a.step i).mode.afterAlarm = true ↔ a.mode.afterAlarm = true ∨ a.Fires i := by
  rcases a.mode_cases with ⟨k, hk⟩ | hmain
  · rw [step_tone hk, hk]
    exact iff_of_true (Mode.toneAfter_afterAlarm k) (Or.inl rfl)
  · rw [step_main hmain]
    simp only [mainStep, Fires, hmain, true_and]
    split_ifs with hi hat
    · exact iff_of_true rfl (Or.inr ⟨hi, hat⟩)
    · simp [hat]
    · simp [hi]

/-- The timer has stopped after a wait of `main` after an alarm, and stays so until an
alarm fires. -/
theorem step_stopped :
    (a.step i).mode = .stopped ↔
      (a.Waits i ∧ a.mode.afterAlarm = true ∧ ¬ a.Fires i) ∨
        (a.mode = .stopped ∧ ¬ a.Fires i) := by
  rcases a.mode_cases with ⟨k, hk⟩ | hmain
  · have hnext : Mode.toneAfter k ≠ .stopped := by
      simp only [Mode.toneAfter]
      split_ifs <;> simp
    rw [step_tone hk]
    apply iff_of_false hnext
    rintro (⟨hwaits, -⟩ | ⟨hstopped, -⟩)
    · exact not_mainLoop_of_tone hk hwaits.1
    · cases hk.symm.trans hstopped
  · rw [step_main hmain]
    simp only [mainStep, Waits, Fires, hmain, true_and]
    split_ifs with hi hat
    · simp [hi, hat]
    · cases hm : a.mode with
      | tone k => exact absurd hmain (not_mainLoop_of_tone hm)
      | seconds | stopping | stopped => simp [hi, hat, Mode.waited, Mode.afterAlarm]
    · simp [hi]

end Spec

/-- The states at the loop heads of a run, whose buttons before the loop are
`buttonsState` and whose samples are `w`. -/
def run (buttonsState : U32) (w : Nat → Sample) : Nat → State :=
  states step (start buttonsState) w

/-- The abstract states at the loop heads of a run. -/
def Spec.run (buttonsState : U32) (w : Nat → Sample) : Nat → Spec :=
  states Spec.step (Spec.start buttonsState) w

section Run

variable (buttonsState : U32) (w : Nat → Sample) (n : Nat)

theorem Spec.run_succ :
    Spec.run buttonsState w (n + 1) = (Spec.run buttonsState w n).step (w n) := rfl

/-- Along a run the firmware stays with the abstract machine. -/
theorem run_refines : Refines (run buttonsState w n) (Spec.run buttonsState w n) :=
  states_simulate (fun i _ _ h => step_refines i h) (start_refines buttonsState) w n

theorem run_trace :
    (run buttonsState w (n + 1)).trace = (Spec.run buttonsState w n).trace (w n) :=
  step_trace (w n) (run_refines buttonsState w n)

/-- The `n`-th round of the run fires the alarm. -/
def FiresAt : Prop := .enterBuzzer ∈ (run buttonsState w (n + 1)).trace

/-- The `n`-th round of the run captures the time as the alarm. -/
def CapturesAt : Prop := .action 3 ∈ (run buttonsState w (n + 1)).trace

/-- The `n`-th round of the run is one of `main` in run mode, which waits for the timer. -/
def WaitsAt : Prop := (run buttonsState w n).pc = .mainLoop ∧ (w n).switchOn = true

variable {buttonsState w n}

theorem firesAt_iff : FiresAt buttonsState w n ↔ (Spec.run buttonsState w n).Fires (w n) := by
  rw [FiresAt, run_trace, Spec.mem_trace_iff_fires _ _ (Or.inr rfl)]

theorem waitsAt_iff : WaitsAt buttonsState w n ↔ (Spec.run buttonsState w n).Waits (w n) := by
  rw [WaitsAt, (run_refines buttonsState w n).pc]
  rfl

/-- The mode tells whether an alarm has fired since reset. -/
theorem afterAlarm_iff :
    (Spec.run buttonsState w n).mode.afterAlarm = true ↔ ∃ j < n, FiresAt buttonsState w j := by
  induction n with
  | zero => simp [Spec.run, Spec.start, Mode.afterAlarm]
  | succ n ih =>
      rw [Nat.exists_lt_succ_right, ← ih, firesAt_iff, Spec.run_succ, Spec.step_afterAlarm]

end Run

end RelojDespertador.Final
