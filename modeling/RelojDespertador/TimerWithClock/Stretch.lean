import RelojDespertador.TimerWithClock.Runs
import RelojDespertador.Hardware.Paced

/-!
# The seconds of a stretch with the switch on

While the switch is off nobody polls the timer or clears its flag, so the flag
is set a second later and stays set. The first wait after the switch is turned
on again then returns at once, and a second is counted that has not elapsed.
-/

namespace RelojDespertador.TimerWithClock

open Panel

/-- The firmware and the timer, with any number of clock cycles between the accesses. -/
def Interleaving : TimerSystem State → Prop :=
  TimerSystem.Reachable step (fun s => ∃ buttonsState, s = start buttonsState)
    fun s => timerAccesses s.trace

/-- An interleaving watched from `y` on, all of whose rounds find the switch on. -/
abbrev Stretch (y : TimerSystem State) : Tally → TimerSystem State → Prop :=
  TimerSystem.Run step (fun s => timerAccesses s.trace) (fun s => ticks s.trace)
    (fun i => i.switchOn = true) y

/-- After no round of a stretch that begins at `y` has the clock counted more
seconds than the timer has expired since. -/
def CountsElapsed (y : TimerSystem State) : Prop :=
  ∀ c z, Stretch y c z → z.pending = [] → c.ticks ≤ c.expiries

section Rounds

variable {s : State} {i : Sample}

theorem Spec.accesses_on {a : Spec} (hi : i.switchOn = true) :
    timerAccesses (a.trace i) = [.poll, .write .status 1] := by
  simp only [trace, hi, if_true, true_and]
  cases a.dismisses i <;> cases a.timesOut <;> by_cases hat : a.clock.tick.AtAlarm <;>
    simp [hat, waitTrace, Event.timerAccess]

theorem Spec.accesses_off {a : Spec} (hi : i.switchOn = false) :
    timerAccesses (a.trace i) = [] := by
  simp only [trace, hi]
  cases a.dismisses i <;> cases a.timesOut <;> simp [Event.timerAccess]

/-- A round with the switch on waits for the timer once and counts one second. -/
theorem round_on (i : Sample) (s : State) (hi : i.switchOn = true) (hs : Reachable s) :
    Reachable (step i s) ∧ timerAccesses (step i s).trace = [.poll, .write .status 1] ∧
      ticks (step i s).trace = 1 := by
  obtain ⟨a, h, hsane⟩ := hs.refines
  refine ⟨hs.next i, ?_, ?_⟩
  · rw [step_trace i h hsane, Spec.accesses_on hi]
  · rw [step_trace i h hsane, Spec.ticks_trace, if_pos hi]

end Rounds

/-- A stale flag makes the first round of a stretch count a second that has not elapsed. -/
theorem not_countsElapsed {y : TimerSystem State} (hs : Reachable y.software) (hp : y.pending = [])
    (hflag : y.timer.timeoutOccurred = true) (hnow : y.timer.timeoutEvent = false)
    (hnext : (y.timer.cycle none).timeoutEvent = false) : ¬ CountsElapsed y := by
  intro hcounts
  obtain ⟨-, haccesses, hticks⟩ := round_on ⟨0, 1⟩ y.software (by decide) hs
  have hstart : Stretch y Tally.zero y := .refl
  have hround := hstart.round ⟨0, 1⟩ (by decide) hp
  rw [haccesses] at hround
  have hle : 0 + ticks (step ⟨0, 1⟩ y.software).trace ≤
      0 + y.timer.timeoutEvent.toNat + (y.timer.cycle none).timeoutEvent.toNat :=
    hcounts _ _ ((hround.expire rfl hflag).write rfl) rfl
  rw [hticks, hnow, hnext] at hle
  exact absurd hle (by decide)

/-- A stretch counts no second that has not elapsed, in any interleaving, exactly when
the flag is clear at its beginning, or an expiry falls on one of the next two
edges, before the flag can have been polled and cleared. -/
theorem countsElapsed_iff {y : TimerSystem State} (h : Interleaving y) (hp : y.pending = []) :
    CountsElapsed y ↔ y.timer.timeoutOccurred = false ∨ y.timer.timeoutEvent = true ∨
      (y.timer.cycle none).timeoutEvent = true := by
  have hs : Reachable y.software := h.software
  constructor
  · intro hcounts
    by_contra hstale
    simp only [not_or, Bool.not_eq_false, Bool.not_eq_true] at hstale
    exact not_countsElapsed hs hp hstale.1 hstale.2.1 hstale.2.2 hcounts
  · intro hdue c z hrun hnil
    exact hrun.ticks_le_expiries round_on hs hp hdue hnil

/-- The timer after the four writes of `init_timer` in four successive cycles. -/
def initialTimer : Timer :=
  Timer.reset |>.cycle (some (.control, 0)) |>.cycle (some (.periodl, 61567))
    |>.cycle (some (.periodh, 762)) |>.cycle (some (.control, 7))

theorem initialTimer_counting : initialTimer.Counting (49999998 + 1) where
  running := by decide
  forceReload := by decide
  counter := by decide

/-- The loop head after a round with the switch off, a second after reset. -/
def paused : TimerSystem State :=
  ⟨step ⟨0, 0⟩ (start 0), [], initialTimer.idle (49999998 + 2)⟩

theorem start_accesses : timerAccesses (start 0).trace =
    [.write .control 0, .write .periodl 61567, .write .periodh 762, .write .control 7] := by
  rw [start_panel]
  change timerAccesses (programTrace 61567 762 ++ timeTrace _) = _
  rw [timerAccesses_append, timerAccesses_timeTrace]
  rfl

theorem paused_interleaving : Interleaving paused := by
  have hstart : Interleaving ⟨start 0, timerAccesses (start 0).trace, Timer.reset⟩ :=
    TimerSystem.Reachable.start ⟨0, rfl⟩
  rw [start_accesses] at hstart
  have hinit : Interleaving ⟨start 0, [], initialTimer⟩ :=
    (((hstart.write rfl).write rfl).write rfl).write rfl
  have hround := TimerSystem.Reachable.round ⟨0, 0⟩ hinit rfl
  have hnone : timerAccesses (step ⟨0, 0⟩ (start 0)).trace = [] := by
    rw [step_trace ⟨0, 0⟩ (start_refines 0) (Spec.start_sane 0), Spec.accesses_off (by decide)]
  dsimp only at hround
  rw [hnone] at hround
  exact hround.idle _

/-- The second that passes while the switch is off sets the flag and starts over. -/
theorem paused_stale :
    paused.timer.timeoutOccurred = true ∧ paused.timer.timeoutEvent = false ∧
      (paused.timer.cycle none).timeoutEvent = false := by
  have hload : initialTimer.counterLoadValue.toNat = 49999997 + 1 + 1 := by decide
  have hperiod := initialTimer_counting.period (by decide)
  rw [hload] at hperiod
  have htimer : paused.timer = initialTimer.idle (49999998 + 2) := by rw [paused]
  rw [htimer]
  exact ⟨initialTimer_counting.expires, hperiod.not_timeoutEvent, hperiod.cycle.not_timeoutEvent⟩

theorem countsElapsed_paused :
    CountsElapsed paused ↔ paused.timer.timeoutOccurred = false ∨
      paused.timer.timeoutEvent = true ∨ (paused.timer.cycle none).timeoutEvent = true :=
  countsElapsed_iff paused_interleaving rfl

/-- The switch is turned on then, and a second is counted at once. -/
theorem paused_not_countsElapsed :
    Interleaving paused ∧ paused.pending = [] ∧ paused.software.counting = false ∧
      ¬ CountsElapsed paused := by
  obtain ⟨hflag, hnow, hnext⟩ := paused_stale
  have hs : Reachable paused.software := paused_interleaving.software
  have hoff : paused.software.counting = false := by
    change (step ⟨0, 0⟩ (start 0)).toPanel.counting = false
    rw [(step_set (start_refines 0) (by decide)).1]
    rfl
  exact ⟨paused_interleaving, rfl, hoff, not_countsElapsed hs rfl hflag hnow hnext⟩

end RelojDespertador.TimerWithClock
