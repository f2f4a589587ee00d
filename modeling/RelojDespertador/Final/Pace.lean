import RelojDespertador.Final.Runs
import Mathlib.Algebra.BigOperators.Group.Finset.Basic
import Mathlib.Data.Nat.Count

/-!
# Clock ticks and timer cycles in the Final firmware

Both loops count a second at each expiry of the timer. An expiry takes 50000001
cycles as `init_timer` programs it and 50001 from the first alarm on, when
nobody programs it back. In run mode the clock reaches its alarm within a day,
so no stretch has enough seconds of the first kind to make up for two of the
second.
-/

namespace RelojDespertador.Final

open AlarmClock (sinceSeconds)

/-- The seconds counted by the `n` rounds of a run from the `m`-th on. -/
def ticksOver (b : U32) (w : Nat → Sample) (m n : Nat) : Nat :=
  ∑ k ∈ Finset.range n, ticks (run b w (m + k + 1)).trace

/-- The timer cycles consumed by these rounds. -/
def cyclesOver (b : U32) (w : Nat → Sample) (m n : Nat) : Nat :=
  ∑ k ∈ Finset.range n, cycles (run b w (m + k + 1)).trace

/-- The clock is not ahead of its timer by more than a second. -/
def NotAhead (b : U32) (w : Nat → Sample) (m n : Nat) : Prop :=
  50000000 * ticksOver b w m n ≤ cyclesOver b w m n + 50000000

/-- Whenever `main` has control in these rounds, the switch is on. -/
def RunMode (b : U32) (w : Nat → Sample) (m n : Nat) : Prop :=
  ∀ k < n, (run b w (m + k)).pc = .mainLoop → (w (m + k)).switchOn = true

section Run

variable {b : U32} {w : Nat → Sample} {m n k : Nat}

theorem RunMode.mono (h : RunMode b w m n) (hk : k ≤ n) : RunMode b w m k :=
  fun j hj => h j (Nat.lt_of_lt_of_le hj hk)

theorem RunMode.switchOn (h : RunMode b w m n) (hk : k < n)
    (hpc : (Spec.run b w (m + k)).mode.pc = .mainLoop) : (w (m + k)).switchOn = true :=
  h k hk ((run_refines b w (m + k)).pc.trans hpc)

/-- In run mode every round counts one second, at the price of one expiry. -/
theorem RunMode.counts (h : RunMode b w m n) (hk : k < n) :
    ticks (run b w (m + k + 1)).trace = 1 ∧
      cycles (run b w (m + k + 1)).trace = (Spec.run b w (m + k)).mode.expiry := by
  rw [run_trace]
  rcases (Spec.run b w (m + k)).mode_cases with ⟨j, hj⟩ | hmain
  · obtain ⟨hticks, hcycles, -⟩ := Spec.counts_tone (i := w (m + k)) hj
    rw [hj]
    exact ⟨hticks, hcycles⟩
  · obtain ⟨hticks, hcycles, -⟩ := Spec.counts_on hmain (h.switchOn hk hmain)
    exact ⟨hticks, hcycles⟩

/-- An alarm has fired before the `k`-th round of the stretch. -/
abbrev fired (b : U32) (w : Nat → Sample) (m k : Nat) : Prop :=
  (Spec.run b w (m + k)).mode.afterAlarm = true

theorem fired_succ (h : fired b w m k) : fired b w m (k + 1) :=
  Spec.step_afterAlarm.mpr (Or.inl h)

/-- The seconds of a stretch are its rounds. -/
theorem ticksOver_eq (h : RunMode b w m n) : ticksOver b w m n = n := by
  induction n with
  | zero => rfl
  | succ n ih =>
      rw [ticksOver, Finset.sum_range_succ, (h.counts (Nat.lt_succ_self n)).1]
      exact congrArg (· + 1) (ih (h.mono (Nat.le_succ n)))

/-- Each round of a stretch that begins after an alarm is 49950000 cycles short. -/
theorem cyclesOver_eq (h : RunMode b w m n) :
    cyclesOver b w m n + 49950000 * Nat.count (fired b w m) n = 50000001 * n := by
  induction n with
  | zero => rfl
  | succ n ih =>
      have hsum : cyclesOver b w m (n + 1) =
          cyclesOver b w m n + (Spec.run b w (m + n)).mode.expiry := by
        rw [cyclesOver, Finset.sum_range_succ, (h.counts (Nat.lt_succ_self n)).2]
        rfl
      have hstretch := ih (h.mono (Nat.le_succ n))
      rw [hsum, Mode.expiry_eq, Nat.count_succ]
      split_ifs with hfired <;> omega

/-- Before an alarm has fired, the stretch is one of `main`, and the clock gets away
from its alarm by a second a round. -/
theorem sinceSeconds_add (h : RunMode b w m n) (hquiet : ¬ fired b w m n) {t : TimeOfDay}
    (ht : (Spec.run b w m).clock.alarm = some t) :
    (Spec.run b w (m + n)).clock.alarm = some t ∧
      sinceSeconds t (Spec.run b w (m + n)).clock.time =
        sinceSeconds t (Spec.run b w m).clock.time + n := by
  induction n with
  | zero => exact ⟨ht, (Nat.add_zero _).symm⟩
  | succ n ih =>
      have hbefore : ¬ fired b w m n := fun hfired => hquiet (fired_succ hfired)
      obtain ⟨halarm, hsince⟩ := ih (h.mono (Nat.le_succ n)) hbefore
      have hclock : (Spec.run b w (m + n + 1)).clock = (Spec.run b w (m + n)).clock.tick :=
        Spec.step_clock_ticks (h.switchOn (Nat.lt_succ_self n))
      have hpc : (Spec.run b w (m + n)).mode.pc = .mainLoop := by
        cases hm : (Spec.run b w (m + n)).mode with
        | tone j => exact absurd (by rw [fired, hm]; rfl) hbefore
        | seconds | stopping | stopped => rfl
      have hat : ¬ (Spec.run b w (m + n)).clock.tick.AtAlarm := fun hat =>
        hquiet (Spec.step_afterAlarm.mpr (Or.inr ⟨hpc, h.switchOn (Nat.lt_succ_self n) hpc, hat⟩))
      rw [AlarmClock.tick_atAlarm_iff halarm] at hat
      rw [← Nat.add_assoc, hclock]
      refine ⟨(AlarmClock.tick_alarm _).trans halarm, ?_⟩
      have htick := AlarmClock.sinceSeconds_tick t (Spec.run b w (m + n)).clock.time
      have hlt := AlarmClock.sinceSeconds_lt t (Spec.run b w (m + n)).clock.time
      rw [AlarmClock.tick_time]
      omega

/-- In run mode an alarm fires within a day. -/
theorem lt_of_not_fired (h : RunMode b w m n) (hquiet : ¬ fired b w m n) : n < 86400 := by
  obtain ⟨t, ht, -⟩ := Option.map_eq_some_iff.mp (run_refines b w m).alarma
  have hlt := AlarmClock.sinceSeconds_lt t (Spec.run b w (m + n)).clock.time
  have hsince := (sinceSeconds_add h hquiet ht).2
  omega

/-- All but a day of the rounds of a stretch begin after an alarm. -/
theorem le_count_fired (h : RunMode b w m n) : n ≤ 86400 + Nat.count (fired b w m) n := by
  induction n with
  | zero => exact Nat.zero_le _
  | succ n ih =>
      have hstretch := ih (h.mono (Nat.le_succ n))
      rw [Nat.count_succ]
      split_ifs with hfired
      · omega
      · have hday := lt_of_not_fired (h.mono (Nat.le_succ n)) hfired
        omega

/-- Within a second of the timer means at most one round after an alarm. -/
theorem notAhead_iff_count (h : RunMode b w m n) :
    NotAhead b w m n ↔ Nat.count (fired b w m) n ≤ 1 := by
  have hcycles := cyclesOver_eq h
  have hday := le_count_fired h
  have hcount : Nat.count (fired b w m) n ≤ n := Nat.count_le (fired b w m)
  rw [NotAhead, ticksOver_eq h]
  omega

/-- Once an alarm has fired, all further rounds count. -/
theorem count_fired_le_one_iff :
    Nat.count (fired b w m) n ≤ 1 ↔ ∀ k, k + 1 < n → ¬ fired b w m k := by
  constructor
  · intro hcount k hk hfired
    have hmono : Nat.count (fired b w m) (k + 2) ≤ Nat.count (fired b w m) n :=
      Nat.count_monotone _ hk
    rw [Nat.count_succ, Nat.count_succ, if_pos hfired, if_pos (fired_succ hfired)] at hmono
    omega
  · intro hlast
    cases n with
    | zero => exact Nat.zero_le 1
    | succ n =>
        have hzero : Nat.count (fired b w m) n = 0 := by
          rw [Nat.count_iff_forall_not]
          exact fun k hk => hlast k (Nat.succ_lt_succ hk)
        rw [Nat.count_succ, hzero]
        split_ifs <;> omega

end Run

/-- In run mode the clock is not ahead of its timer exactly as long as no round but
the last begins after an alarm has fired. -/
theorem notAhead_iff (b : U32) (w : Nat → Sample) (m n : Nat) (h : RunMode b w m n) :
    NotAhead b w m n ↔ ∀ k, k + 1 < n → ¬ ∃ j < m + k, FiresAt b w j := by
  rw [notAhead_iff_count h, count_fired_le_one_iff]
  exact forall₂_congr fun _ _ => not_congr afterAlarm_iff

/-! ## A day of run mode from reset -/

/-- The switch is on from reset, and nobody touches the buttons. -/
def switchedOn (_ : Nat) : Sample := ⟨0, 1⟩

theorem switchedOn_runMode (n : Nat) : RunMode 0 switchedOn 0 n := by
  intro k _ _
  change Sample.switchOn ⟨0, 1⟩ = true
  decide

theorem notAhead_iff_switchedOn :
    NotAhead 0 switchedOn 0 86402 ↔
      ∀ k, k + 1 < 86402 → ¬ ∃ j < 0 + k, FiresAt 0 switchedOn j :=
  notAhead_iff 0 switchedOn 0 86402 (switchedOn_runMode 86402)

/-- The alarm goes off within a day. Two rounds after it the clock is ahead. -/
theorem switchedOn_ahead :
    RunMode 0 switchedOn 0 86402 ∧ ¬ NotAhead 0 switchedOn 0 86402 := by
  have hfired : fired 0 switchedOn 0 86400 := by
    by_contra hquiet
    exact absurd (lt_of_not_fired (switchedOn_runMode 86400) hquiet) (Nat.lt_irrefl _)
  refine ⟨switchedOn_runMode 86402, ?_⟩
  rw [notAhead_iff_count (switchedOn_runMode 86402), count_fired_le_one_iff]
  intro hlast
  exact hlast 86400 (by decide) hfired

end RelojDespertador.Final
