import RelojDespertador.Final.Runs
import RelojDespertador.Hardware.OneShot
import RelojDespertador.TimerWithClock.Runs

/-!
# The Final firmware and its timer

The handler programs the timer for its tone and leaves it with the continuous
bit cleared. One more expiry comes, which ends one wait of `main`; nobody starts
the timer again before the next alarm fires, and a second wait never ends.
-/

namespace RelojDespertador.Final

open AlarmClock (sinceSeconds)

/-- The rounds of a run and the timer, with any number of clock cycles between the
accesses. The software is the number of rounds that have been begun. -/
def Interleaving (b : U32) (w : Nat → Sample) : TimerSystem Nat → Prop :=
  TimerSystem.Reachable (fun (_ : Unit) n => n + 1) (· = 0) fun n => timerAccesses (run b w n).trace

/-- Whenever the firmware polls the timeout flag, in `wait_for_timer` or in the
handler, it is set or the timer runs. -/
def NeverHangs (b : U32) (w : Nat → Sample) : Prop :=
  ∀ y rest, Interleaving b w y → y.pending = .poll :: rest →
    y.timer.timeoutOccurred = true ∨ y.timer.counterIsRunning = true

/-- Between two waits of `main` after an alarm another alarm fires. -/
def WaitsOncePerAlarm (b : U32) (w : Nat → Sample) : Prop :=
  ∀ p q, p < q → WaitsAt b w p → WaitsAt b w q → (∃ j < p, FiresAt b w j) →
    ∃ k, p ≤ k ∧ k < q ∧ FiresAt b w k

/-- The motion of the counter at the loop heads of a mode. -/
def Mode.motion : Mode → Motion
  | seconds => .periodic
  | tone _ => .periodic
  | stopping => .lastShot
  | stopped => .setup .none

theorem program_start (b : U32) :
    Motion.discipline.program (.setup .none) (timerAccesses (start b).trace) = some .periodic := by
  have haccesses : timerAccesses (start b).trace =
      [.write .control 0, .write .periodl 61568, .write .periodh 762, .write .control 7] := rfl
  rw [haccesses]
  decide

/-- The handler programs a timer of which nothing is known. -/
theorem program_enter :
    Motion.discipline.program (.setup .none) Spec.enterAccesses = some .periodic := by
  decide

/-- The accesses of a round lead to the motion of the next mode, unless `main` waits
for a timer that has stopped. -/
theorem Spec.program_trace {i : Sample} {a : Spec} (h : a.Waits i → a.mode ≠ .stopped) :
    Motion.discipline.program a.mode.motion (timerAccesses (a.trace i)) =
      some (a.step i).mode.motion := by
  rcases a.mode_cases with ⟨k, hk⟩ | hmain
  · rw [(counts_tone hk).2.2, step_tone hk, hk]
    simp only [Mode.toneAfter]
    split_ifs <;> rfl
  · cases hi : i.switchOn with
    | false =>
        rw [(counts_off hmain hi).2.2, step_main hmain]
        simp only [mainStep, hi]
        rfl
    | true =>
        have hlive := h ⟨hmain, hi⟩
        rw [(counts_on hmain hi).2.2, step_main hmain]
        simp only [mainStep, hi, if_true]
        cases hm : a.mode with
        | tone k => exact absurd hmain (not_mainLoop_of_tone hm)
        | stopped => exact absurd hm hlive
        | seconds | stopping => split_ifs <;> rfl

section Run

variable {b : U32} {w : Nat → Sample} {n : Nat}

/-- The timer has stopped exactly when `main` has waited after an alarm, and no
alarm has fired from that wait on. -/
theorem stopped_iff : (Spec.run b w n).mode = .stopped ↔
    ∃ p < n, (WaitsAt b w p ∧ (∃ j < p, FiresAt b w j) ∧ ¬ FiresAt b w p) ∧
      ∀ k, p < k → k < n → ¬ FiresAt b w k := by
  refine InputMachine.latched_iff (r := fun n => (Spec.run b w n).mode = .stopped)
    (by simp [Spec.run, Spec.start]) (fun n => ?_) n
  rw [waitsAt_iff, ← afterAlarm_iff, firesAt_iff]
  exact Spec.step_stopped

/-- `main` waits at most once per alarm exactly when it never waits for a stopped timer. -/
theorem waitsOncePerAlarm_iff :
    WaitsOncePerAlarm b w ↔ ∀ q, WaitsAt b w q → (Spec.run b w q).mode ≠ .stopped := by
  constructor
  · intro honce q hq hstopped
    obtain ⟨p, hpq, ⟨hp, hfired, hnot⟩, hnone⟩ := stopped_iff.mp hstopped
    obtain ⟨k, hpk, hkq, hk⟩ := honce p q hpq hp hq hfired
    rcases Nat.eq_or_lt_of_le hpk with rfl | hlt
    · exact hnot hk
    · exact hnone k hlt hkq hk
  · intro hlive p q hpq hp hq hfired
    by_contra hnone
    have hquiet (k : Nat) (hpk : p ≤ k) (hkq : k < q) : ¬ FiresAt b w k := fun hk =>
      hnone ⟨k, hpk, hkq, hk⟩
    exact hlive q hq (stopped_iff.mpr ⟨p, hpq, ⟨hp, hfired, hquiet p le_rfl hpq⟩,
      fun k hpk => hquiet k hpk.le⟩)

/-- A firmware that never waits for a stopped timer follows the motions. -/
theorem neverHangs_of_waits
    (h : ∀ q, WaitsAt b w q → (Spec.run b w q).mode ≠ .stopped) : NeverHangs b w := by
  intro y rest hy hpoll
  obtain ⟨m, q, hm, hnext⟩ := TimerSystem.Reachable.poll_allowed Motion.discipline
    (m := fun n => (Spec.run b w n).mode.motion) (.setup .none) Motion.holds_unknown
    (by rintro _ rfl; exact program_start b)
    (fun _ n _ => by
      rw [run_trace]
      exact Spec.program_trace fun hwaits => h n (waitsAt_iff.mpr hwaits))
    hy hpoll
  exact hm.live hnext

end Run

/-! ## An interleaving that waits for a stopped timer -/

/-- The timer at the loop heads of a mode, if accesses are prompt and the counter
has come to rest. -/
def Mode.Settled (t : Timer) : Mode → Prop
  | seconds => t.Periodic
  | tone _ => t.Periodic
  | stopping => t.Halted ∧ t.timeoutOccurred = true
  | stopped => t.Halted ∧ t.timeoutOccurred = false

/-- Some interleaving finds the timer settled at the `n`-th loop head. -/
def Settles (b : U32) (w : Nat → Sample) (n : Nat) : Prop :=
  ∃ t, Interleaving b w ⟨n, [], t⟩ ∧ (Spec.run b w n).mode.Settled t

section Settles

variable {b : U32} {w : Nat → Sample} {n : Nat} {t : Timer} {l : List TimerAccess}

theorem Interleaving.next (h : Interleaving b w ⟨n, [], t⟩) :
    Interleaving b w ⟨n + 1, timerAccesses ((Spec.run b w n).trace (w n)), t⟩ := by
  rw [← run_trace]
  exact TimerSystem.Reachable.round () h rfl

/-- Accesses that lead to a periodic counter leave one. -/
theorem Interleaving.periodic {m : Motion} (h : Interleaving b w ⟨n, l, t⟩) (hm : m.Holds t)
    (hprogram : Motion.discipline.program m l = some .periodic) :
    ∃ t', Interleaving b w ⟨n, [], t'⟩ ∧ t'.Periodic :=
  ⟨_, TimerSystem.Reachable.serve_of Motion.pollsEnd h (List.append_nil l).symm hm hprogram⟩

/-- The handler returns, and the counter comes to rest. -/
theorem Interleaving.released (h : Interleaving b w
      ⟨n, Spec.waitAccesses ++ [.write .control 0], t⟩) (ht : t.Periodic) :
    ∃ t', Interleaving b w ⟨n, [], t'⟩ ∧ t'.Halted ∧ t'.timeoutOccurred = true := by
  obtain ⟨hserved, hperiodic⟩ := TimerSystem.Reachable.serve_of (D := Motion.discipline)
    (p := .periodic) (q := .periodic) Motion.pollsEnd h rfl ht (by decide)
  have hwinding : (Timer.cycle (some (.control, 0)) _).Winding :=
    hperiodic.release (by decide) (by decide)
  obtain ⟨k, hhalted, hflag⟩ := hwinding.expires
  exact ⟨_, (TimerSystem.Reachable.write hserved rfl).idle k, hhalted, hflag⟩

/-- A wait uses up the last expiry. -/
theorem Interleaving.exhausted (h : Interleaving b w ⟨n, Spec.waitAccesses ++ l, t⟩)
    (hhalted : t.Halted) (hflag : t.timeoutOccurred = true) :
    ∃ t', Interleaving b w ⟨n, l, t'⟩ ∧ t'.Halted ∧ t'.timeoutOccurred = false := by
  have hwait := TimerSystem.Reachable.expire h rfl hflag
  obtain ⟨hhalted', hclear⟩ := hhalted.cycle.1.clear 1
  exact ⟨_, TimerSystem.Reachable.write hwait rfl, hhalted', hclear⟩

theorem settles_zero (b : U32) (w : Nat → Sample) : Settles b w 0 := by
  have hstart : Interleaving b w ⟨0, timerAccesses (start b).trace, Timer.reset⟩ :=
    TimerSystem.Reachable.start rfl
  exact hstart.periodic (Motion.holds_unknown _) (program_start b)

theorem Settles.tone (h : Settles b w n) {k : Fin 3000} (hk : (Spec.run b w n).mode = .tone k) :
    Settles b w (n + 1) := by
  obtain ⟨t, ht, hsettled⟩ := h
  have hnext := ht.next
  have hmode : (Spec.run b w (n + 1)).mode = .toneAfter k := by
    rw [Spec.run_succ, Spec.step_tone hk]
  rw [hk] at hsettled
  rw [(Spec.counts_tone hk).2.2] at hnext
  rw [Settles, hmode]
  simp only [Mode.toneAfter]
  split_ifs at hnext ⊢ with hmore
  · exact hnext.periodic (m := .periodic) hsettled (by decide)
  · exact hnext.released hsettled

/-- A set-mode round leaves the timer alone. -/
theorem Settles.off (h : Settles b w n) (hmain : (Spec.run b w n).mode.pc = .mainLoop)
    (hi : (w n).switchOn = false) : Settles b w (n + 1) := by
  obtain ⟨t, ht, hsettled⟩ := h
  have hnext := ht.next
  have hmode : (Spec.run b w (n + 1)).mode = (Spec.run b w n).mode := by
    rw [Spec.run_succ, Spec.step_main hmain]
    simp [Spec.mainStep, hi]
  rw [(Spec.counts_off hmain hi).2.2] at hnext
  exact ⟨t, hnext, by rw [hmode]; exact hsettled⟩

/-- A run-mode round of `main` needs a timer that has not stopped. -/
theorem Settles.on (h : Settles b w n) (hwaits : (Spec.run b w n).Waits (w n))
    (hlive : (Spec.run b w n).mode ≠ .stopped) : Settles b w (n + 1) := by
  obtain ⟨t, ht, hsettled⟩ := h
  obtain ⟨hmain, hi⟩ := hwaits
  have hnext := ht.next
  have hmode : (Spec.run b w (n + 1)).mode =
      if (Spec.run b w n).clock.tick.AtAlarm then .tone ⟨0, by decide⟩
      else (Spec.run b w n).mode.waited := by
    rw [Spec.run_succ, Spec.step_main hmain]
    simp only [Spec.mainStep, hi, if_true]
  rw [(Spec.counts_on hmain hi).2.2] at hnext
  rw [Settles, hmode]
  cases hm : (Spec.run b w n).mode with
  | tone k => exact absurd hmain (Spec.not_mainLoop_of_tone hm)
  | stopped => exact absurd hm hlive
  | seconds =>
      rw [hm] at hsettled
      split_ifs at hnext ⊢ with hat
      · exact hnext.periodic (m := .periodic) hsettled (by decide)
      · exact hnext.periodic (m := .periodic) hsettled (by decide)
  | stopping =>
      rw [hm] at hsettled
      obtain ⟨t', hwaited, hhalted, hclear⟩ := hnext.exhausted hsettled.1 hsettled.2
      split_ifs at hwaited ⊢ with hat
      · exact hwaited.periodic (Motion.holds_unknown t') program_enter
      · exact ⟨t', hwaited, hhalted, hclear⟩

/-- As long as `main` does not wait for a stopped timer, all rounds can be gone through. -/
theorem settles (h : ∀ k < n, WaitsAt b w k → (Spec.run b w k).mode ≠ .stopped) :
    Settles b w n := by
  induction n with
  | zero => exact settles_zero b w
  | succ n ih =>
      have hhead := ih fun k hk => h k (Nat.lt_succ_of_lt hk)
      rcases (Spec.run b w n).mode_cases with ⟨k, hk⟩ | hmain
      · exact hhead.tone hk
      · cases hi : (w n).switchOn with
        | false => exact hhead.off hmain hi
        | true =>
            have hwaits : (Spec.run b w n).Waits (w n) := ⟨hmain, hi⟩
            exact hhead.on hwaits (h n (Nat.lt_succ_self n) (waitsAt_iff.mpr hwaits))

/-- The first wait for a stopped timer hangs. -/
theorem waits_of_neverHangs (hlive : NeverHangs b w) (q : Nat) (hq : WaitsAt b w q) :
    (Spec.run b w q).mode ≠ .stopped := by
  induction q using Nat.strong_induction_on with
  | _ q ih =>
      intro hstopped
      obtain ⟨t, ht, hsettled⟩ := settles ih
      obtain ⟨hmain, hi⟩ := waitsAt_iff.mp hq
      rw [hstopped] at hsettled
      obtain ⟨hhalted, hclear⟩ := hsettled
      have hpoll := ht.next
      rw [(Spec.counts_on hmain hi).2.2] at hpoll
      rcases hlive _ _ hpoll rfl with hflag | hrunning
      · exact Bool.false_ne_true (hclear.symm.trans hflag)
      · exact Bool.false_ne_true (hhalted.stopped.symm.trans hrunning)

end Settles

/-- In every interleaving every poll finds the flag set or the timer running exactly
when `main` never waits twice after an alarm without another alarm firing. -/
theorem neverHangs_iff (b : U32) (w : Nat → Sample) :
    NeverHangs b w ↔ WaitsOncePerAlarm b w := by
  rw [waitsOncePerAlarm_iff]
  exact ⟨waits_of_neverHangs, neverHangs_of_waits⟩

/-! ## After an alarm -/

section Alarm

variable {b : U32} {w : Nat → Sample} {j n : Nat}

/-- A round that fires begins a tone at the alarm time. -/
theorem run_of_fires (h : FiresAt b w j) :
    (Spec.run b w (j + 1)).mode = .tone ⟨0, by decide⟩ ∧
      (Spec.run b w (j + 1)).clock.AtAlarm := by
  obtain ⟨hmain, hi, hat⟩ := firesAt_iff.mp h
  rw [Spec.run_succ, Spec.step_main hmain]
  simp only [Spec.mainStep, TimerWithClock.Spec.step, hi, if_true, if_pos hat]
  exact ⟨trivial, hat⟩

/-- A half period takes the clock a second further from the alarm time. -/
theorem run_succ_of_tone {k : Fin 3000} {t : TimeOfDay} (hmode : (Spec.run b w n).mode = .tone k)
    (halarm : (Spec.run b w n).clock.alarm = some t)
    (hsince : sinceSeconds t (Spec.run b w n).clock.time = k) :
    (Spec.run b w (n + 1)).mode = .toneAfter k ∧ (Spec.run b w (n + 1)).clock.alarm = some t ∧
      sinceSeconds t (Spec.run b w (n + 1)).clock.time = k + 1 := by
  have htick := AlarmClock.sinceSeconds_tick t (Spec.run b w n).clock.time
  have hk := k.isLt
  rw [Spec.run_succ, Spec.step_tone hmode]
  refine ⟨rfl, halarm, ?_⟩
  rw [AlarmClock.tick_time, htick, hsince]
  omega

/-- The tone, half period by half period. -/
theorem run_tone (h : FiresAt b w j) {k : Nat} (hk : k < 3000) :
    ∃ t, (Spec.run b w (j + 1 + k)).mode = .tone ⟨k, hk⟩ ∧
      (Spec.run b w (j + 1 + k)).clock.alarm = some t ∧
        sinceSeconds t (Spec.run b w (j + 1 + k)).clock.time = k := by
  induction k with
  | zero =>
      obtain ⟨hmode, hat⟩ := run_of_fires h
      exact ⟨_, hmode, hat, AlarmClock.sinceSeconds_self _⟩
  | succ k ih =>
      obtain ⟨t, hmode, halarm, hsince⟩ := ih (Nat.lt_of_succ_lt hk)
      obtain ⟨hmode', halarm', hsince'⟩ := run_succ_of_tone hmode halarm hsince
      exact ⟨t, hmode'.trans (dif_pos hk), halarm', hsince'⟩

/-- When the tone is over, the clock is 50 minutes past the alarm time. -/
theorem run_after_tone (h : FiresAt b w j) :
    ∃ t, (Spec.run b w (j + 3001)).mode = .stopping ∧
      (Spec.run b w (j + 3001)).clock.alarm = some t ∧
        sinceSeconds t (Spec.run b w (j + 3001)).clock.time = 3000 := by
  obtain ⟨t, hmode, halarm, hsince⟩ := run_tone h (k := 2999) (by decide)
  obtain ⟨hmode', halarm', hsince'⟩ := run_succ_of_tone hmode halarm hsince
  have hindex : j + 1 + 2999 + 1 = j + 3001 := by omega
  have hover : ¬ 2999 + 1 < 3000 := by decide
  rw [hindex] at hmode' halarm' hsince'
  exact ⟨t, hmode'.trans (Mode.toneAfter_last hover), halarm', hsince'⟩

/-- Two waits of `main` after a tone, away from the alarm time. -/
theorem hangs_of_waits_twice (hmode : (Spec.run b w n).mode = .stopping)
    (hat : ¬ (Spec.run b w n).clock.tick.AtAlarm) (hp : (w n).switchOn = true)
    (hq : (w (n + 1)).switchOn = true) : ¬ NeverHangs b w := by
  intro hlive
  have hmain : (Spec.run b w n).mode.pc = .mainLoop := by rw [hmode]; rfl
  have hstopped : (Spec.run b w (n + 1)).mode = .stopped := by
    rw [Spec.run_succ, Spec.step_main hmain]
    simp only [Spec.mainStep, hp, if_true, if_neg hat, hmode, Mode.waited]
  have hwaits : WaitsAt b w (n + 1) := by
    rw [waitsAt_iff, Spec.Waits, hstopped]
    exact ⟨rfl, hq⟩
  exact waits_of_neverHangs hlive _ hwaits hstopped

/-- With the switch on after the tone, `main` waits once and then hangs. -/
theorem hangs_after_alarm (h : FiresAt b w j) (hp : (w (j + 3001)).switchOn = true)
    (hq : (w (j + 3001 + 1)).switchOn = true) : ¬ NeverHangs b w := by
  obtain ⟨t, hmode, halarm, hsince⟩ := run_after_tone h
  refine hangs_of_waits_twice hmode ?_ hp hq
  rw [AlarmClock.tick_atAlarm_iff halarm, hsince]
  decide

end Alarm

/-- The alarm is set to midnight, the clock to the second before it, and then the
switch is turned on for good. -/
def midnightAlarm (n : Nat) : Sample := TimerWithClock.untilMidnight.getD n ⟨3, 1⟩

theorem midnightAlarm_fires : FiresAt 0 midnightAlarm 119 := by
  have hspec : Spec.run 0 midnightAlarm 119 =
      ⟨⟨⟨⟨23, 59, 59⟩, some ⟨0, 0, 0⟩⟩, 3, none, false⟩, .seconds⟩ := by
    decide +kernel
  rw [firesAt_iff, hspec]
  exact ⟨rfl, by decide, by decide⟩

/-- The second wait after that alarm never ends. -/
theorem midnightAlarm_hangs :
    FiresAt 0 midnightAlarm 119 ∧ ¬ NeverHangs 0 midnightAlarm := by
  have hon (k : Nat) (hk : 119 ≤ k) : (midnightAlarm k).switchOn = true := by
    have hlength : TimerWithClock.untilMidnight.length ≤ k := hk
    rw [midnightAlarm, List.getD_eq_getElem?_getD, List.getElem?_eq_none hlength]
    decide
  exact ⟨midnightAlarm_fires,
    hangs_after_alarm midnightAlarm_fires (hon _ (by decide)) (hon _ (by decide))⟩

end RelojDespertador.Final
