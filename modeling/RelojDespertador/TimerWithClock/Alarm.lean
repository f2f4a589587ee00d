import RelojDespertador.TimerWithClock.Runs

/-!
# When the alarm of the TimerWithClock firmware fires

The alarm test carries the conjunct `!alarma_activa`, and an alarm stays active
for up to 30 rounds after it has fired. Within such a window the seconds digit
of the clock has moved on from the alarm time by at least one and at most 30
places when a tick is tested, whatever the user pauses, sets or captures in
between, so the conjunct is never what decides.
-/

namespace RelojDespertador.TimerWithClock

open InputMachine Panel

/-- Round `n` of a run runs the button-4 branch, which copies the time to the alarm. -/
def Captures (r : Nat → State) (n : Nat) : Prop := .action 3 ∈ (r (n + 1)).trace

/-- The switch is on in round `n`, and its tick brings the clock to the time
captured last. -/
def AlarmDue (r : Nat → State) (w : Nat → Sample) (n : Nat) : Prop :=
  (w n).switchOn = true ∧ .tick ∈ (r (n + 1)).trace ∧
    ∃ j, Latest (Captures r) n j ∧ (r (n + 1)).hora = (r (j + 1)).alarma

/-- The guard `!alarma_activa` of a run swallows no alarm. -/
structure SwallowsNothing (r : Nat → State) (w : Nat → Sample) : Prop where
  leds_iff : ∀ n, .leds 0x3FF ∈ (r (n + 1)).trace ↔ AlarmDue r w n
  /-- When the rest of the alarm test holds, the guard holds. -/
  guard : ∀ n, ((freshTrace (r n)).loopBody (w n)).alarmMatches = true →
    (w n).switchOn = true → ((freshTrace (r n)).loopBody (w n)).alarmaActiva = false
  /-- Captures are set-mode rounds, and they copy the time. -/
  captures : ∀ n, Captures r n →
    (w n).switchOn = false ∧ (r (n + 1)).alarma = (r (n + 1)).hora
  /-- Before the first capture the alarm triple is 255:255:255, and nothing fires. -/
  before_capture : ∀ n, (∀ j < n, ¬ Captures r j) →
    (r n).alarma = Hora.unset ∧ .leds 0x3FF ∉ (r (n + 1)).trace

section Run

variable {b : U32} {w : Nat → Sample} {n : Nat}

theorem captures_iff :
    Captures (run b w) n ↔
      (w n).switchOn = false ∧ rising (Spec.run b w n).buttons (w n).buttons 3 = true := by
  rw [Captures, run_trace]
  exact Spec.action_mem_trace _ _ 3

/-- Captures, and nothing else, set the alarm of a run. -/
theorem run_captured (b : U32) (w : Nat → Sample) :
    Captured (fun n => (run b w n).toPanel) (fun n => (Spec.run b w n).clock)
      (Captures (run b w)) where
  shows n := (run_refines b w n).1.shows
  start := rfl
  set n hcapture := by
    obtain ⟨hi, hrise⟩ := captures_iff.mp hcapture
    exact Spec.step_capture hi hrise
  keep n hcapture := by
    apply Spec.step_alarm_of_not_capture
    intro hmem
    apply hcapture
    rw [Captures, run_trace]
    exact hmem

theorem leds_mem_iff : .leds 0x3FF ∈ (run b w (n + 1)).trace ↔
    (w n).switchOn = true ∧ (Spec.run b w n).clock.tick.AtAlarm := by
  rw [run_trace]
  exact Spec.leds_mem_trace _ _

/-- The round is due to fire exactly when the abstract machine lights the lamp in it. -/
theorem alarmDue_iff : AlarmDue (run b w) w n ↔
    (w n).switchOn = true ∧ (Spec.run b w n).clock.tick.AtAlarm := by
  have hlatest := (run_captured b w).hora_eq_latest_iff (n := n)
  have hclock (hi : (w n).switchOn = true) :
      (Spec.run b w (n + 1)).clock = (Spec.run b w n).clock.tick := Spec.step_clock_running hi
  constructor
  · rintro ⟨hi, -, hdue⟩
    have hat := hlatest.mp hdue
    rw [hclock hi] at hat
    exact ⟨hi, hat⟩
  · rintro ⟨hi, hat⟩
    refine ⟨hi, ?_, hlatest.mpr ?_⟩
    · rw [run_trace, Spec.tick_mem_trace]
      exact hi
    · rw [hclock hi]
      exact hat

end Run

/-- In no run of the firmware does the guard swallow an alarm. -/
theorem guard_swallows_nothing (b : U32) (w : Nat → Sample) : SwallowsNothing (run b w) w where
  leds_iff n := leds_mem_iff.trans alarmDue_iff.symm
  guard n hmatch hi := by
    obtain ⟨h, hsane⟩ := run_refines b w n
    obtain ⟨hpanel, hcounts⟩ := loopBody_run h hi
    have hshows : Shows (runPanel (w n) (Spec.run b w n) (run b w n).toPanel)
        (Spec.run b w n).clock.tick := ⟨rfl, h.shows.alarma, rfl⟩
    rw [hpanel, hshows.alarmMatches] at hmatch
    cases hcount : Spec.countOn (Spec.run b w n).active with
    | none =>
        rw [hcount] at hcounts
        exact hcounts
    | some k => exact absurd (of_decide_eq_true hmatch) (hsane.not_atAlarm hcount)
  captures n h := ⟨(captures_iff.mp h).1, (run_captured b w).alarma_eq_hora h⟩
  before_capture n h := by
    refine ⟨(run_captured b w).alarma_eq_unset h, ?_⟩
    rw [leds_mem_iff]
    rintro ⟨-, hat⟩
    rw [AlarmClock.AtAlarm, AlarmClock.tick_alarm, (run_captured b w).alarm_eq_none h] at hat
    cases hat

end RelojDespertador.TimerWithClock
