import RelojDespertador.Final.Runs
import RelojDespertador.TimerWithClock.Runs

/-!
# An alarm nobody has set in the Final firmware

The alarm triple starts as 0:00:00, which is a time of day. Until a capture the
clock therefore has an alarm at midnight, and the round of `main` that turns
23:59:59 into it fires.
-/

namespace RelojDespertador.Final

/-- The `n`-th round neither writes 1023 to the LEDs nor calls `handle_pwm_buzzer`. -/
def QuietAt (buttonsState : U32) (w : Nat → Sample) (n : Nat) : Prop :=
  .leds 1023 ∉ (run buttonsState w (n + 1)).trace ∧
    .enterBuzzer ∉ (run buttonsState w (n + 1)).trace

/-- The `n`-th round is one of `main` in run mode, and it begins at 23:59:59. -/
def TurnsMidnightAt (buttonsState : U32) (w : Nat → Sample) (n : Nat) : Prop :=
  WaitsAt buttonsState w n ∧ (run buttonsState w n).hora = ⟨23, 59, 59⟩

/-- The second before midnight. -/
theorem tick_eq_midnight_iff (t : TimeOfDay) : t.tick = ⟨0, 0, 0⟩ ↔ t = ⟨23, 59, 59⟩ := by
  rw [← MixedRadix.value_injective.eq_iff, ← MixedRadix.value_injective.eq_iff (a := t),
    t.value_tick]
  have hlt := t.value_lt
  change (t.value + 1) % (24 * 60 * 60) = 0 ↔ t.value = 86399
  omega

section Run

variable {b : U32} {w : Nat → Sample} {n : Nat}

theorem quietAt_iff : QuietAt b w n ↔ ¬ (Spec.run b w n).Fires (w n) := by
  rw [QuietAt, run_trace, Spec.mem_trace_iff_fires _ _ (Or.inl rfl),
    Spec.mem_trace_iff_fires _ _ (Or.inr rfl), and_self]

/-- Until the first capture the alarm is midnight. -/
theorem alarm_eq_midnight (h : ∀ k < n, ¬ CapturesAt b w k) :
    (Spec.run b w n).clock.alarm = some ⟨0, 0, 0⟩ := by
  induction n with
  | zero => rfl
  | succ n ih =>
      have hn := h n (Nat.lt_succ_self n)
      rw [CapturesAt, run_trace] at hn
      exact (Spec.step_alarm_of_not_capture hn).trans (ih fun k hk => h k (Nat.lt_succ_of_lt hk))

theorem turnsMidnightAt_iff : TurnsMidnightAt b w n ↔
    (Spec.run b w n).Waits (w n) ∧ (Spec.run b w n).clock.time = ⟨23, 59, 59⟩ := by
  have hmidnight : (⟨23, 59, 59⟩ : Hora) = Hora.ofTime ⟨23, 59, 59⟩ := rfl
  rw [TurnsMidnightAt, waitsAt_iff, (run_refines b w n).hora, hmidnight,
    Hora.ofTime_injective.eq_iff]

/-- Before the first capture the round that fires is the one that turns midnight. -/
theorem quietAt_iff_not_midnight (h : ∀ k < n, ¬ CapturesAt b w k) :
    QuietAt b w n ↔ ¬ TurnsMidnightAt b w n := by
  have hat : (Spec.run b w n).clock.tick.AtAlarm ↔
      (Spec.run b w n).clock.time = ⟨23, 59, 59⟩ := by
    change (Spec.run b w n).clock.alarm = some (Spec.run b w n).clock.time.tick ↔ _
    rw [alarm_eq_midnight h, Option.some.injEq, eq_comm, tick_eq_midnight_iff]
  rw [quietAt_iff, turnsMidnightAt_iff, Spec.Fires, Spec.Waits, hat, and_assoc]

end Run

/-- While no alarm has been captured, a run stays quiet exactly as long as no round
of `main` in run mode begins at 23:59:59. -/
theorem quiet_iff_never_midnight (b : U32) (w : Nat → Sample) (n : Nat)
    (h : ∀ k < n, ¬ CapturesAt b w k) :
    (∀ k ≤ n, QuietAt b w k) ↔ ∀ k ≤ n, ¬ TurnsMidnightAt b w k :=
  forall₂_congr fun _ hk =>
    quietAt_iff_not_midnight fun j hj => h j (Nat.lt_of_lt_of_le hj hk)

/-! ## The time set to the second before midnight, and no alarm -/

/-- 59 presses turn the clock from midnight to 23:59:59, button 3 is left alone, and
then the switch is turned on. -/
def nearMidnight (n : Nat) : Sample := TimerWithClock.untilMidnight.tail.getD n ⟨0, 1⟩

theorem nearMidnight_spec : Spec.run 0 nearMidnight 118 =
    ⟨⟨⟨⟨23, 59, 59⟩, some ⟨0, 0, 0⟩⟩, 3, none, false⟩, .seconds⟩ := by
  decide +kernel

/-- Button 3 stays up. -/
theorem nearMidnight_buttons : ∀ n ≤ 118, (nearMidnight n).buttons.getLsbD 3 = false := by
  decide +kernel

theorem nearMidnight_not_captures {k : Nat} (h : k ≤ 118) : ¬ CapturesAt 0 nearMidnight k := by
  rw [CapturesAt, run_trace, Spec.action_mem_trace]
  rintro ⟨-, -, hrise⟩
  have hup := nearMidnight_buttons k h
  have hdown := (Bool.and_eq_true_iff.mp hrise).1
  exact Bool.false_ne_true (hup.symm.trans hdown)

theorem quiet_iff_never_midnight_nearMidnight :
    (∀ k ≤ 118, QuietAt 0 nearMidnight k) ↔ ∀ k ≤ 118, ¬ TurnsMidnightAt 0 nearMidnight k :=
  quiet_iff_never_midnight 0 nearMidnight 118 fun _ hk => nearMidnight_not_captures hk.le

/-- Midnight sets off an alarm that nobody has set. -/
theorem nearMidnight_fires :
    (∀ k ≤ 118, ¬ CapturesAt 0 nearMidnight k) ∧ ¬ QuietAt 0 nearMidnight 118 := by
  refine ⟨fun k hk => nearMidnight_not_captures hk, ?_⟩
  rw [quietAt_iff, nearMidnight_spec]
  have hfires : Spec.Fires (nearMidnight 118)
      ⟨⟨⟨⟨23, 59, 59⟩, some ⟨0, 0, 0⟩⟩, 3, none, false⟩, .seconds⟩ :=
    ⟨rfl, by decide, by decide⟩
  exact not_not_intro hfires

end RelojDespertador.Final
