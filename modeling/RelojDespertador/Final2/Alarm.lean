import RelojDespertador.Final2.Runs
import RelojDespertador.Panel.Captured

/-!
# When the alarm of the Final2 firmware fires

The alarm test compares variables in `main` only, while the clock also ticks
in the handler. Two facts make that enough: the alarm triple is the time of
the latest capture, and during the handler the alarm time lies less than 30
seconds back, so the handler's ticks cannot reach it again.
-/

namespace RelojDespertador.Final2

open InputMachine Panel

/-- Round `n` of a run runs the button-4 branch, which copies the time to the alarm. -/
def Captures (r : Nat → State) (n : Nat) : Prop := .action 3 ∈ (r (n + 1)).trace

/-- Round `n` is one of `main` with the switch on, and its tick brings the clock
to the time captured last. -/
def AlarmDue (r : Nat → State) (w : Nat → Sample) (n : Nat) : Prop :=
  (r n).pc = .mainLoop ∧ (w n).switchOn = true ∧ .tick ∈ (r (n + 1)).trace ∧
    ∃ j, Latest (Captures r) n j ∧ (r (n + 1)).hora = (r (j + 1)).alarma

/-- Round `n` writes 1023 to the LEDs and calls `handle_pwm_buzzer`. -/
def FiresAt (r : Nat → State) (n : Nat) : Prop :=
  .leds 1023 ∈ (r (n + 1)).trace ∧ .enterBuzzer ∈ (r (n + 1)).trace

/-- The alarm of a run fires exactly when it is due. -/
structure FiresExactly (r : Nat → State) (w : Nat → Sample) : Prop where
  leds_iff : ∀ n, .leds 1023 ∈ (r (n + 1)).trace ↔ AlarmDue r w n
  enterBuzzer_iff : ∀ n, .enterBuzzer ∈ (r (n + 1)).trace ↔ AlarmDue r w n
  /-- Captures are set-mode rounds of `main`, and they copy the time. -/
  captures : ∀ n, Captures r n →
    (r n).pc = .mainLoop ∧ (w n).switchOn = false ∧ (r (n + 1)).alarma = (r (n + 1)).hora
  /-- Before the first capture the alarm triple is 255:255:255, and nothing fires. -/
  before_capture : ∀ n, (∀ j < n, ¬ Captures r j) →
    (r n).alarma = Hora.unset ∧ ¬ FiresAt r n
  /-- The clock never shows 255:255:255. -/
  hora_ne_unset : ∀ n, (r n).hora ≠ Hora.unset
  /-- A tick inside the handler does not land on the captured time. -/
  handler_tick : ∀ n j, (r n).pc ≠ .mainLoop → .tick ∈ (r (n + 1)).trace →
    Latest (Captures r) n j → (r (n + 1)).hora ≠ (r (j + 1)).alarma
  /-- Two successive firings in run mode are a day of ticks apart. -/
  day_between : ∀ p q, p < q → FiresAt r p → FiresAt r q →
    (∀ k, p < k → k < q → ¬ FiresAt r k) →
    (∀ k, p < k → k < q → (r k).pc = .mainLoop → (w k).switchOn = true) →
    ∑ k ∈ Finset.Ioc p q, ticks (r (k + 1)).trace = 86400

namespace Spec

variable {i : Sample} {a : Spec}

/-- Outside set mode the distance from a time grows by the seconds counted. -/
theorem sinceSeconds_step (h : a.sounding = false → i.switchOn = true) (t : TimeOfDay) :
    AlarmClock.sinceSeconds t (a.step i).clock.time =
      (AlarmClock.sinceSeconds t a.clock.time + ticks (a.trace i)) % 86400 := by
  have hvalue := step_value h
  have ht := t.value_lt
  have hlt := a.clock.time.value_lt
  simp only [AlarmClock.sinceSeconds, hvalue]
  omega

theorem ticks_le_one : ticks (a.trace i) ≤ 1 := by
  rw [ticks_trace]
  split_ifs <;> omega

/-- No tick of a sounding alarm lands on the alarm time. -/
theorem Sane.sounding_ne {t : TimeOfDay} (hsane : a.Sane) (hs : a.sounding = true)
    (halarm : a.clock.alarm = some t) (htick : ticks (a.trace i) = 1) :
    (a.step i).clock.time ≠ t := by
  intro heq
  obtain ⟨t', ht', hsince⟩ := hsane hs
  obtain rfl : t' = t := Option.some.inj (ht'.symm.trans halarm)
  have hlt := a.elapsed.isLt
  have hstep := sinceSeconds_step (i := i) (a := a) (fun h => absurd hs (by simp [h])) t'
  rw [heq, AlarmClock.sinceSeconds_self, htick] at hstep
  omega

/-- Outside set mode, and short of the next firing, less than a day has passed since
the alarm time. -/
theorem Sane.sinceSeconds_lt_day {t : TimeOfDay} (hsane : a.Sane)
    (halarm : a.clock.alarm = some t) (hmode : a.sounding = false → i.switchOn = true)
    (hquiet : ¬ a.Fires i) : AlarmClock.sinceSeconds t a.clock.time + ticks (a.trace i) < 86400 := by
  have hlt := AlarmClock.sinceSeconds_lt t a.clock.time
  have hone := ticks_le_one (i := i) (a := a)
  by_contra hday
  -- a full day would bring the clock to the alarm time in this round
  have htick : ticks (a.trace i) = 1 := by omega
  have hland : (a.step i).clock.time = t := by
    apply AlarmClock.sinceSeconds_eq_zero_iff.mp
    rw [sinceSeconds_step hmode]
    omega
  cases hs : a.sounding with
  | true => exact hsane.sounding_ne hs halarm htick hland
  | false =>
      have hclock : (a.step i).clock = a.clock.tick := step_clock_running hs (hmode hs)
      apply hquiet
      refine ⟨hs, hmode hs, ?_⟩
      rw [AlarmClock.AtAlarm, ← hclock, hland, hclock, AlarmClock.tick_alarm]
      exact halarm

/-- A press of button 3 in set mode sets the alarm to the time. -/
theorem step_capture (hs : a.sounding = false) (hi : i.switchOn = false)
    (hrise : rising a.buttons i.buttons 3 = true) :
    (a.step i).clock.alarm = some (a.step i).clock.time := by
  simp [step, hs, hi, AlarmClock.press, hrise]

/-- Nothing else touches the alarm. -/
theorem step_alarm_of_not_capture (h : .action 3 ∉ a.trace i) :
    (a.step i).clock.alarm = a.clock.alarm := by
  by_cases hrun : a.sounding = false → i.switchOn = true
  · exact step_alarm hrun
  · obtain ⟨hs, hi⟩ := Classical.not_imp.mp hrun
    have hi' : i.switchOn = false := Bool.eq_false_iff.mpr hi
    have hrise : rising a.buttons i.buttons 3 = false := by
      apply Bool.eq_false_iff.mpr
      intro hrise
      exact h ((action_mem_trace i a 3).mpr ⟨hs, hi', hrise⟩)
    simp [step, hs, hi', AlarmClock.press, hrise]

end Spec

section Run

variable {b : U32} {w : Nat → Sample} {n : Nat}

theorem captures_iff :
    Captures (run b w) n ↔ (Spec.run b w n).sounding = false ∧ (w n).switchOn = false ∧
      rising (Spec.run b w n).buttons (w n).buttons 3 = true := by
  rw [Captures, run_trace]
  exact Spec.action_mem_trace _ _ 3

/-- Captures, and nothing else, set the alarm of a run. -/
theorem run_captured (b : U32) (w : Nat → Sample) :
    Captured (fun n => (run b w n).toPanel) (fun n => (Spec.run b w n).clock)
      (Captures (run b w)) where
  shows n := (run_refines b w n).shows
  start := rfl
  set n hcapture := by
    obtain ⟨hs, hi, hrise⟩ := captures_iff.mp hcapture
    exact Spec.step_capture hs hi hrise
  keep n hcapture := by
    apply Spec.step_alarm_of_not_capture
    intro hmem
    apply hcapture
    rw [Captures, run_trace]
    exact hmem

/-- The round is due to fire exactly when the abstract machine fires in it. -/
theorem alarmDue_iff : AlarmDue (run b w) w n ↔ (Spec.run b w n).Fires (w n) := by
  have hlatest := (run_captured b w).hora_eq_latest_iff (n := n)
  have hmain := (run_refines b w n).pc_mainLoop_iff
  have hclock (hs : (Spec.run b w n).sounding = false) (hi : (w n).switchOn = true) :
      (Spec.run b w (n + 1)).clock = (Spec.run b w n).clock.tick := Spec.step_clock_running hs hi
  constructor
  · rintro ⟨hpc, hi, -, hdue⟩
    have hs := hmain.mp hpc
    have hat := hlatest.mp hdue
    rw [hclock hs hi] at hat
    exact ⟨hs, hi, hat⟩
  · rintro ⟨hs, hi, hat⟩
    refine ⟨hmain.mpr hs, hi, ?_, hlatest.mpr ?_⟩
    · rw [run_trace, Spec.tick_mem_trace, hs, if_neg Bool.false_ne_true]
      exact hi
    · rw [hclock hs hi]
      exact hat

theorem leds_mem_iff :
    .leds 1023 ∈ (run b w (n + 1)).trace ↔ (Spec.run b w n).Fires (w n) := by
  rw [run_trace]
  exact Spec.leds_mem_trace _ _

theorem enterBuzzer_mem_iff :
    .enterBuzzer ∈ (run b w (n + 1)).trace ↔ (Spec.run b w n).Fires (w n) := by
  rw [run_trace]
  exact Spec.enterBuzzer_mem_trace _ _

theorem firesAt_iff : FiresAt (run b w) n ↔ (Spec.run b w n).Fires (w n) := by
  rw [FiresAt, leds_mem_iff, enterBuzzer_mem_iff, and_self]

theorem tick_mem_iff : .tick ∈ (run b w (n + 1)).trace ↔
    if (Spec.run b w n).sounding then (Spec.run b w n).secondDone else (w n).switchOn = true := by
  rw [run_trace]
  exact Spec.tick_mem_trace _ _

/-- The seconds counted from a firing in round `p` to the head of round `p + 1 + n`
are the distance to the alarm time, as long as set mode stays out and no other
alarm fires. -/
theorem ticks_since_firing {p : Nat} {t : TimeOfDay} (hp : (Spec.run b w p).Fires (w p))
    (ht : (Spec.run b w p).clock.tick.time = t) (n : Nat)
    (hquiet : ∀ k, p < k → k < p + 1 + n → ¬ (Spec.run b w k).Fires (w k))
    (hmode : ∀ k, p < k → k < p + 1 + n →
      (Spec.run b w k).sounding = false → (w k).switchOn = true) :
    (Spec.run b w (p + 1 + n)).clock.alarm = some t ∧
      AlarmClock.sinceSeconds t (Spec.run b w (p + 1 + n)).clock.time =
        ∑ k ∈ Finset.Ioc p (p + n), ticks (run b w (k + 1)).trace := by
  induction n with
  | zero =>
      obtain ⟨hs, hi, hat⟩ := hp
      have hclock : (Spec.run b w (p + 1)).clock = (Spec.run b w p).clock.tick :=
        Spec.step_clock_running hs hi
      rw [Nat.add_zero, hclock, ht, AlarmClock.sinceSeconds_self, Nat.add_zero, Finset.Ioc_self,
        Finset.sum_empty]
      exact ⟨ht ▸ hat, rfl⟩
  | succ n ih =>
      obtain ⟨halarm, hsince⟩ := ih (fun k hk hkn => hquiet k hk (by omega))
        fun k hk hkn => hmode k hk (by omega)
      have hquiet := hquiet (p + 1 + n) (by omega) (by omega)
      have hmode := hmode (p + 1 + n) (by omega) (by omega)
      have halarm' : (Spec.run b w (p + 1 + n + 1)).clock.alarm = some t := by
        rw [← halarm]
        exact Spec.step_alarm hmode
      have hstep : AlarmClock.sinceSeconds t (Spec.run b w (p + 1 + n + 1)).clock.time =
          (AlarmClock.sinceSeconds t (Spec.run b w (p + 1 + n)).clock.time +
            ticks ((Spec.run b w (p + 1 + n)).trace (w (p + 1 + n)))) % 86400 :=
        Spec.sinceSeconds_step hmode t
      have hsum : ∑ k ∈ Finset.Ioc p (p + (n + 1)), ticks (run b w (k + 1)).trace =
          ∑ k ∈ Finset.Ioc p (p + n), ticks (run b w (k + 1)).trace +
            ticks ((Spec.run b w (p + 1 + n)).trace (w (p + 1 + n))) := by
        rw [← Nat.add_assoc, Finset.sum_Ioc_succ_top (by omega), Nat.add_right_comm p n 1, run_trace]
      have hday := (Spec.run_sane b w (p + 1 + n)).sinceSeconds_lt_day halarm hmode hquiet
      refine ⟨halarm', ?_⟩
      rw [← Nat.add_assoc (p + 1), hstep, hsum, ← hsince]
      exact Nat.mod_eq_of_lt hday

/-- While the handler owns the loop, no tick brings the clock to the alarm time. -/
theorem hora_ne_of_handler {j : Nat} (hpc : (run b w n).pc ≠ .mainLoop)
    (htick : .tick ∈ (run b w (n + 1)).trace) (hj : Latest (Captures (run b w)) n j) :
    (run b w (n + 1)).hora ≠ (run b w (j + 1)).alarma := by
  have hs : (Spec.run b w n).sounding = true := by
    rw [← Bool.not_eq_false]
    exact fun hs => hpc ((run_refines b w n).pc_mainLoop_iff.mpr hs)
  have hone : ticks ((Spec.run b w n).trace (w n)) = 1 := by
    rw [tick_mem_iff, if_pos hs] at htick
    rw [Spec.ticks_trace, if_pos hs, if_pos htick]
  intro heq
  have halarm := (run_captured b w).hora_eq_latest_iff.mp ⟨j, hj, heq⟩
  exact (Spec.run_sane b w n).sounding_ne hs halarm hone rfl

/-- From one firing to the next, with set mode kept out, the clock counts a day. -/
theorem ticks_between_firings {p : Nat} (hp : (Spec.run b w p).Fires (w p))
    (hq : (Spec.run b w (p + 1 + n)).Fires (w (p + 1 + n)))
    (hquiet : ∀ k, p < k → k < p + 1 + n → ¬ (Spec.run b w k).Fires (w k))
    (hmode : ∀ k, p < k → k < p + 1 + n →
      (Spec.run b w k).sounding = false → (w k).switchOn = true) :
    ∑ k ∈ Finset.Ioc p (p + 1 + n), ticks (run b w (k + 1)).trace = 86400 := by
  obtain ⟨hs, hi, hat⟩ := hq
  obtain ⟨halarm, hsince⟩ := ticks_since_firing hp rfl n hquiet hmode
  have hlt := AlarmClock.sinceSeconds_lt (Spec.run b w p).clock.tick.time
    (Spec.run b w (p + 1 + n)).clock.time
  have hland : (Spec.run b w (p + 1 + n)).clock.time.tick = (Spec.run b w p).clock.tick.time :=
    Option.some.inj (hat.symm.trans halarm)
  have htick := AlarmClock.sinceSeconds_tick (Spec.run b w p).clock.tick.time
    (Spec.run b w (p + 1 + n)).clock.time
  rw [hland, AlarmClock.sinceSeconds_self] at htick
  have hone : ticks (run b w (p + n + 1 + 1)).trace = 1 := by
    rw [Nat.add_right_comm p n 1, run_trace, Spec.ticks_trace, hs, if_neg Bool.false_ne_true,
      if_pos hi]
  rw [Nat.add_right_comm p 1 n, Finset.sum_Ioc_succ_top (by omega), hone]
  omega

end Run

/-- Every run of the firmware from reset fires its alarm exactly when it is due. -/
theorem run_firesExactly (b : U32) (w : Nat → Sample) : FiresExactly (run b w) w where
  leds_iff n := leds_mem_iff.trans alarmDue_iff.symm
  enterBuzzer_iff n := enterBuzzer_mem_iff.trans alarmDue_iff.symm
  captures n h := by
    obtain ⟨hs, hi, -⟩ := captures_iff.mp h
    exact ⟨(run_refines b w n).pc_mainLoop_iff.mpr hs, hi, (run_captured b w).alarma_eq_hora h⟩
  before_capture n h := by
    refine ⟨(run_captured b w).alarma_eq_unset h, ?_⟩
    intro hfires
    obtain ⟨-, -, hat⟩ := firesAt_iff.mp hfires
    rw [AlarmClock.AtAlarm, AlarmClock.tick_alarm, (run_captured b w).alarm_eq_none h] at hat
    cases hat
  hora_ne_unset n := by
    rw [(run_refines b w n).shows.hora]
    exact (Hora.unset_ne_ofTime _).symm
  handler_tick n j := hora_ne_of_handler
  day_between p q hpq hp hq hquiet hmode := by
    obtain ⟨n, rfl⟩ := Nat.exists_eq_add_of_lt hpq
    rw [Nat.add_right_comm] at hq ⊢
    apply ticks_between_firings (firesAt_iff.mp hp) (firesAt_iff.mp hq)
    · intro k hk hkn
      rw [← firesAt_iff]
      exact hquiet k hk (by omega)
    · intro k hk hkn hs
      exact hmode k hk (by omega) ((run_refines b w k).pc_mainLoop_iff.mpr hs)

end RelojDespertador.Final2
