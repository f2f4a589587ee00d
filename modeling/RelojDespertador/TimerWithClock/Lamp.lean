import RelojDespertador.TimerWithClock.Alarm

/-!
# The LEDs of the TimerWithClock firmware

The counter of an active alarm counts rounds: it starts at 0 in the round that
lights the LEDs and ends the alarm at 30. So the LEDs are never lit at more than
30 loop heads in a row, and once off, also in the round that turns them off, they stay
off until an alarm is due.
-/

namespace RelojDespertador.TimerWithClock

open InputMachine Panel

namespace Spec

variable {a : Spec} {i : Sample} {w : Nat → Sample} {n : Nat}

/-- A round lights the lamp when its tick reaches the alarm. -/
def Fires (i : Sample) (a : Spec) : Prop := i.switchOn = true ∧ a.clock.tick.AtAlarm

theorem step_of_fires (h : a.Fires i) : (a.step i).active = some 0 ∧ (a.step i).lit = true := by
  obtain ⟨hi, hat⟩ := h
  simp [step, hi, hat]

theorem step_of_not_fires (h : ¬ a.Fires i) :
    (a.step i).active = countOn a.active ∧ (a.step i).lit = a.stillLit i := by
  simp only [step]
  split_ifs with hi hat
  · exact absurd ⟨hi, hat⟩ h
  · exact ⟨rfl, rfl⟩
  · exact ⟨rfl, rfl⟩

theorem Sane.not_fires (h : a.Sane) {j : Fin 30} (hj : a.active = some j) : ¬ a.Fires i :=
  fun hfires => h.not_atAlarm_of_active hj hfires.2

/-- The lamp stays lit in a round only if the alarm has another round. -/
theorem Sane.active_of_lit_step (h : a.Sane) {j : Fin 30} (hj : a.active = some j)
    (hlit : (a.step i).lit = true) : ∃ j' : Fin 30, (a.step i).active = some j' ∧ (j' : Nat) = j + 1 := by
  obtain ⟨hactive, hstill⟩ := step_of_not_fires (h.not_fires hj)
  rw [hstill, stillLit, timesOut, hj] at hlit
  have hne : j ≠ 29 := by
    rintro rfl
    simp at hlit
  have hlt : j.val + 1 < 30 := by
    have hval : j.val ≠ 29 := fun heq => hne (Fin.ext heq)
    omega
  refine ⟨⟨j + 1, hlt⟩, ?_, rfl⟩
  rw [hactive, hj]
  simp only [countOn, dif_pos hlt]

/-- A round that turns the lamp off is one of an active alarm, so its tick does not light
the lamp again. -/
theorem Sane.step_of_off (h : a.Sane) (hoff : a.dismisses i = true ∨ a.timesOut = true) :
    (a.step i).lit = false := by
  have hactive : ∃ j, a.active = some j := by
    rcases hoff with hdismiss | htimes
    · apply Option.ne_none_iff_exists'.mp
      apply h.lit
      simp only [dismisses, Bool.and_eq_true] at hdismiss
      exact hdismiss.1.1
    · exact ⟨29, eq_of_beq htimes⟩
  obtain ⟨j, hj⟩ := hactive
  obtain ⟨-, hstill⟩ := step_of_not_fires (i := i) (h.not_fires hj)
  rw [hstill, stillLit]
  rcases hoff with hdismiss | htimes
  · rw [hdismiss, Bool.not_true, Bool.and_false, Bool.false_and]
  · rw [htimes, Bool.not_true, Bool.and_false]

/-- As long as the lamp is lit, the alarm counts the rounds. -/
theorem active_of_lit (h : ∀ k, (states step a w k).Sane)
    (hlit : ∀ k ≤ n, (states step a w k).lit = true) :
    ∃ j j' : Fin 30, a.active = some j ∧ (states step a w n).active = some j' ∧
      (j' : Nat) = j + n := by
  induction n with
  | zero =>
      obtain ⟨j, hj⟩ := Option.ne_none_iff_exists'.mp ((h 0).lit (hlit 0 le_rfl))
      exact ⟨j, j, hj, hj, rfl⟩
  | succ n ih =>
      obtain ⟨j, j', hj, hj', hcount⟩ := ih fun k hk => hlit k (Nat.le_succ_of_le hk)
      obtain ⟨j'', hj'', hcount'⟩ := (h n).active_of_lit_step hj' (hlit (n + 1) le_rfl)
      exact ⟨j, j'', hj, hj'', by omega⟩

end Spec

/-! ## The LEDs never stick -/

/-- The LEDs of a run never stick. -/
structure NeverSticks (r : Nat → State) (w : Nat → Sample) : Prop where
  leds : ∀ n, (r n).leds = 0 ∨ (r n).leds = 1023
  active : ∀ n, (r n).leds = 1023 → (r n).alarmaActiva = true ∧ (r n).segundosAlarmaActiva ≤ 29
  /-- Of any 31 loop heads in a row one finds the LEDs not lit. -/
  bounded : ∀ n, ∃ k ≤ 30, (r (n + k)).leds ≠ 1023
  /-- A round that turns the LEDs off, by a button or by the count, ends with them off. -/
  turned_off : ∀ n, .leds 0 ∈ (r (n + 1)).trace → (r (n + 1)).leds = 0
  /-- Once off, the LEDs stay off until a tick reaches the time captured last. -/
  stays_off : ∀ m n, m ≤ n → (r m).leds = 0 → (∀ k, m ≤ k → k < n → ¬ AlarmDue r w k) →
    (r n).leds = 0

section Sticks

variable {s : State} {a : Spec} {b : U32} {w : Nat → Sample} {n : Nat}

theorem Refines.leds_eq_iff (h : Refines s a) : s.leds = 1023 ↔ a.lit = true := by
  rw [h.leds]
  cases a.lit <;> decide

theorem Refines.leds_eq_zero_iff (h : Refines s a) : s.leds = 0 ↔ a.lit = false := by
  rw [h.leds]
  cases a.lit <;> decide

theorem Refines.counts_of_lit (h : Refines s a) (hsane : a.Sane) (hlit : a.lit = true) :
    s.alarmaActiva = true ∧ s.segundosAlarmaActiva ≤ 29 := by
  obtain ⟨k, hk⟩ := Option.ne_none_iff_exists'.mp (hsane.lit hlit)
  have hcounts := h.active
  rw [hk] at hcounts
  obtain ⟨hactive, hcount⟩ := hcounts
  refine ⟨hactive, ?_⟩
  have hlt := k.isLt
  rw [BitVec.le_def, hcount]
  change (k : Nat) ≤ 29
  omega

theorem run_states_add (m k : Nat) : Spec.run b w (m + k) =
    states Spec.step (Spec.run b w m) (fun j => w (m + j)) k :=
  states_add Spec.step (Spec.start b) w m k

theorem run_not_lit_through (b : U32) (w : Nat → Sample) (n : Nat) :
    ∃ k ≤ 30, (Spec.run b w (n + k)).lit = false := by
  by_contra hall
  have hlit : ∀ k ≤ 30, (states Spec.step (Spec.run b w n) (fun j => w (n + j)) k).lit = true := by
    intro k hk
    rw [← run_states_add]
    by_contra hoff
    exact hall ⟨k, hk, Bool.eq_false_iff.mpr hoff⟩
  have hsane : ∀ k, (states Spec.step (Spec.run b w n) (fun j => w (n + j)) k).Sane := by
    intro k
    rw [← run_states_add]
    exact (run_refines b w (n + k)).2
  obtain ⟨j, j', -, -, hcount⟩ := Spec.active_of_lit hsane hlit
  have hlt := j'.isLt
  omega

/-- Dark LEDs are lit by a due alarm only. -/
theorem run_lit_succ (hoff : (Spec.run b w n).lit = false) (hdue : ¬ AlarmDue (run b w) w n) :
    (Spec.run b w (n + 1)).lit = false := by
  rw [alarmDue_iff] at hdue
  have hlit : (Spec.run b w (n + 1)).lit = (Spec.run b w n).stillLit (w n) :=
    (Spec.step_of_not_fires hdue).2
  rw [hlit, Spec.stillLit, hoff]
  rfl

end Sticks

/-- In no run of the firmware do the LEDs stick. -/
theorem run_neverSticks (b : U32) (w : Nat → Sample) : NeverSticks (run b w) w where
  leds n := by
    have h := (run_refines b w n).1
    cases hlit : (Spec.run b w n).lit with
    | false => exact Or.inl (h.leds_eq_zero_iff.mpr hlit)
    | true => exact Or.inr (h.leds_eq_iff.mpr hlit)
  active n hleds := by
    obtain ⟨h, hsane⟩ := run_refines b w n
    exact h.counts_of_lit hsane (h.leds_eq_iff.mp hleds)
  bounded n := by
    obtain ⟨k, hk, hoff⟩ := run_not_lit_through b w n
    refine ⟨k, hk, ?_⟩
    intro hleds
    rw [(run_refines b w (n + k)).1.leds_eq_iff, hoff] at hleds
    exact Bool.false_ne_true hleds
  turned_off n hmem := by
    rw [run_trace, Spec.leds_zero_mem_trace] at hmem
    rw [(run_refines b w (n + 1)).1.leds_eq_zero_iff]
    exact (run_refines b w n).2.step_of_off hmem
  stays_off m n hmn hoff hdue := by
    rw [(run_refines b w n).1.leds_eq_zero_iff]
    induction n, hmn using Nat.le_induction with
    | base => exact (run_refines b w m).1.leds_eq_zero_iff.mp hoff
    | succ n hmn ih =>
        apply run_lit_succ
        · exact ih fun k hmk hkn => hdue k hmk (Nat.lt_succ_of_lt hkn)
        · exact hdue n hmn (Nat.lt_succ_self n)

end RelojDespertador.TimerWithClock
