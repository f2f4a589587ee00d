import RelojDespertador.Final.Hang
import RelojDespertador.Final.Pace

/-!
# The tone of the Final firmware

The loop of `handle_pwm_buzzer` reads neither buttons nor switch. Once an alarm
has fired, the tone goes through its 3000 half periods and the clock through 50
minutes, while the timer counts three seconds.
-/

namespace RelojDespertador.Final

/-- The tone of the alarm that round `j` fires, up to the return of the handler. -/
structure RunsItsCourse (b : U32) (w : Nat → Sample) (j : Nat) : Prop where
  control : ∀ k < 3000, (run b w (j + 1 + k)).pc = .buzzerLoop
  returns : (run b w (j + 3001)).pc = .mainLoop
  /-- Each half period toggles the buzzer. -/
  level : ∀ k < 3000, (run b w (j + 1 + k)).buzzer = if k % 2 = 1 then 1 else 0
  silent : (run b w (j + 3001)).buzzer = 0
  leds : ∀ k ≤ 3000, (run b w (j + 1 + k)).leds = 1023
  /-- Each half period is a second on the clock, which starts from the alarm time. -/
  advances : ∀ k ≤ 3000, (run b w (j + 1 + k)).hora = Hora.carry^[k] (run b w (j + 1)).alarma
  /-- 3000 seconds are counted while the timer expires 3000 times. -/
  seconds : ticksOver b w (j + 1) 3000 = 3000
  cycles : cyclesOver b w (j + 1) 3000 = 3000 * 50001
  /-- Nothing is fired and nothing is captured in the meantime. -/
  quiet : ∀ k < 3000, ¬ FiresAt b w (j + 1 + k) ∧ ¬ CapturesAt b w (j + 1 + k)

section Round

variable {s : State} {a : Spec} {i : Sample} {k : Fin 3000}

/-- The level of the buzzer after a half period. -/
theorem step_buzzer_tone (h : Refines s a) (hk : a.mode = .tone k) :
    (step i s).buzzer = if k.val + 1 < 3000 ∧ (k.val + 1) % 2 = 1 then 1 else 0 := by
  have hloop : s.pc = .buzzerLoop := h.pc.trans (Mode.pc_eq_buzzerLoop_iff.mpr ⟨k, hk⟩)
  have hcounter : (toneState a k s).buzzerSoundCounter = (k + 1 : Nat) := by
    change s.buzzerSoundCounter + 1 = _
    rw [(h.tone k hk).counter]
    rfl
  have hparity : (k.val + 1) % 2 = 1 ↔ k.val % 2 = 0 := by omega
  rw [step_buzzerLoop hloop, buzzerRound_eq h hk, buzzerGuard_eq hcounter k.isLt]
  simp only [hparity]
  by_cases hmore : k.val + 1 < 3000
  · rw [if_pos hmore]
    simp only [hmore, true_and]
    change BitVec.setWidth 1 (level k) = _
    rw [level]
    split_ifs <;> rfl
  · rw [if_neg hmore]
    simp only [hmore, false_and, if_false]
    rfl

/-- The round that fires an alarm leaves the buzzer off. -/
theorem step_buzzer_of_fires (h : Refines s a) (hfires : a.Fires i) : (step i s).buzzer = 0 := by
  obtain ⟨hmain, hi, hat⟩ := hfires
  obtain ⟨activa, segundos, -, hround⟩ := mainRound_on h hi
  have heq : (runState i a s).hora = (runState i a s).alarma :=
    (hora_eq_alarma_iff (c := a.clock.tick) rfl h.alarma).mpr hat
  rw [step_mainLoop (h.pc.trans hmain), hround,
    fireAlarm_of_eq (by exact heq), enterBuzzer_eq]

end Round

section Run

variable {b : U32} {w : Nat → Sample} {j k : Nat}

theorem tone_mode (h : FiresAt b w j) (hk : k < 3000) :
    (Spec.run b w (j + 1 + k)).mode = .tone ⟨k, hk⟩ := by
  obtain ⟨t, hmode, -⟩ := run_tone h hk
  exact hmode

theorem tone_pc (h : FiresAt b w j) (hk : k < 3000) :
    (run b w (j + 1 + k)).pc = .buzzerLoop := by
  rw [(run_refines b w _).pc, tone_mode h hk]
  rfl

/-- The handler is busy with the tone, so that no round of `main` fires or captures. -/
theorem tone_quiet (h : FiresAt b w j) (hk : k < 3000) :
    ¬ FiresAt b w (j + 1 + k) ∧ ¬ CapturesAt b w (j + 1 + k) := by
  have hloop := Spec.not_mainLoop_of_tone (tone_mode h hk)
  rw [firesAt_iff, CapturesAt, run_trace, Spec.action_mem_trace]
  exact ⟨fun hfires => hloop hfires.1, fun hcaptures => hloop hcaptures.1⟩

theorem tone_buzzer (h : FiresAt b w j) (hk : k ≤ 3000) :
    (run b w (j + 1 + k)).buzzer = if k < 3000 ∧ k % 2 = 1 then 1 else 0 := by
  cases k with
  | zero => exact step_buzzer_of_fires (run_refines b w j) (firesAt_iff.mp h)
  | succ k => exact step_buzzer_tone (run_refines b w _) (tone_mode h hk)

/-- The lamp stays lit. -/
theorem tone_lit (h : FiresAt b w j) (hk : k ≤ 3000) :
    (Spec.run b w (j + 1 + k)).lit = true := by
  induction k with
  | zero =>
      obtain ⟨hmain, hi, hat⟩ := firesAt_iff.mp h
      rw [Nat.add_zero, Spec.run_succ, Spec.step_main hmain]
      simp only [Spec.mainStep, TimerWithClock.Spec.step, hi, if_true, if_pos hat]
  | succ k ih =>
      rw [← Nat.add_assoc, Spec.run_succ, Spec.step_tone (tone_mode h hk)]
      exact ih (Nat.le_of_succ_le hk)

theorem tone_hora (h : FiresAt b w j) (hk : k ≤ 3000) :
    (run b w (j + 1 + k)).hora = Hora.carry^[k] (run b w (j + 1)).alarma := by
  induction k with
  | zero =>
      have hrefines := run_refines b w (j + 1)
      exact (hora_eq_alarma_iff hrefines.hora hrefines.alarma).mpr (run_of_fires h).2
  | succ k ih =>
      have hclock : (Spec.run b w (j + 1 + k + 1)).clock = (Spec.run b w (j + 1 + k)).clock.tick := by
        rw [Spec.run_succ, Spec.step_tone (tone_mode h hk)]
      rw [Function.iterate_succ_apply', ← ih (Nat.le_of_succ_le hk), ← Nat.add_assoc,
        (run_refines b w (j + 1 + k)).hora, Hora.carry_ofTime, (run_refines b w _).hora, hclock]
      rfl

/-- What the half periods count. -/
theorem tone_counts (h : FiresAt b w j) (hk : k < 3000) :
    ticks (run b w (j + 1 + k + 1)).trace = 1 ∧ cycles (run b w (j + 1 + k + 1)).trace = 50001 := by
  rw [run_trace]
  obtain ⟨hticks, hcycles, -⟩ := Spec.counts_tone (i := w (j + 1 + k)) (tone_mode h hk)
  exact ⟨hticks, hcycles⟩

end Run

/-- In every run, whatever the buttons and the switch do, the tone of an alarm that has
fired runs its course. -/
theorem tone_runsItsCourse (b : U32) (w : Nat → Sample) (j : Nat) (h : FiresAt b w j) :
    RunsItsCourse b w j where
  control k hk := tone_pc h hk
  returns := by
    obtain ⟨t, hmode, -⟩ := run_after_tone h
    rw [(run_refines b w _).pc, hmode]
    rfl
  level k hk := by
    rw [tone_buzzer h hk.le]
    simp only [hk, true_and]
  silent := by
    have hlast := tone_buzzer h (Nat.le_refl 3000)
    rw [Nat.add_assoc] at hlast
    exact hlast
  leds k hk := by
    rw [(run_refines b w _).leds, tone_lit h hk]
    rfl
  advances k hk := tone_hora h hk
  seconds := by
    rw [ticksOver, Finset.sum_const_nat fun k hk => (tone_counts h (Finset.mem_range.mp hk)).1,
      Finset.card_range]
  cycles := by
    rw [cyclesOver, Finset.sum_const_nat fun k hk => (tone_counts h (Finset.mem_range.mp hk)).2,
      Finset.card_range]
  quiet k hk := tone_quiet h hk

theorem tone_runsItsCourse_midnightAlarm : RunsItsCourse 0 midnightAlarm 119 :=
  tone_runsItsCourse 0 midnightAlarm 119 midnightAlarm_fires

end RelojDespertador.Final
