import RelojDespertador.Final2.Runs

/-!
# The loop of handle_pwm_buzzer

An alarm that starts with `e` half periods counted sounds until the last of
215490 is counted or a sample dismisses it. The loop guard never ends it, so
the handler always returns through one of its two `break`s, which turn the
LEDs and the buzzer off.
-/

namespace RelojDespertador.Final2

open InputMachine Panel

namespace Spec

variable {a : Spec} {v : Nat → Sample} {n : Nat}

/-- Which samples dismiss an alarm depends on the remembered buttons only. -/
theorem dismisses_congr {a a' : Spec} (h : a'.buttons = a.buttons) (i : Sample) :
    a'.dismisses i = a.dismisses i := by
  rw [dismisses, dismisses, h]

/-- A sounding alarm has counted a half period for each round, and its buttons stay. -/
theorem states_sounding (h : ∀ k ≤ n, (states step a v k).sounding = true) :
    ((states step a v n).elapsed : Nat) = a.elapsed + n ∧
      (states step a v n).buttons = a.buttons := by
  induction n with
  | zero => exact ⟨rfl, rfl⟩
  | succ n ih =>
      obtain ⟨helapsed, hbuttons⟩ := ih fun k hk => h k (Nat.le_succ_of_le hk)
      have hs := h n (Nat.le_succ n)
      have hnext := (step_sounding (v n) _).mp (h (n + 1) le_rfl)
      have hstep := step_elapsed (v n) (states step a v n)
      have hlt := (states step a v n).elapsed.isLt
      rw [if_pos hs] at hnext hstep
      obtain ⟨hmore, -⟩ := hnext
      constructor
      · rw [states_succ, hstep, Nat.mod_eq_of_lt (by omega), helapsed, Nat.add_assoc]
      · rw [states_succ, step_buttons fun hf => absurd hs (by simp [hf]), hbuttons]

/-- An alarm sounds on as long as half periods are left and nobody dismisses it. -/
theorem sounding_through_iff (hs : a.sounding = true) :
    (∀ k ≤ n, (states step a v k).sounding = true) ↔
      a.elapsed + n < 215490 ∧ ∀ k < n, a.dismisses (v k) = false := by
  induction n with
  | zero =>
      constructor
      · intro _
        exact ⟨a.elapsed.isLt, fun k hk => absurd hk (Nat.not_lt_zero k)⟩
      · intro _ k hk
        obtain rfl : k = 0 := Nat.le_zero.mp hk
        exact hs
  | succ n ih =>
      constructor
      · intro h
        have hbefore : ∀ k ≤ n, (states step a v k).sounding = true :=
          fun k hk => h k (Nat.le_succ_of_le hk)
        obtain ⟨hlt, hquiet⟩ := ih.mp hbefore
        obtain ⟨helapsed, hbuttons⟩ := states_sounding hbefore
        have hnext := (step_sounding (v n) _).mp (h (n + 1) le_rfl)
        rw [if_pos (hbefore n le_rfl), dismisses_congr hbuttons, helapsed] at hnext
        refine ⟨by omega, fun k hk => ?_⟩
        rcases Nat.lt_succ_iff_lt_or_eq.mp hk with hlt | rfl
        · exact hquiet k hlt
        · exact hnext.2
      · rintro ⟨hlt, hquiet⟩
        have hbefore := ih.mpr ⟨by omega, fun k hk => hquiet k (Nat.lt_succ_of_lt hk)⟩
        obtain ⟨helapsed, hbuttons⟩ := states_sounding hbefore
        intro k hk
        rcases Nat.le_succ_iff.mp hk with hle | rfl
        · exact hbefore k hle
        · apply (step_sounding (v n) _).mpr
          rw [if_pos (hbefore n le_rfl), dismisses_congr hbuttons, helapsed]
          exact ⟨by omega, hquiet n (Nat.lt_succ_self n)⟩

/-- The last round of a sounding alarm counts the last half period or is a dismissal. -/
theorem sounding_ends_iff (h : ∀ k ≤ n, (states step a v k).sounding = true) :
    (states step a v (n + 1)).sounding = false ↔
      a.elapsed + n + 1 = 215490 ∨ a.dismisses (v n) = true := by
  obtain ⟨helapsed, hbuttons⟩ := states_sounding h
  rw [← Bool.not_eq_true, states_succ, step_sounding, if_pos (h n le_rfl),
    dismisses_congr hbuttons, helapsed]
  by_cases hlast : a.elapsed.val + n + 1 = 215490 <;> simp [hlast]

/-- The loop guard of the handler never ends an alarm. -/
theorem cycles_not_mem_trace (i : Sample) (a : Spec) : .leaveBuzzer .cycles ∉ a.trace i := by
  rw [leaveBuzzer_mem_trace]
  rintro ⟨-, hexit⟩
  split_ifs at hexit
  cases hexit.2

/-- An alarm ends by its time-out or by a button. -/
theorem leaveBuzzer_mem_of_ends (h : ∀ k ≤ n, (states step a v k).sounding = true)
    (hend : (states step a v (n + 1)).sounding = false) :
    .leaveBuzzer .timeout ∈ (states step a v n).trace (v n) ∨
      .leaveBuzzer .button ∈ (states step a v n).trace (v n) := by
  obtain ⟨helapsed, hbuttons⟩ := states_sounding h
  simp only [leaveBuzzer_mem_trace, h n le_rfl, helapsed, dismisses_congr hbuttons]
  by_cases hlast : a.elapsed.val + n + 1 = 215490
  · simp [hlast]
  · have hdis : a.dismisses (v n) = true := ((sounding_ends_iff h).mp hend).resolve_left hlast
    simp [hlast, hdis]

/-- Every alarm ends. -/
theorem exists_sounding_ends (hs : a.sounding = true) (v : Nat → Sample) :
    ∃ n, (∀ k ≤ n, (states step a v k).sounding = true) ∧
      (states step a v (n + 1)).sounding = false := by
  have hfall (i : Sample) (a : Spec) (hs : a.sounding = true)
      (hnext : (a.step i).sounding = true) :
      215490 - (a.step i).elapsed.val < 215490 - a.elapsed.val := by
    have hstep := step_elapsed i a
    have hmore := (step_sounding i a).mp hnext
    have hlt := a.elapsed.isLt
    rw [if_pos hs] at hstep hmore
    omega
  obtain ⟨n, -, hstay, hleave⟩ := exists_leaves (P := fun a : Spec => a.sounding = true)
    (fun a => 215490 - a.elapsed.val) hfall hs v
  exact ⟨n, hstay, Bool.eq_false_iff.mpr hleave⟩

/-- A sounding alarm waits for the timer once in each round. -/
theorem sum_waits_sounding (h : ∀ k < n, (states step a v k).sounding = true) :
    ∑ k ∈ Finset.range n, waits ((states step a v k).trace (v k)) = n := by
  induction n with
  | zero => rfl
  | succ n ih =>
      rw [Finset.sum_range_succ, ih fun k hk => h k (Nat.lt_succ_of_lt hk), waits_trace,
        if_pos (h n (Nat.lt_succ_self n))]

/-- The ticks of a sounding alarm are the whole seconds that its half periods complete. -/
theorem sum_ticks_sounding (h : ∀ k < n, (states step a v k).sounding = true) :
    ∑ k ∈ Finset.range n, ticks ((states step a v k).trace (v k)) =
      (a.elapsed + n) / 7183 - a.elapsed / 7183 := by
  induction n with
  | zero =>
      rw [Finset.sum_range_zero]
      omega
  | succ n ih =>
      obtain ⟨helapsed, -⟩ := states_sounding fun k hk => h k (Nat.lt_succ_of_le hk)
      rw [Finset.sum_range_succ, ih fun k hk => h k (Nat.lt_succ_of_lt hk),
        ticks_sounding (h n (Nat.lt_succ_self n)), helapsed]
      omega

end Spec

/-! ## The handler in the firmware -/

/-- The handler has control at the head of round `j` and has had it since `s`. -/
def InHandler (s : State) (v : Nat → Sample) (j : Nat) : Prop :=
  ∀ k ≤ j, (states step s v k).pc ≠ .mainLoop

/-- Round `j` is the last one of the handler. -/
def HandlerEnds (s : State) (v : Nat → Sample) (j : Nat) : Prop :=
  InHandler s v j ∧ (states step s v (j + 1)).pc = .mainLoop

/-- The waits left to an alarm: `(30 - a) * buzzer_pwm_half_period - c`. -/
def waitBound (s : State) : Nat :=
  (30 - s.segundosAlarmaActiva.toNat) * buzzerPwmHalfPeriod.toNat - s.buzzerPwmCounter.toNat

section Handler

variable {s : State} {a : Spec} {i : Sample} {v : Nat → Sample} {j : Nat}

theorem Refines.inHandler_iff (h : Refines s a) :
    InHandler s v j ↔ ∀ k ≤ j, (states Spec.step a v k).sounding = true := by
  apply forall₂_congr
  intro k _
  rw [Ne, (h.along v k).pc_mainLoop_iff, Bool.not_eq_false]

theorem Refines.handlerEnds_iff (h : Refines s a) :
    HandlerEnds s v j ↔ (∀ k ≤ j, (states Spec.step a v k).sounding = true) ∧
      (states Spec.step a v (j + 1)).sounding = false := by
  rw [HandlerEnds, h.inHandler_iff, (h.along v (j + 1)).pc_mainLoop_iff]

/-- The round that enters the handler leaves the alarm sounding from where the
progress stood before it. -/
theorem Refines.enter (h : Refines s a) (henter : .enterBuzzer ∈ (step i s).trace) :
    (a.step i).sounding = true ∧ (a.step i).elapsed = a.elapsed ∧
      (a.step i).buttons = a.buttons := by
  rw [step_trace i h, Spec.enterBuzzer_mem_trace] at henter
  obtain ⟨hs, hi, hat⟩ := henter
  simp [Spec.step, hs, hi, hat]

theorem Refines.waitBound_eq (h : Refines s a) : waitBound s = 215490 - a.elapsed := by
  have hlt := a.elapsed.isLt
  have hhalf : buzzerPwmHalfPeriod.toNat = 7183 := by decide
  rw [waitBound, h.seconds, h.counter, hhalf]
  omega

end Handler

/-- Whenever the handler is entered, and whatever is sampled in it, it returns
within its wait bound, through a `break`, with the LEDs and the buzzer off. -/
theorem handler_ends_silent {s : State} {i : Sample} (hs : Reachable s)
    (henter : .enterBuzzer ∈ (step i s).trace) (v : Nat → Sample) :
    0 < waitBound (step i s) ∧
    (∀ k, .leaveBuzzer .cycles ∉ (states step (step i s) v k).trace) ∧
    ∃ j, HandlerEnds (step i s) v j ∧
      countRounds waits (step i s) v (j + 1) ≤ waitBound (step i s) ∧
      (.leaveBuzzer .timeout ∈ (states step (step i s) v (j + 1)).trace ∨
        .leaveBuzzer .button ∈ (states step (step i s) v (j + 1)).trace) ∧
      (states step (step i s) v (j + 1)).leds = 0 ∧
      (states step (step i s) v (j + 1)).buzzer = 0 := by
  obtain ⟨a, h, -⟩ := hs.refines
  obtain ⟨hsound, -, -⟩ := h.enter henter
  have h' := step_refines i h
  have hlt := (a.step i).elapsed.isLt
  rw [h'.waitBound_eq]
  refine ⟨by omega, ?_, ?_⟩
  · intro k
    cases k with
    | zero =>
        rw [states_zero, step_trace i h]
        exact Spec.cycles_not_mem_trace i a
    | succ k =>
        rw [h'.along_trace v k]
        exact Spec.cycles_not_mem_trace _ _
  · obtain ⟨j, hstay, hend⟩ := Spec.exists_sounding_ends hsound v
    have hjlt := ((Spec.sounding_through_iff hsound).mp hstay).1
    have hidle := (h'.along v (j + 1)).idle hend
    refine ⟨j, h'.handlerEnds_iff.mpr ⟨hstay, hend⟩, ?_, ?_, hidle.leds, hidle.buzzer⟩
    · rw [h'.countRounds_eq, Spec.sum_waits_sounding fun k hk => hstay k (Nat.le_of_lt_succ hk)]
      omega
    · rw [h'.along_trace v j]
      exact Spec.leaveBuzzer_mem_of_ends hstay hend

/-- The alarm of the armed state, with a sample that never dismisses it. -/
theorem handler_ends_silent_armed :
    0 < waitBound (step ⟨1, 1⟩ armed) ∧
    (∀ k, .leaveBuzzer .cycles ∉ (states step (step ⟨1, 1⟩ armed) (fun _ => ⟨1, 1⟩) k).trace) ∧
    ∃ j, HandlerEnds (step ⟨1, 1⟩ armed) (fun _ => ⟨1, 1⟩) j ∧
      countRounds waits (step ⟨1, 1⟩ armed) (fun _ => ⟨1, 1⟩) (j + 1) ≤
        waitBound (step ⟨1, 1⟩ armed) ∧
      (.leaveBuzzer .timeout ∈
          (states step (step ⟨1, 1⟩ armed) (fun _ => ⟨1, 1⟩) (j + 1)).trace ∨
        .leaveBuzzer .button ∈
          (states step (step ⟨1, 1⟩ armed) (fun _ => ⟨1, 1⟩) (j + 1)).trace) ∧
      (states step (step ⟨1, 1⟩ armed) (fun _ => ⟨1, 1⟩) (j + 1)).leds = 0 ∧
      (states step (step ⟨1, 1⟩ armed) (fun _ => ⟨1, 1⟩) (j + 1)).buzzer = 0 :=
  handler_ends_silent armed_reachable (armed_enters 1) fun _ => ⟨1, 1⟩

end RelojDespertador.Final2
