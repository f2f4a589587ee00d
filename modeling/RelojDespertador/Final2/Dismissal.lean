import RelojDespertador.Final2.Clock
import RelojDespertador.Final2.Handler

/-!
# What dismissing an alarm does in the Final2 firmware

The button branch of the handler leaves the progress of the alarm in
`segundos_alarma_activa` and `buzzer_pwm_counter`, where the next alarm takes
it up. And it compares with the buttons that set mode saw last, not with those
of the round that fired the alarm. Both are harmless under an exact condition
on the state before the alarm.
-/

namespace RelojDespertador.Final2

open InputMachine Panel

/-- The handler ends after 30 ticks and 30 seconds' worth of waits; until its
last round the LEDs are on, and when it returns LEDs and buzzer are off. -/
def SoundsInFull (s : State) (v : Nat → Sample) : Prop :=
  ∃ j, HandlerEnds s v j ∧ countRounds ticks s v (j + 1) = 30 ∧
    countRounds waits s v (j + 1) = 30 * buzzerPwmHalfPeriod.toNat ∧
    (∀ k ≤ j, (states step s v k).leds = 1023) ∧
    (states step s v (j + 1)).leds = 0 ∧ (states step s v (j + 1)).buzzer = 0

/-- The handler leaves through its button branch in round `j`. -/
def DismissedAt (s : State) (v : Nat → Sample) (j : Nat) : Prop :=
  InHandler s v j ∧ .leaveBuzzer .button ∈ (states step s v (j + 1)).trace

/-- Round `j` is the first of the handler that samples the switch on and buttons
other than `b`, with fewer than 30 seconds counted. -/
structure FirstChange (b : U32) (s : State) (v : Nat → Sample) (j : Nat) : Prop where
  inHandler : InHandler s v j
  seconds : s.segundosAlarmaActiva.toNat + countRounds ticks s v (j + 1) < 30
  changed : (v j).switchOn = true ∧ (v j).buttons ≠ b
  first : ∀ k < j, ¬ ((v k).switchOn = true ∧ (v k).buttons ≠ b)

namespace Spec

variable {a : Spec} {v : Nat → Sample} {n : Nat}

theorem dismisses_iff (i : Sample) (a : Spec) :
    a.dismisses i = true ↔ i.switchOn = true ∧ i.buttons ≠ a.buttons := by
  simp [dismisses, and_comm]

theorem dismisses_eq_false_iff (i : Sample) (a : Spec) :
    a.dismisses i = false ↔ ¬ (i.switchOn = true ∧ i.buttons ≠ a.buttons) := by
  rw [← dismisses_iff, Bool.not_eq_true]

/-- The state of an alarm that has sounded for `n` rounds, up to the level of the buzzer. -/
theorem states_sounding_eq (h : ∀ k ≤ n, (states step a v k).sounding = true) {t : TimeOfDay}
    (ht : t.value = (a.clock.time.value + ((a.elapsed + n) / 7183 - a.elapsed / 7183)) % 86400)
    {e : Fin 215490} (he : (e : Nat) = a.elapsed + n) :
    ∃ level, states step a v n = ⟨⟨t, a.clock.alarm⟩, a.buttons, e, level, true⟩ := by
  have hmode : ∀ k < n, (states step a v k).sounding = false → (v k).switchOn = true := by
    intro k hk hs
    rw [h k (Nat.le_of_lt hk)] at hs
    cases hs
  have hsound := h n le_rfl
  have halarm := states_alarm hmode
  have hvalue := states_value hmode
  obtain ⟨helapsed, hbuttons⟩ := states_sounding h
  rw [sum_ticks_sounding fun k hk => h k (Nat.le_of_lt hk), ← ht] at hvalue
  revert hsound halarm hvalue helapsed hbuttons
  generalize states step a v n = b
  obtain ⟨⟨time, alarm⟩, buttons, elapsed, level, sounding⟩ := b
  rintro rfl rfl hvalue helapsed rfl
  obtain rfl := MixedRadix.value_injective hvalue
  obtain rfl : elapsed = e := Fin.ext (helapsed.trans he.symm)
  exact ⟨level, rfl⟩

end Spec

section Length

variable {s : State} {a : Spec} {v : Nat → Sample} {j : Nat}

/-- A handler that ends in round `j` has waited `j + 1` times. -/
theorem Refines.countRounds_waits (h : Refines s a) (hj : InHandler s v j) :
    countRounds waits s v (j + 1) = j + 1 := by
  have hstay := h.inHandler_iff.mp hj
  rw [h.countRounds_eq]
  exact Spec.sum_waits_sounding fun k hk => hstay k (Nat.le_of_lt_succ hk)

theorem Refines.countRounds_ticks (h : Refines s a) (hj : InHandler s v j) :
    countRounds ticks s v (j + 1) = (a.elapsed + (j + 1)) / 7183 - a.elapsed / 7183 := by
  have hstay := h.inHandler_iff.mp hj
  rw [h.countRounds_eq]
  exact Spec.sum_ticks_sounding fun k hk => hstay k (Nat.le_of_lt_succ hk)

/-- Undisturbed, the handler counts all the half periods that are left. -/
theorem Refines.handlerEnds_quiet (h : Refines s a) (hs : a.sounding = true)
    (hquiet : ∀ k, (v k).buttons = a.buttons) :
    HandlerEnds s v j ↔ a.elapsed + j + 1 = 215490 := by
  have hdis (k : Nat) : a.dismisses (v k) = false := by simp [Spec.dismisses, hquiet k]
  rw [h.handlerEnds_iff]
  constructor
  · rintro ⟨hstay, hend⟩
    have hlast := (Spec.sounding_ends_iff hstay).mp hend
    rw [hdis j] at hlast
    exact hlast.resolve_right Bool.false_ne_true
  · intro hlast
    have hstay : ∀ k ≤ j, (states Spec.step a v k).sounding = true :=
      (Spec.sounding_through_iff hs).mpr ⟨by omega, fun k _ => hdis k⟩
    exact ⟨hstay, (Spec.sounding_ends_iff hstay).mpr (Or.inl hlast)⟩

/-- An undisturbed alarm sounds in full exactly when it starts from nothing. -/
theorem Refines.soundsInFull_iff (h : Refines s a) (hs : a.sounding = true)
    (hquiet : ∀ k, (v k).buttons = a.buttons) :
    SoundsInFull s v ↔ (a.elapsed : Nat) = 0 := by
  have hhalf : 30 * buzzerPwmHalfPeriod.toNat = 215490 := by decide
  rw [SoundsInFull, hhalf]
  constructor
  · rintro ⟨j, hend, -, hwaits, -⟩
    have hlast := (h.handlerEnds_quiet hs hquiet).mp hend
    rw [h.countRounds_waits hend.1] at hwaits
    omega
  · intro hzero
    obtain ⟨j, hlast⟩ : ∃ j, a.elapsed.val + j + 1 = 215490 := ⟨215489, by omega⟩
    have hend : HandlerEnds s v j := (h.handlerEnds_quiet hs hquiet).mpr hlast
    obtain ⟨hstay, hover⟩ := h.handlerEnds_iff.mp hend
    have hidle := (h.along v (j + 1)).idle hover
    refine ⟨j, hend, ?_, ?_, ?_, hidle.leds, hidle.buzzer⟩
    · rw [h.countRounds_ticks hend.1]
      omega
    · rw [h.countRounds_waits hend.1]
      omega
    · intro k hk
      exact ((h.along v k).sounding (hstay k hk)).leds

theorem Refines.dismissedAt_iff (h : Refines s a) :
    DismissedAt s v j ↔ InHandler s v j ∧ a.elapsed.val + j + 1 ≠ 215490 ∧
      (v j).switchOn = true ∧ (v j).buttons ≠ a.buttons := by
  rw [DismissedAt]
  apply and_congr_right
  intro hj
  have hstay := h.inHandler_iff.mp hj
  obtain ⟨helapsed, hbuttons⟩ := Spec.states_sounding hstay
  rw [h.along_trace v j, Spec.leaveBuzzer_mem_trace, helapsed, Spec.dismisses_congr hbuttons,
    ← Spec.dismisses_iff]
  by_cases hlast : a.elapsed.val + j + 1 = 215490 <;> simp [hlast, hstay j le_rfl]

theorem Refines.seconds_lt_iff (h : Refines s a) (hs : a.sounding = true)
    (hj : InHandler s v j) :
    s.segundosAlarmaActiva.toNat + countRounds ticks s v (j + 1) < 30 ↔
      a.elapsed.val + j + 1 ≠ 215490 := by
  have hlt := ((Spec.sounding_through_iff hs).mp (h.inHandler_iff.mp hj)).1
  rw [h.countRounds_ticks hj, h.seconds]
  omega

/-- The handler leaves through its button branch at the first sample that differs
from the buttons it was called with. -/
theorem Refines.dismissedAt_iff_firstChange (h : Refines s a) (hs : a.sounding = true) :
    DismissedAt s v j ↔ FirstChange a.buttons s v j := by
  rw [h.dismissedAt_iff]
  constructor
  · rintro ⟨hin, hmore, hon, hchange⟩
    refine ⟨hin, (h.seconds_lt_iff hs hin).mpr hmore, ⟨hon, hchange⟩, ?_⟩
    intro k hk
    rw [← Spec.dismisses_eq_false_iff]
    exact ((Spec.sounding_through_iff hs).mp (h.inHandler_iff.mp hin)).2 k hk
  · rintro ⟨hin, hseconds, ⟨hon, hchange⟩, -⟩
    exact ⟨hin, (h.seconds_lt_iff hs hin).mp hseconds, hon, hchange⟩

/-- A round with fewer than 30 seconds counted leaves a half period to the alarm. -/
theorem Refines.more_of_seconds_lt (h : Refines s a) (hs : a.sounding = true)
    (hj : InHandler s v j)
    (hseconds : s.segundosAlarmaActiva.toNat + countRounds ticks s v (j + 1) < 30) :
    a.elapsed.val + 1 ≠ 215490 := by
  have hmore := (h.seconds_lt_iff hs hj).mp hseconds
  have hlt := ((Spec.sounding_through_iff hs).mp (h.inHandler_iff.mp hj)).1
  omega

end Length

/-- With nobody touching the buttons, the alarm sounds in full exactly when no
progress of a dismissed alarm is left over. -/
theorem full_alarm_iff {s : State} {i : Sample} {prev : U32} (hs : Reachable s)
    (henter : .enterBuzzer ∈ (step i s).trace) (hcall : (step i s).pc = .buzzerLoop prev)
    {v : Nat → Sample} (hquiet : ∀ k, (v k).buttons = prev) :
    SoundsInFull (step i s) v ↔ s.segundosAlarmaActiva = 0 ∧ s.buzzerPwmCounter = 0 := by
  obtain ⟨a, h, -⟩ := hs.refines
  obtain ⟨hsound, helapsed, -⟩ := h.enter henter
  have h' := step_refines i h
  obtain rfl : (a.step i).buttons = prev := by
    have hpc := (h'.sounding hsound).pc
    rw [hcall, Pc.buzzerLoop.injEq] at hpc
    exact hpc.symm
  rw [h'.soundsInFull_iff hsound hquiet, helapsed, ← BitVec.toNat_inj, ← BitVec.toNat_inj,
    h.seconds, h.counter]
  change _ ↔ _ = 0 ∧ _ = 0
  omega

/-- The first alarm of a run, with nobody at the buttons. -/
theorem full_alarm_armed :
    SoundsInFull (step ⟨1, 1⟩ armed) (fun _ => ⟨1, 1⟩) ↔
      armed.segundosAlarmaActiva = 0 ∧ armed.buzzerPwmCounter = 0 :=
  full_alarm_iff armed_reachable (armed_enters 1) (armed_calls 1) fun _ => rfl

/-- The alarm is dismissed after ten seconds, and 49 presses of button 0 turn the
clock back to one second before it. -/
def interrupted : State :=
  feed step armed ([⟨1, 1⟩] ++ List.replicate 71830 ⟨1, 1⟩ ++
    (⟨0, 1⟩ :: (List.replicate 49 [⟨0, 0⟩, ⟨1, 0⟩]).flatten))

theorem interrupted_reachable : Reachable interrupted :=
  armed_reachable.feed _

theorem interrupted_refines : ∃ level,
    Refines interrupted (Spec.beforeAlarm 71831 level) := by
  have hfire : feed Spec.step (Spec.beforeAlarm 0 false) [⟨1, 1⟩] =
      ⟨⟨⟨0, 0, 1⟩, some ⟨0, 0, 1⟩⟩, 1, 0, false, true⟩ := by decide +kernel
  have hstay : ∀ k ≤ 71830, (states Spec.step ⟨⟨⟨0, 0, 1⟩, some ⟨0, 0, 1⟩⟩, 1, 0, false, true⟩
      (fun _ => ⟨1, 1⟩) k).sounding = true :=
    (Spec.sounding_through_iff rfl).mpr ⟨by decide, fun _ _ => rfl⟩
  obtain ⟨level, hten⟩ := Spec.states_sounding_eq (t := ⟨0, 0, 11⟩) (e := 71830) hstay
    (by decide) (by decide)
  have hrest (level : Bool) :
      feed Spec.step ⟨⟨⟨0, 0, 11⟩, some ⟨0, 0, 1⟩⟩, 1, 71830, level, true⟩
          (⟨0, 1⟩ :: (List.replicate 49 [⟨0, 0⟩, ⟨1, 0⟩]).flatten) =
        Spec.beforeAlarm 71831 (!level) := by
    cases level <;> decide +kernel
  have hrefines := feed_simulate (R := Refines) (fun i _ _ h => step_refines i h) armed_refines
    ([⟨1, 1⟩] ++ List.replicate 71830 ⟨1, 1⟩ ++
      (⟨0, 1⟩ :: (List.replicate 49 [⟨0, 0⟩, ⟨1, 0⟩]).flatten))
  rw [feed_append Spec.step, feed_append Spec.step, hfire, feed_replicate, hten, hrest] at hrefines
  exact ⟨!level, hrefines⟩

/-- The next alarm ends after 20 seconds, with nobody at the buttons. -/
theorem interrupted_not_full :
    Reachable interrupted ∧ .enterBuzzer ∈ (step ⟨1, 1⟩ interrupted).trace ∧
      (step ⟨1, 1⟩ interrupted).pc = .buzzerLoop 1 ∧
      ¬ SoundsInFull (step ⟨1, 1⟩ interrupted) (fun _ => ⟨1, 1⟩) ∧
      ∃ j, HandlerEnds (step ⟨1, 1⟩ interrupted) (fun _ => ⟨1, 1⟩) j ∧
        countRounds ticks (step ⟨1, 1⟩ interrupted) (fun _ => ⟨1, 1⟩) (j + 1) = 20 := by
  obtain ⟨level, h⟩ := interrupted_refines
  obtain ⟨henter, hcall⟩ := h.fires_next 1
  obtain ⟨hsound, helapsed, hbuttons⟩ := h.enter henter
  have h' := step_refines ⟨1, 1⟩ h
  have hquiet : ∀ k : Nat, ((fun _ => ⟨1, 1⟩ : Nat → Sample) k).buttons = _ :=
    fun _ => hbuttons.symm
  refine ⟨interrupted_reachable, henter, hcall, ?_, ?_⟩
  · rw [h'.soundsInFull_iff hsound hquiet, helapsed]
    exact Nat.succ_ne_zero 71830
  · obtain ⟨j, hlast⟩ : ∃ j, 71831 + j + 1 = 215490 := ⟨143658, by decide⟩
    have hend : HandlerEnds (step ⟨1, 1⟩ interrupted) (fun _ => ⟨1, 1⟩) j := by
      rw [h'.handlerEnds_quiet hsound hquiet, helapsed]
      exact hlast
    refine ⟨j, hend, ?_⟩
    rw [h'.countRounds_ticks hend.1, helapsed]
    change (71831 + (j + 1)) / 7183 - 71831 / 7183 = 20
    omega

/-- The alarm is dismissed by the first button change after the round that fired
it, and by nothing else, exactly when set mode saw the same buttons last, or
the alarm is so far on that its first half period ends it. -/
theorem dismissed_iff_firstChange {s : State} {i : Sample} (hs : Reachable s)
    (henter : .enterBuzzer ∈ (step i s).trace) :
    (∀ v j, DismissedAt (step i s) v j ↔ FirstChange i.buttons (step i s) v j) ↔
      i.buttons = s.prevButtonsState ∨
        s.segundosAlarmaActiva.toNat * buzzerPwmHalfPeriod.toNat + s.buzzerPwmCounter.toNat + 1 =
          30 * buzzerPwmHalfPeriod.toNat := by
  obtain ⟨a, h, -⟩ := hs.refines
  obtain ⟨hsound, helapsed, hbuttons⟩ := h.enter henter
  have h' := step_refines i h
  have hprogress : s.segundosAlarmaActiva.toNat * buzzerPwmHalfPeriod.toNat +
      s.buzzerPwmCounter.toNat = (a.step i).elapsed := by
    have hhalf : buzzerPwmHalfPeriod.toNat = 7183 := by decide
    rw [h.seconds, h.counter, hhalf, helapsed]
    omega
  have hhalf : 30 * buzzerPwmHalfPeriod.toNat = 215490 := by decide
  rw [hprogress, hhalf, h.buttons, ← hbuttons]
  constructor
  · intro hall
    by_contra hnot
    obtain ⟨hne, hmore⟩ := not_or.mp hnot
    -- hold the buttons of the firing round: the handler takes them for a change
    have hin : InHandler (step i s) (fun _ => ⟨i.buttons, 1⟩) 0 := by
      apply h'.inHandler_iff.mpr
      intro k hk
      obtain rfl : k = 0 := Nat.le_zero.mp hk
      exact hsound
    have hdis := h'.dismissedAt_iff.mpr ⟨hin, hmore, switchOn_one i.buttons, hne⟩
    exact ((hall _ 0).mp hdis).changed.2 rfl
  · rintro (heq | hlast) v j
    · rw [heq]
      exact h'.dismissedAt_iff_firstChange hsound
    · constructor
      · intro hdis
        obtain ⟨hin, hmore, -⟩ := h'.dismissedAt_iff.mp hdis
        have hseconds := (h'.seconds_lt_iff hsound hin).mpr hmore
        exact absurd hlast (h'.more_of_seconds_lt hsound hin hseconds)
      · intro hfirst
        exact absurd hlast (h'.more_of_seconds_lt hsound hfirst.inHandler hfirst.seconds)

/-- The alarm of the armed state, fired with the buttons that set mode saw last. -/
theorem dismissed_iff_firstChange_armed :
    (∀ v j, DismissedAt (step ⟨1, 1⟩ armed) v j ↔ FirstChange 1 (step ⟨1, 1⟩ armed) v j) ↔
      1 = armed.prevButtonsState ∨
        armed.segundosAlarmaActiva.toNat * buzzerPwmHalfPeriod.toNat +
            armed.buzzerPwmCounter.toNat + 1 =
          30 * buzzerPwmHalfPeriod.toNat :=
  dismissed_iff_firstChange armed_reachable (armed_enters 1)

/-- Button 0 is released before the switch is turned on. The alarm then goes out
in its first round, although no button changes from the firing round on. -/
theorem armed_dismissed_unchanged :
    Reachable armed ∧ .enterBuzzer ∈ (step ⟨0, 1⟩ armed).trace ∧
      DismissedAt (step ⟨0, 1⟩ armed) (fun _ => ⟨0, 1⟩) 0 ∧
      ¬ FirstChange 0 (step ⟨0, 1⟩ armed) (fun _ => ⟨0, 1⟩) 0 := by
  obtain ⟨hsound, helapsed, hbuttons⟩ := armed_refines.enter (armed_enters 0)
  have h' := step_refines ⟨0, 1⟩ armed_refines
  refine ⟨armed_reachable, armed_enters 0, h'.dismissedAt_iff.mpr ⟨?_, ?_, ?_, ?_⟩, ?_⟩
  · apply h'.inHandler_iff.mpr
    intro k hk
    obtain rfl : k = 0 := Nat.le_zero.mp hk
    exact hsound
  · rw [helapsed]
    decide
  · exact switchOn_one 0
  · rw [hbuttons]
    decide
  · intro hfirst
    exact hfirst.changed.2 rfl

end RelojDespertador.Final2
