import RelojDespertador.Final2.Handler

/-!
# The stopped clock in the Final2 firmware

With the switch off, `main` counts no second and only its set-mode branches
change the time. The handler samples the switch too, but its copy of the clock
code does not look at it, so the clock goes on while an alarm sounds.
-/

namespace RelojDespertador.Final2

open InputMachine Panel

/-- A round from `s` to `s'` counts no second, and changes the time by its
set-mode increments only. -/
structure StandsStill (s s' : State) : Prop where
  no_tick : .tick ∉ s'.trace
  segundos : s'.hora.segundos =
    if .action 0 ∈ s'.trace then incMod 60 s.hora.segundos else s.hora.segundos
  minutos : s'.hora.minutos =
    if .action 1 ∈ s'.trace then incMod 60 s.hora.minutos else s.hora.minutos
  horas : s'.hora.horas =
    if .action 2 ∈ s'.trace then incMod 24 s.hora.horas else s.hora.horas

section Round

variable {s : State} {a : Spec} {i : Sample}

/-- With the switch off, a round counts a second exactly when it is one of the
handler and completes it. -/
theorem Refines.tick_mem_iff_off (h : Refines s a) (hi : i.switchOn = false) :
    .tick ∈ (step i s).trace ↔ a.sounding = true ∧ a.secondDone := by
  rw [step_trace i h, Spec.tick_mem_trace, hi]
  cases a.sounding <;> simp

theorem Refines.standsStill_set (h : Refines s a) (hs : a.sounding = false)
    (hi : i.switchOn = false) : StandsStill s (step i s) := by
  have htick : .tick ∉ (step i s).trace := by
    rw [h.tick_mem_iff_off hi, hs]
    simp
  have haction (k : Fin 4) : .action k ∈ (step i s).trace ↔ rising a.buttons i.buttons k = true := by
    rw [step_trace i h, Spec.action_mem_trace]
    simp [hs, hi]
  have hora : (step i s).hora =
      Hora.ofTime (AlarmClock.advance (rising a.buttons i.buttons) a.clock.time) := by
    rw [(step_refines i h).shows.hora]
    simp [Spec.step, hs, hi, AlarmClock.press]
  refine ⟨htick, ?_, ?_, ?_⟩
  · simp only [hora, haction, h.shows.hora]
    exact Hora.segundos_advance _ _
  · simp only [hora, haction, h.shows.hora]
    exact Hora.minutos_advance _ _
  · simp only [hora, haction, h.shows.hora]
    exact Hora.horas_advance _ _

/-- A handler round that completes no second leaves the time alone. -/
theorem Refines.standsStill_sounding (h : Refines s a) (hs : a.sounding = true)
    (hi : i.switchOn = false) (hdone : ¬ a.secondDone) : StandsStill s (step i s) := by
  have htick : .tick ∉ (step i s).trace := by
    rw [h.tick_mem_iff_off hi]
    rintro ⟨-, hd⟩
    exact hdone hd
  have haction (k : Fin 4) : .action k ∉ (step i s).trace := by
    rw [step_trace i h, Spec.action_mem_trace]
    simp [hs]
  have hora : (step i s).hora = s.hora := by
    rw [(step_refines i h).shows.hora, Spec.step_clock_sounding hs, h.shows.hora,
      Spec.soundingClock, if_neg hdone]
  refine ⟨htick, ?_, ?_, ?_⟩ <;> rw [hora, if_neg (haction _)]

end Round

/-- In a round whose switch sample is off the clock stands still exactly when
`main` has control, or the handler does and the round completes no second of
half periods. -/
theorem standsStill_iff {s : State} {i : Sample} (hs : Reachable s) (hi : i.switchOn = false) :
    StandsStill s (step i s) ↔
      s.pc = .mainLoop ∨ s.buzzerPwmCounter + 1 < buzzerPwmHalfPeriod := by
  obtain ⟨a, h, -⟩ := hs.refines
  have hcounter : s.buzzerPwmCounter + 1 < buzzerPwmHalfPeriod ↔ ¬ a.secondDone := by
    rw [← halfPeriod_le_iff h, BitVec.not_le]
  rw [h.pc_mainLoop_iff, hcounter]
  constructor
  · intro hstill
    have hno := hstill.no_tick
    rw [h.tick_mem_iff_off hi] at hno
    cases hsound : a.sounding with
    | false => exact Or.inl rfl
    | true => exact Or.inr fun hdone => hno ⟨hsound, hdone⟩
  · rintro (hsound | hdone)
    · exact h.standsStill_set hsound hi
    · cases hsound : a.sounding with
      | false => exact h.standsStill_set hsound hi
      | true => exact h.standsStill_sounding hsound hi hdone

/-- A round of `main` one second before the alarm. -/
theorem standsStill_armed :
    StandsStill armed (step ⟨0, 0⟩ armed) ↔
      armed.pc = .mainLoop ∨ armed.buzzerPwmCounter + 1 < buzzerPwmHalfPeriod :=
  standsStill_iff armed_reachable (by decide)

/-- The switch is turned off as soon as the alarm sounds, and the handler has
counted 7182 half periods since. -/
def switchedOff : State := states step (step ⟨1, 1⟩ armed) (fun _ => ⟨1, 0⟩) 7182

theorem switchedOff_reachable : Reachable switchedOff :=
  (armed_reachable.next ⟨1, 1⟩).states _ _

/-- The next half period moves the clock on, with the switch off. -/
theorem switchedOff_ticks :
    Reachable switchedOff ∧ Sample.switchOn ⟨1, 0⟩ = false ∧
      .tick ∈ (step ⟨1, 0⟩ switchedOff).trace ∧
      ¬ StandsStill switchedOff (step ⟨1, 0⟩ switchedOff) := by
  obtain ⟨hsound, helapsed, -⟩ := armed_refines.enter (armed_enters 1)
  have hoff : Sample.switchOn ⟨1, 0⟩ = false := by decide
  have hstay : ∀ k ≤ 7182, (states Spec.step (Spec.step ⟨1, 1⟩ (Spec.beforeAlarm 0 false))
      (fun _ => ⟨1, 0⟩) k).sounding = true := by
    apply (Spec.sounding_through_iff hsound).mpr
    rw [helapsed]
    refine ⟨by decide, fun k _ => ?_⟩
    rw [Spec.dismisses, hoff, Bool.and_false]
  have h : Refines switchedOff _ :=
    (step_refines ⟨1, 1⟩ armed_refines).along (fun _ => ⟨1, 0⟩) 7182
  have htick : .tick ∈ (step ⟨1, 0⟩ switchedOff).trace := by
    rw [h.tick_mem_iff_off hoff]
    refine ⟨hstay 7182 le_rfl, ?_⟩
    obtain ⟨hcount, -⟩ := Spec.states_sounding hstay
    have hzero : ((Spec.beforeAlarm 0 false).elapsed : Nat) = 0 := rfl
    rw [helapsed, hzero] at hcount
    simp only [Spec.secondDone]
    omega
  exact ⟨switchedOff_reachable, hoff, htick, fun hstill => hstill.no_tick htick⟩

end RelojDespertador.Final2
