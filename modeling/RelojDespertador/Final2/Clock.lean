import RelojDespertador.Final2.Runs

/-!
# The clock of the Final2 firmware over a run

Two loops advance the time, each with its own copy of the carry, and the
handler does so once in 7183 half periods, counted across its calls. Over any
stretch without set mode the seconds add up as if there were one counter.
-/

namespace RelojDespertador.Final2

open InputMachine Panel

/-- The second of the day: `3600 * horas + 60 * minutos + segundos`. -/
def secondOfDay (h : Hora) : Nat := 3600 * h.horas.toNat + 60 * h.minutos.toNat + h.segundos.toNat

/-- The rounds of `main` among the first `n` rounds from `s`. -/
def mainRounds (s : State) (w : Nat → Sample) (n : Nat) : Nat :=
  ((Finset.range n).filter fun k => (states step s w k).pc = .mainLoop).card

/-- The rounds of the handler among the first `n` rounds from `s`. -/
def handlerRounds (s : State) (w : Nat → Sample) (n : Nat) : Nat :=
  ((Finset.range n).filter fun k => (states step s w k).pc ≠ .mainLoop).card

/-- The waits that the handler makes in the first `n` rounds from `s`. -/
def handlerWaits (s : State) (w : Nat → Sample) (n : Nat) : Nat :=
  ∑ k ∈ (Finset.range n).filter fun k => (states step s w k).pc ≠ .mainLoop,
    waits (states step s w (k + 1)).trace

/-- The first `n` rounds from `s` stay in run mode: in every round of `main` the
switch is on. -/
def RunMode (s : State) (w : Nat → Sample) (n : Nat) : Prop :=
  ∀ k < n, (states step s w k).pc = .mainLoop → (w k).switchOn = true

/-- An increment of a `uint8_t` does not wrap. -/
def NoWrap (x : U8) : Prop := (x + 1).toNat = x.toNat + 1

/-- The variables that count time are in range, and their increments stay in eight bits. -/
structure InRange (s : State) : Prop where
  horas : s.hora.horas < 24 ∧ NoWrap s.hora.horas
  minutos : s.hora.minutos < 60 ∧ NoWrap s.hora.minutos
  segundos : s.hora.segundos < 60 ∧ NoWrap s.hora.segundos
  segundosAlarmaActiva : s.segundosAlarmaActiva < 30 ∧ NoWrap s.segundosAlarmaActiva

theorem lt_and_noWrap {x m : U8} (h : x.toNat < m.toNat) : x < m ∧ NoWrap x := by
  have hm := m.isLt
  exact ⟨h, Word.toNat_succ (by omega)⟩

theorem Refines.inRange {s : State} {a : Spec} (h : Refines s a) : InRange s := by
  have hora := h.shows.hora
  have hlt := a.elapsed.isLt
  refine ⟨?_, ?_, ?_, ?_⟩ <;> apply lt_and_noWrap
  · rw [hora, Hora.toNat_horas]
    exact a.clock.time.hi.isLt
  · rw [hora, Hora.toNat_minutos]
    exact a.clock.time.mid.isLt
  · rw [hora, Hora.toNat_segundos]
    exact a.clock.time.lo.isLt
  · rw [h.seconds]
    change _ < 30
    omega

theorem secondOfDay_ofTime (t : TimeOfDay) : secondOfDay (Hora.ofTime t) = t.value := by
  rw [secondOfDay, Hora.toNat_horas, Hora.toNat_minutos, Hora.toNat_segundos, MixedRadix.value]
  omega

namespace Spec

variable {a : Spec} {w : Nat → Sample} {n : Nat}

/-- The rounds without a sounding alarm among the first `n`. -/
def quietRounds (a : Spec) (w : Nat → Sample) (n : Nat) : Nat :=
  ((Finset.range n).filter fun k => (states step a w k).sounding = false).card

/-- The rounds of a sounding alarm among the first `n`. -/
def soundingRounds (a : Spec) (w : Nat → Sample) (n : Nat) : Nat :=
  ((Finset.range n).filter fun k => (states step a w k).sounding = true).card

theorem quietRounds_succ : quietRounds a w (n + 1) =
    quietRounds a w n + if (states step a w n).sounding then 0 else 1 := by
  rw [quietRounds, Finset.range_add_one, Finset.filter_insert]
  cases (states step a w n).sounding <;> simp [quietRounds]

theorem soundingRounds_succ : soundingRounds a w (n + 1) =
    soundingRounds a w n + if (states step a w n).sounding then 1 else 0 := by
  rw [soundingRounds, Finset.range_add_one, Finset.filter_insert]
  cases (states step a w n).sounding <;> simp [soundingRounds]

/-- The sub-second counter counts the rounds of all alarms together. -/
theorem elapsed_mod (a : Spec) (w : Nat → Sample) (n : Nat) :
    ((states step a w n).elapsed : Nat) % 7183 = (a.elapsed % 7183 + soundingRounds a w n) % 7183 := by
  induction n with
  | zero =>
      change _ = (_ + 0) % 7183
      rw [Nat.add_zero, Nat.mod_mod]
      rfl
  | succ n ih =>
      have hstep := step_elapsed (w n) (states step a w n)
      rw [states_succ, hstep, soundingRounds_succ]
      omega

/-- In run mode every quiet round is a second, and so are 7183 sounding ones. -/
theorem sum_ticks
    (h : ∀ k < n, (states step a w k).sounding = false → (w k).switchOn = true) :
    ∑ k ∈ Finset.range n, ticks ((states step a w k).trace (w k)) =
      quietRounds a w n + (a.elapsed % 7183 + soundingRounds a w n) / 7183 := by
  induction n with
  | zero =>
      change 0 = 0 + (_ % 7183 + 0) / 7183
      omega
  | succ n ih =>
      have hcount := elapsed_mod a w n
      rw [Finset.sum_range_succ, ih fun k hk => h k (Nat.lt_succ_of_lt hk), quietRounds_succ,
        soundingRounds_succ]
      cases hs : (states step a w n).sounding with
      | false =>
          rw [ticks_trace, hs, h n (Nat.lt_succ_self n) hs]
          simp only [Bool.false_eq_true, if_false, if_true]
          omega
      | true =>
          rw [ticks_sounding hs]
          simp only [if_true]
          omega

/-- In run mode the time advances by the ticks, modulo a day. -/
theorem states_value
    (h : ∀ k < n, (states step a w k).sounding = false → (w k).switchOn = true) :
    (states step a w n).clock.time.value =
      (a.clock.time.value + ∑ k ∈ Finset.range n, ticks ((states step a w k).trace (w k))) %
        86400 := by
  induction n with
  | zero => exact (Nat.mod_eq_of_lt a.clock.time.value_lt).symm
  | succ n ih =>
      rw [states_succ, step_value (h n (Nat.lt_succ_self n)),
        ih fun k hk => h k (Nat.lt_succ_of_lt hk), Finset.sum_range_succ]
      omega

end Spec

section Counts

variable {s : State} {a : Spec} {w : Nat → Sample} {n : Nat}

theorem Refines.mainRounds_eq (h : Refines s a) : mainRounds s w n = Spec.quietRounds a w n := by
  rw [mainRounds, Spec.quietRounds]
  congr 1
  apply Finset.filter_congr
  intro k _
  exact (h.along w k).pc_mainLoop_iff

theorem Refines.filter_handler (h : Refines s a) :
    ((Finset.range n).filter fun k => (states step s w k).pc ≠ .mainLoop) =
      (Finset.range n).filter fun k => (states Spec.step a w k).sounding = true := by
  apply Finset.filter_congr
  intro k _
  rw [Ne, (h.along w k).pc_mainLoop_iff, Bool.not_eq_false]

theorem Refines.handlerRounds_eq (h : Refines s a) :
    handlerRounds s w n = Spec.soundingRounds a w n := by
  rw [handlerRounds, h.filter_handler, Spec.soundingRounds]

/-- The handler waits once in each of its rounds. -/
theorem Refines.handlerWaits_eq (h : Refines s a) :
    handlerWaits s w n = Spec.soundingRounds a w n := by
  rw [handlerWaits, h.filter_handler, Spec.soundingRounds, Finset.card_eq_sum_ones]
  apply Finset.sum_congr rfl
  intro k hk
  rw [h.along_trace w k, Spec.waits_trace, if_pos (Finset.mem_filter.mp hk).2]

theorem Refines.runMode_iff (h : Refines s a) : RunMode s w n ↔
    ∀ k < n, (states Spec.step a w k).sounding = false → (w k).switchOn = true := by
  apply forall₂_congr
  intro k _
  rw [(h.along w k).pc_mainLoop_iff]

end Counts

/-- In run mode, at every loop head: the time has advanced by one second for
each round of `main` and for each `buzzer_pwm_half_period` waits of the
handler, the counter holds the remainder, and nothing is out of range. -/
theorem clock_advances {s : State} (hs : Reachable s) (w : Nat → Sample) (n : Nat)
    (hmode : RunMode s w n) :
    secondOfDay (states step s w n).hora =
      (secondOfDay s.hora + mainRounds s w n +
        (s.buzzerPwmCounter.toNat + handlerWaits s w n) / buzzerPwmHalfPeriod.toNat) % 86400 ∧
    (states step s w n).buzzerPwmCounter.toNat =
      (s.buzzerPwmCounter.toNat + handlerWaits s w n) % buzzerPwmHalfPeriod.toNat ∧
    ∀ k ≤ n, InRange (states step s w k) := by
  obtain ⟨a, h, -⟩ := hs.refines
  have hmode := h.runMode_iff.mp hmode
  have hhalf : buzzerPwmHalfPeriod.toNat = 7183 := by decide
  refine ⟨?_, ?_, fun k _ => (h.along w k).inRange⟩
  · calc
      secondOfDay (states step s w n).hora = (states Spec.step a w n).clock.time.value := by
        rw [(h.along w n).shows.hora, secondOfDay_ofTime]
      _ = (a.clock.time.value +
            ∑ k ∈ Finset.range n, ticks ((states Spec.step a w k).trace (w k))) % 86400 :=
        Spec.states_value hmode
      _ = (a.clock.time.value + (Spec.quietRounds a w n +
            (a.elapsed % 7183 + Spec.soundingRounds a w n) / 7183)) % 86400 := by
        rw [Spec.sum_ticks hmode]
      _ = (secondOfDay s.hora + mainRounds s w n + (s.buzzerPwmCounter.toNat +
            handlerWaits s w n) / buzzerPwmHalfPeriod.toNat) % 86400 := by
        rw [h.shows.hora, secondOfDay_ofTime, h.mainRounds_eq, h.handlerWaits_eq, h.counter, hhalf,
          Nat.add_assoc]
  · calc
      (states step s w n).buzzerPwmCounter.toNat = (states Spec.step a w n).elapsed % 7183 :=
        (h.along w n).counter
      _ = (a.elapsed % 7183 + Spec.soundingRounds a w n) % 7183 := Spec.elapsed_mod a w n
      _ = (s.buzzerPwmCounter.toNat + handlerWaits s w n) % buzzerPwmHalfPeriod.toNat := by
        rw [h.counter, h.handlerWaits_eq, hhalf]

/-- Ten thousand rounds from an armed state, of which the first fires the alarm. -/
theorem clock_advances_armed :
    secondOfDay (states step armed (fun _ => ⟨1, 1⟩) 10000).hora =
      (secondOfDay armed.hora + mainRounds armed (fun _ => ⟨1, 1⟩) 10000 +
        (armed.buzzerPwmCounter.toNat + handlerWaits armed (fun _ => ⟨1, 1⟩) 10000) /
          buzzerPwmHalfPeriod.toNat) % 86400 ∧
    (states step armed (fun _ => ⟨1, 1⟩) 10000).buzzerPwmCounter.toNat =
      (armed.buzzerPwmCounter.toNat + handlerWaits armed (fun _ => ⟨1, 1⟩) 10000) %
        buzzerPwmHalfPeriod.toNat ∧
    ∀ k ≤ 10000, InRange (states step armed (fun _ => ⟨1, 1⟩) k) :=
  clock_advances armed_reachable (fun _ => ⟨1, 1⟩) 10000 fun _ _ _ => switchOn_one 1

end RelojDespertador.Final2
