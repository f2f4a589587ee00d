import RelojDespertador.Final2.Runs
import Mathlib.Data.Nat.Count

/-!
# Setting the clock of the Final2 firmware

As long as the switch is off, `main` has control and every round presses the
buttons that went down since the round before. The buttons move their digits
without carry, so where the clock ends depends on how often each went down, and
not on when or with which others.
-/

namespace RelojDespertador.Final2

open InputMachine Panel

/-- The switch is off in the first `n` rounds. -/
def SetMode (w : Nat → Sample) (n : Nat) : Prop := ∀ k < n, (w k).switchOn = false

/-- The buttons that go down in round `n`, where `b` are the buttons before the first. -/
def rises (b : U32) (w : Nat → Sample) (n : Nat) : Fin 4 → Bool :=
  rising (previous b (fun k => (w k).buttons) n) (w n).buttons

/-- How often button `k` goes down in the first `n` rounds. -/
def presses (b : U32) (w : Nat → Sample) (k : Fin 4) (n : Nat) : Nat :=
  Nat.count (fun j => rises b w j k = true) n

/-- The outputs and the alarm bookkeeping are what they were. -/
structure Untouched (s s' : State) : Prop where
  leds : s'.leds = s.leds
  buzzer : s'.buzzer = s.buzzer
  alarmaActiva : s'.alarmaActiva = s.alarmaActiva
  segundosAlarmaActiva : s'.segundosAlarmaActiva = s.segundosAlarmaActiva
  buzzerState : s'.buzzerState = s.buzzerState
  buzzerPwmCounter : s'.buzzerPwmCounter = s.buzzerPwmCounter
  buzzerPwmCycles : s'.buzzerPwmCycles = s.buzzerPwmCycles
  pc : s'.pc = s.pc

theorem Untouched.trans {s s' s'' : State} (h : Untouched s s') (h' : Untouched s' s'') :
    Untouched s s'' where
  leds := h'.leds.trans h.leds
  buzzer := h'.buzzer.trans h.buzzer
  alarmaActiva := h'.alarmaActiva.trans h.alarmaActiva
  segundosAlarmaActiva := h'.segundosAlarmaActiva.trans h.segundosAlarmaActiva
  buzzerState := h'.buzzerState.trans h.buzzerState
  buzzerPwmCounter := h'.buzzerPwmCounter.trans h.buzzerPwmCounter
  buzzerPwmCycles := h'.buzzerPwmCycles.trans h.buzzerPwmCycles
  pc := h'.pc.trans h.pc

/-- Setting the clock from `s` on is counting presses. -/
structure SetsClock (s : State) : Prop where
  segundos : ∀ w n, SetMode w n → (states step s w n).hora.segundos.toNat =
    (s.hora.segundos.toNat + presses s.prevButtonsState w 0 n) % 60
  minutos : ∀ w n, SetMode w n → (states step s w n).hora.minutos.toNat =
    (s.hora.minutos.toNat + presses s.prevButtonsState w 1 n) % 60
  horas : ∀ w n, SetMode w n → (states step s w n).hora.horas.toNat =
    (s.hora.horas.toNat + presses s.prevButtonsState w 2 n) % 24
  /-- The alarm is the time after the round in which button 3 last went down. -/
  alarma_of_latest : ∀ w n j, SetMode w n →
    Latest (fun j => rises s.prevButtonsState w j 3 = true) n j →
    (states step s w n).alarma = (states step s w (j + 1)).hora
  alarma_of_none : ∀ w n, SetMode w n → (∀ j < n, rises s.prevButtonsState w j 3 = false) →
    (states step s w n).alarma = s.alarma
  untouched : ∀ w n, SetMode w n → Untouched s (states step s w n)
  /-- The order of the presses does not matter. -/
  same_hora : ∀ w n w' n', SetMode w n → SetMode w' n' →
    presses s.prevButtonsState w 0 n = presses s.prevButtonsState w' 0 n' →
    presses s.prevButtonsState w 1 n = presses s.prevButtonsState w' 1 n' →
    presses s.prevButtonsState w 2 n = presses s.prevButtonsState w' 2 n' →
    (states step s w n).hora = (states step s w' n').hora

section Round

variable {s : State} {a : Spec} {i : Sample}

theorem Spec.step_set (hs : a.sounding = false) (hi : i.switchOn = false) :
    a.step i = { a with
      clock := a.clock.press (rising a.buttons i.buttons)
      buttons := i.buttons } := by
  simp [step, hs, hi]

/-- A set-mode round leaves everything but the panel as it is. -/
theorem Refines.untouched_step (h : Refines s a) (hs : a.sounding = false)
    (hi : i.switchOn = false) : Untouched s (step i s) := by
  rw [Final2.step_set h hs hi]
  exact ⟨rfl, rfl, rfl, rfl, rfl, rfl, rfl, rfl⟩

/-- A set-mode round captures the time it ends with if button 3 goes down. -/
theorem Refines.alarma_step (h : Refines s a) (hs : a.sounding = false)
    (hi : i.switchOn = false) : (step i s).alarma =
      if rising a.buttons i.buttons 3 then (step i s).hora else s.alarma := by
  have hnext := (step_refines i h).shows
  rw [Spec.step_set hs hi] at hnext
  rw [hnext.alarma, hnext.hora, h.shows.alarma]
  simp only [AlarmClock.press]
  split_ifs <;> rfl

end Round

section Run

variable {s : State} {a : Spec} {w : Nat → Sample} {n : Nat}

/-- In set mode the machine stays silent and remembers the buttons of the last round. -/
theorem Spec.states_set (hs : a.sounding = false) (hset : SetMode w n) :
    (states step a w n).sounding = false ∧
      (states step a w n).buttons = previous a.buttons (fun k => (w k).buttons) n := by
  induction n with
  | zero => exact ⟨hs, rfl⟩
  | succ n ih =>
      obtain ⟨hsilent, -⟩ := ih fun k hk => hset k (Nat.lt_succ_of_lt hk)
      rw [states_succ, step_set hsilent (hset n (Nat.lt_succ_self n))]
      exact ⟨hsilent, rfl⟩

/-- A digit that button `k` moves has moved by the number of its presses. -/
theorem Spec.states_digit {x : TimeOfDay → Nat} {radix : Nat} {k : Fin 4} (hlt : ∀ t, x t < radix)
    (hadvance : ∀ down t, x (AlarmClock.advance down t) = (x t + if down k then 1 else 0) % radix)
    (hs : a.sounding = false) (hset : SetMode w n) :
    x (states step a w n).clock.time = (x a.clock.time + presses a.buttons w k n) % radix := by
  induction n with
  | zero => exact (Nat.mod_eq_of_lt (hlt a.clock.time)).symm
  | succ n ih =>
      have hbefore : SetMode w n := fun k hk => hset k (Nat.lt_succ_of_lt hk)
      obtain ⟨hsilent, hbuttons⟩ := states_set hs hbefore
      have hcount : presses a.buttons w k (n + 1) =
          presses a.buttons w k n + if rises a.buttons w n k then 1 else 0 := Nat.count_succ _ n
      calc
        x (states step a w (n + 1)).clock.time =
            x (AlarmClock.advance (rises a.buttons w n) (states step a w n).clock.time) := by
          rw [states_succ, step_set hsilent (hset n (Nat.lt_succ_self n)), hbuttons]
          rfl
        _ = (x a.clock.time + presses a.buttons w k (n + 1)) % radix := by
          rw [hadvance, ih hbefore, hcount, Nat.mod_add_mod, Nat.add_assoc]

/-- Two set-mode runs with the same presses end at the same time. -/
theorem Spec.states_time_eq {w' : Nat → Sample} {n' : Nat} (hs : a.sounding = false)
    (hset : SetMode w n) (hset' : SetMode w' n')
    (h0 : presses a.buttons w 0 n = presses a.buttons w' 0 n')
    (h1 : presses a.buttons w 1 n = presses a.buttons w' 1 n')
    (h2 : presses a.buttons w 2 n = presses a.buttons w' 2 n') :
    (states step a w n).clock.time = (states step a w' n').clock.time := by
  apply MixedRadix.ext <;> apply Fin.ext
  · rw [states_digit (x := fun t => t.hi) (fun t => t.hi.isLt) AlarmClock.advance_hi hs hset,
      states_digit (x := fun t => t.hi) (fun t => t.hi.isLt) AlarmClock.advance_hi hs hset', h2]
  · rw [states_digit (x := fun t => t.mid) (fun t => t.mid.isLt) AlarmClock.advance_mid hs hset,
      states_digit (x := fun t => t.mid) (fun t => t.mid.isLt) AlarmClock.advance_mid hs hset', h1]
  · rw [states_digit (x := fun t => t.lo) (fun t => t.lo.isLt) AlarmClock.advance_lo hs hset,
      states_digit (x := fun t => t.lo) (fun t => t.lo.isLt) AlarmClock.advance_lo hs hset', h0]

theorem Refines.untouched (h : Refines s a) (hs : a.sounding = false) (hset : SetMode w n) :
    Untouched s (states step s w n) := by
  induction n with
  | zero => exact ⟨rfl, rfl, rfl, rfl, rfl, rfl, rfl, rfl⟩
  | succ n ih =>
      have hbefore : SetMode w n := fun k hk => hset k (Nat.lt_succ_of_lt hk)
      have hround := (h.along w n).untouched_step (Spec.states_set hs hbefore).1
        (hset n (Nat.lt_succ_self n))
      exact (ih hbefore).trans hround

/-- The alarm after one more set-mode round. -/
theorem Refines.alarma_succ (h : Refines s a) (hs : a.sounding = false) (hset : SetMode w (n + 1)) :
    (states step s w (n + 1)).alarma =
      if rises a.buttons w n 3 then (states step s w (n + 1)).hora
      else (states step s w n).alarma := by
  obtain ⟨hsilent, hbuttons⟩ := Spec.states_set hs fun k hk => hset k (Nat.lt_succ_of_lt hk)
  have hround := (h.along w n).alarma_step hsilent (hset n (Nat.lt_succ_self n))
  rw [hbuttons] at hround
  exact hround

theorem Refines.alarma_of_none (h : Refines s a) (hs : a.sounding = false) (hset : SetMode w n)
    (hnone : ∀ j < n, rises a.buttons w j 3 = false) : (states step s w n).alarma = s.alarma := by
  induction n with
  | zero => rfl
  | succ n ih =>
      rw [h.alarma_succ hs hset, hnone n (Nat.lt_succ_self n), if_neg Bool.false_ne_true]
      apply ih
      · exact fun k hk => hset k (Nat.lt_succ_of_lt hk)
      · exact fun j hj => hnone j (Nat.lt_succ_of_lt hj)

theorem Refines.alarma_of_latest {j : Nat} (h : Refines s a) (hs : a.sounding = false)
    (hset : SetMode w n) (hlatest : Latest (fun j => rises a.buttons w j 3 = true) n j) :
    (states step s w n).alarma = (states step s w (j + 1)).hora := by
  induction n with
  | zero => exact absurd hlatest.1 (Nat.not_lt_zero j)
  | succ n ih =>
      rw [h.alarma_succ hs hset]
      rcases latest_succ_iff.mp hlatest with ⟨rfl, hdown⟩ | ⟨hup, hbefore⟩
      · rw [if_pos hdown]
      · rw [if_neg hup]
        exact ih (fun k hk => hset k (Nat.lt_succ_of_lt hk)) hbefore

end Run

/-- From every reachable head of the main loop, setting the clock is counting presses. -/
theorem setsClock_of_reachable {s : State} (hs : Reachable s) (hpc : s.pc = .mainLoop) :
    SetsClock s := by
  obtain ⟨a, h, -⟩ := hs.refines
  have hsilent := h.pc_mainLoop_iff.mp hpc
  have hbuttons := h.buttons
  have hora (w : Nat → Sample) (n : Nat) :
      (states step s w n).hora = Hora.ofTime (states Spec.step a w n).clock.time :=
    (h.along w n).shows.hora
  constructor
  · intro w n hset
    rw [hora, h.shows.hora, hbuttons, Hora.toNat_segundos, Hora.toNat_segundos]
    exact Spec.states_digit (x := fun t => t.lo) (fun t => t.lo.isLt) AlarmClock.advance_lo
      hsilent hset
  · intro w n hset
    rw [hora, h.shows.hora, hbuttons, Hora.toNat_minutos, Hora.toNat_minutos]
    exact Spec.states_digit (x := fun t => t.mid) (fun t => t.mid.isLt) AlarmClock.advance_mid
      hsilent hset
  · intro w n hset
    rw [hora, h.shows.hora, hbuttons, Hora.toNat_horas, Hora.toNat_horas]
    exact Spec.states_digit (x := fun t => t.hi) (fun t => t.hi.isLt) AlarmClock.advance_hi
      hsilent hset
  · intro w n j hset hlatest
    rw [hbuttons] at hlatest
    exact h.alarma_of_latest hsilent hset hlatest
  · intro w n hset hnone
    rw [hbuttons] at hnone
    exact h.alarma_of_none hsilent hset hnone
  · intro w n hset
    exact h.untouched hsilent hset
  · intro w n w' n' hset hset' h0 h1 h2
    rw [hbuttons] at h0 h1 h2
    rw [hora, hora, Spec.states_time_eq hsilent hset hset' h0 h1 h2]

/-- One second before the first alarm. -/
theorem setsClock_armed : SetsClock armed :=
  setsClock_of_reachable armed_reachable (armed_refines.pc_mainLoop_iff.mpr rfl)

end RelojDespertador.Final2
