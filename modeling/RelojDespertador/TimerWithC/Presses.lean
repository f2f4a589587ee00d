import RelojDespertador.TimerWithC.Runs
import Mathlib.Order.Interval.Finset.Nat

/-!
# Which presses the TimerWithC firmware sees

`prev_buttons_state` is refreshed in both modes here, so every round compares
its buttons with those of the round before. Between two ticks a digit therefore
moves by the number of times its button went down in set mode.
-/

namespace RelojDespertador.TimerWithC

open InputMachine Panel

/-- The buttons that are down in round `n` and were up in the round before. -/
def rose (boot : Sample) (w : Nat → Sample) (n : Nat) : Fin 4 → Bool :=
  rising (previous boot w n).buttons (w n).buttons

/-- How often button `k` went down in set mode in the rounds from `m` to before `n`. -/
def setPresses (boot : Sample) (w : Nat → Sample) (k : Fin 4) (m n : Nat) : Nat :=
  ((Finset.Ico m n).filter fun j => (w j).switchOn = false ∧ rose boot w j k = true).card

/-- None of the rounds from `m` to before `n` counts a second. -/
def NoTick (r : Nat → State) (m n : Nat) : Prop :=
  ∀ k, m ≤ k → k < n → .tick ∉ (r (k + 1)).trace

/-- A run sees every press exactly once. -/
structure SeesEveryPress (r : Nat → State) (boot : Sample) (w : Nat → Sample) : Prop where
  remembered : ∀ n, (r n).prevButtonsState = (previous boot w n).buttons
  /-- In set mode the branch of a button runs exactly when the button went down. -/
  action_iff : ∀ (n : Nat) (k : Fin 4), (w n).switchOn = false →
    (.action k ∈ (r (n + 1)).trace ↔
      (w n).buttons.getLsbD k = true ∧ (previous boot w n).buttons.getLsbD k = false)
  segundos : ∀ n, (w n).switchOn = false → (r (n + 1)).hora.segundos =
    if rose boot w n 0 then incMod 60 (r n).hora.segundos else (r n).hora.segundos
  minutos : ∀ n, (w n).switchOn = false → (r (n + 1)).hora.minutos =
    if rose boot w n 1 then incMod 60 (r n).hora.minutos else (r n).hora.minutos
  horas : ∀ n, (w n).switchOn = false → (r (n + 1)).hora.horas =
    if rose boot w n 2 then incMod 24 (r n).hora.horas else (r n).hora.horas
  alarma : ∀ n, (w n).switchOn = false → (r (n + 1)).alarma =
    if rose boot w n 3 then (r (n + 1)).hora else (r n).alarma
  segundos_between : ∀ m n, m ≤ n → NoTick r m n → (r n).hora.segundos.toNat =
    ((r m).hora.segundos.toNat + setPresses boot w 0 m n) % 60
  minutos_between : ∀ m n, m ≤ n → NoTick r m n → (r n).hora.minutos.toNat =
    ((r m).hora.minutos.toNat + setPresses boot w 1 m n) % 60
  horas_between : ∀ m n, m ≤ n → NoTick r m n → (r n).hora.horas.toNat =
    ((r m).hora.horas.toNat + setPresses boot w 2 m n) % 24

/-- One more round counts one more press if there is one. -/
theorem setPresses_succ (boot : Sample) (w : Nat → Sample) (k : Fin 4) {m n : Nat} (h : m ≤ n) :
    setPresses boot w k m (n + 1) = setPresses boot w k m n +
      if (w n).switchOn = false ∧ rose boot w n k = true then 1 else 0 := by
  have hinsert : Finset.Ico m (n + 1) = insert n (Finset.Ico m n) :=
    (Nat.Ico_succ_right_eq_insert_Ico h)
  rw [setPresses, hinsert, Finset.filter_insert]
  split_ifs
  · rw [Finset.card_insert_of_notMem (by simp)]
    rfl
  · rfl

section Rounds

variable {a : Spec} {i : Sample}

/-- A round that counts no second sets the time or leaves it alone. -/
theorem Spec.step_time (h : a.counts i = false) : (a.step i).clock.time =
    if i.switchOn then a.clock.time else AlarmClock.advance (a.down i) a.clock.time := by
  change (a.nextClock i).time = _
  cases hi : i.switchOn with
  | false => simp [nextClock, hi, AlarmClock.press]
  | true =>
      have hstill : a.moves i = false := by
        rw [counts, hi, Bool.and_true] at h
        exact h
      simp [nextClock, hi, hstill]

/-- A digit of the time that button `k` moves has moved if the button went down. -/
theorem Spec.step_digit {x : TimeOfDay → Nat} {radix : Nat} {k : Fin 4} (hlt : ∀ t, x t < radix)
    (hadvance : ∀ down t,
      x (AlarmClock.advance down t) = (x t + if down k then 1 else 0) % radix)
    (h : a.counts i = false) : x (a.step i).clock.time =
      (x a.clock.time + if i.switchOn = false ∧ a.down i k = true then 1 else 0) % radix := by
  rw [step_time h]
  cases i.switchOn with
  | false => simpa using hadvance (a.down i) a.clock.time
  | true => simp [Nat.mod_eq_of_lt (hlt a.clock.time)]

end Rounds

section Run

variable {boot : Sample} {w : Nat → Sample} {m n : Nat}

theorem run_down : (Spec.run boot w n).down (w n) = rose boot w n := by
  rw [Spec.down, run_last]
  rfl

theorem run_hora : (run boot w n).hora = Hora.ofTime (Spec.run boot w n).clock.time :=
  (run_refines boot w n).shows.hora

/-- The time after a set-mode round. -/
theorem run_hora_set (hi : (w n).switchOn = false) : (run boot w (n + 1)).hora =
    Hora.ofTime (AlarmClock.advance (rose boot w n) (Spec.run boot w n).clock.time) := by
  have hcounts : (Spec.run boot w n).counts (w n) = false := by simp [Spec.counts, hi]
  have htime := Spec.step_time hcounts
  rw [hi, if_neg Bool.false_ne_true, run_down] at htime
  rw [run_hora, ← htime]
  rfl

theorem NoTick.counts (h : NoTick (run boot w) m n) {j : Nat} (hm : m ≤ j) (hn : j < n) :
    (Spec.run boot w j).counts (w j) = false := by
  have hnot := h j hm hn
  rw [run_trace, Spec.tick_mem_trace, Bool.not_eq_true] at hnot
  exact hnot

/-- Without a tick in between, a digit has moved by the number of presses of its button. -/
theorem NoTick.digit {x : TimeOfDay → Nat} {radix : Nat} {k : Fin 4} (h : NoTick (run boot w) m n)
    (hmn : m ≤ n) (hlt : ∀ t, x t < radix)
    (hadvance : ∀ down t,
      x (AlarmClock.advance down t) = (x t + if down k then 1 else 0) % radix) :
    x (Spec.run boot w n).clock.time =
      (x (Spec.run boot w m).clock.time + setPresses boot w k m n) % radix := by
  induction n, hmn using Nat.le_induction with
  | base => simp [setPresses, Nat.mod_eq_of_lt (hlt _)]
  | succ n hmn ih =>
      have hbefore := ih fun j hm hj => h j hm (Nat.lt_succ_of_lt hj)
      have hround := Spec.step_digit hlt hadvance (h.counts hmn (Nat.lt_succ_self n))
      rw [run_down] at hround
      calc
        x (Spec.run boot w (n + 1)).clock.time =
            (x (Spec.run boot w n).clock.time +
              if (w n).switchOn = false ∧ rose boot w n k = true then 1 else 0) % radix := hround
        _ = (x (Spec.run boot w m).clock.time + setPresses boot w k m (n + 1)) % radix := by
            rw [hbefore, setPresses_succ boot w k hmn, Nat.mod_add_mod, Nat.add_assoc]

end Run

/-- Every run of the firmware sees every press exactly once. -/
theorem run_seesEveryPress (boot : Sample) (w : Nat → Sample) :
    SeesEveryPress (run boot w) boot w where
  remembered n := by
    rw [(run_refines boot w n).buttons, run_last]
  action_iff n k hi := by
    rw [run_trace, Spec.action_mem_trace, run_down, hi]
    simp [rose, rising]
  segundos n hi := by
    rw [run_hora_set hi, run_hora]
    exact Hora.segundos_advance _ _
  minutos n hi := by
    rw [run_hora_set hi, run_hora]
    exact Hora.minutos_advance _ _
  horas n hi := by
    rw [run_hora_set hi, run_hora]
    exact Hora.horas_advance _ _
  alarma n hi := by
    have halarm : (Spec.run boot w (n + 1)).clock.alarm =
        if rose boot w n 3 then some (Spec.run boot w (n + 1)).clock.time
          else (Spec.run boot w n).clock.alarm := by
      rw [← run_down]
      change ((Spec.run boot w n).nextClock (w n)).alarm =
        if _ then some ((Spec.run boot w n).nextClock (w n)).time else _
      simp only [Spec.nextClock, hi, Bool.false_eq_true, if_false]
      rfl
    rw [(run_refines boot w (n + 1)).shows.alarma, halarm, run_hora]
    split_ifs
    · rfl
    · exact (run_refines boot w n).shows.alarma.symm
  segundos_between m n hmn hquiet := by
    simp only [run_hora, Hora.toNat_segundos]
    apply hquiet.digit hmn (fun t => t.lo.isLt)
    exact AlarmClock.advance_lo
  minutos_between m n hmn hquiet := by
    simp only [run_hora, Hora.toNat_minutos]
    apply hquiet.digit hmn (fun t => t.mid.isLt)
    exact AlarmClock.advance_mid
  horas_between m n hmn hquiet := by
    simp only [run_hora, Hora.toNat_horas]
    apply hquiet.digit hmn (fun t => t.hi.isLt)
    exact AlarmClock.advance_hi

end RelojDespertador.TimerWithC
