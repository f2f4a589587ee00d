import Mathlib.Data.Nat.Init
import Mathlib.Order.Basic

/-!
# Bounded response

Along a run, a property holds soon if it holds now or after at most a given
number of steps. Such bounds add up from one milestone to the next.
-/

/-- `P` holds at `k` or after at most `b` steps. -/
def Soon (b : Nat) (P : Nat → Prop) (k : Nat) : Prop := ∃ j ≤ b, P (k + j)

namespace Soon

variable {P Q : Nat → Prop} {a b k : Nat}

theorem now (h : P k) : Soon b P k := ⟨0, Nat.zero_le b, h⟩

theorem mono (h : Soon a P k) (hab : a ≤ b) : Soon b P k := by
  obtain ⟨j, hj, hP⟩ := h
  exact ⟨j, Nat.le_trans hj hab, hP⟩

theorem of_succ (h : Soon b P (k + 1)) : Soon (b + 1) P k := by
  obtain ⟨j, hj, hP⟩ := h
  refine ⟨j + 1, Nat.succ_le_succ hj, ?_⟩
  rwa [Nat.add_comm j, ← Nat.add_assoc]

theorem imp (h : Soon b P k) (hPQ : ∀ j, k ≤ j → P j → Q j) : Soon b Q k := by
  obtain ⟨j, hj, hP⟩ := h
  exact ⟨j, hj, hPQ (k + j) (Nat.le_add_right k j) hP⟩

/-- From one milestone to the next. -/
theorem trans (h : Soon a P k) (hstep : ∀ j, k ≤ j → P j → Soon b Q j) : Soon (a + b) Q k := by
  obtain ⟨i, hi, hP⟩ := h
  obtain ⟨j, hj, hQ⟩ := hstep (k + i) (Nat.le_add_right k i) hP
  refine ⟨i + j, Nat.add_le_add hi hj, ?_⟩
  rwa [← Nat.add_assoc]

/-- What is kept until `Q` holds still holds when it does. -/
theorem held (h : Soon b Q k) (hP : P k) (hkeep : ∀ j, k ≤ j → P j → ¬ Q j → P (j + 1)) :
    Soon b (fun j => P j ∧ Q j) k := by
  induction b generalizing k with
  | zero =>
      obtain ⟨j, hj, hQ⟩ := h
      obtain rfl := Nat.le_zero.mp hj
      exact now ⟨hP, hQ⟩
  | succ b ih =>
      by_cases hQ : Q k
      · exact now ⟨hP, hQ⟩
      · obtain ⟨j, hj, hQj⟩ := h
        cases j with
        | zero => exact absurd hQj hQ
        | succ j =>
            apply of_succ
            apply ih
            · refine ⟨j, Nat.le_of_succ_le_succ hj, ?_⟩
              rwa [Nat.add_assoc, Nat.add_comm 1]
            · exact hkeep k (Nat.le_refl k) hP hQ
            · exact fun i hi => hkeep i (Nat.le_of_succ_le hi)

/-- A rank that falls as long as `P` is kept and `Q` does not hold. -/
theorem of_rank (rank : Nat → Nat) (hP : P k)
    (hstep : ∀ j, k ≤ j → P j → ¬ Q j → P (j + 1) ∧ rank (j + 1) < rank j) :
    Soon (rank k) Q k := by
  induction hn : rank k using Nat.strong_induction_on generalizing k with
  | _ n ih =>
      by_cases hQ : Q k
      · exact now hQ
      · obtain ⟨hnext, hfall⟩ := hstep k (Nat.le_refl k) hP hQ
        rw [hn] at hfall
        have hlater := ih (rank (k + 1)) hfall hnext
          (fun j hj => hstep j (Nat.le_of_succ_le hj)) rfl
        exact hlater.of_succ.mono hfall

end Soon
