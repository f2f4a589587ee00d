import Mathlib.Data.Fin.Basic
import Mathlib.Data.Nat.Count
import Mathlib.Algebra.Group.Fin.Basic
import Mathlib.Algebra.GroupWithZero.Nat
import Mathlib.Data.Finset.Max
import Mathlib.Data.Fintype.Basic

/-!
# Round-robin arbitration

Requesters stand in a circle, and one of them has top priority. An arbitration
grants the first requester from there, and gives top priority to the one after
it. A requester that keeps requesting comes nearer to the top with every
arbitration that grants another one.
-/

namespace RoundRobin

variable {n : Nat}

/-- `i` is the first requester from `top` on. -/
def IsFirst (requests : Fin n → Prop) (top i : Fin n) : Prop :=
  requests i ∧ ∀ j, requests j → (i - top).val ≤ (j - top).val

variable {requests : Fin n → Prop} {top i g : Fin n}

/-- A requester from the top on is the first if none stands between. -/
theorem isFirst_iff_of_le (h : top ≤ i) :
    IsFirst requests top i ↔ requests i ∧ ∀ j, requests j → ¬ (top.val ≤ j.val ∧ j.val < i.val) := by
  refine and_congr_right fun _ => forall₂_congr fun j _ => ?_
  rw [Fin.sub_val_of_le h]
  rcases Nat.lt_or_ge j.val top.val with hbelow | habove
  · rw [Fin.coe_sub_iff_lt.mpr hbelow]
    omega
  · rw [Fin.sub_val_of_le habove]
    have hi : top.val ≤ i.val := h
    omega

/-- A requester below the top is the first if all others stand between it and the top. -/
theorem isFirst_iff_of_lt (h : i < top) :
    IsFirst requests top i ↔ requests i ∧ ∀ j, requests j → i.val ≤ j.val ∧ j.val < top.val := by
  refine and_congr_right fun _ => forall₂_congr fun j _ => ?_
  rw [Fin.coe_sub_iff_lt.mpr h]
  rcases Nat.lt_or_ge j.val top.val with hbelow | habove
  · rw [Fin.coe_sub_iff_lt.mpr hbelow]
    omega
  · rw [Fin.sub_val_of_le habove]
    have hi : i.val < top.val := h
    omega

/-- If there is a requester, there is a first one. -/
theorem exists_isFirst (h : ∃ i, requests i) : ∃ i, IsFirst requests top i := by
  classical
  obtain ⟨i, hi, hmin⟩ := Finset.exists_min_image (Finset.univ.filter requests)
    (fun i => (i - top).val) (by simpa [Finset.filter_nonempty_iff] using h)
  refine ⟨i, by simpa using hi, fun j hj => hmin j (by simpa using hj)⟩

variable [NeZero n]

theorem IsFirst.unique (h : IsFirst requests top i) (h' : IsFirst requests top g) : i = g := by
  have hval : (i - top).val = (g - top).val := le_antisymm (h.2 g h'.1) (h'.2 i h.1)
  exact sub_left_injective (Fin.ext hval)

theorem IsFirst.val_sub (h : IsFirst requests top g) (hi : requests i) :
    (i - g).val = (i - top).val - (g - top).val := by
  have hle : g - top ≤ i - top := h.2 i hi
  rw [← sub_sub_sub_cancel_right i g top]
  exact Fin.sub_val_of_le hle

/-- Once another requester has been granted, and the one after it has top priority, `i`
is nearer to the top. -/
theorem IsFirst.nearer (h : IsFirst requests top g) (hi : requests i) (hne : g ≠ i) :
    (i - (g + 1)).val < (i - top).val := by
  have hval := h.val_sub hi
  have hpos : i - g ≠ 0 := by
    intro hzero
    exact hne (sub_eq_zero.mp hzero).symm
  have hone : (i - (g + 1)).val = (i - g).val - 1 := by
    rw [← sub_sub]
    exact Fin.val_sub_one_of_ne_zero hpos
  have hnonzero : (i - g).val ≠ 0 := by
    intro hzero
    exact hpos (Fin.ext hzero)
  omega

/-- One cycle: no arbitration, or one that grants `g`. -/
def Turn (requests : Fin n → Prop) (top top' : Fin n) : Option (Fin n) → Prop
  | none => top' = top
  | some g => IsFirst requests top g ∧ top' = g + 1

section Fairness

variable {r : Nat → Fin n → Prop} {t : Nat → Fin n} {granted : Nat → Option (Fin n)} {l : Nat}

/-- While `i` requests and is not granted, every arbitration brings it nearer to the top. -/
theorem val_sub_add_count_le (hturn : ∀ k < l, Turn (r k) (t k) (t (k + 1)) (granted k))
    (hrequests : ∀ k < l, r k i) (hgranted : ∀ k < l, granted k ≠ some i) :
    (i - t l).val + Nat.count (fun k => (granted k).isSome) l ≤ (i - t 0).val := by
  induction l with
  | zero => simp
  | succ l ih =>
      have hbefore := ih (fun k hk => hturn k (Nat.lt_succ_of_lt hk))
        (fun k hk => hrequests k (Nat.lt_succ_of_lt hk))
        (fun k hk => hgranted k (Nat.lt_succ_of_lt hk))
      have hlast := hturn l (Nat.lt_succ_self l)
      have hother := hgranted l (Nat.lt_succ_self l)
      rw [Nat.count_succ]
      cases hg : granted l with
      | none =>
          rw [hg] at hlast
          rw [hlast]
          simpa using hbefore
      | some g =>
          rw [hg] at hlast hother
          obtain ⟨hfirst, htop⟩ := hlast
          have hnearer := hfirst.nearer (hrequests l (Nat.lt_succ_self l))
            fun heq => hother (congrArg some heq)
          rw [htop]
          simp only [Option.isSome_some, if_true]
          omega

/-- At most `n - 1` others are granted before a requester that keeps asking. -/
theorem count_lt_of_not_granted (hturn : ∀ k < l, Turn (r k) (t k) (t (k + 1)) (granted k))
    (hrequests : ∀ k < l, r k i) (hgranted : ∀ k < l, granted k ≠ some i) :
    Nat.count (fun k => (granted k).isSome) l < n := by
  have hle := val_sub_add_count_le hturn hrequests hgranted
  have hlt := (i - t 0).isLt
  omega

end Fairness

end RoundRobin
