import Mathlib.Data.Nat.Basic

/-!
# The first set bit of a word, by addition

The sum of `~x` and `2 ^ p` carries through the clear bits of `x` from `p` on
and stops at the first set one. What `x` and the sum have in common is that bit.
-/

namespace FirstSetBit

variable {w : Nat} (x : BitVec w) {p i : Nat}

/-- The carry into a bit: all bits of `x` from `p` up to it are clear. -/
theorem carry_not_twoPow (hi : i ≤ w) :
    BitVec.carry i (~~~x) (BitVec.twoPow w p) false =
      decide (p < i ∧ ∀ k, p ≤ k → k < i → x.getLsbD k = false) := by
  induction i with
  | zero => simp
  | succ i ih =>
      have hlt : i < w := hi
      rw [BitVec.carry_succ, ih (Nat.le_of_lt hlt), BitVec.getLsbD_not, BitVec.getLsbD_twoPow]
      rcases Nat.lt_trichotomy i p with hbelow | rfl | habove
      · have hp : ¬ p < i := by omega
        have hp' : ¬ p < i + 1 := by omega
        have hne : ¬ p = i := by omega
        simp [hp, hp', hne, Bool.atLeastTwo]
      · have hbit : (∀ k, i ≤ k → k < i + 1 → x.getLsbD k = false) ↔ x.getLsbD i = false := by
          constructor
          · intro h
            exact h i (Nat.le_refl i) (Nat.lt_succ_self i)
          · intro h k hik hki
            obtain rfl : k = i := by omega
            exact h
        simp only [hbit]
        simp [hlt, Bool.atLeastTwo]
      · have hne : ¬ p = i := by omega
        have hp' : p < i + 1 := by omega
        have hbits : (∀ k, p ≤ k → k < i + 1 → x.getLsbD k = false) ↔
            x.getLsbD i = false ∧ ∀ k, p ≤ k → k < i → x.getLsbD k = false := by
          constructor
          · intro h
            exact ⟨h i (by omega) (by omega), fun k hpk hki => h k hpk (by omega)⟩
          · rintro ⟨hlast, hrest⟩ k hpk hki
            rcases Nat.lt_succ_iff_lt_or_eq.mp hki with hki | rfl
            · exact hrest k hpk hki
            · exact hlast
        simp only [hbits]
        simp [hlt, hne, hp', habove, Bool.atLeastTwo]

/-- The first set bit of `x` at or above `p`. -/
def firstSet (p : Nat) : BitVec w := x &&& (~~~x + BitVec.twoPow w p)

theorem getLsbD_firstSet (hi : i < w) :
    (firstSet x p).getLsbD i =
      decide (p ≤ i ∧ x.getLsbD i = true ∧ ∀ k, p ≤ k → k < i → x.getLsbD k = false) := by
  rw [firstSet, BitVec.getLsbD_and, BitVec.getLsbD_add hi, carry_not_twoPow x (Nat.le_of_lt hi),
    BitVec.getLsbD_not, BitVec.getLsbD_twoPow]
  rcases Nat.lt_trichotomy i p with hbelow | rfl | habove
  · have hp : ¬ p < i := by omega
    have hp' : ¬ p ≤ i := by omega
    have hne : ¬ p = i := by omega
    simp [hp, hp', hne, hi]
  · have hnone : ∀ k, i ≤ k → k < i → x.getLsbD k = false := by
      intro k hik hki
      omega
    cases x.getLsbD i with
    | false => simp [hi]
    | true => simpa [hi] using hnone
  · have hne : ¬ p = i := by omega
    have hle : p ≤ i := by omega
    cases x.getLsbD i <;> simp [hi, hne, hle, habove]

end FirstSetBit
