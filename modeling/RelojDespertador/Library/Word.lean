import Mathlib.Data.BitVec

/-!
# Machine words that do not wrap

A word is a natural number modulo a power of two. Under the bound that keeps an
operation from wrapping it is the operation on natural numbers.
-/

namespace Word

variable {w n : Nat} {x : BitVec w}

theorem toNat_ofNat (h : n < 2 ^ w) : (BitVec.ofNat w n).toNat = n := by
  rw [BitVec.toNat_ofNat]
  exact Nat.mod_eq_of_lt h

/-- A word is the word of a small number when it reads as that number. -/
theorem eq_ofNat_iff (h : n < 2 ^ w) : x = BitVec.ofNat w n ↔ x.toNat = n := by
  constructor
  · rintro rfl
    exact toNat_ofNat h
  · intro hx
    apply BitVec.eq_of_toNat_eq
    rw [hx, toNat_ofNat h]

theorem toNat_succ (h : x.toNat + 1 < 2 ^ w) : (x + 1).toNat = x.toNat + 1 := by
  have hone : (1 : BitVec w).toNat = 1 := toNat_ofNat (n := 1) (by omega)
  rw [BitVec.toNat_add, hone]
  exact Nat.mod_eq_of_lt h

theorem toNat_pred (h : 0 < x.toNat) : (x - 1).toNat = x.toNat - 1 := by
  have hx := x.isLt
  have hone : (1 : BitVec w).toNat = 1 := toNat_ofNat (n := 1) (by omega)
  rw [BitVec.toNat_sub_of_le, hone]
  rw [BitVec.le_def, hone]
  exact h

/-- Clearing the low bits of a word gives the start of its aligned block. -/
theorem toNat_clearLow (x : BitVec w) (k : Nat) :
    ((x >>> k) <<< k).toNat = x.toNat / 2 ^ k * 2 ^ k := by
  have hx := x.isLt
  have hle : x.toNat / 2 ^ k * 2 ^ k ≤ x.toNat := Nat.div_mul_le_self _ _
  rw [BitVec.toNat_shiftLeft, BitVec.toNat_ushiftRight, Nat.shiftLeft_eq, Nat.shiftRight_eq_div_pow]
  exact Nat.mod_eq_of_lt (by omega)

/-- A word without its low bits is an aligned number exactly in that number's block. -/
theorem clearLow_eq_iff {k : Nat} (hdvd : 2 ^ k ∣ n) (hn : n < 2 ^ w) :
    (x >>> k) <<< k = BitVec.ofNat w n ↔ n ≤ x.toNat ∧ x.toNat < n + 2 ^ k := by
  obtain ⟨q, rfl⟩ := hdvd
  have hpos : 0 < 2 ^ k := Nat.two_pow_pos k
  rw [eq_ofNat_iff hn, toNat_clearLow, Nat.mul_comm, Nat.mul_right_inj hpos.ne',
    Nat.div_eq_iff hpos, Nat.mul_comm q]
  omega

/-- A sum of words of which all but that of `a` are zero. -/
theorem foldr_or_single {ι : Type*} [DecidableEq ι] {f : ι → BitVec w} {a : ι} (l : List ι)
    (h : ∀ b, b ≠ a → f b = 0) :
    l.foldr (fun b sum => f b ||| sum) 0 = if a ∈ l then f a else 0 := by
  induction l with
  | nil => rfl
  | cons b l ih =>
      rw [List.foldr_cons, ih]
      by_cases hb : b = a
      · subst hb
        rw [if_pos (List.mem_cons_self ..)]
        split_ifs
        · exact BitVec.or_self
        · exact BitVec.or_zero
      · have hmem : a ∈ b :: l ↔ a ∈ l := by
          simp [List.mem_cons, Ne.symm hb]
        rw [h b hb]
        simp only [hmem]
        exact BitVec.zero_or

section LowOnes

variable {m y : BitVec w} {k : Nat}

/-- Under a mask of `k` low ones a word is taken modulo `2 ^ k`. -/
theorem toNat_and_lowOnes (h : m.toNat = 2 ^ k - 1) : (x &&& m).toNat = x.toNat % 2 ^ k := by
  rw [BitVec.toNat_and, h, Nat.and_two_pow_sub_one_eq_mod]

/-- A sum under such a mask needs only the masked bits of its terms. -/
theorem and_add_and_lowOnes (h : m.toNat = 2 ^ k - 1) : ((x &&& m) + y) &&& m = (x + y) &&& m := by
  have hm := m.isLt
  have hle : 2 ^ k ≤ 2 ^ w := by omega
  have hdvd : 2 ^ k ∣ 2 ^ w := Nat.pow_dvd_pow 2 ((Nat.pow_le_pow_iff_right Nat.one_lt_two).mp hle)
  apply BitVec.eq_of_toNat_eq
  rw [toNat_and_lowOnes h, toNat_and_lowOnes h, BitVec.toNat_add, BitVec.toNat_add,
    toNat_and_lowOnes h, Nat.mod_mod_of_dvd _ hdvd, Nat.mod_mod_of_dvd _ hdvd, Nat.mod_add_mod]

end LowOnes

section Append

variable {v k : Nat} {y : BitVec v}

theorem getLsbD_append_of_le (h : v ≤ k) : (x ++ y).getLsbD k = x.getLsbD (k - v) := by
  rw [BitVec.getLsbD_append, if_neg (Nat.not_lt.mpr h)]

theorem getLsbD_append_of_lt (h : k < v) : (x ++ y).getLsbD k = y.getLsbD k := by
  rw [BitVec.getLsbD_append, if_pos h]

end Append

end Word
