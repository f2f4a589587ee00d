import Mathlib.Data.Fin.Basic
import Mathlib.Tactic.Ring
import Mathlib.Tactic.NormNum

/-!
# Three-digit counters in mixed radix

A counter has a high, a middle and a low digit in radices `a`, `b` and `c`.
`tick` is the ripple-carry increment. Read as a number, it adds one modulo
`a * b * c`, so the counter is a cyclic group written in digits. The three
digits can also be advanced separately, each modulo its own radix.
-/

/-- The digits of a counter, each bounded by its radix. -/
@[ext] structure MixedRadix (a b c : Nat) where
  hi : Fin a
  mid : Fin b
  lo : Fin c
  deriving DecidableEq, Repr

namespace MixedRadix

variable {a b c : Nat}

/-- The number a counter shows. -/
def value (d : MixedRadix a b c) : Nat :=
  (d.hi * b + d.mid) * c + d.lo

theorem value_lt (d : MixedRadix a b c) : d.value < a * b * c := by
  have hmid : d.hi * b + d.mid + 1 ≤ a * b := by
    calc
      d.hi * b + d.mid + 1 ≤ d.hi * b + b := Nat.add_le_add_left d.mid.isLt _
      _ = (d.hi + 1) * b := by ring
      _ ≤ a * b := Nat.mul_le_mul_right b d.hi.isLt
  calc
    d.value < (d.hi * b + d.mid) * c + c := Nat.add_lt_add_left d.lo.isLt _
    _ = (d.hi * b + d.mid + 1) * c := by ring
    _ ≤ a * b * c := Nat.mul_le_mul_right c hmid

/-- Different digits show different numbers. -/
theorem value_injective : Function.Injective (value (a := a) (b := b) (c := c)) := by
  intro d e h
  have hc : 0 < c := lt_of_le_of_lt (Nat.zero_le _) d.lo.isLt
  have hb : 0 < b := lt_of_le_of_lt (Nat.zero_le _) d.mid.isLt
  have hlo : (d.lo : Nat) = e.lo := by
    have := congrArg (· % c) h
    simpa [value, Nat.mod_eq_of_lt] using this
  have htop : d.hi * b + d.mid = e.hi * b + (e.mid : Nat) := by
    have := congrArg (· / c) h
    simpa [value, Nat.mul_add_div hc, Nat.mul_comm _ c, Nat.div_eq_of_lt] using this
  have hmid : (d.mid : Nat) = e.mid := by
    have := congrArg (· % b) htop
    simpa [Nat.mod_eq_of_lt] using this
  have hhi : (d.hi : Nat) = e.hi := by
    have := congrArg (· / b) htop
    simpa [Nat.mul_add_div hb, Nat.mul_comm _ b, Nat.div_eq_of_lt] using this
  exact MixedRadix.ext (Fin.ext hhi) (Fin.ext hmid) (Fin.ext hlo)

variable [NeZero a] [NeZero b] [NeZero c]

/-- Add one to the low digit and let the carry ripple upwards. -/
def tick (d : MixedRadix a b c) : MixedRadix a b c :=
  if hlo : (d.lo : Nat) + 1 < c then
    { d with lo := ⟨d.lo + 1, hlo⟩ }
  else if hmid : (d.mid : Nat) + 1 < b then
    { d with lo := 0, mid := ⟨d.mid + 1, hmid⟩ }
  else if hhi : (d.hi : Nat) + 1 < a then
    { hi := ⟨d.hi + 1, hhi⟩, mid := 0, lo := 0 }
  else
    { hi := 0, mid := 0, lo := 0 }

/-- The ripple-carry increment adds one modulo the product of the radices. -/
theorem value_tick (d : MixedRadix a b c) : d.tick.value = (d.value + 1) % (a * b * c) := by
  have hlt := d.tick.value_lt
  have hsucc (d' : MixedRadix a b c) (hd : d.tick = d') (hval : d.value + 1 = d'.value) :
      d.tick.value = (d.value + 1) % (a * b * c) := by
    rw [hd] at hlt ⊢
    rw [hval, Nat.mod_eq_of_lt hlt]
  have hloTop (h : ¬ (d.lo : Nat) + 1 < c) : c = d.lo + 1 := by have := d.lo.isLt; omega
  have hmidTop (h : ¬ (d.mid : Nat) + 1 < b) : b = d.mid + 1 := by have := d.mid.isLt; omega
  have hhiTop (h : ¬ (d.hi : Nat) + 1 < a) : a = d.hi + 1 := by have := d.hi.isLt; omega
  by_cases hlo : (d.lo : Nat) + 1 < c
  · exact hsucc { d with lo := ⟨d.lo + 1, hlo⟩ } (by simp [tick, hlo]) (by simp [value, Nat.add_assoc])
  by_cases hmid : (d.mid : Nat) + 1 < b
  · refine hsucc { d with lo := 0, mid := ⟨d.mid + 1, hmid⟩ } (by simp [tick, hlo, hmid]) ?_
    have hcarry : ∀ m : Nat, m * c + d.lo + 1 = (m + 1) * c + 0 := by
      intro m
      rw [Nat.add_assoc, ← hloTop hlo, Nat.succ_mul, Nat.add_zero]
    simpa [value, Nat.add_assoc] using hcarry (d.hi * b + d.mid)
  have hcarry : ∀ h m l : Nat, b = m + 1 → c = l + 1 → (h * b + m) * c + l + 1 = (h + 1) * b * c := by
    rintro h m l rfl rfl
    ring
  have hval := hcarry d.hi d.mid d.lo (hmidTop hmid) (hloTop hlo)
  by_cases hhi : (d.hi : Nat) + 1 < a
  · refine hsucc { hi := ⟨d.hi + 1, hhi⟩, mid := 0, lo := 0 } (by simp [tick, hlo, hmid, hhi]) ?_
    simpa [value] using hval
  · have htop : d.value + 1 = a * b * c := by
      rw [value, hval, ← hhiTop hhi]
    rw [htop, Nat.mod_self]
    simp [tick, hlo, hmid, hhi, value]

/-- The low digit goes up by one at every tick, modulo its radix. -/
theorem lo_tick (d : MixedRadix a b c) : (d.tick.lo : Nat) = (d.lo + 1) % c := by
  have hlt := d.lo.isLt
  unfold tick
  split_ifs with hlo hmid hhi
  · exact (Nat.mod_eq_of_lt hlo).symm
  all_goals
    have hc : (d.lo : Nat) + 1 = c := by omega
    simp [hc]

/-- Advance the low digit alone, modulo its radix. -/
def incLo (d : MixedRadix a b c) : MixedRadix a b c := { d with lo := d.lo + 1 }

/-- Advance the middle digit alone, modulo its radix. -/
def incMid (d : MixedRadix a b c) : MixedRadix a b c := { d with mid := d.mid + 1 }

/-- Advance the high digit alone, modulo its radix. -/
def incHi (d : MixedRadix a b c) : MixedRadix a b c := { d with hi := d.hi + 1 }

end MixedRadix
