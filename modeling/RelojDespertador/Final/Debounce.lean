import RelojDespertador.Panel.Display

/-!
# The debouncer of the Final firmware

`debounce_buttons` keeps `previous_state` from call to call, and its test is the
other way round: it waits and reads again when the reading is the state it
returned last, and returns any other reading at once. A stream gives the
readings of the buttons register, and `alt_busy_sleep` is a pure delay.
-/

namespace RelojDespertador.Final

/-- What the calls of `debounce_buttons` so far have left. -/
structure Debouncer where
  previousState : U32
  /-- The readings of the buttons register made so far. -/
  readings : Nat
  deriving DecidableEq, Repr

/-- Before the first call. -/
def Debouncer.initial : Debouncer := ⟨0xFFFFFFFF, 0⟩

/-- `debounce_buttons`. -/
def debounceButtons (r : Nat → U32) (d : Debouncer) : U32 × Debouncer :=
  let currentState := r d.readings
  if currentState = d.previousState then
    let currentState := r (d.readings + 1)
    (currentState, ⟨currentState, d.readings + 2⟩)
  else (currentState, ⟨currentState, d.readings + 1⟩)

/-- After `n` calls. -/
def calls (r : Nat → U32) : Nat → Debouncer
  | 0 => Debouncer.initial
  | n + 1 => (debounceButtons r (calls r n)).2

/-- What the `n`-th call returns. -/
def returned (r : Nat → U32) (n : Nat) : U32 := (debounceButtons r (calls r n)).1

/-- The `n`-th call reads what it returns before and after the delay. -/
def ReadsTwice (r : Nat → U32) (n : Nat) : Prop :=
  (calls r (n + 1)).readings = (calls r n).readings + 2 ∧
    r (calls r n).readings = returned r n ∧ r ((calls r n).readings + 1) = returned r n

/-- Reading `p + 1` differs from those before and after it, which are equal. -/
def Glitch (r : Nat → U32) (p : Nat) : Prop := r p = r (p + 2) ∧ r (p + 1) ≠ r p

/-- Call `n + 1` reports no change that it has not read twice, and no glitch: the
reading it returns, which is its last, is none. -/
def ReportsConfirmed (r : Nat → U32) (n : Nat) : Prop :=
  (returned r (n + 1) ≠ returned r n → ReadsTwice r (n + 1)) ∧
    ∀ p, Glitch r p → (calls r (n + 2)).readings ≠ p + 2

/-- The reading that the first call returns. -/
def firstReading (r : Nat → U32) : Nat := if r 0 = 0xFFFFFFFF then 1 else 0

section Calls

variable {r : Nat → U32} {n : Nat}

theorem previousState_succ (r : Nat → U32) (n : Nat) :
    (calls r (n + 1)).previousState = returned r n := by
  simp only [calls, returned, debounceButtons]
  split_ifs <;> rfl

/-- A call that reads its previous state waits and reads again. -/
theorem debounceButtons_same (h : r (calls r n).readings = (calls r n).previousState) :
    calls r (n + 1) = ⟨r ((calls r n).readings + 1), (calls r n).readings + 2⟩ := by
  simp only [calls, debounceButtons, if_pos h]

/-- Any other reading is returned at once. -/
theorem debounceButtons_changed (h : r (calls r n).readings ≠ (calls r n).previousState) :
    calls r (n + 1) = ⟨r (calls r n).readings, (calls r n).readings + 1⟩ := by
  simp only [calls, debounceButtons, if_neg h]

/-- A call reports nothing unconfirmed only if it sees its previous state twice. -/
theorem reportsConfirmed_iff : ReportsConfirmed r n ↔
    r (calls r (n + 1)).readings = (calls r (n + 1)).previousState ∧
      r ((calls r (n + 1)).readings + 1) = (calls r (n + 1)).previousState := by
  have hreturned := previousState_succ r (n + 1)
  have hprevious := previousState_succ r n
  constructor
  · rintro ⟨hconfirmed, -⟩
    by_cases hfirst : r (calls r (n + 1)).readings = (calls r (n + 1)).previousState
    · refine ⟨hfirst, ?_⟩
      rw [debounceButtons_same hfirst] at hreturned
      by_contra hsecond
      have hread := (hconfirmed (by rw [← hreturned, ← hprevious]; exact hsecond)).2.1
      exact hsecond (hreturned.trans (hread.symm.trans hfirst))
    · have hnext := debounceButtons_changed hfirst
      rw [hnext] at hreturned
      have hread := (hconfirmed (by rw [← hreturned, ← hprevious]; exact hfirst)).1
      rw [hnext] at hread
      exact absurd hread (by simp)
  · rintro ⟨hfirst, hsecond⟩
    have hnext := debounceButtons_same hfirst
    rw [hnext] at hreturned
    refine ⟨fun hchange => absurd ?_ hchange, ?_⟩
    · exact hreturned.symm.trans (hsecond.trans hprevious)
    · rintro p ⟨-, hdiffers⟩ hlast
      rw [hnext] at hlast
      obtain rfl : p = (calls r (n + 1)).readings := by simpa using hlast.symm
      exact hdiffers (hsecond.trans hfirst.symm)

/-- The first call. -/
theorem calls_one (r : Nat → U32) : calls r 1 = ⟨r (firstReading r), firstReading r + 1⟩ := by
  by_cases hfirst : r 0 = 0xFFFFFFFF
  · rw [firstReading, if_pos hfirst]
    exact debounceButtons_same (n := 0) hfirst
  · rw [firstReading, if_neg hfirst]
    exact debounceButtons_changed (n := 0) hfirst

/-- While the readings stay the same, every call makes two of them. -/
theorem calls_of_constant (h : ∀ k ≤ 2 * n, r (firstReading r + k) = r (firstReading r)) :
    calls r (n + 1) = ⟨r (firstReading r), firstReading r + 2 * n + 1⟩ := by
  induction n with
  | zero => exact calls_one r
  | succ n ih =>
      have hbefore := ih fun k hk => h k (by omega)
      have hfirst : r (calls r (n + 1)).readings = (calls r (n + 1)).previousState := by
        rw [hbefore]
        exact h (2 * n + 1) (by omega)
      have hsecond : r (firstReading r + 2 * n + 1 + 1) = r (firstReading r) :=
        h (2 * n + 2) (by omega)
      have hreadings : firstReading r + 2 * n + 1 + 2 = firstReading r + 2 * (n + 1) + 1 := by omega
      rw [debounceButtons_same hfirst, hbefore, Debouncer.mk.injEq]
      exact ⟨hsecond, hreadings⟩

end Calls

/-- The first `n` calls after the very first report nothing unconfirmed exactly when
the buttons do not change at all from the reading that the first call returns on. -/
theorem reportsConfirmed_iff_constant (r : Nat → U32) (n : Nat) :
    (∀ k < n, ReportsConfirmed r k) ↔
      ∀ k ≤ 2 * n, r (firstReading r + k) = r (firstReading r) := by
  induction n with
  | zero => simp
  | succ n ih =>
      rw [Nat.forall_lt_succ_right, ih]
      constructor
      · rintro ⟨hconstant, hcall⟩
        rw [reportsConfirmed_iff, calls_of_constant hconstant] at hcall
        intro k hk
        rcases Nat.lt_or_ge (2 * n) k with hlate | hearly
        · obtain rfl | rfl : k = 2 * n + 1 ∨ k = 2 * n + 2 := by omega
          · exact hcall.1
          · exact hcall.2
        · exact hconstant k hearly
      · intro hconstant
        have hbefore : ∀ k ≤ 2 * n, r (firstReading r + k) = r (firstReading r) :=
          fun k hk => hconstant k (by omega)
        refine ⟨hbefore, ?_⟩
        rw [reportsConfirmed_iff, calls_of_constant hbefore]
        exact ⟨hconstant (2 * n + 1) (by omega), hconstant (2 * n + 2) (by omega)⟩

/-- No button is down, but for one bounce of button 0. -/
def bounce (k : Nat) : U32 := if k = 1 then 1 else 0

/-- The second call reports the bounce after one reading. -/
theorem bounce_reported :
    returned bounce 0 = 0 ∧ returned bounce 1 = 1 ∧ Glitch bounce 0 ∧
      ¬ ReadsTwice bounce 1 ∧ ¬ ReportsConfirmed bounce 0 := by
  have hchange : returned bounce 1 ≠ returned bounce 0 := by decide
  have honce : ¬ ReadsTwice bounce 1 := by
    rintro ⟨hreadings, -⟩
    exact absurd hreadings (by decide)
  exact ⟨by decide, by decide, ⟨by decide, by decide⟩, honce, fun h => honce (h.1 hchange)⟩

end RelojDespertador.Final
