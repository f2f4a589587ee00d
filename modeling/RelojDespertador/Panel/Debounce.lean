import RelojDespertador.Panel.Display

/-!
# Reading the buttons until they repeat

`debounce_buttons` of `TimerWithC`, `TimerWithClock` and `Final2` reads the
buttons register until two successive readings are equal, up to a bound. The
register is a stream of readings here, and a call consumes some of them from the
start. What it returns is one `buttons` of a `Sample`.
-/

namespace RelojDespertador

/-- The loop of `debounce_buttons` with `rounds` iterations to go, after `consumed`
readings. It leaves with `stable_state`, which has no value before the first one. -/
def debounceLoop (r : Nat → U32) :
    (rounds consumed : Nat) → (lastState : U32) → (stableState : Option U32) → Option U32 × Nat
  | 0, consumed, _, stableState => (stableState, consumed)
  | rounds + 1, consumed, lastState, _ =>
      let stableState := r consumed
      if stableState = lastState then (some stableState, consumed + 1)
      else debounceLoop r rounds (consumed + 1) stableState (some stableState)

/-- What `debounce_buttons` returns, and how many readings it consumes. -/
def debounceButtons (rounds : Nat) (r : Nat → U32) : Option U32 × Nat :=
  debounceLoop r rounds 1 (r 0) none

/-- `debounce_buttons` of `TimerWithC`. -/
def TimerWithC.debounceButtons (r : Nat → U32) : Option U32 × Nat :=
  RelojDespertador.debounceButtons 100000 r

/-- `debounce_buttons` of `TimerWithClock`. -/
def TimerWithClock.debounceButtons (r : Nat → U32) : Option U32 × Nat :=
  RelojDespertador.debounceButtons 100000 r

/-- `debounce_buttons` of `Final2`. -/
def Final2.debounceButtons (r : Nat → U32) : Option U32 × Nat :=
  RelojDespertador.debounceButtons 10000 r

/-- Reading `k` is the one before it once more. -/
def Repeats (r : Nat → U32) (k : Nat) : Prop := 1 ≤ k ∧ r k = r (k - 1)

/-- Reading `k` is the first repeated one up to `rounds`, or the last of them if none is. -/
def StopsAt (r : Nat → U32) (rounds k : Nat) : Prop :=
  (k ≤ rounds ∧ Repeats r k ∧ ∀ j < k, ¬ Repeats r j) ∨
    (k = rounds ∧ ∀ j ≤ rounds, ¬ Repeats r j)

/-- A call stops at the first repeated reading and returns it. -/
def ReturnsFirstRepeat (r : Nat → U32) (rounds : Nat) (result : Option U32 × Nat) : Prop :=
  ∃ k, StopsAt r rounds k ∧ result = (some (r k), k + 1) ∧
    -- a value that was not read twice in a row comes after readings that all differ
    ((¬ ∃ j ≤ k, Repeats r j ∧ r j = r k) → ∀ j, 1 ≤ j → j ≤ rounds → r j ≠ r (j - 1))

section Loop

variable {r : Nat → U32}

/-- Without a repeated reading so far the loop goes on to the first one. After the
last iteration `stable_state` has a value. -/
theorem debounceLoop_stopsAt (n p : Nat) (stableState : Option U32)
    (hnone : ∀ j ≤ p, ¬ Repeats r j) (hstable : n = 0 → stableState = some (r p)) :
    ∃ k, StopsAt r (p + n) k ∧ debounceLoop r n (p + 1) (r p) stableState = (some (r k), k + 1) := by
  induction n generalizing p stableState with
  | zero =>
      refine ⟨p, Or.inr ⟨rfl, hnone⟩, ?_⟩
      rw [debounceLoop, hstable rfl]
  | succ n ih =>
      have hbound : p + (n + 1) = p + 1 + n := by omega
      rw [debounceLoop, hbound]
      by_cases hsame : r (p + 1) = r p
      · refine ⟨p + 1, Or.inl ⟨Nat.le_add_right _ n, ⟨Nat.le_add_left 1 p, hsame⟩, ?_⟩, ?_⟩
        · intro j hj
          exact hnone j (Nat.le_of_lt_succ hj)
        · exact if_pos hsame
      · rw [if_neg hsame]
        apply ih (p + 1)
        · intro j hj
          rcases Nat.le_succ_iff.mp hj with hle | rfl
          · exact hnone j hle
          · exact fun hrepeats => hsame hrepeats.2
        · exact fun _ => rfl

/-- A value that was not read twice in a row is the last one of readings that all differ. -/
theorem StopsAt.differ {rounds k : Nat} (h : StopsAt r rounds k)
    (hnone : ¬ ∃ j ≤ k, Repeats r j ∧ r j = r k) {j : Nat} (hpos : 1 ≤ j) (hj : j ≤ rounds) :
    r j ≠ r (j - 1) := by
  rcases h with ⟨-, hrepeats, -⟩ | ⟨-, hdiffer⟩
  · exact absurd ⟨k, le_rfl, hrepeats, rfl⟩ hnone
  · exact fun hsame => hdiffer j hj ⟨hpos, hsame⟩

/-- With at least one iteration the function returns the first repeated reading. -/
theorem debounceButtons_returns {rounds : Nat} (hpos : 0 < rounds) (r : Nat → U32) :
    ReturnsFirstRepeat r rounds (debounceButtons rounds r) := by
  have hstart : ∀ j ≤ 0, ¬ Repeats r j := by
    rintro j hj ⟨hone, -⟩
    omega
  obtain ⟨k, hstop, hresult⟩ := debounceLoop_stopsAt rounds 0 none hstart fun hzero =>
    absurd hzero hpos.ne'
  rw [Nat.zero_add] at hstop
  exact ⟨k, hstop, hresult, fun hnone _ => hstop.differ hnone⟩

end Loop

/-- `debounce_buttons` of `Final2` returns the first repeated reading, or the last of 10001. -/
theorem Final2.debounceButtons_returnsFirstRepeat (r : Nat → U32) :
    ReturnsFirstRepeat r 10000 (Final2.debounceButtons r) :=
  debounceButtons_returns (by decide) r

/-- A bounce between two readings, and then the buttons rest. -/
example : debounceButtons 10 (fun k => if k = 1 then 0 else 1) = (some 1, 4) := by decide

end RelojDespertador
