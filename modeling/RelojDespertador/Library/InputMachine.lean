import Mathlib.Data.Nat.Init
import Mathlib.Order.Basic

/-!
# Deterministic machines driven by an input stream

A machine is a step function `I → S → S`. A run is fixed by a start state and
a stream of inputs, and `states` lists what it passes through. The rules below
are the induction principles of such runs: invariants, simulations, variants
that force an exit, and registers that keep what was last written to them.
-/

namespace InputMachine

variable {I S : Type*} (step : I → S → S)

/-- The state after the first `n` inputs of the stream `w`. -/
def states (s : S) (w : Nat → I) : Nat → S
  | 0 => s
  | n + 1 => step (w n) (states s w n)

@[simp] theorem states_zero (s : S) (w : Nat → I) : states step s w 0 = s := rfl

theorem states_succ (s : S) (w : Nat → I) (n : Nat) :
    states step s w (n + 1) = step (w n) (states step s w n) := rfl

/-- Splitting a run after `m` inputs: the rest is a run on the remaining stream. -/
theorem states_add (s : S) (w : Nat → I) (m n : Nat) :
    states step s w (m + n) =
      states step (states step s w m) (fun k => w (m + k)) n := by
  induction n with
  | zero => rfl
  | succ n ih => rw [← Nat.add_assoc, states_succ, states_succ, ih]

/-- The input before the `n`-th, where `i` stands for the one before the first. -/
def previous (i : I) (w : Nat → I) : Nat → I
  | 0 => i
  | n + 1 => w n

/-- An input that differs from the one before it in `f` comes exactly when one comes
that differs from the one before the first. -/
theorem exists_ne_previous_iff {α : Type*} (f : I → α) (i : I) (w : Nat → I) (n : Nat) :
    (∃ k < n, f (w k) ≠ f (previous i w k)) ↔ ∃ k < n, f (w k) ≠ f i := by
  rw [← not_iff_not]
  simp only [not_exists, not_and, not_not]
  constructor
  · intro hsame k hk
    induction k with
    | zero => exact hsame 0 hk
    | succ k ih => exact (hsame (k + 1) hk).trans (ih (Nat.lt_of_succ_lt hk))
  · intro hfirst k hk
    rw [hfirst k hk]
    cases k with
    | zero => rfl
    | succ k => exact (hfirst k (Nat.lt_of_succ_lt hk)).symm

/-- The state after the inputs of a list. -/
def feed (s : S) (l : List I) : S := l.foldl (fun s i => step i s) s

@[simp] theorem feed_nil (s : S) : feed step s [] = s := rfl

@[simp] theorem feed_cons (s : S) (i : I) (l : List I) :
    feed step s (i :: l) = feed step (step i s) l := rfl

theorem feed_append (s : S) (l m : List I) :
    feed step s (l ++ m) = feed step (feed step s l) m := by
  induction l generalizing s with
  | nil => rfl
  | cons i l ih => exact ih (step i s)

/-- Feeding one input over and over is a run on a constant stream. -/
theorem feed_replicate (s : S) (i : I) (n : Nat) :
    feed step s (List.replicate n i) = states step s (fun _ => i) n := by
  induction n with
  | zero => rfl
  | succ n ih => rw [List.replicate_succ', feed_append, ih, states_succ, feed_cons, feed_nil]

/-- The states some run from a start state passes through. -/
inductive Reachable (start : S → Prop) : S → Prop
  | init {s : S} (h : start s) : Reachable start s
  | next {s : S} (i : I) (h : Reachable start s) : Reachable start (step i s)

variable {step}

theorem Reachable.states {start : S → Prop} {s : S} (h : Reachable step start s)
    (w : Nat → I) (n : Nat) : Reachable step start (states step s w n) := by
  induction n with
  | zero => exact h
  | succ n ih => exact ih.next (w n)

theorem Reachable.feed {start : S → Prop} {s : S} (h : Reachable step start s)
    (l : List I) : Reachable step start (feed step s l) := by
  induction l generalizing s with
  | nil => exact h
  | cons i l ih => exact ih (h.next i)

/-- Holds at the start and is kept by a step, hence holds at every reachable state. -/
theorem Reachable.invariant {start P : S → Prop} {s : S} (h : Reachable step start s)
    (hstart : ∀ s, start s → P s) (hstep : ∀ i s, P s → P (step i s)) : P s := by
  induction h with
  | init h => exact hstart _ h
  | next i _ ih => exact hstep i _ ih

/-- The invariant rule along one run. -/
theorem states_invariant {P : S → Prop} {s : S} (hs : P s)
    (hstep : ∀ i s, P s → P (step i s)) (w : Nat → I) (n : Nat) :
    P (states step s w n) := by
  induction n with
  | zero => exact hs
  | succ n ih => exact hstep (w n) _ ih

section Simulation

variable {T : Type*} {step' : I → T → T} {R : S → T → Prop}

/-- Two machines that stay related under every input stay related along a run. -/
theorem states_simulate (hstep : ∀ i s t, R s t → R (step i s) (step' i t)) {s : S} {t : T}
    (h : R s t) (w : Nat → I) (n : Nat) : R (states step s w n) (states step' t w n) := by
  induction n with
  | zero => exact h
  | succ n ih => exact hstep (w n) _ _ ih

/-- Two machines that stay related under every input stay related along a list of inputs. -/
theorem feed_simulate (hstep : ∀ i s t, R s t → R (step i s) (step' i t)) {s : S} {t : T}
    (h : R s t) (l : List I) : R (feed step s l) (feed step' t l) := by
  induction l generalizing s t with
  | nil => exact h
  | cons i l ih => exact ih (hstep i s t h)

/-- A reachable state of one machine is related to a reachable state of the other. -/
theorem Reachable.simulate {start : S → Prop} {start' : T → Prop}
    (hstart : ∀ s, start s → ∃ t, start' t ∧ R s t)
    (hstep : ∀ i s t, R s t → R (step i s) (step' i t)) {s : S}
    (h : Reachable step start s) : ∃ t, Reachable step' start' t ∧ R s t := by
  induction h with
  | init h =>
      obtain ⟨t, ht, hR⟩ := hstart _ h
      exact ⟨t, Reachable.init ht, hR⟩
  | next i _ ih =>
      obtain ⟨t, ht, hR⟩ := ih
      exact ⟨step' i t, ht.next i, hstep i _ _ hR⟩

end Simulation

/-! ## Two runs that an observer cannot tell apart -/

section Unwinding

variable {T : Type*} {obs : S → T} {f g : S → S}

/-- What `obs` sees after `f` depends on what it sees before. -/
def Respects (obs : S → T) (f : S → S) : Prop :=
  ∀ ⦃s s' : S⦄, obs s = obs s' → obs (f s) = obs (f s')

theorem Respects.comp (hf : Respects obs f) (hg : Respects obs g) :
    Respects obs fun s => g (f s) :=
  fun _ _ h => hg (hf h)

theorem Respects.guard (c : Prop) [Decidable c] (hf : Respects obs f) {s s' : S}
    (h : obs s = obs s') : obs (if c then f s else s) = obs (if c then f s' else s') := by
  split_ifs
  · exact hf h
  · exact h

/-- If steps respect the observer, who also cannot tell the inputs in `E` apart,
then he cannot tell apart two runs on such inputs. -/
theorem states_unwind {E : I → I → Prop} (hrespects : ∀ i, Respects obs (step i))
    (hinput : ∀ i i' s, E i i' → obs (step i s) = obs (step i' s)) {s s' : S}
    (h : obs s = obs s') {w w' : Nat → I} {n : Nat} (hw : ∀ k < n, E (w k) (w' k)) :
    obs (states step s w n) = obs (states step s' w' n) := by
  induction n with
  | zero => exact h
  | succ n ih =>
      have hn : obs (states step s w n) = obs (states step s' w' n) :=
        ih fun k hk => hw k (Nat.lt_succ_of_lt hk)
      calc
        obs (step (w n) (states step s w n)) = obs (step (w n) (states step s' w' n)) :=
          hrespects (w n) hn
        _ = obs (step (w' n) (states step s' w' n)) := hinput _ _ _ (hw n (Nat.lt_succ_self n))

end Unwinding

/-- A variant that falls as long as the run stays in `P` forces the run out of
`P`, after at most the variant's value at the start. -/
theorem exists_leaves {P : S → Prop} (variant : S → Nat)
    (hfall : ∀ i s, P s → P (step i s) → variant (step i s) < variant s)
    {s : S} (hs : P s) (w : Nat → I) :
    ∃ n ≤ variant s, (∀ k ≤ n, P (states step s w k)) ∧ ¬ P (states step s w (n + 1)) := by
  induction hv : variant s using Nat.strong_induction_on generalizing s w with
  | _ v ih =>
      by_cases hnext : P (step (w 0) s)
      · have hlt : variant (step (w 0) s) < v := hv ▸ hfall (w 0) s hs hnext
        obtain ⟨n, hn, hstay, hleave⟩ := ih _ hlt hnext (fun k => w (1 + k)) rfl
        have hshift (k : Nat) : states step (step (w 0) s) (fun k => w (1 + k)) k =
            states step s w (k + 1) := by
          rw [Nat.add_comm k 1, states_add step s w 1 k]
          rfl
        refine ⟨n + 1, by omega, ?_, by rw [← hshift]; exact hleave⟩
        intro k hk
        cases k with
        | zero => exact hs
        | succ k =>
            rw [← hshift]
            exact hstay k (by omega)
      · refine ⟨0, Nat.zero_le _, ?_, hnext⟩
        intro k hk
        obtain rfl : k = 0 := by omega
        exact hs

/-! ## The latest occurrence of an event before a step -/

/-- Step `j` is the latest one before `n` at which `P` holds. -/
def Latest (P : Nat → Prop) (n j : Nat) : Prop :=
  j < n ∧ P j ∧ ∀ k, j < k → k < n → ¬ P k

/-- The latest occurrence before `n + 1` is step `n` or the latest one before `n`. -/
theorem latest_succ_iff {P : Nat → Prop} {n j : Nat} :
    Latest P (n + 1) j ↔ (j = n ∧ P n) ∨ (¬ P n ∧ Latest P n j) := by
  constructor
  · rintro ⟨hj, hP, hlast⟩
    rcases Nat.lt_succ_iff_lt_or_eq.mp hj with hlt | rfl
    · exact Or.inr ⟨hlast n hlt (Nat.lt_succ_self n), hlt, hP,
        fun k hk hkn => hlast k hk (Nat.lt_succ_of_lt hkn)⟩
    · exact Or.inl ⟨rfl, hP⟩
  · rintro (⟨rfl, hP⟩ | ⟨hn, hj, hP, hlast⟩)
    · exact ⟨Nat.lt_succ_self _, hP, fun k hk hkn => absurd hkn (by omega)⟩
    · refine ⟨Nat.lt_succ_of_lt hj, hP, fun k hk hkn => ?_⟩
      rcases Nat.lt_succ_iff_lt_or_eq.mp hkn with hlt | rfl
      · exact hlast k hk hlt
      · exact hn

/-- A register that is empty at first, takes a new value at the steps where `P`
holds and keeps its value at the others holds the value of the latest such step. -/
theorem eq_some_iff_latest {α : Type*} {r : Nat → Option α} {P : Nat → Prop} {v : Nat → α}
    (hzero : r 0 = none) (hset : ∀ n, P n → r (n + 1) = some (v n))
    (hkeep : ∀ n, ¬ P n → r (n + 1) = r n) (n : Nat) (x : α) :
    r n = some x ↔ ∃ j, Latest P n j ∧ v j = x := by
  induction n with
  | zero =>
      rw [hzero]
      constructor
      · intro h
        cases h
      · rintro ⟨j, ⟨hj, -, -⟩, -⟩
        exact absurd hj (Nat.not_lt_zero j)
  | succ n ih =>
      by_cases hP : P n
      · rw [hset n hP, Option.some.injEq]
        constructor
        · intro hv
          exact ⟨n, latest_succ_iff.mpr (Or.inl ⟨rfl, hP⟩), hv⟩
        · rintro ⟨j, hj, hv⟩
          rcases latest_succ_iff.mp hj with ⟨rfl, -⟩ | ⟨hn, -⟩
          · exact hv
          · exact absurd hP hn
      · rw [hkeep n hP, ih]
        constructor
        · rintro ⟨j, hj, hv⟩
          exact ⟨j, latest_succ_iff.mpr (Or.inr ⟨hP, hj⟩), hv⟩
        · rintro ⟨j, hj, hv⟩
          rcases latest_succ_iff.mp hj with ⟨-, hn⟩ | ⟨-, hj⟩
          · exact absurd hn hP
          · exact ⟨j, hj, hv⟩

/-- A bit that is clear at first, comes on at the steps of `set` and goes off at the
other steps of `clear` is on exactly when some step has set it and no later one
has cleared it. -/
theorem latched_iff {r set clear : Nat → Prop} (hzero : ¬ r 0)
    (hstep : ∀ n, r (n + 1) ↔ set n ∨ (r n ∧ ¬ clear n)) (n : Nat) :
    r n ↔ ∃ j < n, set j ∧ ∀ k, j < k → k < n → ¬ clear k := by
  induction n with
  | zero =>
      constructor
      · intro h
        exact absurd h hzero
      · rintro ⟨j, hj, -⟩
        exact absurd hj (Nat.not_lt_zero j)
  | succ n ih =>
      rw [hstep]
      constructor
      · rintro (hset | ⟨hr, hclear⟩)
        · exact ⟨n, Nat.lt_succ_self n, hset, fun k hk hkn => absurd hkn (by omega)⟩
        · obtain ⟨j, hj, hset, hlast⟩ := ih.mp hr
          refine ⟨j, Nat.lt_succ_of_lt hj, hset, fun k hk hkn => ?_⟩
          rcases Nat.lt_succ_iff_lt_or_eq.mp hkn with hlt | rfl
          · exact hlast k hk hlt
          · exact hclear
      · rintro ⟨j, hj, hset, hlast⟩
        rcases Nat.lt_succ_iff_lt_or_eq.mp hj with hlt | rfl
        · refine Or.inr ⟨ih.mpr ⟨j, hlt, hset, fun k hk hkn => ?_⟩, ?_⟩
          · exact hlast k hk (Nat.lt_succ_of_lt hkn)
          · exact hlast n hlt (Nat.lt_succ_self n)
        · exact Or.inl hset

end InputMachine
