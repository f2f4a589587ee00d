import Mathlib.Data.List.Basic

/-!
# Streams of items

A port that may pass one item in every cycle, and the list of the items that it
has passed. One stream merges others if every item of it is the next item of
exactly one of them, and the other way round.
-/

namespace Streams

variable {α ι : Type*}

/-- The items passed in the first `n` cycles. -/
def items (f : Nat → Option α) (n : Nat) : List α := (List.range n).filterMap f

@[simp] theorem items_zero (f : Nat → Option α) : items f 0 = [] := rfl

theorem items_succ (f : Nat → Option α) (n : Nat) :
    items f (n + 1) = items f n ++ (f n).toList := by
  rw [items, List.range_succ, List.filterMap_append]
  cases h : f n with
  | none => simp [items, h]
  | some a => simp [items, h]

theorem items_succ_of_none {f : Nat → Option α} {n : Nat} (h : f n = none) :
    items f (n + 1) = items f n := by
  rw [items_succ, h, Option.toList_none, List.append_nil]

theorem items_succ_of_some {f : Nat → Option α} {n : Nat} {a : α} (h : f n = some a) :
    items f (n + 1) = items f n ++ [a] := by
  rw [items_succ, h, Option.toList_some]

/-- A port that passes some of the items of another. -/
theorem items_filter (f : Nat → Option α) (p : α → Bool) (n : Nat) :
    items (fun k => (f k).filter p) n = (items f n).filter p := by
  induction n with
  | zero => rfl
  | succ n ih =>
      rw [items_succ, items_succ, ih, List.filter_append]
      cases h : f n with
      | none => rfl
      | some a => cases hp : p a <;> simp [Option.filter, hp]

/-- A port that passes what another one passes, changed by a function. -/
theorem items_map {β : Type*} (f : Nat → Option α) (g : α → β) (n : Nat) :
    items (fun k => (f k).map g) n = (items f n).map g := by
  induction n with
  | zero => rfl
  | succ n ih =>
      rw [items_succ, items_succ, ih, List.map_append]
      cases f n <;> rfl

/-- The item of the cycle before. -/
def before (f : Nat → Option α) : Nat → Option α
  | 0 => none
  | n + 1 => f n

/-- A port that passes what another one passes, at once or, when it is `late`, one cycle
later: it is behind by one item at most. -/
theorem items_late {f g : Nat → Option α} {late : Nat → Bool}
    (hfresh : ∀ k, late k = false → g k = if late (k + 1) then none else f k)
    (hlate : ∀ k, late k = true → f k = none ∧ g k = before f k ∧ late (k + 1) = false) (n : Nat) :
    items f n = items g n ++ if late n then (before f n).toList else [] := by
  induction n with
  | zero => cases late 0 <;> rfl
  | succ n ih =>
      rw [items_succ, items_succ, ih]
      cases hn : late n with
      | false =>
          rw [hfresh n hn]
          cases late (n + 1) <;> simp [before]
      | true =>
          obtain ⟨hf, hg, hnext⟩ := hlate n hn
          rw [hf, hg, hnext]
          simp

/-- `out` is a shuffle of the lists `parts`: its items come from them in order. -/
def IsMerge [DecidableEq ι] (out : List α) (parts : ι → List α) : Prop :=
  ∃ l : List (ι × α), l.map Prod.snd = out ∧
    ∀ i, (l.filter (·.1 = i)).map Prod.snd = parts i

/-- A port merges others if in every cycle it passes what exactly one of them passes, or
they all pass nothing. -/
theorem isMerge_items [DecidableEq ι] {out : Nat → Option α} {part : ι → Nat → Option α}
    (h : ∀ k, (out k = none ∧ ∀ i, part i k = none) ∨
      ∃ i a, out k = some a ∧ part i k = some a ∧ ∀ j, j ≠ i → part j k = none) (n : Nat) :
    IsMerge (items out n) fun i => items (part i) n := by
  induction n with
  | zero => exact ⟨[], rfl, fun _ => rfl⟩
  | succ n ih =>
      obtain ⟨l, hout, hparts⟩ := ih
      rcases h n with ⟨hnone, hothers⟩ | ⟨i, a, hsome, hi, hothers⟩
      · refine ⟨l, ?_, fun j => ?_⟩
        · rw [items_succ_of_none hnone, hout]
        · simp only [items_succ_of_none (hothers j)]
          exact hparts j
      · refine ⟨l ++ [(i, a)], ?_, fun j => ?_⟩
        · rw [items_succ_of_some hsome, List.map_append, hout]
          rfl
        · rw [List.filter_append, List.map_append, hparts j]
          by_cases hj : j = i
          · subst hj
            simp [items_succ_of_some hi]
          · simp [items_succ_of_none (hothers j hj), Ne.symm hj]

end Streams
