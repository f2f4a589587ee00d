import Mathlib.Data.List.Basic

/-!
# Assignments in sequence

A combinational block that first assigns a default and then tests conditions
one after the other, each of which may assign another value. The last condition
that holds decides.
-/

namespace PriorityMux

variable {α β : Type*} {p : α → Bool} {f : α → β}

/-- The value after the tests of a list. -/
def select (p : α → Bool) (f : α → β) (default : β) (l : List α) : β :=
  l.foldl (fun out x => if p x then f x else out) default

theorem select_cons (default : β) (x : α) (l : List α) :
    select p f default (x :: l) = select p f (if p x then f x else default) l := rfl

theorem select_of_none {default : β} {l : List α} (h : ∀ x ∈ l, p x = false) :
    select p f default l = default := by
  induction l with
  | nil => rfl
  | cons x l ih =>
      rw [select_cons, h x (List.mem_cons_self ..)]
      exact ih fun y hy => h y (List.mem_cons_of_mem x hy)

/-- If every condition that holds assigns `v`, and one holds, the value is `v`. -/
theorem select_eq {default v : β} {l : List α} (hall : ∀ x ∈ l, p x = true → f x = v)
    (hsome : ∃ x ∈ l, p x = true) : select p f default l = v := by
  induction l generalizing default with
  | nil =>
      obtain ⟨x, hx, -⟩ := hsome
      cases hx
  | cons x l ih =>
      rw [select_cons]
      have hrest : ∀ y ∈ l, p y = true → f y = v := fun y hy =>
        hall y (List.mem_cons_of_mem x hy)
      by_cases hlater : ∃ y ∈ l, p y = true
      · exact ih hrest hlater
      · have hnone : ∀ y ∈ l, p y = false := fun y hy =>
          Bool.eq_false_iff.mpr fun h => hlater ⟨y, hy, h⟩
        obtain ⟨y, hy, hp⟩ := hsome
        obtain rfl : y = x := by
          rcases List.mem_cons.mp hy with rfl | hl
          · rfl
          · exact absurd ⟨y, hl, hp⟩ hlater
        rw [select_of_none hnone, if_pos hp]
        exact hall y hy hp

/-- The value is the default or one that a condition assigns. -/
theorem select_cases (default : β) (l : List α) :
    select p f default l = default ∨ ∃ x ∈ l, select p f default l = f x := by
  induction l generalizing default with
  | nil => exact Or.inl rfl
  | cons x l ih =>
      rw [select_cons]
      rcases ih (if p x then f x else default) with h | ⟨y, hy, h⟩
      · rw [h]
        split_ifs
        · exact Or.inr ⟨x, List.mem_cons_self .., rfl⟩
        · exact Or.inl rfl
      · exact Or.inr ⟨y, List.mem_cons_of_mem x hy, h⟩

end PriorityMux
