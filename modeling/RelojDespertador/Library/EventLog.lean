import Mathlib.Data.List.Basic

/-!
# Programs that log what they put out

A state has a log of events and an output that events act on. Code accounts for
what it does to the output if the events it appends to the log lead from the
output before to the output after.
-/

namespace EventLog

variable {S E O : Type*}

/-- A way to read the log and the output off a state, and what an event does to an output. -/
structure View (S E O : Type*) where
  log : S → List E
  output : S → O
  act : O → E → O

variable (V : View S E O)

/-- What the events of a list do to an output. -/
def View.replay (o : O) (l : List E) : O := l.foldl V.act o

/-- The events logged from `s` to `s'` lead from the output of `s` to that of `s'`. -/
def Accounts (s s' : S) : Prop :=
  ∃ l, V.log s' = V.log s ++ l ∧ V.output s' = V.replay (V.output s) l

variable {V} {s s' s'' : S}

/-- A step that neither logs nor touches the output. -/
theorem Accounts.silent (hlog : V.log s' = V.log s) (houtput : V.output s' = V.output s) :
    Accounts V s s' :=
  ⟨[], by rw [hlog, List.append_nil], houtput⟩

theorem Accounts.refl (s : S) : Accounts V s s := .silent rfl rfl

/-- A step that logs one event and does to the output what the event does. -/
theorem Accounts.event {e : E} (hlog : V.log s' = V.log s ++ [e])
    (houtput : V.output s' = V.act (V.output s) e) : Accounts V s s' :=
  ⟨[e], hlog, houtput⟩

theorem Accounts.trans (h : Accounts V s s') (h' : Accounts V s' s'') : Accounts V s s'' := by
  obtain ⟨l, hlog, houtput⟩ := h
  obtain ⟨l', hlog', houtput'⟩ := h'
  refine ⟨l ++ l', ?_, ?_⟩
  · rw [hlog', hlog, List.append_assoc]
  · rw [houtput', houtput, View.replay, View.replay, View.replay, List.foldl_append]

instance : Trans (Accounts V) (Accounts V) (Accounts V) := ⟨Accounts.trans⟩

/-- Code under a condition. -/
theorem Accounts.ite {c : Prop} [Decidable c] {f g : S} (hf : c → Accounts V s f)
    (hg : ¬ c → Accounts V s g) : Accounts V s (if c then f else g) := by
  split_ifs with hc
  · exact hf hc
  · exact hg hc

/-- Code that may be skipped. -/
theorem Accounts.guard {c : Prop} [Decidable c] (h : Accounts V s s') :
    Accounts V s (if c then s' else s) :=
  .ite (fun _ => h) (fun _ => .refl s)

/-- From an empty log, the whole log leads from the first output to the last. -/
theorem Accounts.replay_log (h : Accounts V s s') (hempty : V.log s = []) :
    V.output s' = V.replay (V.output s) (V.log s') := by
  obtain ⟨l, hlog, houtput⟩ := h
  rw [hlog, hempty, List.nil_append]
  exact houtput

end EventLog
