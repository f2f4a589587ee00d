import RelojDespertador.Panel.Refinement
import Mathlib.Algebra.BigOperators.Group.List.Basic

/-!
# Reading the trace of a round

What properties count in a trace: seconds on the clock, waits for the timer,
the timer cycles those waits take, and the accesses to the timer's registers.
Showing digits and setting the time add nothing to any of them.
-/

namespace RelojDespertador

namespace Event

def ticks : Event → Nat
  | .tick => 1
  | _ => 0

def waits : Event → Nat
  | .waitForTimer _ => 1
  | _ => 0

def cycles : Event → Nat
  | .waitForTimer expiry => expiry
  | _ => 0

def timerAccess : Event → Option TimerAccess
  | .waitForTimer _ => some .poll
  | .timer register value => some (.write register value)
  | _ => none

end Event

/-- The seconds a trace counts on the clock. -/
def ticks (l : List Event) : Nat := (l.map Event.ticks).sum

/-- The calls of `wait_for_timer` in a trace. -/
def waits (l : List Event) : Nat := (l.map Event.waits).sum

/-- The timer cycles that the waits of a trace consume. -/
def cycles (l : List Event) : Nat := (l.map Event.cycles).sum

/-- The accesses to the timer in a trace, in order. -/
def timerAccesses (l : List Event) : List TimerAccess := l.filterMap Event.timerAccess

section Append

variable (e : Event) (l m : List Event)

@[simp] theorem ticks_nil : ticks [] = 0 := rfl
@[simp] theorem waits_nil : waits [] = 0 := rfl
@[simp] theorem cycles_nil : cycles [] = 0 := rfl
@[simp] theorem timerAccesses_nil : timerAccesses [] = [] := rfl

@[simp] theorem ticks_cons : ticks (e :: l) = e.ticks + ticks l := rfl
@[simp] theorem waits_cons : waits (e :: l) = e.waits + waits l := rfl
@[simp] theorem cycles_cons : cycles (e :: l) = e.cycles + cycles l := rfl

@[simp] theorem timerAccesses_cons :
    timerAccesses (e :: l) = e.timerAccess.toList ++ timerAccesses l := by
  cases h : e.timerAccess <;> simp [timerAccesses, h]

@[simp] theorem ticks_append : ticks (l ++ m) = ticks l + ticks m := by simp [ticks]
@[simp] theorem waits_append : waits (l ++ m) = waits l + waits m := by simp [waits]
@[simp] theorem cycles_append : cycles (l ++ m) = cycles l + cycles m := by simp [cycles]

@[simp] theorem timerAccesses_append :
    timerAccesses (l ++ m) = timerAccesses l ++ timerAccesses m := by simp [timerAccesses]

end Append

namespace Panel

/-- The events of `wait_for_timer`. -/
def waitTrace (expiry : Nat) : List Event := [.waitForTimer expiry, .timer .status 1]

/-- The events of programming the timer with the two halves of a period. -/
def programTrace (low high : BitVec 16) : List Event :=
  [.timer .control 0, .timer .periodl low, .timer .periodh high, .timer .control 7]

theorem waitForTimer_eq (p : Panel) :
    p.waitForTimer = { p with trace := p.trace ++ waitTrace p.expiry } := by
  simp [waitForTimer, log, writeTimer, waitTrace]

theorem programTimer_eq (low high : U32) (p : Panel) :
    p.programTimer low high =
      { p with
        periodl := low.setWidth 16
        periodh := high.setWidth 16
        trace := p.trace ++ programTrace (low.setWidth 16) (high.setWidth 16) } := by
  simp [programTimer, log, writeTimer, programTrace]

/-- Waiting for the timer and counting a second. -/
theorem waitForTimer_countSecond {p : Panel} {t : TimeOfDay} (h : p.hora = Hora.ofTime t) :
    p.waitForTimer.countSecond =
      p.showing t.tick (waitTrace p.expiry ++ .tick :: timeTrace t.tick) := by
  rw [waitForTimer_eq, countSecond_eq _ t (by exact h)]
  simp [showing]

/-- An event of showing digits. -/
def isDigit : Event → Bool
  | .displayDigit _ _ => true
  | .sseg _ _ => true
  | _ => false

section Shown

variable {base : SsegBase} {digit : Nat} {t : TimeOfDay} {down : Fin 4 → Bool} {e : Event}

theorem isDigit_of_mem_shown (h : e ∈ shown base digit) : isDigit e = true := by
  simp only [shown, List.mem_cons, List.not_mem_nil, or_false] at h
  rcases h with rfl | rfl <;> rfl

theorem isDigit_of_mem_timeTrace (h : e ∈ timeTrace t) : isDigit e = true := by
  simp only [timeTrace, hoursTrace, minutesTrace, secondsTrace, List.mem_append] at h
  rcases h with (((h | h) | (h | h)) | (h | h)) <;> exact isDigit_of_mem_shown h

/-- Setting the time shows digits and runs the branches of the pressed buttons. -/
theorem mem_setTrace (h : e ∈ setTrace down t) :
    isDigit e = true ∨ ∃ k, down k = true ∧ e = .action k := by
  simp only [setTrace, hoursTrace, minutesTrace, secondsTrace, List.mem_append,
    List.mem_ite_nil_right, List.mem_cons, List.not_mem_nil, or_false] at h
  rcases h with ((⟨hd, rfl | h | h⟩ | ⟨hd, rfl | h | h⟩) | ⟨hd, rfl | h | h⟩) | ⟨hd, rfl⟩
  all_goals first
    | exact Or.inl (isDigit_of_mem_shown h)
    | exact Or.inr ⟨_, hd, rfl⟩

theorem not_mem_timeTrace (h : isDigit e = false) : e ∉ timeTrace t :=
  fun hmem => absurd (isDigit_of_mem_timeTrace hmem) (by simp [h])

theorem not_mem_setTrace (h : isDigit e = false) (ha : ∀ k, e ≠ .action k) :
    e ∉ setTrace down t := by
  intro hmem
  rcases mem_setTrace hmem with hdigit | ⟨k, -, rfl⟩
  · exact absurd hdigit (by simp [h])
  · exact ha k rfl

/-- The branch of a button runs exactly when the button is pressed. -/
theorem action_mem_setTrace {k : Fin 4} : .action k ∈ setTrace down t ↔ down k = true := by
  constructor
  · intro h
    rcases mem_setTrace h with h | ⟨k', hk', heq⟩
    · exact absurd h Bool.false_ne_true
    · obtain rfl : k = k' := by simpa using heq
      exact hk'
  · intro h
    match k with
    | 0 | 1 | 2 | 3 => simp [setTrace, h]

end Shown

section Counts

/-- Showing a digit and running the branch of a button count as nothing below. -/
def IsQuiet (e : Event) : Prop := isDigit e = true ∨ ∃ k, e = .action k

theorem IsQuiet.counts {e : Event} (h : IsQuiet e) :
    e.ticks = 0 ∧ e.waits = 0 ∧ e.cycles = 0 ∧ e.timerAccess = none := by
  cases e with
  | displayDigit | sseg | action => exact ⟨rfl, rfl, rfl, rfl⟩
  | _ =>
      rcases h with h | ⟨k, h⟩
      · exact absurd h Bool.false_ne_true
      · cases h

/-- The counts of a list of such events. -/
theorem counts_of_quiet {l : List Event} (h : ∀ e ∈ l, IsQuiet e) :
    ticks l = 0 ∧ waits l = 0 ∧ cycles l = 0 ∧ timerAccesses l = [] := by
  induction l with
  | nil => exact ⟨rfl, rfl, rfl, rfl⟩
  | cons e l ih =>
      obtain ⟨hticks, hwaits, hcycles, haccess⟩ := (h e List.mem_cons_self).counts
      obtain ⟨hticks', hwaits', hcycles', haccess'⟩ := ih fun x hx => h x (List.mem_cons_of_mem e hx)
      simp [hticks, hwaits, hcycles, haccess, hticks', hwaits', hcycles', haccess']

variable (t : TimeOfDay) (down : Fin 4 → Bool)

theorem quiet_timeTrace : ∀ e ∈ timeTrace t, IsQuiet e :=
  fun _ h => Or.inl (isDigit_of_mem_timeTrace h)

theorem quiet_setTrace : ∀ e ∈ setTrace down t, IsQuiet e :=
  fun _ h => (mem_setTrace h).imp_right fun ⟨k, _, he⟩ => ⟨k, he⟩

@[simp] theorem ticks_timeTrace : ticks (timeTrace t) = 0 := (counts_of_quiet (quiet_timeTrace t)).1

@[simp] theorem waits_timeTrace : waits (timeTrace t) = 0 :=
  (counts_of_quiet (quiet_timeTrace t)).2.1

@[simp] theorem cycles_timeTrace : cycles (timeTrace t) = 0 :=
  (counts_of_quiet (quiet_timeTrace t)).2.2.1

@[simp] theorem timerAccesses_timeTrace : timerAccesses (timeTrace t) = [] :=
  (counts_of_quiet (quiet_timeTrace t)).2.2.2

@[simp] theorem ticks_setTrace : ticks (setTrace down t) = 0 :=
  (counts_of_quiet (quiet_setTrace t down)).1

@[simp] theorem waits_setTrace : waits (setTrace down t) = 0 :=
  (counts_of_quiet (quiet_setTrace t down)).2.1

@[simp] theorem cycles_setTrace : cycles (setTrace down t) = 0 :=
  (counts_of_quiet (quiet_setTrace t down)).2.2.1

@[simp] theorem timerAccesses_setTrace : timerAccesses (setTrace down t) = [] :=
  (counts_of_quiet (quiet_setTrace t down)).2.2.2

end Counts

end Panel

end RelojDespertador
