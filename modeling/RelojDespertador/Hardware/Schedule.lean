import RelojDespertador.Hardware.Countdown

/-!
# Time between the accesses to the timer

An interleaving is watched from some point on, and the clock edges, the
expiries of the timer, the poll loops that end and the seconds the software
counts are added up. The timeout flag is the only link between them: a poll
loop ends on a flag, and it is an expiry that sets it, but not always one after
the point of observation.
-/

namespace RelojDespertador

/-- What has happened since the start of observation. -/
structure Tally where
  edges : Nat
  /-- The edges at which the counter reaches its timeout. -/
  expiries : Nat
  /-- The poll loops that have ended. -/
  polls : Nat
  /-- The seconds that the rounds begun so far count on the clock. -/
  ticks : Nat
  deriving DecidableEq, Repr

namespace Tally

def zero : Tally := ⟨0, 0, 0, 0⟩

/-- A clock edge of the timer `t`. -/
def edge (t : Timer) (c : Tally) : Tally :=
  { c with edges := c.edges + 1, expiries := c.expiries + t.timeoutEvent.toNat }

def poll (c : Tally) : Tally := { c with polls := c.polls + 1 }

def count (seconds : Nat) (c : Tally) : Tally := { c with ticks := c.ticks + seconds }

end Tally

namespace TimerSystem

variable {I S : Type*} (step : I → S → S) (accesses : S → List TimerAccess) (seconds : S → Nat)
  (P : I → Prop)

/-- An interleaving from `y` on whose rounds read inputs in `P`, with its tally. -/
inductive Run (y : TimerSystem S) : Tally → TimerSystem S → Prop
  | refl : Run y Tally.zero y
  | cycle {c : Tally} {z : TimerSystem S} (h : Run y c z) :
      Run y (c.edge z.timer) { z with timer := z.timer.cycle none }
  | write {c : Tally} {z : TimerSystem S} {register : TimerRegister} {value : BitVec 16}
      {rest : List TimerAccess} (h : Run y c z) (hp : z.pending = .write register value :: rest) :
      Run y (c.edge z.timer)
        { z with pending := rest, timer := z.timer.cycle (some (register, value)) }
  | expire {c : Tally} {z : TimerSystem S} {rest : List TimerAccess} (h : Run y c z)
      (hp : z.pending = .poll :: rest) (hflag : z.timer.timeoutOccurred = true) :
      Run y (c.edge z.timer).poll { z with pending := rest, timer := z.timer.cycle none }
  | round {c : Tally} {z : TimerSystem S} (i : I) (hi : P i) (h : Run y c z)
      (hp : z.pending = []) :
      Run y (c.count (seconds (step i z.software)))
        ⟨step i z.software, accesses (step i z.software), z.timer⟩

variable {step accesses seconds P} {start : S → Prop} {y z : TimerSystem S} {c : Tally}

/-- The software of a reachable interleaving is reachable on its own. -/
theorem Reachable.software (h : Reachable step start accesses y) :
    InputMachine.Reachable step start y.software := by
  induction h with
  | start h => exact .init h
  | cycle _ ih => exact ih
  | write _ _ ih => exact ih
  | expire _ _ _ ih => exact ih
  | round i _ _ ih => exact ih.next i

/-! ## The prompt interleaving

It makes an access at every edge, except that a poll loop goes on until the
flag is set. -/

/-- The timer after one access, made as soon as it can be. -/
def serve (t : Timer) : TimerAccess → Timer
  | .poll => (t.idle t.untilFlag).cycle none
  | .write register value => t.cycle (some (register, value))

/-- Without a write to the status register the flag stays set. -/
theorem flag_serve {l : List TimerAccess} {t : Timer} (hl : ∀ value, .write .status value ∉ l)
    (hflag : t.timeoutOccurred = true) : (l.foldl serve t).timeoutOccurred = true := by
  induction l generalizing t with
  | nil => exact hflag
  | cons x l ih =>
      apply ih fun value hmem => hl value (List.mem_cons_of_mem x hmem)
      cases x with
      | poll =>
          have hnow : t.untilFlag = 0 := if_pos hflag
          rw [serve, hnow, Timer.idle_zero, Timer.cycle_none_timeoutOccurred, hflag, Bool.or_true]
      | write register value =>
          apply Timer.flag_write _ hflag
          rintro rfl
          exact hl value List.mem_cons_self

variable (step accesses) in
/-- A round with all its accesses. -/
def promptRound (y : TimerSystem S) (i : I) : TimerSystem S :=
  ⟨step i y.software, [], (accesses (step i y.software)).foldl serve y.timer⟩

theorem Reachable.idle (h : Reachable step start accesses y) (n : Nat) :
    Reachable step start accesses { y with timer := y.timer.idle n } := by
  induction n with
  | zero => exact h
  | succ n ih =>
      rw [Timer.idle_succ]
      exact ih.cycle

/-- Allowed accesses can be made, whatever is to come after them. -/
theorem Reachable.serve_of {P : Type*} {D : Discipline P} (hends : D.PollsEnd)
    {l m : List TimerAccess} {p q : P} (h : Reachable step start accesses y)
    (hpending : y.pending = l ++ m) (hp : D.Holds p y.timer) (hprogram : D.program p l = some q) :
    Reachable step start accesses ⟨y.software, m, l.foldl serve y.timer⟩ ∧
      D.Holds q (l.foldl serve y.timer) := by
  induction l generalizing y p with
  | nil =>
      obtain rfl : p = q := Option.some.inj hprogram
      obtain ⟨s, pending, t⟩ := y
      obtain rfl : pending = m := hpending
      exact ⟨h, hp⟩
  | cons x l ih =>
      rw [D.program_cons] at hprogram
      obtain ⟨p', hnext, hrest⟩ := Option.bind_eq_some_iff.mp hprogram
      have hserve : Reachable step start accesses ⟨y.software, l ++ m, serve y.timer x⟩ ∧
          D.Holds p' (serve y.timer x) := by
        cases x with
        | poll =>
            have hwait := h.idle y.timer.untilFlag
            obtain rfl := D.poll hnext
            exact ⟨hwait.expire hpending (hends hp hnext), D.cycle (D.idle hp _)⟩
        | write register value => exact ⟨h.write hpending, D.write hp hnext⟩
      exact ih (y := ⟨y.software, l ++ m, TimerSystem.serve y.timer x⟩) hserve.1 rfl hserve.2 hrest

/-- Accesses that poll an armed timer only can be made. -/
theorem Reachable.serve {l m : List TimerAccess} {p q : Phase}
    (h : Reachable step start accesses y) (hpending : y.pending = l ++ m) (hp : p.Holds y.timer)
    (hprogram : p.program l = some q) :
    Reachable step start accesses ⟨y.software, m, l.foldl serve y.timer⟩ ∧
      q.Holds (l.foldl TimerSystem.serve y.timer) :=
  h.serve_of (D := Phase.discipline) Phase.pollsEnd hpending hp hprogram

/-- A list of rounds can be gone through promptly. -/
theorem Reachable.prompt
    (hround : ∀ i s, InputMachine.Reachable step start s →
      Phase.armed.program (accesses (step i s)) = some .armed)
    (h : Reachable step start accesses y) (hp : y.pending = []) (harmed : Phase.armed.Holds y.timer)
    (l : List I) :
    Reachable step start accesses (l.foldl (promptRound step accesses) y) ∧
      (l.foldl (promptRound step accesses) y).pending = [] ∧
      Phase.armed.Holds (l.foldl (promptRound step accesses) y).timer ∧
      (l.foldl (promptRound step accesses) y).software = InputMachine.feed step y.software l := by
  induction l generalizing y with
  | nil => exact ⟨h, hp, harmed, rfl⟩
  | cons i l ih =>
      obtain ⟨hnext, harmed'⟩ := (h.round i hp).serve (List.append_nil _).symm harmed
        (hround i _ h.software)
      exact ih (y := promptRound step accesses y i) hnext rfl harmed'

/-! ## The first poll loop after the timer has been started -/

/-- No poll loop has ended, the timer has been left alone since `y`, and the round in
progress, if there is one, has yet to begin its first poll loop. -/
structure Unpolled (Idle : S → Prop) (y : TimerSystem S) (c : Tally) (z : TimerSystem S) : Prop where
  polls : c.polls = 0
  timer : z.timer = y.timer.idle c.edges
  pending : (z.pending = [] ∧ Idle z.software) ∨ ∃ rest, z.pending = .poll :: rest

section Unpolled

variable {Idle : S → Prop} {n : Nat}

theorem Unpolled.cycle (h : Unpolled Idle y c z) :
    Unpolled Idle y (c.edge z.timer) { z with timer := z.timer.cycle none } where
  polls := h.polls
  timer := by
    change z.timer.cycle none = y.timer.idle (c.edges + 1)
    rw [h.timer, Timer.idle_succ]
  pending := h.pending

theorem Unpolled.not_write {register : TimerRegister} {value : BitVec 16}
    {rest : List TimerAccess} (h : Unpolled Idle y c z) :
    z.pending ≠ .write register value :: rest := by
  intro hwrite
  rcases h.pending with ⟨hnil, -⟩ | ⟨rest', hpoll⟩
  · cases hnil.symm.trans hwrite
  · cases hpoll.symm.trans hwrite

/-- The flag that ends the poll loop is not set before the counter has been at zero. -/
theorem Unpolled.late (h : Unpolled Idle y c z) (hcount : y.timer.Counting n)
    (hclear : y.timer.timeoutOccurred = false) (hflag : z.timer.timeoutOccurred = true) :
    n < c.edges := by
  by_contra hearly
  rw [h.timer, (hcount.idle (Nat.le_of_not_lt hearly)).2, hclear] at hflag
  cases hflag

/-- If rounds begin with a poll loop or make no access, the first poll loop after
a start with a clear flag ends after the counter has been at zero. -/
theorem Run.first_poll
    (hround : ∀ i s, Idle s → (accesses (step i s) = [] ∧ Idle (step i s)) ∨
      ∃ rest, accesses (step i s) = .poll :: rest)
    (hidle : Idle y.software) (hp : y.pending = []) (hcount : y.timer.Counting n)
    (hclear : y.timer.timeoutOccurred = false) (h : Run step accesses seconds P y c z)
    (hpoll : 0 < c.polls) : n + 1 < c.edges := by
  have hinv : Unpolled Idle y c z ∨ n + 1 < c.edges := by
    clear hpoll
    induction h with
    | refl => exact Or.inl ⟨rfl, rfl, Or.inl ⟨hp, hidle⟩⟩
    | cycle _ ih => exact ih.imp Unpolled.cycle Nat.lt_succ_of_lt
    | write _ hwrite ih =>
        rcases ih with hnone | hlate
        · exact absurd hwrite hnone.not_write
        · exact Or.inr (Nat.lt_succ_of_lt hlate)
    | expire _ _ hflag ih =>
        rcases ih with hnone | hlate
        · exact Or.inr (Nat.succ_lt_succ (hnone.late hcount hclear hflag))
        · exact Or.inr (Nat.lt_succ_of_lt hlate)
    | round i _ _ hnil ih =>
        rcases ih with hnone | hlate
        · rcases hnone.pending with ⟨-, hidle⟩ | ⟨rest, hpoll⟩
          · exact Or.inl ⟨hnone.polls, hnone.timer, hround i _ hidle⟩
          · cases hnil.symm.trans hpoll
        · exact Or.inr hlate
  rcases hinv with hnone | hlate
  · exact absurd hnone.polls hpoll.ne'
  · exact hlate

end Unpolled

end TimerSystem

end RelojDespertador
