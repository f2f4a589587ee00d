import RelojDespertador.Final.Firmware
import RelojDespertador.TimerWithClock.Spec

/-!
# What the Final firmware does, as an abstract machine

The alarm clock with a lamp of `TimerWithClock`, to which a firing alarm adds a
tone of 3000 half periods. Each of them counts a second on the clock, and the
timer is never programmed for seconds again: the tone leaves it stopping, and
the next wait of `main` uses up its last expiry.
-/

namespace RelojDespertador.Final

open Panel (rising waitTrace programTrace isDigit counts_of_quiet)

/-- What the timer has been programmed for, and how far that has got. -/
inductive Mode
  /-- Seconds, since reset. -/
  | seconds
  /-- The half periods of a tone, `k` of which have been counted. -/
  | tone (k : Fin 3000)
  /-- The tone is over, and `main` has not waited since. -/
  | stopping
  /-- The tone is over, and `main` has waited since. -/
  | stopped
  deriving DecidableEq, Repr

namespace Mode

/-- The loop that has control. -/
def pc : Mode → Pc
  | tone _ => .buzzerLoop
  | _ => .mainLoop

/-- The cycles that one expiry takes. -/
def expiry : Mode → Nat
  | seconds => 50000001
  | _ => 50001

/-- After a wait of `main`. -/
def waited : Mode → Mode
  | stopping => stopped
  | m => m

/-- After a half period. -/
def toneAfter (k : Fin 3000) : Mode := if h : k.val + 1 < 3000 then tone ⟨k + 1, h⟩ else stopping

/-- An alarm has fired since reset. -/
def afterAlarm (m : Mode) : Bool := m != seconds

@[simp] theorem waited_pc (m : Mode) : m.waited.pc = m.pc := by cases m <;> rfl

@[simp] theorem waited_expiry (m : Mode) : m.waited.expiry = m.expiry := by cases m <;> rfl

@[simp] theorem waited_afterAlarm (m : Mode) : m.waited.afterAlarm = m.afterAlarm := by
  cases m <;> rfl

@[simp] theorem toneAfter_afterAlarm (k : Fin 3000) : (toneAfter k).afterAlarm = true := by
  simp only [toneAfter]
  split_ifs <;> rfl

theorem toneAfter_last {k : Fin 3000} (h : ¬ k.val + 1 < 3000) : toneAfter k = stopping :=
  dif_neg h

theorem pc_eq_buzzerLoop_iff {m : Mode} : m.pc = .buzzerLoop ↔ ∃ k, m = tone k := by
  cases m <;> simp [pc]

theorem pc_eq_mainLoop_iff {m : Mode} : m.pc = .mainLoop ↔ ∀ k, m ≠ tone k := by
  cases m <;> simp [pc]

theorem expiry_eq (m : Mode) : m.expiry = if m.afterAlarm then 50001 else 50000001 := by
  cases m <;> rfl

end Mode

/-- The state of the abstract machine. -/
structure Spec extends TimerWithClock.Spec where
  mode : Mode
  deriving DecidableEq, Repr

/-! ## The events of showing digits -/

/-- The word that shows a digit. -/
def digitWord (digit : Nat) : U32 := BitVec.ofNat 32 digit

def secondsTrace (t : TimeOfDay) : List Event :=
  [.sseg .secUnits (digitWord (t.lo % 10)), .sseg .secTens (digitWord (t.lo / 10))]

def minutesTrace (t : TimeOfDay) : List Event :=
  [.sseg .minUnits (digitWord (t.mid % 10)), .sseg .minsTens (digitWord (t.mid / 10))]

def hoursTrace (t : TimeOfDay) : List Event :=
  [.sseg .hourUnits (digitWord (t.hi % 10)), .sseg .hourTens (digitWord (t.hi / 10))]

/-- The events of showing all six digits. -/
def timeTrace (t : TimeOfDay) : List Event := secondsTrace t ++ minutesTrace t ++ hoursTrace t

/-- The events of pressing the buttons in `down` together at time `t`. -/
def setTrace (down : Fin 4 → Bool) (t : TimeOfDay) : List Event :=
  let t0 := if down 0 then t.incLo else t
  let t1 := if down 1 then t0.incMid else t0
  let t2 := if down 2 then t1.incHi else t1
  (if down 0 then .action 0 :: secondsTrace t0 else []) ++
  (if down 1 then .action 1 :: minutesTrace t1 else []) ++
  (if down 2 then .action 2 :: hoursTrace t2 else []) ++
  (if down 3 then [.action 3] else [])

section Digits

variable {t : TimeOfDay} {down : Fin 4 → Bool} {e : Event}

theorem isDigit_of_mem_timeTrace (h : e ∈ timeTrace t) : isDigit e = true := by
  simp only [timeTrace, secondsTrace, minutesTrace, hoursTrace, List.mem_append, List.mem_cons,
    List.not_mem_nil, or_false] at h
  rcases h with ((rfl | rfl) | (rfl | rfl)) | (rfl | rfl) <;> rfl

/-- Setting the time shows digits and runs the branches of the pressed buttons. -/
theorem mem_setTrace (h : e ∈ setTrace down t) :
    isDigit e = true ∨ ∃ k, down k = true ∧ e = .action k := by
  simp only [setTrace, secondsTrace, minutesTrace, hoursTrace, List.mem_append,
    List.mem_ite_nil_right, List.mem_cons, List.not_mem_nil, or_false] at h
  rcases h with ((⟨hd, rfl | rfl | rfl⟩ | ⟨hd, rfl | rfl | rfl⟩) | ⟨hd, rfl | rfl | rfl⟩) | ⟨hd, rfl⟩
  all_goals first
    | exact Or.inl rfl
    | exact Or.inr ⟨_, hd, rfl⟩

theorem not_mem_timeTrace (h : isDigit e = false) : e ∉ timeTrace t :=
  fun hmem => absurd (isDigit_of_mem_timeTrace hmem) (by simp [h])

theorem not_mem_setTrace (h : isDigit e = false) (ha : ∀ k, e ≠ .action k) :
    e ∉ setTrace down t := by
  intro hmem
  rcases mem_setTrace hmem with hdigit | ⟨k, -, rfl⟩
  · exact absurd hdigit (by simp [h])
  · exact ha k rfl

/-- The branch of a button runs exactly when the button is pressed. -/
theorem action_mem_setTrace {k : Fin 4} : .action k ∈ setTrace down t ↔ down k = true := by
  constructor
  · intro h
    rcases mem_setTrace h with h | ⟨k', hk', heq⟩
    · exact absurd h Bool.false_ne_true
    · obtain rfl : k = k' := by simpa using heq
      exact hk'
  · intro h
    match k with
    | 0 | 1 | 2 | 3 => simp [setTrace, h]

end Digits

section Counts

variable (t : TimeOfDay) (down : Fin 4 → Bool)

theorem counts_timeTrace : ticks (timeTrace t) = 0 ∧ waits (timeTrace t) = 0 ∧
    cycles (timeTrace t) = 0 ∧ timerAccesses (timeTrace t) = [] :=
  counts_of_quiet fun _ h => Or.inl (isDigit_of_mem_timeTrace h)

theorem counts_setTrace : ticks (setTrace down t) = 0 ∧ waits (setTrace down t) = 0 ∧
    cycles (setTrace down t) = 0 ∧ timerAccesses (setTrace down t) = [] :=
  counts_of_quiet fun _ h => (mem_setTrace h).imp_right fun ⟨k, _, he⟩ => ⟨k, he⟩

end Counts

namespace Spec

/-- At reset, with the buttons read before the loop: the alarm is midnight. -/
def start (buttons : U32) : Spec where
  clock := ⟨⟨0, 0, 0⟩, some ⟨0, 0, 0⟩⟩
  buttons := buttons
  active := none
  lit := false
  mode := .seconds

/-- A loop round of `main`: that of the alarm clock with a lamp. -/
def mainStep (i : Sample) (a : Spec) : Spec where
  toSpec := a.toSpec.step i
  mode :=
    if i.switchOn then if a.clock.tick.AtAlarm then .tone ⟨0, by decide⟩ else a.mode.waited
    else a.mode

/-- One loop round. -/
def step (i : Sample) (a : Spec) : Spec :=
  match a.mode with
  | .tone k => { a with clock := a.clock.tick, mode := .toneAfter k }
  | _ => a.mainStep i

/-- The events of firing the alarm and entering the handler. -/
def enterTrace : List Event :=
  [.leds 1023, .enterBuzzer] ++ programTrace 50000 0 ++ [.buzzer 0]

/-- The events of leaving the handler, up to the loop head of `main`. -/
def leaveTrace : List Event := [.leaveBuzzer .cycles, .buzzer 0, .timer .control 0]

/-- The events of a loop round of `main`. -/
def mainTrace (i : Sample) (a : Spec) : List Event :=
  (if i.switchOn then [] else setTrace (rising a.buttons i.buttons) a.clock.time) ++
  (if a.dismisses i then [.leds 0] else []) ++
  (if a.timesOut then [.leds 0] else []) ++
  (if i.switchOn then waitTrace a.mode.expiry ++ .tick :: timeTrace a.clock.time.tick else []) ++
  (if i.switchOn ∧ a.clock.tick.AtAlarm then enterTrace else [])

/-- The events of a round of the handler. -/
def toneTrace (k : Fin 3000) (a : Spec) : List Event :=
  [.waitForTimer 50001, .buzzer (if k.val % 2 = 0 then 1 else 0), .timer .status 1, .tick] ++
  timeTrace a.clock.time.tick ++ (if k.val + 1 < 3000 then [] else leaveTrace)

/-- The events of a loop round. -/
def trace (i : Sample) (a : Spec) : List Event :=
  match a.mode with
  | .tone k => a.toneTrace k
  | _ => a.mainTrace i

variable {a : Spec} {i : Sample}

theorem step_tone {k : Fin 3000} (h : a.mode = .tone k) :
    a.step i = { a with clock := a.clock.tick, mode := .toneAfter k } := by
  simp only [step, h]

theorem step_main (h : a.mode.pc = .mainLoop) : a.step i = a.mainStep i := by
  cases hm : a.mode with
  | tone k =>
      rw [hm] at h
      cases h
  | seconds | stopping | stopped => simp only [step, hm]

theorem trace_tone {k : Fin 3000} (h : a.mode = .tone k) : a.trace i = a.toneTrace k := by
  simp only [trace, h]

theorem trace_main (h : a.mode.pc = .mainLoop) : a.trace i = a.mainTrace i := by
  cases hm : a.mode with
  | tone k =>
      rw [hm] at h
      cases h
  | seconds | stopping | stopped => simp only [trace, hm]

/-- A round is one of the handler or one of `main`. -/
theorem mode_cases (a : Spec) : (∃ k, a.mode = .tone k) ∨ a.mode.pc = .mainLoop := by
  cases a.mode with
  | tone k => exact Or.inl ⟨k, rfl⟩
  | seconds | stopping | stopped => exact Or.inr rfl

end Spec

end RelojDespertador.Final
