import RelojDespertador.Panel.Trace
import RelojDespertador.Library.InputMachine

/-!
# What the TimerWithC firmware does, as an abstract machine

An alarm clock with a light that latches: it comes on when the clock reaches
the alarm and goes off when button 3 is pressed in run mode. The machine keeps
the last sample, and whether the switch register has ever changed since before
the loop, because the firmware does not count until it has.
-/

namespace RelojDespertador.TimerWithC

/-- The state of the abstract machine. -/
structure Spec where
  clock : AlarmClock
  /-- The last sample, at first the one read before the loop. -/
  last : Sample
  /-- Some sample had another switch word than the one before it. -/
  moved : Bool
  lit : Bool
  deriving DecidableEq, Repr

namespace Spec

/-- At reset, with the buttons and the switch read before the loop. -/
def start (boot : Sample) : Spec := ⟨AlarmClock.initial, boot, false, false⟩

/-- The switch register has changed before this round counts. -/
def moves (i : Sample) (a : Spec) : Bool := a.moved || i.switch != a.last.switch

/-- The round counts a second. -/
def counts (i : Sample) (a : Spec) : Bool := a.moves i && i.switchOn

/-- The buttons that go down in this round. -/
def down (i : Sample) (a : Spec) : Fin 4 → Bool := Panel.rising a.last.buttons i.buttons

/-- A press that turns the light off. -/
def dismisses (i : Sample) (a : Spec) : Bool := i.switchOn && a.down i 3

/-- The clock after a round. -/
def nextClock (i : Sample) (a : Spec) : AlarmClock :=
  if i.switchOn then (if a.moves i then a.clock.tick else a.clock) else a.clock.press (a.down i)

/-- The round turns the light on. -/
def lights (i : Sample) (a : Spec) : Bool := i.switchOn && decide (a.nextClock i).AtAlarm

/-- One loop round. -/
def step (i : Sample) (a : Spec) : Spec where
  clock := a.nextClock i
  last := i
  moved := a.moves i
  lit := a.lights i || (a.lit && !a.dismisses i)

/-- The events of a loop round. -/
def trace (i : Sample) (a : Spec) : List Event :=
  (if i.switchOn then [] else Panel.setTrace (a.down i) a.clock.time) ++
  (if a.lit && a.dismisses i then [.leds 0] else []) ++
  (if a.counts i then Panel.waitTrace 50000000 ++ .tick :: Panel.timeTrace a.clock.tick.time
    else []) ++
  (if a.lights i then [.leds 0x3FF] else [])

/-- The alarm has been set in set mode, so the switch has moved since or is still off. -/
def Sane (a : Spec) : Prop :=
  a.clock.alarm ≠ none → a.moved = true ∨ a.last.switchOn = false

theorem start_sane (boot : Sample) : (start boot).Sane := fun h => absurd rfl h

theorem nextClock_alarm_on {i : Sample} (hi : i.switchOn = true) (a : Spec) :
    (a.nextClock i).alarm = a.clock.alarm := by
  simp only [nextClock, hi, if_true]
  split_ifs <;> rfl

/-- Turning the switch on is a change of its register. -/
theorem moves_of_switchOn {i : Sample} {a : Spec} (hi : i.switchOn = true)
    (h : a.moved = true ∨ a.last.switchOn = false) : a.moves i = true := by
  rcases h with hmoved | hoff
  · simp [moves, hmoved]
  · have hne : i.switch ≠ a.last.switch := by
      intro heq
      rw [Sample.switchOn, heq] at hi
      rw [Sample.switchOn, hi] at hoff
      cases hoff
    simp [moves, hne]

theorem step_sane (i : Sample) {a : Spec} (h : a.Sane) : (a.step i).Sane := by
  intro halarm
  cases hi : i.switchOn with
  | false => exact Or.inr hi
  | true =>
      have halarm' : a.clock.alarm ≠ none := by
        rw [← nextClock_alarm_on hi a]
        exact halarm
      exact Or.inl (moves_of_switchOn hi (h halarm'))

/-- The light comes on in rounds that count only. -/
theorem Sane.counts_of_lights {i : Sample} {a : Spec} (h : a.Sane) (hlights : a.lights i = true) :
    a.counts i = true ∧ a.clock.tick.AtAlarm := by
  obtain ⟨hi, hat⟩ := Bool.and_eq_true_iff.mp hlights
  have hat' : (a.nextClock i).alarm = some (a.nextClock i).time := of_decide_eq_true hat
  have halarm : a.clock.alarm ≠ none := by
    rw [← nextClock_alarm_on hi a, hat']
    exact Option.some_ne_none _
  have hmoves := moves_of_switchOn hi (h halarm)
  refine ⟨by rw [counts, hmoves, hi]; rfl, ?_⟩
  simp only [nextClock, hi, hmoves, if_true] at hat'
  exact hat'

end Spec

end RelojDespertador.TimerWithC
