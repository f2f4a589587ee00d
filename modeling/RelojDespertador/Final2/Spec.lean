import RelojDespertador.Panel.Trace
import RelojDespertador.Library.InputMachine

/-!
# What the Final2 firmware does, as an abstract machine

An alarm clock that may be sounding. Its progress through the 30 seconds of an
alarm is one number, the half periods of the buzzer that have been counted:
7183 of them make a second, 215490 the whole alarm. The number survives a
dismissed alarm, since neither `segundos_alarma_activa` nor
`buzzer_pwm_counter` is cleared when a button ends the handler.
-/

namespace RelojDespertador.Final2

/-- The state of the abstract machine. -/
structure Spec where
  clock : AlarmClock
  /-- The last buttons that set mode has seen. -/
  buttons : U32
  /-- Half periods counted towards the 30 seconds of an alarm. -/
  elapsed : Fin 215490
  /-- The level of the buzzer output variable. -/
  level : Bool
  sounding : Bool
  deriving DecidableEq, Repr

namespace Spec

/-- At reset, with the buttons read before the loop. -/
def start (buttons : U32) : Spec := ⟨AlarmClock.initial, buttons, 0, false, false⟩

/-- The round of a sounding alarm completes a second. -/
def secondDone (a : Spec) : Prop := (a.elapsed.val + 1) % 7183 = 0

instance (a : Spec) : Decidable a.secondDone := inferInstanceAs (Decidable (_ = _))

/-- The clock after a round of a sounding alarm. -/
def soundingClock (a : Spec) : AlarmClock := if a.secondDone then a.clock.tick else a.clock

/-- A sample that ends a sounding alarm. -/
def dismisses (i : Sample) (a : Spec) : Bool := i.buttons != a.buttons && i.switchOn

/-- One loop round. -/
def step (i : Sample) (a : Spec) : Spec :=
  if a.sounding then
    if h : a.elapsed.val + 1 < 215490 then
      { a with
        clock := a.soundingClock
        elapsed := ⟨a.elapsed + 1, h⟩
        level := !a.level
        sounding := !a.dismisses i }
    else { a with clock := a.soundingClock, elapsed := 0, level := !a.level, sounding := false }
  else if i.switchOn then
    { a with clock := a.clock.tick, sounding := a.clock.tick.AtAlarm }
  else
    { a with
      clock := a.clock.press (Panel.rising a.buttons i.buttons)
      buttons := i.buttons }

/-- The events of firing the alarm and entering the handler. -/
def enterTrace : List Event :=
  [.leds 1023, .enterBuzzer] ++ Panel.programTrace 7183 0

/-- The events of leaving the handler by one of its `break`s, up to the loop head of `main`. -/
def leaveTrace (exit : BuzzerExit) : List Event :=
  [.leds 0, .buzzer 0, .leaveBuzzer exit, .timer .control 0] ++ Panel.programTrace 61568 762

/-- The events of a loop round. -/
def trace (i : Sample) (a : Spec) : List Event :=
  if a.sounding then
    Panel.waitTrace 7184 ++ [.buzzer (if a.level then 0 else 1)] ++
    (if a.secondDone then .tick :: Panel.timeTrace a.clock.time.tick else []) ++
    (if a.elapsed.val + 1 = 215490 then leaveTrace .timeout
      else if a.dismisses i then leaveTrace .button else [])
  else if i.switchOn then
    Panel.waitTrace 50000001 ++ .tick :: Panel.timeTrace a.clock.time.tick ++
    (if a.clock.tick.AtAlarm then enterTrace else [])
  else
    Panel.setTrace (Panel.rising a.buttons i.buttons) a.clock.time

/-- While the alarm sounds, the alarm time lies no further back than the
seconds counted so far. -/
def Sane (a : Spec) : Prop :=
  a.sounding = true → ∃ t, a.clock.alarm = some t ∧
    AlarmClock.sinceSeconds t a.clock.time ≤ a.elapsed / 7183

theorem start_sane (buttons : U32) : (start buttons).Sane := by
  intro h
  exact absurd h Bool.false_ne_true

theorem soundingClock_alarm (a : Spec) : a.soundingClock.alarm = a.clock.alarm := by
  simp only [soundingClock]
  split_ifs <;> rfl

/-- A sounding round moves the clock away from the alarm time no faster than it
counts seconds. -/
theorem sinceSeconds_soundingClock {a : Spec} {t : TimeOfDay}
    (h : AlarmClock.sinceSeconds t a.clock.time ≤ a.elapsed / 7183) :
    AlarmClock.sinceSeconds t a.soundingClock.time ≤ (a.elapsed + 1) / 7183 := by
  simp only [soundingClock]
  split_ifs with hdone
  · have htick := AlarmClock.sinceSeconds_tick t a.clock.time
    simp only [secondDone] at hdone
    simp only [AlarmClock.tick]
    omega
  · omega

/-- A step keeps the alarm time close behind. -/
theorem step_sane (i : Sample) {a : Spec} (h : a.Sane) : (a.step i).Sane := by
  intro hs
  simp only [step] at hs ⊢
  split_ifs at hs ⊢ with hsounding hlast hon
  · obtain ⟨t, halarm, hsince⟩ := h hsounding
    exact ⟨t, by rw [soundingClock_alarm, halarm], sinceSeconds_soundingClock hsince⟩
  · refine ⟨a.clock.tick.time, of_decide_eq_true hs, ?_⟩
    rw [AlarmClock.sinceSeconds_self]
    exact Nat.zero_le _
  · exact absurd hs hsounding

end Spec

end RelojDespertador.Final2
