import RelojDespertador.Panel.Trace
import RelojDespertador.Library.InputMachine

/-!
# What the TimerWithClock firmware does, as an abstract machine

An alarm clock with a lamp. Lighting the lamp opens a window of 30 rounds in
which the firmware takes the alarm for active. The machine below lights the
lamp whenever the clock reaches the alarm, window or not; that the firmware
does the same is a consequence of `Sane`.
-/

namespace RelojDespertador.TimerWithClock

/-- The state of the abstract machine. -/
structure Spec where
  clock : AlarmClock
  /-- The last buttons that set mode has seen. -/
  buttons : U32
  /-- The rounds counted since the lamp was lit, while the alarm is active. -/
  active : Option (Fin 30)
  lit : Bool
  deriving DecidableEq, Repr

namespace Spec

/-- At reset, with the buttons read before the loop. -/
def start (buttons : U32) : Spec := ⟨AlarmClock.initial, buttons, none, false⟩

/-- Another round of an active alarm; the 30th ends it. -/
def countOn : Option (Fin 30) → Option (Fin 30)
  | none => none
  | some k => if h : k.val + 1 < 30 then some ⟨k + 1, h⟩ else none

/-- The active alarm ends in this round. -/
def timesOut (a : Spec) : Bool := a.active == some 29

/-- A sample that turns the lamp off. -/
def dismisses (i : Sample) (a : Spec) : Bool :=
  a.lit && i.switchOn && i.buttons != a.buttons

/-- The lamp after the parts of a round that can turn it off. -/
def stillLit (i : Sample) (a : Spec) : Bool := a.lit && !a.dismisses i && !a.timesOut

/-- What LEDs that show the lamp show after these parts of a round. -/
theorem leds_stillLit (i : Sample) (a : Spec) {leds : BitVec 10}
    (h : leds = if a.lit then 1023 else 0) :
    (if a.timesOut then 0 else if a.dismisses i then 0 else leds) =
      if a.stillLit i then (1023 : BitVec 10) else 0 := by
  rw [h, stillLit]
  cases a.lit <;> cases a.dismisses i <;> cases a.timesOut <;> rfl

/-- One loop round. -/
def step (i : Sample) (a : Spec) : Spec :=
  if i.switchOn then
    if a.clock.tick.AtAlarm then
      { a with clock := a.clock.tick, active := some 0, lit := true }
    else { a with clock := a.clock.tick, active := countOn a.active, lit := a.stillLit i }
  else
    { clock := a.clock.press (Panel.rising a.buttons i.buttons)
      buttons := i.buttons
      active := countOn a.active
      lit := a.stillLit i }

/-- The events of a loop round. -/
def trace (i : Sample) (a : Spec) : List Event :=
  (if i.switchOn then [] else Panel.setTrace (Panel.rising a.buttons i.buttons) a.clock.time) ++
  (if a.dismisses i then [.leds 0] else []) ++
  (if a.timesOut then [.leds 0] else []) ++
  (if i.switchOn then Panel.waitTrace 50000000 ++ .tick :: Panel.timeTrace a.clock.time.tick
    else []) ++
  (if i.switchOn ∧ a.clock.tick.AtAlarm then [.leds 0x3FF] else [])

/-- While the alarm is active, the seconds digit of the clock is ahead of that of
the alarm by no more than the rounds counted. The lamp is lit by an active
alarm only. -/
structure Sane (a : Spec) : Prop where
  ahead : ∀ k, a.active = some k →
    ∃ t, a.clock.alarm = some t ∧ AlarmClock.secondsAhead t a.clock.time ≤ k
  lit : a.lit = true → a.active ≠ none

theorem start_sane (buttons : U32) : (start buttons).Sane where
  ahead _ h := by cases h
  lit h := by cases h

theorem countOn_eq_some_iff {active : Option (Fin 30)} {k : Fin 30} :
    countOn active = some k ↔ ∃ j, active = some j ∧ (k : Nat) = j + 1 := by
  cases active with
  | none => simp [countOn]
  | some j =>
      constructor
      · intro h
        simp only [countOn] at h
        split_ifs at h with hj
        exact ⟨j, rfl, congrArg Fin.val (Option.some.inj h).symm⟩
      · rintro ⟨j', hj', hkj⟩
        obtain rfl := Option.some.inj hj'
        have hlt : j.val + 1 < 30 := hkj ▸ k.isLt
        simp only [countOn]
        rw [dif_pos hlt]
        exact congrArg some (Fin.ext hkj.symm)

/-- The window closes only by its time-out. -/
theorem countOn_eq_none_iff {active : Option (Fin 30)} :
    countOn active = none ↔ active = none ∨ active = some 29 := by
  cases active with
  | none => simp [countOn]
  | some j =>
      have hj := j.isLt
      simp only [countOn]
      split_ifs with hlt
      · have hne : j ≠ 29 := by
          rintro rfl
          exact absurd hlt (by decide)
        simp [hne]
      · have heq : j = 29 := Fin.ext (by change j.val = 29; omega)
        simp [heq]

/-- While the alarm is active, a tick cannot reach the alarm time, not even in the
round that ends it. -/
theorem Sane.not_atAlarm_of_active {a : Spec} (h : a.Sane) {j : Fin 30} (hj : a.active = some j) :
    ¬ a.clock.tick.AtAlarm := by
  intro hat
  obtain ⟨t, halarm, hahead⟩ := h.ahead j hj
  have hat' : a.clock.alarm = some a.clock.time.tick := hat
  obtain rfl : t = a.clock.time.tick := Option.some.inj (halarm.symm.trans hat')
  have htick := AlarmClock.secondsAhead_tick a.clock.time.tick a.clock.time
  rw [AlarmClock.secondsAhead_self] at htick
  have hlt := j.isLt
  omega

/-- While the alarm stays active, a tick cannot reach the alarm time. -/
theorem Sane.not_atAlarm {a : Spec} (h : a.Sane) {k : Fin 30} (hk : countOn a.active = some k) :
    ¬ a.clock.tick.AtAlarm := by
  obtain ⟨j, hj, -⟩ := countOn_eq_some_iff.mp hk
  exact h.not_atAlarm_of_active hj

/-- A round moves the seconds digit by one place at most, and counts one. -/
theorem step_sane (i : Sample) {a : Spec} (h : a.Sane) : (a.step i).Sane := by
  have hlit (hl : a.stillLit i = true) : countOn a.active ≠ none := by
    have hparts : (a.lit = true ∧ a.dismisses i = false) ∧ a.timesOut = false := by
      simpa [stillLit, Bool.and_eq_true] using hl
    intro hnone
    rcases countOn_eq_none_iff.mp hnone with hactive | hactive
    · exact h.lit hparts.1.1 hactive
    · have htimes : a.timesOut = true := by rw [timesOut, hactive]; rfl
      rw [htimes] at hparts
      cases hparts.2
  simp only [step]
  split_ifs with hi hat
  · refine ⟨fun k hk => ⟨a.clock.tick.time, hat, ?_⟩, fun _ hnone => ?_⟩
    · rw [AlarmClock.secondsAhead_self]
      exact Nat.zero_le _
    · cases hnone
  · refine ⟨fun k hk => ?_, hlit⟩
    obtain ⟨j, hj, hkj⟩ := countOn_eq_some_iff.mp hk
    obtain ⟨t, halarm, hahead⟩ := h.ahead j hj
    refine ⟨t, halarm, ?_⟩
    have htick := AlarmClock.secondsAhead_tick t a.clock.time
    change AlarmClock.secondsAhead t a.clock.time.tick ≤ k
    omega
  · refine ⟨fun k hk => ?_, hlit⟩
    obtain ⟨j, hj, hkj⟩ := countOn_eq_some_iff.mp hk
    obtain ⟨t, halarm, hahead⟩ := h.ahead j hj
    have hadvance := AlarmClock.secondsAhead_advance t a.clock.time
      (Panel.rising a.buttons i.buttons)
    simp only [AlarmClock.press]
    split_ifs with hcapture
    · refine ⟨_, rfl, ?_⟩
      rw [AlarmClock.secondsAhead_self]
      exact Nat.zero_le _
    · refine ⟨t, halarm, ?_⟩
      have hk := k.isLt
      omega

end Spec

end RelojDespertador.TimerWithClock
