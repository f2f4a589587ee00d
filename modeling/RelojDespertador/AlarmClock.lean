import RelojDespertador.Library.MixedRadix

/-!
# The alarm clock the firmwares implement

A time of day in three digits, and an alarm time that may not have been set
yet. The clock has two moves: a second passes, or some of the four buttons go
down together. Button 0, 1 and 2 advance one digit without carry; button 3
copies the time, as it stands after the other three, into the alarm.
-/

namespace RelojDespertador

-- One named instance each, which the literals of digits and buttons then all use.
instance neZero_hours : NeZero 24 := ⟨by decide⟩
instance neZero_minutes : NeZero 60 := ⟨by decide⟩
instance neZero_buttons : NeZero 4 := ⟨by decide⟩

/-- Hours, minutes and seconds of a day. -/
abbrev TimeOfDay := MixedRadix 24 60 60

/-- The state a user sees: the time, and the alarm once it has been set. -/
structure AlarmClock where
  time : TimeOfDay
  alarm : Option TimeOfDay
  deriving DecidableEq, Repr

namespace AlarmClock

/-- Midnight, with no alarm set. -/
def initial : AlarmClock := ⟨⟨0, 0, 0⟩, none⟩

/-- A second passes. -/
def tick (c : AlarmClock) : AlarmClock := { c with time := c.time.tick }

@[simp] theorem tick_time (c : AlarmClock) : c.tick.time = c.time.tick := rfl

@[simp] theorem tick_alarm (c : AlarmClock) : c.tick.alarm = c.alarm := rfl

/-- The time after the buttons in `down` have each advanced their digit. -/
def advance (down : Fin 4 → Bool) (t : TimeOfDay) : TimeOfDay :=
  let t := if down 0 then t.incLo else t
  let t := if down 1 then t.incMid else t
  if down 2 then t.incHi else t

section Advance

variable (down : Fin 4 → Bool) (t : TimeOfDay)

/-- Each button advances its own digit. -/
theorem advance_lo : ((advance down t).lo : Nat) = (t.lo + if down 0 then 1 else 0) % 60 := by
  have hlt := t.lo.isLt
  unfold advance
  cases down 0 <;> cases down 1 <;> cases down 2 <;>
    simp [MixedRadix.incLo, MixedRadix.incMid, MixedRadix.incHi, Fin.val_add, Nat.mod_eq_of_lt hlt]

theorem advance_mid : ((advance down t).mid : Nat) = (t.mid + if down 1 then 1 else 0) % 60 := by
  have hlt := t.mid.isLt
  unfold advance
  cases down 0 <;> cases down 1 <;> cases down 2 <;>
    simp [MixedRadix.incLo, MixedRadix.incMid, MixedRadix.incHi, Fin.val_add, Nat.mod_eq_of_lt hlt]

theorem advance_hi : ((advance down t).hi : Nat) = (t.hi + if down 2 then 1 else 0) % 24 := by
  have hlt := t.hi.isLt
  unfold advance
  cases down 0 <;> cases down 1 <;> cases down 2 <;>
    simp [MixedRadix.incLo, MixedRadix.incMid, MixedRadix.incHi, Fin.val_add, Nat.mod_eq_of_lt hlt]

end Advance

/-- The buttons in `down` are pressed together. -/
def press (down : Fin 4 → Bool) (c : AlarmClock) : AlarmClock where
  time := advance down c.time
  alarm := if down 3 then some (advance down c.time) else c.alarm

/-- The clock shows its alarm time. -/
def AtAlarm (c : AlarmClock) : Prop := c.alarm = some c.time

instance (c : AlarmClock) : Decidable c.AtAlarm :=
  inferInstanceAs (Decidable (c.alarm = some c.time))

/-- How many seconds ago, within a day, a clock now showing `t` showed `a`. -/
def sinceSeconds (a t : TimeOfDay) : Nat := (t.value + 86400 - a.value) % 86400

theorem sinceSeconds_lt (a t : TimeOfDay) : sinceSeconds a t < 86400 := Nat.mod_lt _ (by decide)

theorem sinceSeconds_self (a : TimeOfDay) : sinceSeconds a a = 0 := by
  simp [sinceSeconds]

theorem sinceSeconds_tick (a t : TimeOfDay) :
    sinceSeconds a t.tick = (sinceSeconds a t + 1) % 86400 := by
  have ha := a.value_lt
  have ht := t.value_lt
  have htick := t.value_tick
  simp only [sinceSeconds]
  omega

/-- No time has passed exactly when the two times are the same. -/
theorem sinceSeconds_eq_zero_iff {a t : TimeOfDay} : sinceSeconds a t = 0 ↔ t = a := by
  constructor
  · intro h
    have ha := a.value_lt
    have ht := t.value_lt
    apply MixedRadix.value_injective
    simp only [sinceSeconds] at h
    omega
  · rintro rfl
    exact sinceSeconds_self t

/-- A tick reaches the alarm time a day after the clock has last shown it. -/
theorem tick_atAlarm_iff {c : AlarmClock} {a : TimeOfDay} (halarm : c.alarm = some a) :
    c.tick.AtAlarm ↔ sinceSeconds a c.time + 1 = 86400 := by
  have hlt := sinceSeconds_lt a c.time
  change c.alarm = some c.time.tick ↔ _
  rw [halarm, Option.some.injEq, eq_comm, ← sinceSeconds_eq_zero_iff, sinceSeconds_tick]
  omega

/-- How far the seconds digit of `t` is ahead of that of `a`, modulo a minute. -/
def secondsAhead (a t : TimeOfDay) : Nat := ((t.lo : Nat) + 60 - a.lo) % 60

theorem secondsAhead_self (a : TimeOfDay) : secondsAhead a a = 0 := by
  simp [secondsAhead]

theorem secondsAhead_tick (a t : TimeOfDay) :
    secondsAhead a t.tick = (secondsAhead a t + 1) % 60 := by
  have ha := a.lo.isLt
  have ht := t.lo.isLt
  have htick := t.lo_tick
  simp only [secondsAhead]
  omega

/-- Pressing buttons moves the seconds digit by one place at most. -/
theorem secondsAhead_advance (a t : TimeOfDay) (down : Fin 4 → Bool) :
    secondsAhead a (advance down t) = secondsAhead a t ∨
      secondsAhead a (advance down t) = (secondsAhead a t + 1) % 60 := by
  have ha := a.lo.isLt
  have ht := t.lo.isLt
  have hlo := advance_lo down t
  simp only [secondsAhead]
  split_ifs at hlo
  · omega
  · omega

end AlarmClock

end RelojDespertador
