import RelojDespertador.AlarmClock
import RelojDespertador.Library.Word
import Mathlib.Data.List.FinRange

/-!
# The six seven-segment displays

The pattern table of the firmwares, the six output registers it is written to,
and the decoding of what they hold. A register of the generated peripheral is
seven bits wide and keeps `writedata[6:0]`, so the inverted pattern loses its
top bit on the way; the codes of the ten digits stay distinct.
-/

namespace RelojDespertador

/-- `uint8_t`. -/
abbrev U8 := BitVec 8

/-- `uint32_t`. -/
abbrev U32 := BitVec 32

/-- The segments that are lit for the digits 0 to 9. -/
def patterns : List U8 :=
  [0x3F, 0x06, 0x5B, 0x4F, 0x66, 0x6D, 0x7D, 0x07, 0x7F, 0x6F]

/-- `num_to_seven_seg`. An index outside the table reads past its end in the
source and is `none` here. -/
def numToSevenSeg (num : Nat) : Option U8 := patterns[num]?.map (~~~ ·)

/-- The base addresses of the six displays. -/
inductive SsegBase
  | hourTens | hourUnits | minsTens | minUnits | secTens | secUnits
  deriving DecidableEq, Repr

/-- The output registers of the six displays. -/
structure Display where
  hourTens : BitVec 7
  hourUnits : BitVec 7
  minsTens : BitVec 7
  minUnits : BitVec 7
  secTens : BitVec 7
  secUnits : BitVec 7
  deriving DecidableEq, Repr

namespace Display

/-- The registers after reset. -/
def reset : Display := ⟨0, 0, 0, 0, 0, 0⟩

/-- A write keeps the low seven bits of the value at the addressed register. -/
def write (base : SsegBase) (value : U32) (d : Display) : Display :=
  match base with
  | .hourTens => { d with hourTens := value.setWidth 7 }
  | .hourUnits => { d with hourUnits := value.setWidth 7 }
  | .minsTens => { d with minsTens := value.setWidth 7 }
  | .minUnits => { d with minUnits := value.setWidth 7 }
  | .secTens => { d with secTens := value.setWidth 7 }
  | .secUnits => { d with secUnits := value.setWidth 7 }

/-- The value written to show a digit: its inverted pattern, zero-extended. -/
def digitCode (digit : Nat) : U32 := ((numToSevenSeg digit).getD 0).setWidth 32

/-- What a register holds after a digit has been written to it. -/
def segments (digit : Nat) : BitVec 7 := (digitCode digit).setWidth 7

/-- The registers that show a time of day: tens and units of its three digits. -/
def ofTime (t : TimeOfDay) : Display where
  hourTens := segments (t.hi / 10)
  hourUnits := segments (t.hi % 10)
  minsTens := segments (t.mid / 10)
  minUnits := segments (t.mid % 10)
  secTens := segments (t.lo / 10)
  secUnits := segments (t.lo % 10)

theorem numToSevenSeg_eq_some {digit : Nat} (h : digit < 10) :
    ∃ code, numToSevenSeg digit = some code ∧ digitCode digit = code.setWidth 32 := by
  have hlen : digit < patterns.length := h
  exact ⟨~~~ patterns[digit], by simp [numToSevenSeg, hlen], by
    simp [digitCode, numToSevenSeg, hlen]⟩

/-- The digit whose pattern a register shows, if it shows one. -/
def digitOf (code : BitVec 7) : Option Nat :=
  (List.range 10).find? fun digit => segments digit == code

/-- Inversion and truncation keep the ten codes apart. -/
theorem digitOf_segments : ∀ digit < 10, digitOf (segments digit) = some digit := by
  decide

/-- The number two displays show. -/
def twoDigits (tens units : BitVec 7) : Option Nat := do
  let high ← digitOf tens
  let low ← digitOf units
  return 10 * high + low

/-- Hours, minutes and seconds as read off the six displays. -/
def decode (d : Display) : Option (Nat × Nat × Nat) := do
  let hours ← twoDigits d.hourTens d.hourUnits
  let minutes ← twoDigits d.minsTens d.minUnits
  let seconds ← twoDigits d.secTens d.secUnits
  return (hours, minutes, seconds)

theorem twoDigits_segments {n : Nat} (h : n < 100) :
    twoDigits (segments (n / 10)) (segments (n % 10)) = some n := by
  rw [twoDigits, digitOf_segments (n / 10) (by omega), digitOf_segments (n % 10) (by omega)]
  exact congrArg some (Nat.div_add_mod n 10)

/-- Decoding the registers that show a time gives the time back. -/
theorem decode_ofTime (t : TimeOfDay) :
    (ofTime t).decode = some ((t.hi : Nat), (t.mid : Nat), (t.lo : Nat)) := by
  have hhi := t.hi.isLt
  have hmid := t.mid.isLt
  have hlo := t.lo.isLt
  simp only [decode, ofTime]
  rw [twoDigits_segments (by omega), twoDigits_segments (by omega), twoDigits_segments (by omega)]
  rfl

end Display

end RelojDespertador
