import Mathlib.Data.BitVec

/-!
# The interval timer

`TimerWithClock_TIMER.v`, one register field for each `reg` of the module and
one `cycle` for each rising clock edge. All registers are loaded at once from
the values they had before the edge, as the non-blocking assignments do. These
are the registers that count: the snapshot, the interrupt line and the read
multiplexer, which do not act on them, are added in `TimerSlave`.
-/

namespace RelojDespertador

/-- The addresses of the slave that the firmwares write to. -/
inductive TimerRegister
  | status | control | periodl | periodh
  deriving DecidableEq, Repr

/-- An access of software to the timer: one poll loop of the timeout flag, or a register write. -/
inductive TimerAccess
  | poll
  | write (register : TimerRegister) (value : BitVec 16)
  deriving DecidableEq, Repr

/-- The registers of the module. -/
structure Timer where
  internalCounter : BitVec 32
  forceReload : Bool
  counterIsRunning : Bool
  delayedCounterIsZero : Bool
  timeoutOccurred : Bool
  periodHRegister : BitVec 16
  periodLRegister : BitVec 16
  controlRegister : BitVec 4
  deriving DecidableEq, Repr

namespace Timer

/-- What an edge finds on the bus: no write, or a write of 16 bits to an address. -/
abbrev Bus := Option (TimerRegister × BitVec 16)

/-- The registers while `reset_n` is low. -/
def reset : Timer where
  internalCounter := 0x2FAF07F
  forceReload := false
  counterIsRunning := false
  delayedCounterIsZero := false
  timeoutOccurred := false
  periodHRegister := 762
  periodLRegister := 61567
  controlRegister := 0

def counterIsZero (t : Timer) : Bool := t.internalCounter == 0

def counterLoadValue (t : Timer) : BitVec 32 := t.periodHRegister ++ t.periodLRegister

def controlContinuous (t : Timer) : Bool := t.controlRegister[1]

/-- The write strobe of one register, with the data on the bus. -/
def strobe (bus : Bus) (register : TimerRegister) : Option (BitVec 16) :=
  match bus with
  | some (address, writedata) => if address = register then some writedata else none
  | none => none

def startStrobe (bus : Bus) : Bool :=
  match strobe bus .control with
  | some writedata => writedata[2]
  | none => false

def stopStrobe (bus : Bus) : Bool :=
  match strobe bus .control with
  | some writedata => writedata[3]
  | none => false

def doStopCounter (bus : Bus) (t : Timer) : Bool :=
  stopStrobe bus || t.forceReload || (t.counterIsZero && !t.controlContinuous)

def timeoutEvent (t : Timer) : Bool := t.counterIsZero && !t.delayedCounterIsZero

/-- One rising clock edge. -/
def cycle (bus : Bus) (t : Timer) : Timer where
  internalCounter :=
    if t.counterIsRunning || t.forceReload then
      if t.counterIsZero || t.forceReload then t.counterLoadValue else t.internalCounter - 1
    else t.internalCounter
  forceReload := (strobe bus .periodh).isSome || (strobe bus .periodl).isSome
  counterIsRunning :=
    if startStrobe bus then true
    else if t.doStopCounter bus then false
    else t.counterIsRunning
  delayedCounterIsZero := t.counterIsZero
  timeoutOccurred :=
    if (strobe bus .status).isSome then false
    else if t.timeoutEvent then true
    else t.timeoutOccurred
  periodHRegister := (strobe bus .periodh).getD t.periodHRegister
  periodLRegister := (strobe bus .periodl).getD t.periodLRegister
  controlRegister :=
    match strobe bus .control with
    | some writedata => writedata.setWidth 4
    | none => t.controlRegister

end Timer

end RelojDespertador
