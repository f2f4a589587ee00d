import RelojDespertador.Panel.Basic
import RelojDespertador.Library.InputMachine

/-!
# The TimerWithC firmware

`software/TimerWithC/hello_world_small.c`. The program has one loop, and a step
of the model is one iteration of it. The alarm is a light without a time-out
here, and `counting` follows changes of the switch register, whose last value
the program remembers. `wait_for_timer` is taken to return.
-/

namespace RelojDespertador.TimerWithC

/-- `TIMER_LOAD_VALUE` of the board support package. -/
def timerLoadValue : U32 := 49999999

/-- The variables and peripherals at the loop head. -/
structure State extends Panel where
  switchState : U32
  deriving DecidableEq, Repr

namespace State

def onPanel (f : Panel → Panel) (s : State) : State := { s with toPanel := f s.toPanel }

@[simp] theorem onPanel_toPanel (f : Panel → Panel) (s : State) :
    (s.onPanel f).toPanel = f s.toPanel := rfl

@[simp] theorem onPanel_switchState (f : Panel → Panel) (s : State) :
    (s.onPanel f).switchState = s.switchState := rfl

end State

/-- `init_timer`. -/
def initTimer (p : Panel) : Panel :=
  p.programTimer (timerLoadValue &&& 0xFFFF) (timerLoadValue >>> 16)

/-- The run-mode branch of the buttons: button 3 turns lit LEDs off. -/
def runMode (i : Sample) (newLedsState : U32) (p : Panel) : Panel :=
  if i.buttons != p.prevButtonsState && i.switchOn then
    let changedButtons := i.buttons ^^^ p.prevButtonsState
    let p := { p with prevButtonsState := i.buttons }
    if Panel.pressed changedButtons i.buttons 0x08 && newLedsState &&& 0x3FF != 0 then
      p.writeLeds 0x00
    else p
  else p

/-- The test that starts and stops counting when the switch register has changed. -/
def followChange (i : Sample) (s : State) : State :=
  if i.switch != s.switchState then
    let s := if i.switchOn then s.onPanel ({ · with counting := true })
      else s.onPanel ({ · with counting := false })
    { s with switchState := i.switch }
  else s

/-- The alarm test at the end of the loop. -/
def fireAlarm (i : Sample) (s : State) : State :=
  if s.alarmMatches && i.switchOn then s.onPanel (·.writeLeds 0x3FF) else s

/-- One iteration of the loop. The trace starts afresh. -/
def step (i : Sample) (s : State) : State :=
  let s := s.onPanel ({ · with trace := [] })
  let newLedsState := s.readLeds
  let s := s.onPanel (·.setMode i)
  let s := s.onPanel (runMode i newLedsState)
  let s := followChange i s
  let s := if s.counting then s.onPanel (·.waitForTimer.countSecond) else s
  fireAlarm i s

/-- The loop head, reached from reset with the buttons and the switch read before it. -/
def start (boot : Sample) : State where
  toPanel := Panel.updateAll { initTimer Panel.reset with prevButtonsState := boot.buttons }
  switchState := boot.switch

/-- A state at the loop head of some run from reset. -/
def Reachable : State → Prop :=
  InputMachine.Reachable step fun s => ∃ boot, s = start boot

end RelojDespertador.TimerWithC
