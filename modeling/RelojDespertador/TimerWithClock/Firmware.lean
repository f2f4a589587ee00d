import RelojDespertador.Panel.Basic
import RelojDespertador.Library.InputMachine

/-!
# The TimerWithClock firmware

`software/TimerWithClock/hello_world_small.c`. The program has one loop, and a
step of the model is one iteration of it. The alarm lights the LEDs; turning
them off again is the work of later iterations. `wait_for_timer` is taken to
return.
-/

namespace RelojDespertador.TimerWithClock

/-- `TIMER_LOAD_VALUE` of the board support package. -/
def timerLoadValue : U32 := 49999999

/-- The variables and peripherals at the loop head. -/
abbrev State := AlarmPanel

/-- `init_timer`. -/
def initTimer (p : Panel) : Panel :=
  p.programTimer (timerLoadValue &&& 0xFFFF) (timerLoadValue >>> 16)

/-- The alarm test at the end of the loop. -/
def fireAlarm (i : Sample) (s : State) : State :=
  if s.alarmMatches && i.switchOn && !s.alarmaActiva then
    { s.onPanel (·.writeLeds 0x3FF) with alarmaActiva := true, segundosAlarmaActiva := 0 }
  else s

/-- One iteration of the loop. The trace starts afresh. -/
def step (i : Sample) (s : State) : State :=
  fireAlarm i ((s.onPanel ({ · with trace := [] })).loopBody i)

/-- The loop head, reached from reset with the buttons read before it. -/
def start (buttonsState : U32) : State :=
  AlarmPanel.reset.onPanel fun p =>
    Panel.updateAll { initTimer p with prevButtonsState := buttonsState }

/-- A state at the loop head of some run from reset. -/
def Reachable : State → Prop :=
  InputMachine.Reachable step fun s => ∃ buttonsState, s = start buttonsState

end RelojDespertador.TimerWithClock
