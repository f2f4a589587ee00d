import RelojDespertador.Library.InputMachine
import RelojDespertador.AlarmClock
import RelojDespertador.Hardware.Timer
import RelojDespertador.Panel.Basic
import RelojDespertador.Final2.Firmware
import RelojDespertador.Panel.Refinement
import RelojDespertador.Final2.Spec
import RelojDespertador.Final2.Refinement
import RelojDespertador.Final2.Runs
import RelojDespertador.Final2.Alarm
import RelojDespertador.Final2.Handler
import RelojDespertador.Final2.Clock
import RelojDespertador.Final2.Dismissal
import RelojDespertador.Final2.Display
import RelojDespertador.Final2.Timekeeping
import RelojDespertador.Hardware.TimerProtocol
import RelojDespertador.Final2.Polling
import RelojDespertador.TimerWithClock.Firmware
import RelojDespertador.TimerWithClock.Refinement
import RelojDespertador.TimerWithClock.Alarm
import RelojDespertador.TimerWithClock.Buttons
import RelojDespertador.Final2.LoopHead
import RelojDespertador.Final2.Stopped
import RelojDespertador.TimerWithClock.Lamp
import RelojDespertador.TimerWithClock.Window
import RelojDespertador.TimerWithClock.Noninterference
import RelojDespertador.Hardware.Countdown
import RelojDespertador.Hardware.Schedule
import RelojDespertador.Final2.StaleFlag
import RelojDespertador.TimerWithClock.Stretch
import RelojDespertador.TimerWithC.Firmware
import RelojDespertador.TimerWithC.Spec
import RelojDespertador.TimerWithC.Refinement
import RelojDespertador.TimerWithC.Runs
import RelojDespertador.TimerWithC.Presses
import RelojDespertador.TimerWithC.Latch
import RelojDespertador.Final2.Rework
import RelojDespertador.Final2.Setting
import RelojDespertador.Panel.Debounce
import RelojDespertador.Final.Firmware
import RelojDespertador.Final.Spec
import RelojDespertador.Final.Refinement
import RelojDespertador.Final.Runs
import RelojDespertador.Final.UnsetAlarm
import RelojDespertador.Final.Pace
import RelojDespertador.Final.Debounce
import RelojDespertador.Hardware.OneShot
import RelojDespertador.Final.Hang
import RelojDespertador.Library.PriorityMux
import RelojDespertador.Library.EventLog
import RelojDespertador.Hardware.AddressMap
import RelojDespertador.Hardware.Soc
import RelojDespertador.Panel.Bus
import RelojDespertador.Panel.Pins
import RelojDespertador.Panel.OnChip
import RelojDespertador.Final2.OnChip
import RelojDespertador.TimerWithClock.OnChip
import RelojDespertador.TimerWithC.OnChip
import RelojDespertador.Final.OnChip
import RelojDespertador.Library.FirstSetBit
import RelojDespertador.Library.RoundRobin
import RelojDespertador.Library.Streams
import RelojDespertador.Hardware.Arbitrator
import RelojDespertador.Hardware.CommandMux
import RelojDespertador.Hardware.Fifo
import RelojDespertador.Hardware.TimerSlave
import RelojDespertador.Final.Tone
import RelojDespertador.Library.Soon
import RelojDespertador.Hardware.Packet
import RelojDespertador.Hardware.BurstUncompressor
import RelojDespertador.Hardware.SlavePort
import RelojDespertador.Hardware.MasterPort
import RelojDespertador.Hardware.Interconnect
import RelojDespertador.Hardware.Transactions
import RelojDespertador.Hardware.Accesses
import RelojDespertador.Hardware.Latency
import RelojDespertador.Hardware.SharedMemory
import RelojDespertador.Hardware.Peripherals
import RelojDespertador.Hardware.DebugSlaves
import RelojDespertador.Hardware.Chip
