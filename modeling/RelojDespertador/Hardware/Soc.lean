import RelojDespertador.Hardware.AddressMap
import RelojDespertador.Hardware.Countdown

/-!
# The system on the chip, as its software sees it

A write of the data master reaches the slave it is routed to: a register of a
parallel output, a word of the memory, or a register of the timer. Software and
hardware run side by side as in `TimerProtocol`, and the timer of an
interleaving on the chip is that of an interleaving of the timer alone.

The variables and the stack of the software are in the memory too. What it stores
there is not modelled, so an interleaving may find anything in the memory.
-/

namespace RelojDespertador

/-- A write of 32 bits to a byte address. -/
structure BusWrite where
  address : BitVec 14
  writedata : U32
  deriving DecidableEq, Repr

/-- `IOWR`. -/
def iowr (base regnum : Nat) (data : U32) : BusWrite := ⟨BitVec.ofNat 14 (base + 4 * regnum), data⟩

namespace BusWrite

/-- The demultiplexer passes the write to the slave. -/
def reaches (s : Slave) (b : BusWrite) : Bool := (route b.address false).1.getLsbD s.channel

/-- The address on the port of a slave: that of the word, cut to the width of the port. -/
def register (width : Nat) (b : BusWrite) : BitVec width := (b.address >>> 2).setWidth width

end BusWrite

namespace BusWrite

variable {b : BusWrite} {s : Slave}

/-- A write reaches the slave that it is routed to and no other. -/
theorem reaches_of_route (h : route b.address false = s.toRoute) (s' : Slave) :
    b.reaches s' = decide (s' = s) := by
  have hchannel : s.channel = s'.channel ↔ s' = s :=
    ⟨fun h => (Slave.channel_injective h).symm, fun h => h ▸ rfl⟩
  rw [reaches, h, Slave.toRoute, BitVec.getLsbD_twoPow]
  simp [s.channel_lt, hchannel]

theorem register_iowr (width base regnum : Nat) (data : U32) :
    (iowr base regnum data).register width =
      (BitVec.ofNat 14 (base + 4 * regnum) >>> 2).setWidth width := rfl

end BusWrite

/-- What an edge finds on the bus of the data master. -/
abbrev Bus := Option BusWrite

/-- What an edge finds on the port of a slave. -/
def Bus.at (s : Slave) (bus : Bus) : Bus := bus.filter (·.reaches s)

@[simp] theorem Bus.at_none (s : Slave) : Bus.at s none = none := rfl

theorem Bus.at_of_route {s : Slave} {b : BusWrite} (h : route b.address false = s.toRoute)
    (s' : Slave) : Bus.at s' (some b) = if s' = s then some b else none := by
  simp [Bus.at, Option.filter, b.reaches_of_route h]

theorem Bus.at_of_takes {s : Slave} {b : BusWrite} (h : s.Takes b.address false) (s' : Slave) :
    Bus.at s' (some b) = if s' = s then some b else none :=
  Bus.at_of_route h.route s'

/-! ## The slaves -/

/-- One rising edge of a parallel output: `TimerWithClock_LEDS.v` and those like it. -/
def pioEdge {n : Nat} (port : Bus) (dataOut : BitVec n) : BitVec n :=
  match port with
  | some b => if b.register 2 = 0 then b.writedata.setWidth n else dataOut
  | none => dataOut

theorem pioEdge_at {n : Nat} {s : Slave} {b : BusWrite} (h : s.Takes b.address false) (s' : Slave)
    (dataOut : BitVec n) :
    pioEdge (Bus.at s' (some b)) dataOut =
      if s' = s ∧ b.register 2 = 0 then b.writedata.setWidth n else dataOut := by
  rw [Bus.at_of_takes h]
  by_cases hs : s' = s
  · simp [hs, pioEdge]
  · simp [hs, pioEdge]

/-- The words of the memory. -/
abbrev Sram := BitVec 10 → U32

/-- One rising edge of `TimerWithClock_SRAM.v`. -/
def sramEdge (port : Bus) (sram : Sram) : Sram :=
  match port with
  | some b => fun word => if word = b.register 10 then b.writedata else sram word
  | none => sram

/-- The timer register at an address of the slave. -/
def TimerRegister.ofAddress (address : BitVec 3) : Option TimerRegister :=
  if address = 0 then some .status
  else if address = 1 then some .control
  else if address = 2 then some .periodl
  else if address = 3 then some .periodh
  else none

/-- The port of the timer is 16 bits wide. -/
def timerBus (port : Bus) : Timer.Bus :=
  port.bind fun b =>
    (TimerRegister.ofAddress (b.register 3)).map fun register => (register, b.writedata.setWidth 16)

/-- The output pins of the chip. -/
structure Pins where
  leds : BitVec 10
  buzzer : BitVec 1
  display : Display
  deriving DecidableEq, Repr

namespace Pins

/-- The registers after reset. -/
def reset : Pins := ⟨0, 0, Display.reset⟩

/-- One rising edge of the eight parallel outputs. -/
def edge (bus : Bus) (p : Pins) : Pins where
  leds := pioEdge (bus.at .leds) p.leds
  buzzer := pioEdge (bus.at .buzzer) p.buzzer
  display :=
    { hourTens := pioEdge (bus.at (.sseg .hourTens)) p.display.hourTens
      hourUnits := pioEdge (bus.at (.sseg .hourUnits)) p.display.hourUnits
      minsTens := pioEdge (bus.at (.sseg .minsTens)) p.display.minsTens
      minUnits := pioEdge (bus.at (.sseg .minUnits)) p.display.minUnits
      secTens := pioEdge (bus.at (.sseg .secTens)) p.display.secTens
      secUnits := pioEdge (bus.at (.sseg .secUnits)) p.display.secUnits }

end Pins

/-- The slaves that the firmwares write to. -/
structure Soc where
  pins : Pins
  sram : Sram
  timer : Timer

namespace Soc

/-- After reset, with the program image in the memory. -/
def reset (image : Sram) : Soc := ⟨Pins.reset, image, Timer.reset⟩

/-- One rising clock edge. -/
def edge (bus : Bus) (y : Soc) : Soc where
  pins := y.pins.edge bus
  sram := sramEdge (bus.at .sram) y.sram
  timer := y.timer.cycle (timerBus (bus.at .timer))

/-- After some edges without a write. -/
def idle (n : Nat) (y : Soc) : Soc := { y with timer := y.timer.idle n }

theorem idle_succ (n : Nat) (y : Soc) : y.idle (n + 1) = (y.idle n).edge none := by
  rw [idle, Timer.idle_succ]
  rfl

end Soc

/-- An access of software: a poll loop of the timeout flag, or a write. -/
inductive BusAccess
  | poll
  | write (b : BusWrite)
  deriving DecidableEq, Repr

namespace BusAccess

/-- The access as the timer sees it. -/
def timerAccess : BusAccess → Option TimerAccess
  | poll => some .poll
  | write b =>
      (timerBus (Bus.at .timer (some b))).map fun (register, value) => .write register value

/-- The writes of a list of accesses. -/
def writes (l : List BusAccess) : List BusWrite :=
  l.filterMap fun
    | poll => none
    | write b => some b

@[simp] theorem writes_nil : writes [] = [] := rfl
@[simp] theorem writes_poll (l : List BusAccess) : writes (poll :: l) = writes l := rfl
@[simp] theorem writes_write (b : BusWrite) (l : List BusAccess) :
    writes (write b :: l) = b :: writes l := rfl

theorem writes_append (l m : List BusAccess) : writes (l ++ m) = writes l ++ writes m :=
  List.filterMap_append

end BusAccess

/-! ## Software and chip -/

/-- Software with the accesses of its current round still to be made, and the chip. -/
structure SocSystem (S : Type*) where
  software : S
  pending : List BusAccess
  soc : Soc

namespace SocSystem

variable {I S : Type*} (step : I → S → S) (start : S → Prop) (boot : List BusAccess)
  (accesses : S → List BusAccess) (image : Sram)

/-- What an interleaving of the clock with the accesses of the software reaches. The
software makes the accesses in `boot` before those of its first state. -/
inductive Reachable : SocSystem S → Prop
  | start {s : S} (h : start s) : Reachable ⟨s, boot ++ accesses s, Soc.reset image⟩
  /-- A clock edge without a write, or with a read that does not end a poll loop. -/
  | cycle {y : SocSystem S} (h : Reachable y) : Reachable { y with soc := y.soc.edge none }
  /-- A clock edge with a store to a variable or to the stack. -/
  | store {y : SocSystem S} (sram : Sram) (h : Reachable y) :
      Reachable { y with soc := { y.soc.edge none with sram := sram } }
  /-- A clock edge that takes a write. -/
  | write {y : SocSystem S} {b : BusWrite} {rest : List BusAccess} (h : Reachable y)
      (hp : y.pending = .write b :: rest) :
      Reachable { y with pending := rest, soc := y.soc.edge (some b) }
  /-- A clock edge with the read that ends a poll loop. -/
  | expire {y : SocSystem S} {rest : List BusAccess} (h : Reachable y)
      (hp : y.pending = .poll :: rest) (hflag : y.soc.timer.timeoutOccurred = true) :
      Reachable { y with pending := rest, soc := y.soc.edge none }
  /-- The software goes on to its next round. -/
  | round {y : SocSystem S} (i : I) (h : Reachable y) (hp : y.pending = []) :
      Reachable ⟨step i y.software, accesses (step i y.software), y.soc⟩

/-- The software and the timer alone. -/
def timerSystem (y : SocSystem S) : TimerSystem S where
  software := y.software
  pending := y.pending.filterMap BusAccess.timerAccess
  timer := y.soc.timer

variable {step start boot accesses image} {y : SocSystem S}

theorem Reachable.software (h : Reachable step start boot accesses image y) :
    InputMachine.Reachable step start y.software := by
  induction h with
  | start h => exact .init h
  | cycle _ ih | store _ _ ih | write _ _ ih | expire _ _ _ ih => exact ih
  | round i _ _ ih => exact ih.next i

/-- An interleaving on the chip is one of the software with the timer, if no access of
`boot` is one to the timer. -/
theorem Reachable.timerSystem (hboot : boot.filterMap BusAccess.timerAccess = [])
    (h : Reachable step start boot accesses image y) :
    TimerSystem.Reachable step start (fun s => (accesses s).filterMap BusAccess.timerAccess)
      y.timerSystem := by
  induction h with
  | start h =>
      rw [SocSystem.timerSystem, List.filterMap_append, hboot]
      exact .start h
  | cycle _ ih | store _ _ ih => exact ih.cycle
  | @write y b rest _ hp ih =>
      have hpending : y.timerSystem.pending =
          (BusAccess.write b :: rest).filterMap BusAccess.timerAccess := by
        rw [← hp]
        rfl
      cases hbus : timerBus (Bus.at .timer (some b)) with
      | none =>
          have hskip : y.timerSystem.pending = rest.filterMap BusAccess.timerAccess := by
            rw [hpending, List.filterMap_cons_none]
            rw [BusAccess.timerAccess, hbus]
            rfl
          have hnext := ih.cycle
          rw [SocSystem.timerSystem, Soc.edge, hbus]
          rw [hskip] at hnext
          exact hnext
      | some access =>
          have htake : y.timerSystem.pending =
              .write access.1 access.2 :: rest.filterMap BusAccess.timerAccess := by
            rw [hpending, List.filterMap_cons_some]
            rw [BusAccess.timerAccess, hbus]
            rfl
          have hnext := ih.write htake
          rw [SocSystem.timerSystem, Soc.edge, hbus]
          exact hnext
  | @expire y rest _ hp hflag ih =>
      have htake : y.timerSystem.pending = .poll :: rest.filterMap BusAccess.timerAccess := by
        rw [SocSystem.timerSystem, hp]
        rfl
      exact ih.expire htake hflag
  | @round y i _ hp ih =>
      have hdone : y.timerSystem.pending = [] := by
        rw [SocSystem.timerSystem, hp]
        rfl
      exact ih.round i hdone

/-- What holds of all writes that the software makes holds of those still to be made. -/
theorem Reachable.forall_pending {P : BusWrite → Prop} (hboot : ∀ b ∈ BusAccess.writes boot, P b)
    (haccesses : ∀ s, ∀ b ∈ BusAccess.writes (accesses s), P b)
    (h : Reachable step start boot accesses image y) : ∀ b ∈ BusAccess.writes y.pending, P b := by
  induction h with
  | start h =>
      intro b hb
      rw [BusAccess.writes_append, List.mem_append] at hb
      exact hb.elim (hboot b) (haccesses _ b)
  | cycle _ ih | store _ _ ih => exact ih
  | @write y b _ _ hp ih =>
      rw [hp, BusAccess.writes_write] at ih
      exact fun b' hb' => ih b' (List.mem_cons_of_mem b hb')
  | expire _ hp _ ih =>
      rw [hp, BusAccess.writes_poll] at ih
      exact ih
  | round i _ _ _ => exact haccesses _

/-- The pins follow what the software has written: the writes still pending lead from
them to what the software's state says of them. -/
theorem Reachable.replay {v : S → Pins}
    (hstart : ∀ s, start s →
      v s = (BusAccess.writes (boot ++ accesses s)).foldl (fun p b => p.edge (some b)) Pins.reset)
    (hround : ∀ i s, InputMachine.Reachable step start s →
      v (step i s) = (BusAccess.writes (accesses (step i s))).foldl (fun p b => p.edge (some b)) (v s))
    (h : Reachable step start boot accesses image y) :
    (BusAccess.writes y.pending).foldl (fun p b => p.edge (some b)) y.soc.pins = v y.software := by
  induction h with
  | start h => exact (hstart _ h).symm
  | cycle _ ih | store _ _ ih => exact ih
  | write _ hp ih =>
      rw [hp, BusAccess.writes_write, List.foldl_cons] at ih
      exact ih
  | expire _ hp _ ih =>
      rw [hp, BusAccess.writes_poll] at ih
      exact ih
  | round i h hp ih =>
      rw [hp, BusAccess.writes_nil, List.foldl_nil] at ih
      rw [hround i _ h.software, ← ih]

/-! ## The prompt interleaving

The prompt interleaving makes an access at every edge, except that a poll loop
goes on until the flag is set. -/

/-- The chip after one access, made as soon as it can be. -/
def serve (z : Soc) : BusAccess → Soc
  | .poll => (z.idle z.timer.untilFlag).edge none
  | .write b => z.edge (some b)

variable (step boot accesses image) in
/-- The loop heads of the prompt interleaving from a first state. -/
def promptAt (s : S) (w : Nat → I) : Nat → SocSystem S
  | 0 => ⟨s, [], (boot ++ accesses s).foldl serve (Soc.reset image)⟩
  | n + 1 =>
      ⟨step (w n) (promptAt s w n).software, [],
        (accesses (step (w n) (promptAt s w n).software)).foldl serve (promptAt s w n).soc⟩

theorem promptAt_software (s : S) (w : Nat → I) (n : Nat) :
    (promptAt step boot accesses image s w n).software = InputMachine.states step s w n := by
  induction n with
  | zero => rfl
  | succ n ih => exact congrArg (step (w n)) ih

theorem promptAt_pending (s : S) (w : Nat → I) (n : Nat) :
    (promptAt step boot accesses image s w n).pending = [] := by
  cases n <;> rfl

theorem Reachable.idle (h : Reachable step start boot accesses image y) (n : Nat) :
    Reachable step start boot accesses image { y with soc := y.soc.idle n } := by
  induction n with
  | zero => exact h
  | succ n ih =>
      rw [Soc.idle_succ]
      exact ih.cycle

section Serve

variable {P : Type*} {D : Discipline P} (hends : D.PollsEnd) {p q : P} {s : S} {z : Soc}
include hends

/-- An allowed access can be made. -/
theorem Reachable.serve {x : BusAccess} {m : List BusAccess}
    (h : Reachable step start boot accesses image ⟨s, x :: m, z⟩) (hp : D.Holds p z.timer)
    (hprogram : D.program p x.timerAccess.toList = some q) :
    Reachable step start boot accesses image ⟨s, m, SocSystem.serve z x⟩ ∧
      D.Holds q (SocSystem.serve z x).timer := by
  cases x with
  | poll =>
      rw [BusAccess.timerAccess, Option.toList_some, D.program_cons] at hprogram
      obtain ⟨q', hnext, hq⟩ := Option.bind_eq_some_iff.mp hprogram
      obtain rfl : q' = q := Option.some.inj hq
      have hflag := hends hp hnext
      obtain rfl := D.poll hnext
      exact ⟨(h.idle z.timer.untilFlag).expire rfl hflag, D.cycle (D.idle hp _)⟩
  | write b =>
      refine ⟨h.write rfl, ?_⟩
      change D.Holds q (z.timer.cycle (timerBus (Bus.at .timer (some b))))
      rw [BusAccess.timerAccess] at hprogram
      cases hbus : timerBus (Bus.at .timer (some b)) with
      | none =>
          rw [hbus] at hprogram
          obtain rfl : p = q := Option.some.inj hprogram
          exact D.cycle hp
      | some access =>
          rw [hbus, Option.map_some, Option.toList_some, D.program_cons] at hprogram
          obtain ⟨q', hnext, hq⟩ := Option.bind_eq_some_iff.mp hprogram
          obtain rfl : q' = q := Option.some.inj hq
          exact D.write hp hnext

/-- Allowed accesses can be made, one after the other. -/
theorem Reachable.serve_all {l : List BusAccess}
    (h : Reachable step start boot accesses image ⟨s, l, z⟩) (hp : D.Holds p z.timer)
    (hprogram : D.program p (l.filterMap BusAccess.timerAccess) = some q) :
    Reachable step start boot accesses image ⟨s, [], l.foldl SocSystem.serve z⟩ ∧
      D.Holds q (l.foldl SocSystem.serve z).timer := by
  induction l generalizing z p with
  | nil =>
      obtain rfl : p = q := Option.some.inj hprogram
      exact ⟨h, hp⟩
  | cons x l ih =>
      have hsplit : (x :: l).filterMap BusAccess.timerAccess =
          x.timerAccess.toList ++ l.filterMap BusAccess.timerAccess := by
        rw [List.filterMap_cons]
        cases x.timerAccess <;> rfl
      rw [hsplit, D.program_append] at hprogram
      obtain ⟨p', hx, hl⟩ := Option.bind_eq_some_iff.mp hprogram
      obtain ⟨hnext, hp'⟩ := h.serve hends hp hx
      exact ih hnext hp' hl

/-- If the accesses lead from the promise of one loop head to that of the next, the
prompt interleaving gets there. -/
theorem promptAt_reachable {w : Nat → I} {m : Nat → P} {n : Nat} (hs : start s)
    (hp : D.Holds p Timer.reset)
    (hstart : D.program p ((boot ++ accesses s).filterMap BusAccess.timerAccess) = some (m 0))
    (hround : ∀ k < n, D.program (m k) ((accesses (InputMachine.states step s w (k + 1))).filterMap
      BusAccess.timerAccess) = some (m (k + 1))) :
    Reachable step start boot accesses image (promptAt step boot accesses image s w n) ∧
      D.Holds (m n) (promptAt step boot accesses image s w n).soc.timer := by
  induction n with
  | zero => exact (Reachable.start hs).serve_all hends hp hstart
  | succ n ih =>
      obtain ⟨hhead, hm⟩ := ih fun k hk => hround k (Nat.lt_succ_of_lt hk)
      have hsoftware : (promptAt step boot accesses image s w n).software =
          InputMachine.states step s w n := promptAt_software s w n
      have hnext := hround n (Nat.lt_succ_self n)
      rw [InputMachine.states_succ, ← hsoftware] at hnext
      exact (hhead.round (w n) (promptAt_pending s w n)).serve_all hends hm hnext

end Serve

end SocSystem

end RelojDespertador
