import RelojDespertador.Panel.Pins

/-!
# A firmware on the chip

What the chip needs to know of a firmware: its rounds, their traces, and what
its state says of the pins. Before its first register write a firmware writes
direction registers. The parallel outputs have none, and the writes to those of
the two inputs end up in the memory, where they hit the words at 0x1024 and 0x1054.
-/

namespace RelojDespertador

/-- `IOWR_ALTERA_AVALON_PIO_DIRECTION`. -/
def directionWrite (base : Nat) (data : U32) : BusAccess := .write (iowr base 1 data)

/-- The writes at the top of `main` in all firmwares. -/
def directionWrites : List BusAccess :=
  [directionWrite ledsBase 0xFF, directionWrite buttonsBase 0x00, directionWrite switchBase 0x00,
    directionWrite SsegBase.hourTens.address 0xFF, directionWrite SsegBase.hourUnits.address 0xFF,
    directionWrite SsegBase.minsTens.address 0xFF, directionWrite SsegBase.minUnits.address 0xFF,
    directionWrite SsegBase.secTens.address 0xFF, directionWrite SsegBase.secUnits.address 0xFF]

/-- A firmware with an account of the pins. -/
structure Firmware (I S : Type*) where
  step : I → S → S
  start : S → Prop
  /-- `main` also writes the direction register of the buzzer. -/
  setsBuzzer : Bool
  trace : S → List Event
  pins : S → Pins
  start_pins : ∀ s, start s → pins s = (trace s).foldl Pins.act Pins.reset
  step_pins : ∀ i s, pins (step i s) = (trace (step i s)).foldl Pins.act (pins s)

/-- The pins see nothing of a write to other registers than their data registers. -/
theorem Pins.edge_eq_self {b : BusWrite}
    (h : ∀ s ∈ Slave.all, s ≠ .sram → b.reaches s = true → b.register 2 ≠ 0) (p : Pins) :
    p.edge (some b) = p := by
  have hport {n : Nat} (s : Slave) (hs : s ≠ .sram) (x : BitVec n) :
      pioEdge (Bus.at s (some b)) x = x := by
    cases hreach : b.reaches s with
    | false =>
        rw [Bus.at, Option.filter, hreach]
        rfl
    | true =>
        rw [Bus.at, Option.filter, hreach]
        exact if_neg (h s s.mem_all hs hreach)
  simp [Pins.edge, hport]

namespace Firmware

variable {I S : Type*} (f : Firmware I S)

/-- The accesses that `main` makes before it programs the timer. -/
def boot : List BusAccess :=
  if f.setsBuzzer then directionWrites ++ [directionWrite buzzerBase 0x01] else directionWrites

/-- The interleavings of the firmware with the chip. -/
def OnChip (image : Sram) : SocSystem S → Prop :=
  SocSystem.Reachable f.step f.start f.boot (fun s => busAccesses (f.trace s)) image

theorem boot_timer : f.boot.filterMap BusAccess.timerAccess = [] := by
  rw [boot]
  split_ifs <;> decide

theorem boot_pins (p : Pins) :
    (BusAccess.writes f.boot).foldl (fun p b => p.edge (some b)) p = p := by
  have hself : ∀ b ∈ BusAccess.writes f.boot, ∀ s ∈ Slave.all, s ≠ .sram → b.reaches s = true →
      b.register 2 ≠ 0 := by
    rw [boot]
    split_ifs <;> decide
  generalize BusAccess.writes f.boot = l at hself
  induction l with
  | nil => rfl
  | cons b l ih =>
      rw [List.foldl_cons, Pins.edge_eq_self (hself b (List.mem_cons_self ..))]
      exact ih fun b' hb' => hself b' (List.mem_cons_of_mem b hb')

/-- Of these accesses, those to the directions of the two inputs reach the memory. -/
theorem boot_reaches_sram : (BusAccess.writes f.boot).filter (·.reaches .sram) =
    [iowr buttonsBase 1 0, iowr switchBase 1 0] := by
  rw [boot]
  split_ifs <;> decide

section OnChip

variable {f} {image : Sram} {y : SocSystem S}

/-- An interleaving on the chip is one of the firmware with its timer. -/
theorem OnChip.timerSystem (h : f.OnChip image y) :
    TimerSystem.Reachable f.step f.start (fun s => timerAccesses (f.trace s)) y.timerSystem := by
  have hreach := SocSystem.Reachable.timerSystem f.boot_timer h
  simp only [timerAccess_busAccesses] at hreach
  exact hreach

/-- A firmware that arms the timer before its loop, and polls an armed timer only,
finds it armed at every poll. -/
theorem OnChip.armed_of_poll
    (hstart : ∀ s, f.start s → Phase.any.program (timerAccesses (f.trace s)) = some .armed)
    (hround : ∀ i s, InputMachine.Reachable f.step f.start s →
      Phase.armed.program (timerAccesses (f.trace (f.step i s))) = some .armed)
    (h : f.OnChip image y) {rest : List BusAccess} (hpoll : y.pending = .poll :: rest) :
    Phase.armed.Holds y.soc.timer := by
  have hpending : y.timerSystem.pending = .poll :: rest.filterMap BusAccess.timerAccess := by
    rw [SocSystem.timerSystem, hpoll]
    rfl
  exact h.timerSystem.armed_of_poll hstart hround hpending

/-- The pins are what the accesses still pending make of them. -/
theorem OnChip.replay_pins (h : f.OnChip image y) :
    (BusAccess.writes y.pending).foldl (fun p b => p.edge (some b)) y.soc.pins =
      f.pins y.software := by
  refine SocSystem.Reachable.replay (fun s hs => ?_) (fun i s _ => ?_) h
  · rw [BusAccess.writes_append, List.foldl_append, boot_pins, replay_busAccesses]
    exact f.start_pins s hs
  · rw [replay_busAccesses]
    exact f.step_pins i s

/-- No register write of a trace is routed to the memory. -/
theorem not_reaches_sram_of_mem {l : List Event} {b : BusWrite}
    (hb : b ∈ BusAccess.writes (busAccesses l)) : b.reaches .sram = false := by
  obtain ⟨access, haccess, hsome⟩ := List.mem_filterMap.mp hb
  obtain ⟨e, -, he⟩ := List.mem_filterMap.mp haccess
  cases access with
  | poll => cases hsome
  | write b' =>
      obtain rfl : b' = b := Option.some.inj hsome
      exact Event.not_reaches_sram he

/-- The only writes that stray into the memory are those to the directions of the inputs. -/
theorem OnChip.strays (h : f.OnChip image y) {b : BusWrite}
    (hb : b ∈ BusAccess.writes y.pending) (hreach : b.reaches .sram = true) :
    b = iowr buttonsBase 1 0 ∨ b = iowr switchBase 1 0 := by
  refine SocSystem.Reachable.forall_pending
    (P := fun b => b.reaches .sram = true → b = iowr buttonsBase 1 0 ∨ b = iowr switchBase 1 0)
    (fun b hb hreach => ?_) (fun s b hb hreach => ?_) h b hb hreach
  · have hmem : b ∈ (BusAccess.writes f.boot).filter (·.reaches .sram) :=
      List.mem_filter.mpr ⟨hb, hreach⟩
    rw [f.boot_reaches_sram, List.mem_cons, List.mem_singleton] at hmem
    exact hmem
  · rw [not_reaches_sram_of_mem hb] at hreach
    cases hreach

/-- What the firmware's program and the chip agree on at every point of an interleaving. -/
structure Follows (f : Firmware I S) (y : SocSystem S) : Prop where
  /-- At the loop heads the pins are what the program takes them to be. -/
  pins : y.pending = [] → y.soc.pins = f.pins y.software
  /-- Of the register writes still to be made, those that the interconnect routes to the
  memory are the ones to the direction registers of the two inputs. -/
  strays : ∀ b ∈ BusAccess.writes y.pending, b.reaches .sram = true →
    b = iowr buttonsBase 1 0 ∨ b = iowr switchBase 1 0

theorem OnChip.follows (h : f.OnChip image y) : f.Follows y where
  pins hdone := by
    have hreplay := h.replay_pins
    rw [hdone] at hreplay
    exact hreplay
  strays _ hb := h.strays hb

end OnChip

/-! ## The prompt interleaving -/

/-- The loop heads of the prompt interleaving of the firmware from a first state. -/
def promptAt (image : Sram) (s : S) (w : Nat → I) (n : Nat) : SocSystem S :=
  SocSystem.promptAt f.step f.boot (fun s => busAccesses (f.trace s)) image s w n

section Prompt

variable {f} {image : Sram} {s : S} {w : Nat → I} {n : Nat}

theorem promptAt_software : (f.promptAt image s w n).software = InputMachine.states f.step s w n :=
  SocSystem.promptAt_software s w n

theorem promptAt_pending : (f.promptAt image s w n).pending = [] :=
  SocSystem.promptAt_pending s w n

/-- The prompt interleaving is one on the chip, if the rounds lead from the promise of one
loop head to that of the next. -/
theorem promptAt_onChip {P : Type*} {D : Discipline P} (hends : D.PollsEnd) {p : P} {m : Nat → P}
    (hs : f.start s) (hp : D.Holds p Timer.reset)
    (hstart : D.program p (timerAccesses (f.trace s)) = some (m 0))
    (hround : ∀ k < n, D.program (m k)
      (timerAccesses (f.trace (InputMachine.states f.step s w (k + 1)))) = some (m (k + 1))) :
    f.OnChip image (f.promptAt image s w n) := by
  refine (SocSystem.promptAt_reachable (m := m) hends hs hp ?_ fun k hk => ?_).1
  · rw [List.filterMap_append, f.boot_timer, List.nil_append, timerAccess_busAccesses]
    exact hstart
  · rw [timerAccess_busAccesses]
    exact hround k hk

/-- A firmware that arms the timer before its loop and leaves it armed in every round runs
promptly on the chip. -/
theorem promptAt_onChip_of_armed (hs : f.start s)
    (hstart : Phase.any.program (timerAccesses (f.trace s)) = some .armed)
    (hround : ∀ i s, InputMachine.Reachable f.step f.start s →
      Phase.armed.program (timerAccesses (f.trace (f.step i s))) = some .armed) :
    f.OnChip image (f.promptAt image s w n) :=
  promptAt_onChip (D := Phase.discipline) (m := fun _ => .armed) (p := .any) Phase.pollsEnd hs
    True.intro hstart fun k _ => hround (w k) _ ((InputMachine.Reachable.init hs).states w k)

end Prompt

end Firmware

end RelojDespertador
