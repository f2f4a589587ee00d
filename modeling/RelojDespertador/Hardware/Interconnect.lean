import RelojDespertador.Hardware.MasterPort
import RelojDespertador.Hardware.SlavePort

/-!
# The interconnect

`TimerWithClock_mm_interconnect_0.v`: the ports of the two masters and of the
fourteen slaves, the routers and demultiplexers between them, a multiplexer in
front of each of the two slaves that both masters reach, and the response
multiplexers, which do not arbitrate.
-/

namespace RelojDespertador

/-! ## Routes -/

namespace Master

/-- The address decoder of `TimerWithClock_mm_interconnect_0_router_001.sv`. -/
def instructionDecoder : List DecoderRange :=
  [⟨0x1000, 0x2000, false, 0b10, 4⟩, ⟨0x2800, 0x3000, false, 0b01, 13⟩]

/-- The channel and the destination that the router of the master assigns. -/
def route (address : BitVec 14) (readTransaction : Bool) : Master → Route
  | data => RelojDespertador.route address readTransaction
  | instruction =>
      PriorityMux.select (·.selects address readTransaction)
        (fun r => (r.channel, r.destinationId)) (1#14 <<< 1, 4) instructionDecoder

/-- `NUM_OUTPUTS` of its demultiplexer. -/
def numOutputs : Master → Nat
  | data => 14
  | instruction => 2

/-- The output of its demultiplexer that leads to a slave. -/
def output : Master → Slave → Option Nat
  | data, s => some s.channel
  | instruction, .debugMem => some 0
  | instruction, .sram => some 1
  | instruction, _ => none

/-- The demultiplexer passes the transaction to the slave. -/
def reaches (m : Master) (address : BitVec 14) (readTransaction : Bool) (s : Slave) : Bool :=
  (m.output s).any (m.route address readTransaction).1.getLsbD

/-- The sink of the multiplexers that the master is at. -/
def sink : Master → Fin 2
  | data => ⟨0, Nat.zero_lt_two⟩
  | instruction => ⟨1, Nat.one_lt_two⟩

def ofSink : Fin 2 → Master
  | 0 => data
  | 1 => instruction

@[simp] theorem ofSink_sink (m : Master) : ofSink m.sink = m := by
  cases m <;> rfl

@[simp] theorem sink_ofSink (k : Fin 2) : (ofSink k).sink = k := by
  match k with
  | 0 | 1 => rfl

/-- The response of a slave to the master, at the demultiplexer behind the slave. -/
def rspOutput : Master → Nat
  | data => 0
  | instruction => 1

end Master

namespace Slave

/-- Both masters reach the slave. -/
def shared : Slave → Bool
  | debugMem | sram => true
  | debug | leds | sseg _ | buttons | timer | switch | buzzer => false

/-- The slave that the transactions of a master go to, if there is one. -/
def target (m : Master) (address : BitVec 14) (readTransaction : Bool) : Option Slave :=
  all.find? (m.reaches address readTransaction)

theorem output_isSome_iff (m : Master) (s : Slave) :
    (m.output s).isSome = true ↔ m = .data ∨ s.shared = true := by
  cases m with
  | data => simp [Master.output]
  | instruction => cases s <;> simp [Master.output, shared]

end Slave

/-- Every transaction reaches exactly one slave. -/
theorem Master.reaches_unique (m : Master) (address : BitVec 14) (readTransaction : Bool) :
    ∃ s, ∀ s', m.reaches address readTransaction s' = decide (s' = s) := by
  cases m with
  | data =>
      have hsome : ∃ s : Slave, RelojDespertador.route address readTransaction = s.toRoute := by
        by_cases htakes : ∃ s : Slave, s.Takes address readTransaction
        · obtain ⟨s, hs⟩ := htakes
          exact ⟨s, hs.route⟩
        · exact ⟨.sram, Slave.route_default fun s hs => htakes ⟨s, hs⟩⟩
      obtain ⟨s, hs⟩ := hsome
      refine ⟨s, fun s' => ?_⟩
      have hchannel : s.channel = s'.channel ↔ s' = s :=
        ⟨fun h => (Slave.channel_injective h).symm, fun h => h ▸ rfl⟩
      simp [reaches, output, route, hs, Slave.toRoute, BitVec.getLsbD_twoPow, s.channel_lt, hchannel]
  | instruction =>
      have hvalue : (Master.instruction.route address readTransaction).1 = 0b10#14 ∨
          (Master.instruction.route address readTransaction).1 = 0b01#14 := by
        rcases PriorityMux.select_cases (p := (·.selects address readTransaction))
          (f := fun r : DecoderRange => (r.channel, r.destinationId)) (1#14 <<< 1, 4)
          instructionDecoder with h | ⟨r, hr, h⟩
        · exact Or.inl (congrArg Prod.fst h)
        · have hchannel := congrArg Prod.fst h
          simp only [instructionDecoder, List.mem_cons, List.not_mem_nil, or_false] at hr
          rcases hr with rfl | rfl
          · exact Or.inl hchannel
          · exact Or.inr hchannel
      rcases hvalue with h | h
      · refine ⟨.sram, fun s' => ?_⟩
        rw [reaches, h]
        cases s' <;> rfl
      · refine ⟨.debugMem, fun s' => ?_⟩
        rw [reaches, h]
        cases s' <;> rfl

theorem Slave.target_eq_some_iff {m : Master} {address : BitVec 14} {readTransaction : Bool}
    {s : Slave} :
    target m address readTransaction = some s ↔ m.reaches address readTransaction s = true := by
  obtain ⟨s₀, hs₀⟩ := m.reaches_unique address readTransaction
  constructor
  · exact List.find?_some
  · intro hs
    cases htarget : target m address readTransaction with
    | none => exact absurd hs (List.find?_eq_none.mp htarget s s.mem_all)
    | some s' =>
        have hs' : m.reaches address readTransaction s' = true := List.find?_some htarget
        rw [hs₀, decide_eq_true_eq] at hs hs'
        rw [hs, hs']

/-! ## The network -/

/-- What an edge finds at the ports of the masters and of the slaves. -/
structure InterconnectInput where
  data : AvalonCommand
  fetchRead : Bool
  fetchAddress : BitVec 14
  readdata : Slave → U32
  waitrequest : Slave → Bool

/-- The signals of a master; the instruction master only reads whole words. -/
def InterconnectInput.av (i : InterconnectInput) : Master → AvalonCommand
  | .data => i.data
  | .instruction => ⟨i.fetchRead, false, i.fetchAddress, 0b1111, 0, false⟩

/-- The registers. -/
structure Interconnect where
  master : Master → MasterPort
  cmdMux001 : CommandMux
  cmdMux002 : CommandMux
  port : Slave → SlavePort

namespace Interconnect

/-- After reset. -/
def reset : Interconnect where
  master _ := MasterPort.reset
  cmdMux001 := CommandMux.reset
  cmdMux002 := CommandMux.reset
  port _ := SlavePort.reset

variable (i : InterconnectInput) (y : Interconnect)

/-- The multiplexer in front of a slave; `cmd_mux` of a slave with one master has no
registers and passes its sink on. -/
def cmdMux : Slave → Option CommandMux
  | .debugMem => some y.cmdMux001
  | .sram => some y.cmdMux002
  | .debug | .leds | .sseg _ | .buttons | .timer | .switch | .buzzer => none

/-- `cp_data` of a master's agent. -/
def cpData (m : Master) : Packet := (y.master m).cpData m (i.av m)

/-- The beat that its demultiplexer passes on. -/
def beat (m : Master) : Beat where
  channel :=
    (m.route (y.cpData i m).addr (y.cpData i m).transRead).1 >>> m.numOutputs
  data :=
    { y.cpData i m with
      destId := (m.route (y.cpData i m).addr (y.cpData i m).transRead).2 }
  startofpacket := true
  endofpacket := true

/-- The demultiplexer of a master has a command for the slave. -/
def offers (m : Master) (s : Slave) : Bool :=
  (y.master m).cpValid m (i.av m) &&
    m.reaches (y.cpData i m).addr (y.cpData i m).transRead s

/-- The sinks of the multiplexer in front of a slave. -/
def muxInput (s : Slave) (srcReady : Bool) : MuxInput where
  sinkValid k := y.offers i (Master.ofSink k) s
  sinkPayload k := (y.beat i (Master.ofSink k)).toPayload
  srcReady := srcReady

/-- Whether a command is at the port of a slave; `src_valid` does not depend on `src_ready`. -/
def commandValid (s : Slave) : Bool :=
  match y.cmdMux s with
  | some mux => mux.srcValid (y.muxInput i s false)
  | none => y.offers i .data s

/-- The command at the port of a slave. -/
def command (s : Slave) : Beat :=
  match y.cmdMux s with
  | some mux => Beat.ofPayload (mux.srcPayload (y.muxInput i s false))
  | none => y.beat i .data

/-- The response of a slave. -/
def response (s : Slave) : Beat := (y.port s).rpData s.params (i.readdata s)

/-- `src_channel` of the router behind a slave: `.._router_003.sv` of a shared one, and
`.._router_002.sv` of another. -/
def rspChannel (s : Slave) : BitVec 14 :=
  if s.shared then
    if (y.response i s).data.destId = 1 ∧ (y.response i s).data.transRead = true then 0b10
    else 0b01
  else 0b01

/-- The demultiplexer behind a slave has a response for the master. -/
def responds (s : Slave) (m : Master) : Bool :=
  (m.output s).isSome && ((y.rspChannel i s).getLsbD m.rspOutput && (y.port s).rpValid)

/-- `rp_ready` of a slave's agent. The response multiplexers grant every request, and the
masters' agents are always ready. -/
def rspReady (s : Slave) : Bool :=
  ((y.rspChannel i s).getLsbD Master.data.rspOutput && y.responds i s .data) ||
    ((y.rspChannel i s).getLsbD Master.instruction.rspOutput && y.responds i s .instruction)

/-- `rp_valid` of a master's agent. -/
def masterRpValid (m : Master) : Bool := Slave.all.any (y.responds i · m)

/-- `src_payload` of a response multiplexer, a sum of products. -/
def rspPayload (m : Master) : Payload :=
  Slave.all.foldr
    (fun s payload =>
      ((y.response i s).toPayload &&& if y.responds i s m then BitVec.allOnes 108 else 0) |||
        payload) 0

/-- `av_readdata` of a master. -/
def avReaddata (m : Master) : U32 := (Beat.ofPayload (y.rspPayload i m)).data.data

/-- What an edge finds at the port of a slave. -/
def slaveInput (s : Slave) : SlavePortInput where
  cpValid := y.commandValid i s
  cp := y.command i s
  rpReady := y.rspReady i s
  avReaddata := i.readdata s
  avWaitrequest := i.waitrequest s

/-- `cp_ready` of a slave's agent. -/
def slaveReady (s : Slave) : Bool := (y.port s).cpReady s.params (y.slaveInput i s)

/-- `ready` of a master's sink in front of a slave. -/
def sinkReady (m : Master) (s : Slave) : Bool :=
  match y.cmdMux s with
  | some mux => mux.sinkReady (y.muxInput i s (y.slaveReady i s)) m.sink
  | none => y.slaveReady i s

/-- What an edge finds at the port of a master. -/
def masterInput (m : Master) : MasterPortInput where
  av := i.av m
  cpReady :=
    Slave.all.any fun s =>
      m.reaches (y.cpData i m).addr (y.cpData i m).transRead s && y.sinkReady i m s
  rpValid := y.masterRpValid i m

/-- One rising clock edge. -/
def edge : Interconnect where
  master m := (y.master m).edge m (y.masterInput i m)
  cmdMux001 := y.cmdMux001.edge (y.muxInput i .debugMem (y.slaveReady i .debugMem))
  cmdMux002 := y.cmdMux002.edge (y.muxInput i .sram (y.slaveReady i .sram))
  port s := (y.port s).edge s.params (y.slaveInput i s)

/-! ## Commands -/

section Commands

/-- The command of the master is at the port of the slave. -/
def Through (m : Master) (s : Slave) : Prop :=
  y.offers i m s = true ∧
    ∀ mux, y.cmdMux s = some mux → mux.savedGrant.getLsbD m.sink = true

/-- The invariant of the multiplexers. -/
def MuxesHold : Prop :=
  ∀ s mux, y.cmdMux s = some mux → ∃ holder top, CommandMux.Holds mux holder top

variable {i y} {m m' : Master} {s s' : Slave}

@[simp] theorem muxInput_sinkValid (r : Bool) :
    (y.muxInput i s r).sinkValid m.sink = y.offers i m s := by
  simp [muxInput]

@[simp] theorem muxInput_sinkPayload (r : Bool) :
    (y.muxInput i s r).sinkPayload m.sink = (y.beat i m).toPayload := by
  simp [muxInput]

theorem cmdMux_eq_none_iff : y.cmdMux s = none ↔ s.shared = false := by
  cases s <;> simp [cmdMux, Slave.shared]

theorem cmdMux_edge (s : Slave) : (y.edge i).cmdMux s =
    (y.cmdMux s).map (·.edge (y.muxInput i s (y.slaveReady i s))) := by
  cases s <;> rfl

theorem offers_unique (h : y.offers i m s = true) (h' : y.offers i m s' = true) : s = s' := by
  simp only [offers, Bool.and_eq_true] at h h'
  have htarget := Slave.target_eq_some_iff.mpr h.2
  have htarget' := Slave.target_eq_some_iff.mpr h'.2
  exact Option.some.inj (htarget.symm.trans htarget')

theorem output_of_offers (h : y.offers i m s = true) : (m.output s).isSome = true := by
  simp only [offers, Master.reaches, Bool.and_eq_true] at h
  exact Option.isSome_of_any h.2

/-- Only the data master has commands for a slave that is not shared. -/
theorem eq_data_of_offers (h : y.offers i m s = true) (hs : y.cmdMux s = none) : m = .data := by
  rcases (Slave.output_isSome_iff m s).mp (output_of_offers h) with hm | hshared
  · exact hm
  · rw [cmdMux_eq_none_iff.mp hs] at hshared
    cases hshared

theorem commandValid_iff (hmux : y.MuxesHold) :
    y.commandValid i s = true ↔ ∃ m, y.Through i m s := by
  rw [commandValid]
  cases hs : y.cmdMux s with
  | none =>
      constructor
      · intro hvalid
        exact ⟨.data, hvalid, by simp [hs]⟩
      · rintro ⟨m, hoffers, -⟩
        obtain rfl := eq_data_of_offers hoffers hs
        exact hoffers
  | some mux =>
      obtain ⟨holder, top, h⟩ := hmux s mux hs
      change mux.srcValid (y.muxInput i s false) = true ↔ _
      rw [h.srcValid_iff]
      constructor
      · rintro ⟨k, hk, hvalid⟩
        refine ⟨Master.ofSink k, hvalid, fun mux' hmux' => ?_⟩
        obtain rfl := Option.some.inj (hs.symm.trans hmux')
        rw [h.getLsbD_grant, Master.sink_ofSink]
        exact decide_eq_true hk
      · rintro ⟨m, hoffers, hgrant⟩
        have hholder := hgrant mux hs
        rw [h.getLsbD_grant, decide_eq_true_eq] at hholder
        exact ⟨m.sink, hholder, (muxInput_sinkValid false).trans hoffers⟩

/-- The command at the port is that of the master. -/
theorem Through.command_eq (hmux : y.MuxesHold) (h : y.Through i m s) :
    y.command i s = y.beat i m := by
  obtain ⟨hoffers, hgrant⟩ := h
  rw [command]
  cases hs : y.cmdMux s with
  | none =>
      obtain rfl := eq_data_of_offers hoffers hs
      rfl
  | some mux =>
      obtain ⟨holder, top, h⟩ := hmux s mux hs
      have hholder := hgrant mux hs
      rw [h.getLsbD_grant, decide_eq_true_eq] at hholder
      subst hholder
      change Beat.ofPayload (mux.srcPayload (y.muxInput i s false)) = _
      rw [h.srcPayload_eq, muxInput_sinkPayload, Beat.ofPayload_toPayload]

/-- There is one command at a port. -/
theorem Through.unique (hmux : y.MuxesHold) (h : y.Through i m s) (h' : y.Through i m' s) :
    m = m' := by
  cases hs : y.cmdMux s with
  | none =>
      rw [eq_data_of_offers h.1 hs, eq_data_of_offers h'.1 hs]
  | some mux =>
      obtain ⟨holder, top, hholds⟩ := hmux s mux hs
      have hholder := h.2 mux hs
      have hholder' := h'.2 mux hs
      rw [hholds.getLsbD_grant, decide_eq_true_eq] at hholder hholder'
      have hsink : m.sink = m'.sink := Option.some.inj (hholder.symm.trans hholder')
      rw [← Master.ofSink_sink m, hsink, Master.ofSink_sink]

/-- The master's sink is ready if its command is at the port and the port is ready. -/
theorem sinkReady_iff (hoffers : y.offers i m s = true) :
    y.sinkReady i m s = true ↔ y.Through i m s ∧ y.slaveReady i s = true := by
  rw [sinkReady, Through]
  cases hs : y.cmdMux s with
  | none => simp [hoffers]
  | some mux => simp [hoffers, CommandMux.sinkReady, muxInput, and_comm]

/-- A command goes out when it is at the port of its slave and the port is ready. -/
theorem sends_iff : (y.master m).sends m (y.masterInput i m) = true ↔
    ∃ s, y.Through i m s ∧ y.slaveReady i s = true := by
  simp only [MasterPort.sends, masterInput, Bool.and_eq_true, List.any_eq_true]
  constructor
  · rintro ⟨hvalid, s, -, hreaches, hready⟩
    have hoffers : y.offers i m s = true := by
      rw [offers, hvalid, hreaches, Bool.true_and]
    exact ⟨s, (sinkReady_iff hoffers).mp hready⟩
  · rintro ⟨s, hthrough, hready⟩
    have hoffers := hthrough.1
    have hsink := (sinkReady_iff hoffers).mpr ⟨hthrough, hready⟩
    simp only [offers, Bool.and_eq_true] at hoffers
    exact ⟨hoffers.1, s, s.mem_all, hoffers.2, hsink⟩

/-- A command that goes out goes to the slave that it is routed to. -/
theorem sends_reaches_iff : (y.master m).sends m (y.masterInput i m) = true ∧
    m.reaches (y.cpData i m).addr (y.cpData i m).transRead s = true ↔
      y.Through i m s ∧ y.slaveReady i s = true := by
  rw [sends_iff]
  constructor
  · rintro ⟨⟨s', hthrough, hready⟩, hreaches⟩
    have hoffers : y.offers i m s = true := by
      have hoffers' := hthrough.1
      simp only [offers, Bool.and_eq_true] at hoffers' ⊢
      exact ⟨hoffers'.1, hreaches⟩
    obtain rfl := offers_unique hthrough.1 hoffers
    exact ⟨hthrough, hready⟩
  · rintro ⟨hthrough, hready⟩
    have hoffers := hthrough.1
    simp only [offers, Bool.and_eq_true] at hoffers
    exact ⟨⟨s, hthrough, hready⟩, hoffers.2⟩

end Commands

end Interconnect

end RelojDespertador
