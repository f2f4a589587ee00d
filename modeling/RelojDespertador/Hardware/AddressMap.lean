import RelojDespertador.Panel.Display
import RelojDespertador.Library.PriorityMux

/-!
# The address map of the data master

`TimerWithClock_mm_interconnect_0_router.sv` decodes the 14-bit byte address of
a transaction into the channel of the slave that gets it. The base addresses
and spans of the slaves are those of `system.h`, and of the debug memory those
of the system description. A range of the decoder is a block of addresses, and
the blocks of the slaves do not meet, so a transaction in a block goes to its
slave; any other transaction goes to the memory.
-/

namespace RelojDespertador

/-- The slaves of the data master. -/
inductive Slave
  | debug | debugMem | sram | leds | sseg (base : SsegBase) | buttons | timer | switch | buzzer
  deriving DecidableEq, Repr

namespace Slave

/-- The slaves in the order of their channels. -/
def all : List Slave :=
  [debug, debugMem, sram, leds, sseg .hourUnits, sseg .minUnits, sseg .secUnits, sseg .minsTens,
    buttons, timer, sseg .secTens, sseg .hourTens, switch, buzzer]

theorem mem_all (s : Slave) : s ∈ all := by
  cases s with
  | sseg base => cases base <;> decide
  | debug | debugMem | sram | leds | buttons | timer | switch | buzzer => decide

/-- `.._BASE` of `system.h`. -/
def base : Slave → Nat
  | debug => 0x30b0
  | debugMem => 0x2800
  | sram => 0x1000
  | leds => 0x30a0
  | sseg .hourTens => 0x3030
  | sseg .hourUnits => 0x3090
  | sseg .minsTens => 0x3060
  | sseg .minUnits => 0x3080
  | sseg .secTens => 0x3040
  | sseg .secUnits => 0x3070
  | buttons => 0x3050
  | timer => 0x3000
  | switch => 0x3020
  | buzzer => 0x0

/-- `.._SPAN` of `system.h`. -/
def span : Slave → Nat
  | debug => 8
  | debugMem => 2048
  | sram => 4096
  | timer => 32
  | leds | sseg _ | buttons | switch | buzzer => 16

/-- The parallel inputs have no write port. -/
def readOnly : Slave → Bool
  | buttons | switch => true
  | debug | debugMem | sram | leds | sseg _ | timer | buzzer => false

/-- The output of the demultiplexer that leads to the slave. -/
def channel (s : Slave) : Nat := all.idxOf s

/-- The destination of transactions to the slave. -/
def destinationId : Slave → BitVec 4
  | debug => 2
  | debugMem => 13
  | sram => 4
  | leds => 3
  | sseg .hourTens => 5
  | sseg .hourUnits => 6
  | sseg .minsTens => 7
  | sseg .minUnits => 8
  | sseg .secTens => 9
  | sseg .secUnits => 10
  | buttons => 0
  | timer => 12
  | switch => 11
  | buzzer => 1

end Slave

/-! ## The router -/

/-- Doubling `i` until it reaches `val`, at most `steps` times. -/
def log2ceilFrom (val : Nat) : (steps i : Nat) → Nat
  | 0, _ => 0
  | steps + 1, i => if i < val then log2ceilFrom val steps (i * 2) + 1 else 0

/-- `log2ceil` of the router, on numbers of 66 bits. -/
def log2ceil (val : Nat) : Nat := log2ceilFrom val 66 1

/-- One `if` of the address decoder. -/
structure DecoderRange where
  first : Nat
  last : Nat
  /-- The condition has the conjunct `read_transaction`. -/
  readOnly : Bool
  channel : BitVec 14
  destinationId : BitVec 4
  deriving DecidableEq, Repr

namespace DecoderRange

/-- `PAD`, the address bits that the range masks off. -/
def pad (r : DecoderRange) : Nat := log2ceil (r.last - r.first)

/-- The condition: without its low bits the address is the start of the range. -/
def selects (address : BitVec 14) (readTransaction : Bool) (r : DecoderRange) : Bool :=
  (address >>> r.pad) <<< r.pad == BitVec.ofNat 14 r.first && (!r.readOnly || readTransaction)

end DecoderRange

/-- The channel and the destination of a transaction. -/
abbrev Route := BitVec 14 × BitVec 4

/-- The address decoder of the router. -/
def decoder : List DecoderRange :=
  [⟨0x0, 0x10, false, 0b10000000000000, 1⟩,
    ⟨0x1000, 0x2000, false, 0b00000000000100, 4⟩,
    ⟨0x2800, 0x3000, false, 0b00000000000010, 13⟩,
    ⟨0x3000, 0x3020, false, 0b00001000000000, 12⟩,
    ⟨0x3020, 0x3030, true, 0b01000000000000, 11⟩,
    ⟨0x3030, 0x3040, false, 0b00100000000000, 5⟩,
    ⟨0x3040, 0x3050, false, 0b00010000000000, 9⟩,
    ⟨0x3050, 0x3060, true, 0b00000100000000, 0⟩,
    ⟨0x3060, 0x3070, false, 0b00000010000000, 7⟩,
    ⟨0x3070, 0x3080, false, 0b00000001000000, 10⟩,
    ⟨0x3080, 0x3090, false, 0b00000000100000, 8⟩,
    ⟨0x3090, 0x30a0, false, 0b00000000010000, 6⟩,
    ⟨0x30a0, 0x30b0, false, 0b00000000001000, 3⟩,
    ⟨0x30b0, 0x30b8, false, 0b00000000000001, 2⟩]

/-- `DEFAULT_CHANNEL` and `DEFAULT_DESTID`. -/
def defaultRoute : Route := (1#14 <<< 2, 4)

/-- `src_channel` and the destination field of `src_data`. -/
def route (address : BitVec 14) (readTransaction : Bool) : Route :=
  PriorityMux.select (·.selects address readTransaction)
    (fun r => (r.channel, r.destinationId)) defaultRoute decoder

/-! ## Where a transaction goes -/

namespace Slave

/-- The address is one of the slave. -/
def Contains (s : Slave) (address : BitVec 14) : Prop :=
  s.base ≤ address.toNat ∧ address.toNat < s.base + s.span

/-- The transaction is one that the slave is there for. -/
def Takes (s : Slave) (address : BitVec 14) (readTransaction : Bool) : Prop :=
  s.Contains address ∧ (s.readOnly = true → readTransaction = true)

/-- The route to the slave: one bit of the channel is set. -/
def toRoute (s : Slave) : Route := (BitVec.twoPow 14 s.channel, s.destinationId)

/-- The range of the decoder that leads to the slave. -/
def toRange (s : Slave) : DecoderRange where
  first := s.base
  last := s.base + s.span
  readOnly := s.readOnly
  channel := s.toRoute.1
  destinationId := s.toRoute.2

/-- The decoder has one range for each slave, and no others. -/
theorem decoder_perm : decoder.Perm (all.map toRange) := by
  decide

theorem toRange_mem (s : Slave) : s.toRange ∈ decoder := by
  rw [decoder_perm.mem_iff]
  exact List.mem_map_of_mem (mem_all s)

theorem exists_of_mem_decoder {r : DecoderRange} (h : r ∈ decoder) : ∃ s : Slave, r = s.toRange := by
  rw [decoder_perm.mem_iff] at h
  obtain ⟨s, -, hs⟩ := List.mem_map.mp h
  exact ⟨s, hs.symm⟩

theorem channel_lt (s : Slave) : s.channel < 14 :=
  List.idxOf_lt_length_of_mem s.mem_all

theorem channel_injective {s s' : Slave} (h : s.channel = s'.channel) : s = s' :=
  (List.idxOf_inj s.mem_all).mp h

/-- The ranges are aligned blocks. -/
theorem aligned (s : Slave) : 2 ^ s.toRange.pad = s.span ∧ s.span ∣ s.base ∧ s.base < 2 ^ 14 := by
  have hall : ∀ s ∈ all, 2 ^ s.toRange.pad = s.span ∧ s.span ∣ s.base ∧ s.base < 2 ^ 14 := by
    decide
  exact hall s (mem_all s)

/-- The blocks of two slaves do not meet. -/
theorem disjoint {s s' : Slave} (h : s ≠ s') :
    s.base + s.span ≤ s'.base ∨ s'.base + s'.span ≤ s.base := by
  have hall : ∀ s ∈ all, ∀ s' ∈ all, s ≠ s' →
      s.base + s.span ≤ s'.base ∨ s'.base + s'.span ≤ s.base := by
    decide
  exact hall s (mem_all s) s' (mem_all s') h

theorem toRoute_injective {s s' : Slave} (h : s.toRoute = s'.toRoute) : s = s' := by
  have hall : ∀ s ∈ all, ∀ s' ∈ all, s.toRoute = s'.toRoute → s = s' := by
    decide
  exact hall s (mem_all s) s' (mem_all s') h

variable {s s' : Slave} {address : BitVec 14} {readTransaction : Bool}

theorem Contains.unique (h : s.Contains address) (h' : s'.Contains address) : s = s' := by
  by_contra hne
  obtain ⟨hlow, hhigh⟩ := h
  obtain ⟨hlow', hhigh'⟩ := h'
  rcases disjoint hne with hbelow | habove
  · omega
  · omega

theorem selects_toRange : s.toRange.selects address readTransaction = true ↔
    s.Takes address readTransaction := by
  obtain ⟨hpad, hdvd, hlt⟩ := s.aligned
  have hblock : (address >>> s.toRange.pad) <<< s.toRange.pad = BitVec.ofNat 14 s.base ↔
      s.Contains address := by
    rw [Word.clearLow_eq_iff (by rwa [hpad]) hlt, hpad]
    rfl
  rw [DecoderRange.selects, Bool.and_eq_true_iff, beq_iff_eq]
  refine and_congr hblock ?_
  change (!s.readOnly || readTransaction) = true ↔ _
  cases s.readOnly <;> simp

/-- A transaction for a slave is routed to it. -/
theorem Takes.route (h : s.Takes address readTransaction) :
    route address readTransaction = s.toRoute := by
  refine PriorityMux.select_eq (fun r hr hselects => ?_) ⟨s.toRange, s.toRange_mem, ?_⟩
  · obtain ⟨s', rfl⟩ := exists_of_mem_decoder hr
    obtain rfl : s' = s := (selects_toRange.mp hselects).1.unique h.1
    rfl
  · exact selects_toRange.mpr h

/-- A transaction for no slave is routed to the memory. -/
theorem route_default (h : ∀ s : Slave, ¬ s.Takes address readTransaction) :
    RelojDespertador.route address readTransaction = sram.toRoute := by
  refine PriorityMux.select_of_none fun r hr => ?_
  obtain ⟨s, rfl⟩ := exists_of_mem_decoder hr
  exact Bool.eq_false_iff.mpr fun hselects => h s (selects_toRange.mp hselects)

end Slave

/-- Every transaction is routed to exactly one slave: to the one it is for, and to the
memory if it is for none. -/
theorem route_eq_iff (address : BitVec 14) (readTransaction : Bool) (s : Slave) :
    route address readTransaction = s.toRoute ↔
      s.Takes address readTransaction ∨
        (s = .sram ∧ ∀ s' : Slave, ¬ s'.Takes address readTransaction) := by
  constructor
  · intro hroute
    by_cases hsome : ∃ s' : Slave, s'.Takes address readTransaction
    · obtain ⟨s', hs'⟩ := hsome
      obtain rfl : s' = s := Slave.toRoute_injective (hs'.route.symm.trans hroute)
      exact Or.inl hs'
    · have hnone : ∀ s' : Slave, ¬ s'.Takes address readTransaction := fun s' hs' =>
        hsome ⟨s', hs'⟩
      exact Or.inr ⟨Slave.toRoute_injective (hroute.symm.trans (Slave.route_default hnone)), hnone⟩
  · rintro (htakes | ⟨rfl, hnone⟩)
    · exact htakes.route
    · exact Slave.route_default hnone

end RelojDespertador
