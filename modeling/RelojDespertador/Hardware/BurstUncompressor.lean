import RelojDespertador.Library.InputMachine
import RelojDespertador.Library.Streams
import RelojDespertador.Library.Word

/-!
# The burst uncompressor of the slave agents

`altera_merlin_burst_uncompressor.sv`. A burst of reads travels as one
compressed beat, and its response takes one beat a word, with the addresses
counting up inside the wrapping boundary and the byte counts counting down. The
burst stays at the sink until its last beat has gone.
-/

namespace RelojDespertador

/-- `ADDR_W`, `BURSTWRAP_W`, `BYTE_CNT_W`, `BURST_SIZE_W` and `PKT_SYMBOLS`. -/
structure BurstFormat where
  addrW : Nat
  burstwrapW : Nat
  byteCntW : Nat
  burstSizeW : Nat
  pktSymbols : Nat
  deriving DecidableEq, Repr

/-- The signals of the sink, and of the source. -/
structure Burst (F : BurstFormat) where
  startofpacket : Bool
  endofpacket : Bool
  addr : BitVec F.addrW
  burstwrap : BitVec F.burstwrapW
  byteCnt : BitVec F.byteCntW
  isCompressed : Bool
  burstsize : BitVec F.burstSizeW
  deriving DecidableEq, Repr

/-- What an edge finds at the ports. -/
structure UncompressorInput (F : BurstFormat) where
  sinkValid : Bool
  sink : Burst F
  sourceReady : Bool

/-- `num_symbols`. -/
def BurstFormat.numSymbols (F : BurstFormat) : BitVec F.byteCntW := BitVec.ofNat _ F.pktSymbols

/-- `bytes_in_transfer`, a table with ten entries. -/
def bytesInTransfer {w : Nat} (axsize : BitVec w) : BitVec 64 :=
  if axsize.toNat < 10 then BitVec.twoPow 64 axsize.toNat else 1

namespace Burst

variable {F : BurstFormat} (x : Burst F)

/-- `addr_width_burstwrap`. -/
def addrWidthBurstwrap : BitVec F.addrW := x.burstwrap.signExtend F.addrW

/-- `decoded_burstsize`. -/
def decodedBurstsize : BitVec F.addrW := (bytesInTransfer x.burstsize).setWidth F.addrW

end Burst

/-- The registers. -/
structure BurstUncompressor (F : BurstFormat) where
  busy : Bool
  byteCounter : BitVec (F.byteCntW + 1)
  addressBase : BitVec F.addrW
  addressOffset : BitVec F.addrW
  deriving DecidableEq, Repr

namespace BurstUncompressor

variable {F : BurstFormat}

/-- After reset. -/
def reset : BurstUncompressor F := ⟨false, 0, 0, 0⟩

variable (i : UncompressorInput F) (u : BurstUncompressor F)

/-- `first_packet_beat`. -/
def firstPacketBeat : Bool := i.sinkValid && !u.busy

/-- `burst_uncompress_byte_counter_lint`. -/
def byteCounterLint : BitVec F.byteCntW := u.byteCounter.setWidth F.byteCntW

/-- `last_packet_beat`. -/
def lastPacketBeat : Bool :=
  !i.sink.isCompressed ||
    if u.busy then i.sinkValid && u.byteCounterLint == F.numSymbols
    else i.sinkValid && i.sink.byteCnt == F.numSymbols

/-- `p1_burst_uncompress_address_offset`. -/
def nextAddressOffset : BitVec F.addrW :=
  ((if u.firstPacketBeat i then i.sink.addr else u.addressOffset) + i.sink.decodedBurstsize) &&&
    i.sink.addrWidthBurstwrap

/-- The payload of the source. -/
def source : Burst F where
  startofpacket := i.sink.startofpacket && !u.busy
  endofpacket := i.sink.endofpacket && u.lastPacketBeat i
  addr := if u.firstPacketBeat i then i.sink.addr else u.addressBase ||| u.addressOffset
  burstwrap := i.sink.burstwrap
  byteCnt := if u.firstPacketBeat i then i.sink.byteCnt else u.byteCounterLint
  isCompressed := false
  burstsize := i.sink.burstsize

/-- `sink_ready`. -/
def sinkReady : Bool := i.sinkValid && i.sourceReady && u.lastPacketBeat i

/-- The difference of two byte counts in the width of the counter. -/
def countDown (count : BitVec F.byteCntW) : BitVec (F.byteCntW + 1) :=
  count.setWidth (F.byteCntW + 1) - F.numSymbols.setWidth (F.byteCntW + 1)

/-- One rising clock edge. -/
def edge : BurstUncompressor F where
  busy := if i.sinkValid && i.sourceReady then !u.lastPacketBeat i else u.busy
  byteCounter :=
    if i.sinkValid && i.sourceReady then
      if u.lastPacketBeat i then 0
      else if u.busy && u.byteCounter != 0 then countDown u.byteCounterLint
      else countDown i.sink.byteCnt
    else u.byteCounter
  addressBase :=
    if u.firstPacketBeat i && i.sourceReady then i.sink.addr &&& ~~~i.sink.addrWidthBurstwrap
    else u.addressBase
  addressOffset :=
    if i.sourceReady && i.sinkValid then u.nextAddressOffset i else u.addressOffset

end BurstUncompressor

/-! ## What a burst stands for -/

namespace Burst

variable {F : BurstFormat} (x : Burst F)

/-- The words of a burst. -/
def words : Nat := if x.isCompressed then x.byteCnt.toNat / F.pktSymbols else 1

/-- The `j`-th beat of the response. -/
def beat (j : Nat) : Burst F where
  startofpacket := x.startofpacket && j == 0
  endofpacket := x.endofpacket && j + 1 == x.words
  addr := (x.addr &&& ~~~x.addrWidthBurstwrap) |||
    ((x.addr + BitVec.ofNat F.addrW j * x.decodedBurstsize) &&& x.addrWidthBurstwrap)
  burstwrap := x.burstwrap
  byteCnt := BitVec.ofNat F.byteCntW (x.byteCnt.toNat - j * F.pktSymbols)
  isCompressed := false
  burstsize := x.burstsize

/-- The beats of the response, in order. -/
def expand : List (Burst F) := (List.range x.words).map x.beat

/-- A compressed burst has whole words, at least one, and wraps at a power of two. -/
structure WellFormed : Prop where
  words : ∃ n, 0 < n ∧ x.byteCnt.toNat = n * F.pktSymbols
  wrap : ∃ k, x.addrWidthBurstwrap.toNat = 2 ^ k - 1

end Burst

namespace Burst

variable {F : BurstFormat} {x : Burst F}

theorem base_or_offset (a m : BitVec F.addrW) : a &&& ~~~m ||| a &&& m = a := by
  have hcover : ~~~m ||| m = BitVec.allOnes F.addrW := by
    ext k hk
    simp
  rw [← BitVec.and_or_distrib_left, hcover, BitVec.and_allOnes]

theorem WellFormed.byteCnt_eq (h : x.WellFormed) (hF : 0 < F.pktSymbols)
    (hcompressed : x.isCompressed = true) :
    x.byteCnt.toNat = x.words * F.pktSymbols ∧ 0 < x.words := by
  obtain ⟨n, hn, hcnt⟩ := h.words
  have hwords : x.words = n := by
    rw [Burst.words, if_pos hcompressed, hcnt, Nat.mul_div_cancel n hF]
  rw [hwords]
  exact ⟨hcnt, hn⟩

theorem WellFormed.numSymbols_toNat (h : x.WellFormed) : F.numSymbols.toNat = F.pktSymbols := by
  obtain ⟨n, hn, hcnt⟩ := h.words
  have hlt := x.byteCnt.isLt
  have hle : F.pktSymbols ≤ n * F.pktSymbols := Nat.le_mul_of_pos_left _ hn
  exact Word.toNat_ofNat (by omega)

/-- The number of bytes left is that of one word exactly before the last beat. -/
theorem WellFormed.eq_numSymbols_iff (h : x.WellFormed) (hF : 0 < F.pktSymbols)
    (hcompressed : x.isCompressed = true) {j : Nat} (hj : j < x.words) {count : BitVec F.byteCntW}
    (hcount : count.toNat = x.byteCnt.toNat - j * F.pktSymbols) :
    (count == F.numSymbols) = (j + 1 == x.words) := by
  obtain ⟨hcnt, -⟩ := h.byteCnt_eq hF hcompressed
  obtain ⟨m, hm⟩ := Nat.exists_eq_add_of_lt hj
  have hleft : count.toNat = (m + 1) * F.pktSymbols := by
    rw [hcount, hcnt, hm, ← Nat.sub_mul]
    congr 1
    omega
  rw [Bool.eq_iff_iff, beq_iff_eq, beq_iff_eq, BitVec.toNat_eq, hleft, h.numSymbols_toNat,
    Nat.mul_eq_right hF.ne']
  omega

theorem words_of_not_compressed (h : x.isCompressed = false) : x.words = 1 := by
  rw [words, h, if_neg Bool.false_ne_true]

theorem words_pos (hF : 0 < F.pktSymbols) (hx : x.isCompressed = true → x.WellFormed) :
    0 < x.words := by
  cases hcompressed : x.isCompressed with
  | false =>
      rw [words_of_not_compressed hcompressed]
      exact Nat.one_pos
  | true => exact ((hx hcompressed).byteCnt_eq hF hcompressed).2

end Burst

namespace BurstUncompressor

variable {F : BurstFormat} {i : UncompressorInput F} {u : BurstUncompressor F} {x : Burst F}
  {j : Nat}

/-- After `j` beats of the burst, and before its last one. -/
structure Underway (x : Burst F) (j : Nat) (u : BurstUncompressor F) : Prop where
  pos : 0 < j
  lt : j < x.words
  busy : u.busy = true
  counter : u.byteCounter.toNat = x.byteCnt.toNat - j * F.pktSymbols
  base : u.addressBase = x.addr &&& ~~~x.addrWidthBurstwrap
  offset : u.addressOffset =
    (x.addr + BitVec.ofNat F.addrW j * x.decodedBurstsize) &&& x.addrWidthBurstwrap

/-- Only compressed bursts take several beats. -/
theorem Underway.compressed (h : Underway x j u) : x.isCompressed = true := by
  by_contra hplain
  have hwords := Burst.words_of_not_compressed (Bool.eq_false_iff.mpr hplain)
  have hpos := h.pos
  have hlt := h.lt
  omega

theorem Underway.lint_toNat (h : Underway x j u) :
    u.byteCounterLint.toNat = x.byteCnt.toNat - j * F.pktSymbols := by
  have hlt := x.byteCnt.isLt
  rw [byteCounterLint, BitVec.toNat_setWidth, h.counter]
  exact Nat.mod_eq_of_lt (by omega)

section Output

variable (hF : 0 < F.pktSymbols) (hx : i.sink.isCompressed = true → i.sink.WellFormed)
  (hvalid : i.sinkValid = true)
include hF hx hvalid

theorem lastPacketBeat_of_idle (hidle : u.busy = false) :
    u.lastPacketBeat i = (0 + 1 == i.sink.words) := by
  rw [lastPacketBeat, hidle, hvalid]
  cases hcompressed : i.sink.isCompressed with
  | false => simp [Burst.words_of_not_compressed hcompressed]
  | true =>
      have hwf := hx hcompressed
      have hpos := Burst.words_pos hF hx
      have hcount : i.sink.byteCnt.toNat = i.sink.byteCnt.toNat - 0 * F.pktSymbols := by simp
      have hiff := hwf.eq_numSymbols_iff hF hcompressed hpos hcount
      simpa using hiff

theorem lastPacketBeat_of_underway (h : Underway i.sink j u) :
    u.lastPacketBeat i = (j + 1 == i.sink.words) := by
  have hcompressed := h.compressed
  have hiff := (hx hcompressed).eq_numSymbols_iff hF hcompressed h.lt h.lint_toNat
  rw [lastPacketBeat, h.busy, hvalid, hcompressed]
  simpa using hiff

/-- An idle uncompressor puts out the first beat of the burst at its sink. -/
theorem source_of_idle (hidle : u.busy = false) : u.source i = i.sink.beat 0 := by
  have hlast := lastPacketBeat_of_idle hF hx hvalid hidle
  simp [source, Burst.beat, firstPacketBeat, hvalid, hidle, hlast, Burst.base_or_offset]

/-- An uncompressor that is `j` beats into a burst puts out the `j`-th one. -/
theorem source_of_underway (h : Underway i.sink j u) : u.source i = i.sink.beat j := by
  have hlast := lastPacketBeat_of_underway hF hx hvalid h
  have hfirst : (j == 0) = false := by
    simpa using h.pos.ne'
  have hcount : u.byteCounterLint = BitVec.ofNat _ (i.sink.byteCnt.toNat - j * F.pktSymbols) := by
    apply BitVec.eq_of_toNat_eq
    have hlt := i.sink.byteCnt.isLt
    rw [h.lint_toNat, Word.toNat_ofNat (by omega)]
  simp [source, Burst.beat, firstPacketBeat, h.busy, hlast, hfirst, hcount, h.base, h.offset]

end Output

/-! ## One cycle -/

/-- Without a beat taken nothing changes. -/
theorem edge_of_not_taken (h : (i.sinkValid && i.sourceReady) = false) : u.edge i = u := by
  have hfirst : (u.firstPacketBeat i && i.sourceReady) = false := by
    rw [firstPacketBeat, Bool.and_right_comm, h, Bool.false_and]
  simp [edge, h, hfirst, Bool.and_comm i.sourceReady]

/-- The counter goes down by a word. -/
theorem countDown_toNat {count : BitVec F.byteCntW} (hwf : x.WellFormed)
    (hle : F.pktSymbols ≤ count.toNat) :
    (countDown count).toNat = count.toNat - F.pktSymbols := by
  have hcount := count.isLt
  have hnum := hwf.numSymbols_toNat
  have hwide (c : BitVec F.byteCntW) : (c.setWidth (F.byteCntW + 1)).toNat = c.toNat := by
    rw [BitVec.toNat_setWidth]
    exact Nat.mod_eq_of_lt (Nat.lt_of_lt_of_le c.isLt (Nat.pow_le_pow_right (by decide) (by omega)))
  rw [countDown, BitVec.toNat_sub_of_le, hwide, hwide, hnum]
  rw [BitVec.le_def, hwide, hwide, hnum]
  exact hle

section Step

variable (hF : 0 < F.pktSymbols) (hx : i.sink.isCompressed = true → i.sink.WellFormed)
  (hvalid : i.sinkValid = true) (hready : i.sourceReady = true)
include hF hx hvalid hready

theorem edge_of_idle (hidle : u.busy = false) (hmore : 1 < i.sink.words) :
    Underway i.sink 1 (u.edge i) := by
  have hlast : u.lastPacketBeat i = false := by
    rw [lastPacketBeat_of_idle hF hx hvalid hidle]
    simpa using hmore.ne
  have hcompressed : i.sink.isCompressed = true := by
    by_contra hplain
    rw [Burst.words_of_not_compressed (Bool.eq_false_iff.mpr hplain)] at hmore
    omega
  have hwf := hx hcompressed
  have hle : F.pktSymbols ≤ i.sink.byteCnt.toNat := by
    rw [(hwf.byteCnt_eq hF hcompressed).1]
    exact Nat.le_mul_of_pos_left _ (by omega)
  refine ⟨Nat.one_pos, hmore, ?_, ?_, ?_, ?_⟩
  · simp [edge, hvalid, hready, hlast]
  · simp [edge, hvalid, hready, hlast, hidle, countDown_toNat hwf hle]
  · simp [edge, firstPacketBeat, hvalid, hready, hidle]
  · simp [edge, nextAddressOffset, firstPacketBeat, hvalid, hready, hidle]

theorem edge_of_underway (h : Underway i.sink j u) (hmore : j + 1 < i.sink.words) :
    Underway i.sink (j + 1) (u.edge i) := by
  have hlast : u.lastPacketBeat i = false := by
    rw [lastPacketBeat_of_underway hF hx hvalid h]
    simpa using hmore.ne
  have hwf := hx h.compressed
  obtain ⟨k, hwrap⟩ := hwf.wrap
  obtain ⟨hcnt, -⟩ := hwf.byteCnt_eq hF h.compressed
  have hleft : (j + 1) * F.pktSymbols + F.pktSymbols ≤ i.sink.byteCnt.toNat := by
    rw [hcnt, ← Nat.succ_mul]
    exact Nat.mul_le_mul_right _ hmore
  rw [Nat.succ_mul] at hleft
  have hlint := h.lint_toNat
  have hcounter : u.byteCounter ≠ 0 := by
    intro hzero
    have hcount := h.counter
    rw [hzero] at hcount
    simp at hcount
    omega
  refine ⟨Nat.succ_pos j, hmore, ?_, ?_, ?_, ?_⟩
  · simp [edge, hvalid, hready, hlast]
  · simp only [edge, hvalid, hready, hlast, h.busy, Bool.and_self, Bool.true_and, if_true,
      Bool.false_eq_true, if_false, bne_iff_ne, ne_eq, hcounter, not_false_eq_true]
    rw [countDown_toNat hwf (by omega), hlint, Nat.succ_mul]
    omega
  · simp [edge, firstPacketBeat, h.busy, h.base]
  · have hsucc : BitVec.ofNat F.addrW (j + 1) = BitVec.ofNat F.addrW j + 1 := by
      rw [BitVec.ofNat_add]
      rfl
    simp only [edge, nextAddressOffset, firstPacketBeat, hvalid, hready, h.busy, h.offset,
      Bool.and_self, Bool.not_true, Bool.and_false, Bool.false_eq_true, if_true, if_false]
    rw [Word.and_add_and_lowOnes hwrap, hsucc, BitVec.add_mul, one_mul, BitVec.add_assoc]

end Step

/-! ## Runs -/

section Run

/-- The registers along a run. -/
def uncompressorAt (w : Nat → UncompressorInput F) (k : Nat) : BurstUncompressor F :=
  InputMachine.states edge reset w k

/-- The beat that leaves in a cycle. -/
def beatAt (w : Nat → UncompressorInput F) (k : Nat) : Option (Burst F) :=
  if (w k).sinkValid && (w k).sourceReady then some ((uncompressorAt w k).source (w k)) else none

/-- The burst that is taken from the sink in a cycle. -/
def burstAt (w : Nat → UncompressorInput F) (k : Nat) : Option (Burst F) :=
  if (uncompressorAt w k).sinkReady (w k) then some (w k).sink else none

/-- While a burst is under way, the sink keeps it. -/
def KeepsBurst (w : Nat → UncompressorInput F) : Prop :=
  ∀ k, (uncompressorAt w (k + 1)).busy = true → (w (k + 1)).sink = (w k).sink

theorem take_succ_expand (hj : j < x.words) :
    x.expand.take (j + 1) = x.expand.take j ++ [x.beat j] := by
  rw [List.take_succ_eq_append_getElem (by simpa [Burst.expand] using hj)]
  simp [Burst.expand]

theorem take_words_expand : x.expand.take x.words = x.expand := by
  apply List.take_of_length_le
  simp [Burst.expand]

/-- Where the uncompressor stands after `n` cycles: `j` beats of the burst at the sink. -/
def Stands (w : Nat → UncompressorInput F) (n j : Nat) : Prop :=
  (j = 0 ∧ (uncompressorAt w n).busy = false) ∨
    Underway (w n).sink j (uncompressorAt w n)

variable {w : Nat → UncompressorInput F} {n : Nat}

/-- A cycle that takes the `j`-th beat. -/
theorem Stands.taken (hF : 0 < F.pktSymbols) (h : Stands w n j) (hkeep : KeepsBurst w)
    (hx : (w n).sink.isCompressed = true → (w n).sink.WellFormed) (hvalid : (w n).sinkValid = true)
    (hready : (w n).sourceReady = true) :
    j < (w n).sink.words ∧ beatAt w n = some ((w n).sink.beat j) ∧
      ((j + 1 = (w n).sink.words ∧ burstAt w n = some (w n).sink ∧ Stands w (n + 1) 0) ∨
        (burstAt w n = none ∧ Stands w (n + 1) (j + 1) ∧ (w (n + 1)).sink = (w n).sink)) := by
  have hstate : uncompressorAt w (n + 1) = (uncompressorAt w n).edge (w n) := rfl
  have hcases : j < (w n).sink.words ∧ (uncompressorAt w n).source (w n) = (w n).sink.beat j ∧
      (uncompressorAt w n).lastPacketBeat (w n) = (j + 1 == (w n).sink.words) ∧
      (j + 1 < (w n).sink.words → Underway (w n).sink (j + 1) (uncompressorAt w (n + 1))) := by
    rcases h with ⟨rfl, hidle⟩ | h
    · exact ⟨Burst.words_pos hF hx, source_of_idle hF hx hvalid hidle,
        lastPacketBeat_of_idle hF hx hvalid hidle, edge_of_idle hF hx hvalid hready hidle⟩
    · exact ⟨h.lt, source_of_underway hF hx hvalid h, lastPacketBeat_of_underway hF hx hvalid h,
        edge_of_underway hF hx hvalid hready h⟩
  obtain ⟨hj, hsource, hlast, hmore⟩ := hcases
  refine ⟨hj, by simp [beatAt, hvalid, hready, hsource], ?_⟩
  by_cases hend : j + 1 = (w n).sink.words
  · refine Or.inl ⟨hend, ?_, Or.inl ⟨rfl, ?_⟩⟩
    · simp [burstAt, sinkReady, hvalid, hready, hlast, hend]
    · simp [hstate, edge, hvalid, hready, hlast, hend]
  · have hnext := hmore (by omega)
    have hsame := hkeep n hnext.busy
    refine Or.inr ⟨?_, Or.inr ?_, hsame⟩
    · simp [burstAt, sinkReady, hlast, hend]
    · rw [hsame]
      exact hnext

/-- Every burst is answered by its own beats, all of them and in order: what has left is
what the bursts taken stand for, and the first beats of the burst still at the sink. -/
theorem bursts_expand (hF : 0 < F.pktSymbols) (w : Nat → UncompressorInput F)
    (hkeep : KeepsBurst w)
    (hx : ∀ k, (w k).sinkValid = true → (w k).sink.isCompressed = true → (w k).sink.WellFormed)
    (n : Nat) : ∃ j, (j = 0 ∨ j < (w n).sink.words) ∧
      Streams.items (beatAt w) n =
        (Streams.items (burstAt w) n).flatMap Burst.expand ++ (w n).sink.expand.take j := by
  have hstands : ∃ j, Stands w n j ∧ Streams.items (beatAt w) n =
      (Streams.items (burstAt w) n).flatMap Burst.expand ++ (w n).sink.expand.take j := by
    induction n with
    | zero => exact ⟨0, Or.inl ⟨rfl, rfl⟩, by simp⟩
    | succ n ih =>
        obtain ⟨j, hj, hitems⟩ := ih
        cases htaken : (w n).sinkValid && (w n).sourceReady with
        | false =>
            have hstate : uncompressorAt w (n + 1) = uncompressorAt w n := edge_of_not_taken htaken
            have hbeat : beatAt w n = none := by simp [beatAt, htaken]
            have hburst : burstAt w n = none := by simp [burstAt, sinkReady, htaken]
            rw [Streams.items_succ_of_none hbeat, Streams.items_succ_of_none hburst]
            rcases hj with ⟨rfl, hidle⟩ | hj
            · exact ⟨0, Or.inl ⟨rfl, by rw [hstate, hidle]⟩, by simpa using hitems⟩
            · have hsame := hkeep n (by rw [hstate, hj.busy])
              refine ⟨j, Or.inr ?_, ?_⟩
              · rw [hstate, hsame]
                exact hj
              · rw [hsame, hitems]
        | true =>
            obtain ⟨hvalid, hready⟩ := Bool.and_eq_true_iff.mp htaken
            obtain ⟨hlt, hbeat, hcases⟩ := hj.taken hF hkeep (hx n hvalid) hvalid hready
            rw [Streams.items_succ_of_some hbeat, hitems, List.append_assoc, ← take_succ_expand hlt]
            rcases hcases with ⟨hend, hburst, hnext⟩ | ⟨hburst, hnext, hsame⟩
            · refine ⟨0, hnext, ?_⟩
              rw [Streams.items_succ_of_some hburst, hend, take_words_expand]
              simp
            · refine ⟨j + 1, hnext, ?_⟩
              rw [Streams.items_succ_of_none hburst, hsame]
  obtain ⟨j, hj, hitems⟩ := hstands
  refine ⟨j, ?_, hitems⟩
  rcases hj with ⟨rfl, -⟩ | hj
  · exact Or.inl rfl
  · exact Or.inr hj.lt

/-- A burst of three words, whose beats are taken one after the other. -/
def threeWords (_ : Nat) : UncompressorInput ⟨14, 3, 5, 3, 4⟩ where
  sinkValid := true
  sink := ⟨true, true, 0x1004, 7, 12, true, 2⟩
  sourceReady := true

theorem bursts_expand_threeWords : ∃ j, (j = 0 ∨ j < (threeWords 4).sink.words) ∧
    Streams.items (beatAt threeWords) 4 =
      (Streams.items (burstAt threeWords) 4).flatMap Burst.expand ++
        (threeWords 4).sink.expand.take j := by
  have hwell : (threeWords 0).sink.WellFormed := ⟨⟨3, by decide⟩, ⟨14, by decide⟩⟩
  exact bursts_expand (by decide) threeWords (fun _ _ => rfl) (fun _ _ _ => hwell) 4

end Run

end BurstUncompressor

end RelojDespertador
