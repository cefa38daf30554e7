import Oxidali.Codec.RxDecode
import Oxidali.Phy.Transmit
import Oxidali.Phy.HalfBitLag

/-!
# From one layer to the other

A value encoded and sent by one layer over an undisturbed line is captured and
decoded by another.  Frames of the three widths of the bus come out as they went
in, at phase 0.  Frames of other widths ought to be rejected by their length;
the shifted phases make that fail for one bit more than a width of the bus.
-/

namespace Oxidali.Codec

open Words Phy BestPhaseSearch DaliBitbangPhy List BitVec

def frameCarrying (width value : Nat) : SniffedFrame :=
  if width = 8 then .backward8 (BitVec.ofNat 8 value)
  else if width = 16 then .forward16 (BitVec.ofNat 16 value)
  else
    .forward24 #v[BitVec.ofNat 8 (value / 2 ^ 16),
      BitVec.ofNat 8 (value / 2 ^ 8), BitVec.ofNat 8 value]

theorem sniffedBitLengths_contains_zero : sniffedBitLengths.contains 0 = false := by decide

variable {decode : PhaseDecode}

theorem tryDecode_of_phase_zero {event : RxCompletedEvent} {preferred : BitLengths}
    (hzero : (SampleWindow.ofCapture event.samples
      event.sampleCount).decodePhase manchesterRxMaxDecodedBits 0 = decode)
    (hpreferred : preferred.contains decode.bitLen)
    (hlong : manchesterRxMinDecodedBits <= decode.bitLen) :
    tryDecode event preferred = some decode := by
  rw [tryDecode, run, runWith_new, hzero, if_pos hpreferred, accepted, if_pos hlong]

private theorem forward16_raw (value : Nat) : ((BitVec.ofNat 8 (value >>> 8)).setWidth 16 <<< 8 |||
      (BitVec.ofNat 8 value).setWidth 16) = BitVec.ofNat 16 value := by
  apply eq_of_getLsbD_eq
  intro i hi
  simp only [getLsbD_or, getLsbD_shiftLeft, getLsbD_setWidth, getLsbD_ofNat, Nat.testBit_shiftRight]
  rcases Nat.lt_or_ge i 8 with hlow | hhigh
  · simp [hi, hlow]
  · have hsum : 8 + (i - 8) = i := by omega
    have hin : i - 8 < 8 := by omega
    have hin' : i - 8 < 16 := by omega
    simp [hi, hsum, hin, hin', Nat.not_lt.mpr hhigh]

variable {window : SampleWindow} {width : Nat}

theorem sniffedFromDecoded_bytesOf {value : Nat} (hwidth : width = 8 ∨ width = 16 ∨ width = 24)
    (hlength : decode.bitLen = width)
    (hbytes : forall k, k < width / 8 -> decode.data[k]? = (bytesOf value (width / 8))[k]?) :
    sniffedFromDecoded decode.bitLen decode.data = frameCarrying width value := by
  have hget : forall k (hk : k < 8), k < width / 8 ->
      some decode.data[k] = (bytesOf value (width / 8))[k]? := by
    intro k hk hlt
    rw [<- hbytes k hlt, Vector.getElem?_eq_getElem hk]
  rw [hlength]
  rcases hwidth with rfl | rfl | rfl
  · have h0 := hget 0 (by decide) (by decide)
    simp only [bytesOf, getElem?_cons_zero, Option.some.injEq] at h0
    simp [sniffedFromDecoded, frameCarrying, h0]
  · have h0 := hget 0 (by decide) (by decide)
    have h1 := hget 1 (by decide) (by decide)
    simp only [bytesOf, getElem?_cons_zero, getElem?_cons_succ, Option.some.injEq] at h0 h1
    simpa [sniffedFromDecoded, frameCarrying, h0, h1] using forward16_raw value
  · have h0 := hget 0 (by decide) (by decide)
    have h1 := hget 1 (by decide) (by decide)
    have h2 := hget 2 (by decide) (by decide)
    simp only [bytesOf, getElem?_cons_zero, getElem?_cons_succ, Option.some.injEq] at h0 h1 h2
    simp [sniffedFromDecoded, frameCarrying, h0, h1, h2, Nat.shiftRight_eq_div_pow]

/-!
## Frames of the bus
-/

theorem frame_of_collected {final : PhaseDecode} {value : Nat}
    (hwidth : width = 8 ∨ width = 16 ∨ width = 24)
    (h : final.Collected ((bitsOf value width).foldl packStep ([], []))) :
    final.finish.bitLen = width ∧ sniffedFromDecoded final.finish.bitLen final.finish.data =
        frameCarrying width value := by
  have hpacked : (bitsOf value width).foldl packStep ([], []) =
      (bytesOf value (width / 8), []) := by
    rw [show width = 8 * (width / 8) by omega, foldl_packStep_bitsOf]
    simp
  have hcount : (bytesOf value (width / 8)).length = width / 8 := by
    rcases hwidth with rfl | rfl | rfl <;> rfl
  rw [hpacked] at h
  have hbits : final.bitLen = width + 1 := by
    have hbits := h.bitLen
    simp only [hcount, length_nil] at hbits
    omega
  have hlength : final.finish.bitLen = width := by
    rw [PhaseDecode.finish, if_pos (by omega)]
    exact Nat.sub_eq_of_eq_add hbits
  refine ⟨hlength, sniffedFromDecoded_bytesOf hwidth hlength ?_⟩
  intro k hk
  rw [PhaseDecode.data_finish]
  exact h.bytes k (by rw [hcount]; exact hk)

/-- At phase 0 the capture of a frame of the bus decodes to its value. -/
theorem decodePhase_zero_carries {value : Nat} (hwidth : width = 8 ∨ width = 16 ∨ width = 24)
    (hwindow : CellWindow window (true :: bitsOf value width)) :
    exists decode : PhaseDecode, window.decodePhase manchesterRxMaxDecodedBits 0 = decode ∧
        decode.bitLen = width ∧ decode.phaseTicks = 0 ∧
        sniffedFromDecoded decode.bitLen decode.data = frameCarrying width value := by
  have hle : (bitsOf value width).length <= 31 := by
    rw [length_bitsOf]
    omega
  have hstart : ((PhaseDecode.failed 0).push (cellWeight true)).Collected
      ([], []) :=
    ⟨rfl, by decide, by simp, by simp⟩
  have hcollected := hstart.pushCells (show 8 * 0 + 0 + (bitsOf value width).length <= 32 by omega)
  rcases frame_of_collected hwidth hcollected with ⟨hlength, hframe⟩
  refine ⟨_, hwindow.decodePhase_zero hle, hlength, ?_, hframe⟩
  simp [PhaseDecode.failed]

/-- What an idle receiver holds when an undisturbed frame has passed. -/
theorem captured_of_levels {rx : DaliBitbangPhy} (hrx : rx.Reachable) (hidle : rx.busState = .idle)
    {bits : List Bool} (hlen : bits.length <= 40) (before : Nat)
    (hquiet : rx.rxDebounce = 0 ∨ 0 < before) {after : Nat} (hafter : 16 <= after) :
    (rx.ticks (replicate before true ++
      (frameLevels bits ++ replicate after true))).Captured (captureBytes bits) := by
  obtain ⟨hbus, hdebounce, hlast⟩ :=
    ticks_recessive hidle before hquiet
  rw [ticks_append]
  exact captured_frame hbus hdebounce (by rw [hlast]; exact hrx.sound.notDecoded) hlen hafter

theorem takeCompletedRxEvent_of_captured {phy : DaliBitbangPhy} {bytes : List Byte}
    (h : phy.Captured bytes) : phy.takeCompletedRxEvent.2 = some phy.lastRx := by
  simp [takeCompletedRxEvent, h.rxState]

theorem decodeSniffedWithPhase_of_captured {phy : DaliBitbangPhy} {bytes : List Byte}
    (h : phy.Captured bytes) :
    decodeSniffedWithPhase phy.lastRx = sniffedOf (tryDecode phy.lastRx sniffedBitLengths) := by
  rw [decodeSniffedWithPhase, h.notDecoded]

/-- A value of a width of the bus, sent by one idle layer and received by
another over an undisturbed line, is decoded as the frame that carries it, at
phase 0. -/
theorem decode_transmitted {tx rx : DaliBitbangPhy} (htx : tx.Reachable) (hrx : rx.Reachable)
    (htxIdle : tx.busState = .idle) (hrxIdle : rx.busState = .idle) {width : Nat}
    (hwidth : width = 8 ∨ width = 16 ∨ width = 24) (data : BitVec 32) (before : Nat) {ticks : Nat}
    (hticks : 8 * (width + 3) + 3 <= ticks) :
    let started := tx.startTx (HalfBitBuffer.encode data width)
    let received :=
      rx.ticks (replicate before true ++ started.1.drive ticks)
    started.2 = true ∧
      exists event score, received.takeCompletedRxEvent.2 = some event ∧
        decodeSniffedWithPhase event =
          { frame := frameCarrying width data.toNat, phaseTicks := 0, score } := by
  obtain ⟨haccepted, hdrive⟩ :=
    drive_encode htx htxIdle data (show width <= 33 by omega)
  obtain ⟨after, hafter⟩ : exists after, ticks =
      txArmLeadTicks + (8 * (width + 1) + after) :=
    ⟨ticks - (3 + 8 * (width + 1)), by simp only [txArmLeadTicks]; omega⟩
  have hlevels : replicate before true ++
      (tx.startTx (HalfBitBuffer.encode data width)).1.drive ticks =
        replicate (before + 3) true ++
          (frameLevels (bitsOf data.toNat width) ++ replicate after true) := by
    rw [hafter, hdrive, replicate_add, List.append_assoc]
    rfl
  have hcaptured := captured_of_levels hrx hrxIdle
    (show (bitsOf data.toNat width).length <= 40 by rw [length_bitsOf]; omega)
    (before + 3) (.inr (by omega))
    (show 16 <= after by simp only [txArmLeadTicks] at hafter; omega)
  rw [<- hlevels] at hcaptured
  have hwindow := hcaptured.cellWindow (by rw [length_bitsOf]; omega)
  obtain ⟨decode, hdecode, hlength, hphase, hframe⟩ :=
    decodePhase_zero_carries hwidth hwindow
  have hfound := tryDecode_of_phase_zero hdecode
    (show sniffedBitLengths.contains decode.bitLen = true by
      rw [hlength, sniffedBitLengths_contains]; exact hwidth)
    (show manchesterRxMinDecodedBits <= decode.bitLen by
      rw [hlength]; simp only [manchesterRxMinDecodedBits]; omega)
  refine ⟨haccepted, _, decode.score, takeCompletedRxEvent_of_captured hcaptured, ?_⟩
  rw [decodeSniffedWithPhase_of_captured hcaptured, hfound, sniffedOf, hframe, hphase]

/-- A backward byte sent by one fresh layer and heard by another. -/
theorem decode_transmitted_backward :
    (8 = 8 ∨ 8 = 16 ∨ 8 = 24) ∧ 8 * (8 + 3) + 3 <= 100 ∧ exists event score,
        (new.ticks (replicate 5 true ++
          (new.startTx (HalfBitBuffer.encode 0xA5 8)).1.drive 100)).takeCompletedRxEvent.2 =
              some event ∧
          decodeSniffedWithPhase event = { frame := .backward8 0xA5, phaseTicks := 0, score } :=
  ⟨by decide, by decide,
    (decode_transmitted .new .new rfl rfl (.inl rfl) 0xA5 5
      (show 8 * (8 + 3) + 3 <= 100 by decide)).2⟩

/-!
## Foreign widths
-/

section ForeignWidth

variable {window : SampleWindow} {bits : List Bool}

/-- Of the shifted phases only the latest can read another length than the
width, and then it reads one bit less. -/
theorem shiftedPhase_bitLen (hmin : 3 <= bits.length) (hmax : bits.length <= 31)
    (hforeign : sniffedBitLengths.contains bits.length = false)
    (hwindow : CellWindow window (true :: bits)) (hmem : decode ∈ [-2, -1, 1, 2].map
      (window.decodePhase manchesterRxMaxDecodedBits))
    (hpreferred : sniffedBitLengths.contains decode.bitLen) :
    halfBitSlip bits ∧ decode.bitLen = bits.length - 1 := by
  have hnear : forall phase, phase = -2 ∨ phase = -1 ∨ phase = 0 ->
      (window.decodePhase manchesterRxMaxDecodedBits phase).bitLen =
        bits.length :=
    fun phase => hwindow.decodePhase_early_bitLen (by omega) hmax
  have htwo := hwindow.decodePhase_two_late_bitLen (by omega) hmax
  simp only [map_cons, map_nil, mem_cons, not_mem_nil, or_false] at hmem
  rcases hmem with rfl | rfl | rfl | rfl
  · rw [hnear _ (by decide), hforeign] at hpreferred
    cases hpreferred
  · rw [hnear _ (by decide), hforeign] at hpreferred
    cases hpreferred
  · rw [hwindow.decodePhase_one_late_bitLen (by omega) hmax, hforeign] at hpreferred
    cases hpreferred
  · cases hslip : halfBitSlip bits with
    | true =>
      simp only [hslip, if_true] at htwo
      exact ⟨rfl, htwo⟩
    | false =>
      simp only [hslip, Bool.false_eq_true, if_false] at htwo
      rcases htwo with hnothing | hfull
      · rw [hnothing] at hpreferred
        exact absurd hpreferred (by decide)
      · rw [hfull, hforeign] at hpreferred
        cases hpreferred

private theorem run_foreign (hmin : 3 <= bits.length) (hmax : bits.length <= 31)
    (hforeign : sniffedBitLengths.contains bits.length = false)
    (hwindow : CellWindow window (true :: bits)) :
    (new sniffedBitLengths).run window =
      accepted (([-2, -1, 1, 2].map (window.decodePhase manchesterRxMaxDecodedBits)).foldl
          (keepBetter sniffedBitLengths) none) := by
  have hzero := hwindow.decodePhase_early_bitLen (by omega) hmax (.inr (.inr rfl))
  rw [run, runWith_new, hzero, hforeign]
  rfl

section

variable (hmin : 3 <= bits.length) (hmax : bits.length <= 31)
  (hforeign : sniffedBitLengths.contains bits.length = false)
  (hwindow : CellWindow window (true :: bits))
include hmin hmax hforeign hwindow

theorem run_of_slip (hslip : halfBitSlip bits)
    (hshort : sniffedBitLengths.contains (bits.length - 1)) :
    exists decode, (new sniffedBitLengths).run window =
      some decode ∧ decode.bitLen = bits.length - 1 := by
  have htwo := hwindow.decodePhase_two_late_bitLen (by omega) hmax
  simp only [hslip, if_true] at htwo
  obtain ⟨found, hfound, hpreferred⟩ := foldl_keepBetter_preferred
    ([-2, -1, 1, 2].map (window.decodePhase manchesterRxMaxDecodedBits)) none
    sniffedBitLengths_contains_zero
    (.inr ⟨window.decodePhase manchesterRxMaxDecodedBits 2, by simp, by rw [htwo]; exact hshort⟩)
  have hlong : manchesterRxMinDecodedBits <= found.bitLen := by
    have hlengths := (sniffedBitLengths_contains _).mp hpreferred
    simp only [manchesterRxMinDecodedBits]
    omega
  refine ⟨found, ?_, ?_⟩
  · rw [run_foreign hmin hmax hforeign hwindow, hfound, accepted, if_pos hlong]
  · rcases foldl_keepBetter_mem hfound with hnone | hmem
    · cases hnone
    · exact (shiftedPhase_bitLen hmin hmax hforeign hwindow hmem hpreferred).2

/-- A foreign frame is taken for a frame of the bus exactly when the latest
phase reads it one bit short and that is a length of the bus. -/
theorem sniffedOf_foreign_isFrame :
    (sniffedOf ((new sniffedBitLengths).run window)).frame.IsFrame <->
      sniffedBitLengths.contains (bits.length - 1) ∧ halfBitSlip bits := by
  constructor
  · intro hframe
    rw [run_foreign hmin hmax hforeign hwindow] at hframe
    cases hfound : ([-2, -1, 1, 2].map
        (window.decodePhase manchesterRxMaxDecodedBits)).foldl
          (keepBetter sniffedBitLengths) none with
    | none =>
      rw [hfound] at hframe
      exact absurd hframe (by decide)
    | some decode =>
      have hpreferred : sniffedBitLengths.contains decode.bitLen := by
        rw [hfound, accepted] at hframe
        split at hframe
        · exact (sniffedFromDecoded_isFrame _ _).mp hframe
        · exact absurd hframe (by decide)
      rcases foldl_keepBetter_mem hfound with hnone | hmem
      · cases hnone
      · obtain ⟨hslip, hlength⟩ :=
          shiftedPhase_bitLen hmin hmax hforeign hwindow hmem hpreferred
        exact ⟨by rw [<- hlength]; exact hpreferred, hslip⟩
  · rintro ⟨hshort, hslip⟩
    obtain ⟨decode, hrun, hlength⟩ :=
      run_of_slip hmin hmax hforeign hwindow hslip hshort
    rw [hrun, sniffedOf]
    exact (sniffedFromDecoded_isFrame _ _).mpr (by rw [hlength]; exact hshort)

end

end ForeignWidth

theorem undisturbed_captured {rx : DaliBitbangPhy} (hrx : rx.Reachable)
    (hidle : rx.busState = .idle) (hmax : width <= 31) (value before : Nat)
    (hquiet : rx.rxDebounce = 0 ∨ 0 < before) (after : Nat) :
    (rx.ticks (replicate before true ++
      (halfBitLevels (frameHalfBits (bitsOf value width)) ++ replicate after true))).Captured
          (captureBytes (bitsOf value width)) := by
  rw [halfBitLevels_frame, List.append_assoc, <- replicate_add]
  exact captured_of_levels hrx hidle (by rw [length_bitsOf]; omega) before hquiet (by omega)

/-- An undisturbed frame of a foreign width is rejected by its length exactly
when its width is not one more than a width of the bus, or its bits keep the
latest phase from reading it one bit short. -/
theorem foreignWidth_rejected_iff {rx : DaliBitbangPhy} (hrx : rx.Reachable)
    (hidle : rx.busState = .idle) {width : Nat} (hmin : 3 <= width) (hmax : width <= 31)
    (hforeign : width ≠ 8 ∧ width ≠ 16 ∧ width ≠ 24) (value before : Nat)
    (hquiet : rx.rxDebounce = 0 ∨ 0 < before) (after : Nat) :
    let received := rx.ticks (replicate before true ++
      (halfBitLevels (frameHalfBits (bitsOf value width)) ++ replicate after true))
    exists event, received.takeCompletedRxEvent.2 = some event ∧
      (¬ (decodeSniffedWithPhase event).frame.IsFrame <->
        ¬ ((width = 9 ∨ width = 17 ∨ width = 25) ∧ halfBitSlip (bitsOf value width) = true)) := by
  have hcaptured := undisturbed_captured hrx hidle hmax value before hquiet after
  have hwindow := hcaptured.cellWindow (by rw [length_bitsOf]; omega)
  have hnot : sniffedBitLengths.contains width = false := by
    rw [Bool.eq_false_iff, ne_eq, sniffedBitLengths_contains]
    omega
  have hiff := sniffedOf_foreign_isFrame (by rw [length_bitsOf]; exact hmin)
    (by rw [length_bitsOf]; exact hmax) (by rw [length_bitsOf]; exact hnot)
    hwindow
  rw [length_bitsOf, sniffedBitLengths_contains] at hiff
  refine ⟨_, takeCompletedRxEvent_of_captured hcaptured, ?_⟩
  rw [decodeSniffedWithPhase_of_captured hcaptured, tryDecode, not_iff_not, hiff]
  have hwidths : (width - 1 = 8 ∨ width - 1 = 16 ∨ width - 1 = 24) <->
      (width = 9 ∨ width = 17 ∨ width = 25) := by omega
  rw [hwidths]

/-- Ten zeros are heard and rejected. -/
theorem tenZeros_rejected :
    3 <= 10 ∧ 10 <= 31 ∧ exists event,
      (new.ticks (replicate 2 true ++
        (halfBitLevels (frameHalfBits (bitsOf 0 10)) ++
          replicate 7 true))).takeCompletedRxEvent.2 = some event ∧
        ¬ (decodeSniffedWithPhase event).frame.IsFrame := by
  refine ⟨by decide, by decide, ?_⟩
  obtain ⟨event, htaken, hiff⟩ := foreignWidth_rejected_iff .new rfl
    (show 3 <= 10 by decide) (by decide) (by decide) 0 2 (.inr (by decide)) 7
  exact ⟨event, htaken, hiff.mpr (by decide)⟩

/-- Nine ones are decoded as a backward frame. -/
theorem nineOnes_decoded_backward :
    exists event, (new.ticks (replicate 0 true ++
        (halfBitLevels (frameHalfBits (bitsOf 0x1FF 9)) ++
          replicate 0 true))).takeCompletedRxEvent.2 = some event ∧
      exists raw, (decodeSniffedWithPhase event).frame = .backward8 raw := by
  have hcaptured := undisturbed_captured .new rfl (show 9 <= 31 by decide) 0x1FF 0 (.inl rfl) 0
  have hwindow := hcaptured.cellWindow (by decide)
  obtain ⟨decode, hrun, hlength⟩ := run_of_slip (by decide) (by decide)
    (by decide) hwindow (by decide) (by decide)
  refine ⟨_, takeCompletedRxEvent_of_captured hcaptured, decode.data[0], ?_⟩
  rw [decodeSniffedWithPhase_of_captured hcaptured, tryDecode, hrun, sniffedOf, hlength]
  rfl

/-!
# Forward frames under the backward decode

The decode of an answer prefers eight bits and reads shifted phases when phase
0 has another length.  No phase reads a forward frame that short.
-/

def searchedPhases : List Int := [0, -2, -1, 1, 2]

theorem searchedPhase_bitLen {bits : List Bool} (hmin : 2 <= bits.length) (hmax : bits.length <= 31)
    (hwindow : CellWindow window (true :: bits)) {phase : Int} (hphase : phase ∈ searchedPhases) :
    let length := (window.decodePhase manchesterRxMaxDecodedBits phase).bitLen
    length = 0 ∨ length = bits.length - 1 ∨ length = bits.length := by
  have hpos : 0 < bits.length := by omega
  simp only [searchedPhases, mem_cons, not_mem_nil, or_false] at hphase
  rcases hphase with rfl | rfl | rfl | rfl | rfl
  · exact .inr (.inr (hwindow.decodePhase_early_bitLen hpos hmax (by simp)))
  · exact .inr (.inr (hwindow.decodePhase_early_bitLen hpos hmax (by simp)))
  · exact .inr (.inr (hwindow.decodePhase_early_bitLen hpos hmax (by simp)))
  · exact .inr (.inr (hwindow.decodePhase_one_late_bitLen hpos hmax))
  · have hlate := hwindow.decodePhase_two_late_bitLen hmin hmax
    split at hlate
    · exact .inr (.inl hlate)
    · rcases hlate with hzero | hfull
      · exact .inl hzero
      · exact .inr (.inr hfull)

theorem run_mem_phases {preferred : BitLengths} (h : (new preferred).run window = some decode) :
    exists phase, phase ∈ searchedPhases ∧
      decode = window.decodePhase manchesterRxMaxDecodedBits phase := by
  have haccepted : forall found, accepted found = some decode -> found = some decode := by
    intro found hfound
    cases found with
    | none => cases hfound
    | some reading =>
      by_cases hlong : manchesterRxMinDecodedBits <= reading.bitLen
      · rwa [accepted, if_pos hlong] at hfound
      · rw [accepted, if_neg hlong] at hfound
        cases hfound
  rw [run, runWith_new] at h
  split at h
  · exact ⟨0, mem_cons_self, (Option.some.inj (haccepted _ h)).symm⟩
  · rcases foldl_keepBetter_mem (haccepted _ h) with hnone | hmem
    · cases hnone
    · rcases mem_map.mp hmem with ⟨phase, hphase, heq⟩
      exact ⟨phase, mem_cons_of_mem _ hphase, heq.symm⟩

/-- The backward decode of an undisturbed forward frame returns no byte, and
none of the phases it may read has eight bits. -/
theorem forward_read_as_no_byte {rx : DaliBitbangPhy} (hrx : rx.Reachable)
    (hidle : rx.busState = .idle) {width : Nat} (hwidth : width = 16 ∨ width = 24)
    (value before : Nat) (hquiet : rx.rxDebounce = 0 ∨ 0 < before) (after : Nat) :
    let received := rx.ticks (replicate before true ++
      (halfBitLevels (frameHalfBits (bitsOf value width)) ++ replicate after true))
    exists event, received.takeCompletedRxEvent.2 = some event ∧ decodeBackwardByte event = none ∧
      forall phase, phase ∈ searchedPhases ->
        ((SampleWindow.ofCapture event.samples event.sampleCount).decodePhase
          manchesterRxMaxDecodedBits phase).bitLen ≠ 8 := by
  intro received
  have hcaptured : received.Captured (captureBytes (bitsOf value width)) :=
    undisturbed_captured hrx hidle (by omega) value before hquiet after
  have hlength : (bitsOf value width).length = width := length_bitsOf _ _
  have hwindow := hcaptured.cellWindow (by omega)
  have hphases : forall phase, phase ∈ searchedPhases -> ((SampleWindow.ofCapture
      received.lastRx.samples received.lastRx.sampleCount).decodePhase
        manchesterRxMaxDecodedBits phase).bitLen ≠ 8 := by
    intro phase hphase height
    have hlengths := searchedPhase_bitLen (by omega) (by omega) hwindow hphase
    omega
  refine ⟨_, takeCompletedRxEvent_of_captured hcaptured, ?_, hphases⟩
  unfold decodeBackwardByte
  cases hfound : tryDecode _ backwardFrameBitLengths with
  | none => rfl
  | some decode =>
    rcases run_mem_phases hfound with ⟨phase, hphase, rfl⟩
    exact if_neg (hphases phase hphase)

/-- A forward frame that ends in eight ones gives no byte. -/
theorem forward_ff_read_as_no_byte :
    exists event, (new.ticks (replicate 1 true ++
        (halfBitLevels (frameHalfBits (bitsOf 0x01FF 16)) ++
          replicate 0 true))).takeCompletedRxEvent.2 = some event ∧
      decodeBackwardByte event = none := by
  obtain ⟨event, htaken, hnone, _⟩ := forward_read_as_no_byte .new rfl
    (show 16 = 16 ∨ 16 = 24 by decide) 0x01FF 1 (.inr (by decide)) 0
  exact ⟨event, htaken, hnone⟩

end Oxidali.Codec
