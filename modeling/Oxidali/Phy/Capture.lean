import Oxidali.Phy.Fsm
import Oxidali.Phy.CellDecode

/-!
# Capturing an undisturbed frame

The receiver packs one sample a tick, from the first dominant tick on, and
completes the capture when the line has been recessive for sixteen ticks.  A
frame whose half-bits last four ticks is therefore packed one data bit to a
byte, and the window over its capture shows whole cells.
-/

namespace Oxidali.Phy

open Words List

def byteTicks (byte : Byte) : List Bool :=
  (range 8).map (fun i => byte.getLsbD (7 - i))

def ticksOf (event : RxCompletedEvent) : List Bool :=
  (event.samples.toList.take event.sampleCount).flatMap byteTicks

variable {bits : List Bool}

theorem byteTicks_packByte (h : bits.length = 8) : byteTicks (packByte bits) = bits := by
  apply ext_getElem?
  intro i
  rcases Nat.lt_or_ge i 8 with hlt | hge
  · have hin : i < bits.length := by omega
    have hplace : bits.length - 1 - (7 - i) = i := by omega
    simp [byteTicks, hlt, getLsbD_packByte _ (show 7 - i < 8 by omega), getD_eq_getElem?_getD,
      getElem?_reverse (show 7 - i < bits.length by omega), hplace, hin]
  · rw [getElem?_eq_none (by simpa [byteTicks] using hge), getElem?_eq_none (by omega)]

theorem flatMap_byteTicks_packStep (bits : List Bool) :
    (bits.foldl packStep ([], [])).1.flatMap byteTicks ++
      (bits.foldl packStep ([], [])).2 = bits := by
  induction bits using reverseRecOn with
  | nil => rfl
  | append_singleton bits bit ih =>
    rw [foldl_append, foldl_cons, foldl_nil, packStep]
    by_cases hfull : (bits.foldl packStep ([], [])).2.length = 7
    · rw [if_pos hfull, flatMap_append, flatMap_singleton, byteTicks_packByte (by simp [hfull]),
        append_nil, <- append_assoc, ih]
    · rw [if_neg hfull, <- append_assoc, ih]

namespace DaliBitbangPhy

structure Packing (phy : DaliBitbangPhy) (packed : Packed) : Prop where
  rxBitCnt : phy.rxBitCnt = packed.2.length
  pending_lt : packed.2.length < 8
  rxPos : phy.rxPos = packed.1.length
  rxByte : exists byte, phy.rxByte = packed.2.foldl shiftIn byte
  rxData : forall k, k < packed.1.length -> phy.rxData[k]? = packed.1[k]?

variable {phy : DaliBitbangPhy} {packed : Packed}

theorem Packing.shiftSample (h : phy.Packing packed) (hroom : packed.1.length < maxRxIdx)
    (level : Bool) : (phy.shiftSample level).Packing (packStep packed level) := by
  have hlt := h.pending_lt
  have hcount : wrappingAdd u8Max phy.rxBitCnt 1 = packed.2.length + 1 := by
    rw [h.rxBitCnt]
    exact wrappingAdd_of_le (by simp only [u8Max]; omega)
  obtain ⟨byte, hbyte⟩ := h.rxByte
  have hshifted : shiftIn phy.rxByte level =
      (packed.2 ++ [level]).foldl shiftIn byte := by
    simp [hbyte]
  by_cases hfull : packed.2.length = 7
  · have hpos : saturatingAdd u16Max packed.1.length 1 =
        packed.1.length + 1 := by
      simp only [maxRxIdx, daliRxSampleBufLen] at hroom
      exact saturatingAdd_of_le (by simp only [u16Max]; omega)
    have hpacked : shiftIn phy.rxByte level = packByte (packed.2 ++ [level]) := by
      rw [hshifted, foldl_shiftIn_eight (by simp [hfull])]
    have hfits : packed.1.length < 64 := by
      simp only [maxRxIdx, daliRxSampleBufLen] at hroom
      omega
    simp only [DaliBitbangPhy.shiftSample, packStep, hcount, hfull, if_true, hpacked, h.rxPos, hpos,
      Nat.min_eq_left (Nat.le_of_lt hroom), Nat.min_eq_left (Nat.succ_le_of_lt hroom)]
    refine ⟨rfl, by simp, by simp, ⟨_, rfl⟩, ?_⟩
    intro k hk
    simp only [length_append, length_singleton] at hk
    rw [Vector.getElem?_setIfInBounds]
    by_cases hlast : packed.1.length = k
    · simp [<- hlast, hfits]
    · rw [if_neg hlast, h.rxData k (by omega), getElem?_append_left (by omega)]
  · have hnot : ¬ packed.2.length + 1 = 8 := by omega
    simp only [DaliBitbangPhy.shiftSample, packStep, hcount, hfull, hnot, if_false]
    exact ⟨by simp, by simp; omega, h.rxPos, ⟨byte, hshifted⟩, h.rxData⟩

/-- Receiving, with `idle` recessive samples at the end so far. -/
structure Receiving (phy : DaliBitbangPhy) (packed : Packed) (idle : Nat) :
    Prop where
  busState : phy.busState = .rx
  rxState : phy.rxState = .receiving
  packing : phy.Packing packed
  rxIdle : phy.rxIdle = idle
  notDecoded : phy.lastRx.isrDecode = .notDecoded

/-- The recessive samples that end the capture after one more. -/
def idleAfter (idle : Nat) (level : Bool) : Nat := if level then idle + 1 else 0

private theorem packing_of_eq {other : DaliBitbangPhy} (h : phy.Packing packed)
    (hcount : other.rxBitCnt = phy.rxBitCnt) (hpos : other.rxPos = phy.rxPos)
    (hbyte : other.rxByte = phy.rxByte) (hdata : other.rxData = phy.rxData) :
    other.Packing packed := by
  refine ⟨by rw [hcount, h.rxBitCnt], h.pending_lt, by rw [hpos, h.rxPos], ?_, ?_⟩
  · rw [hbyte]
    exact h.rxByte
  · rw [hdata]
    exact h.rxData

section

variable {idle : Nat} (h : phy.Receiving packed idle)
include h

theorem Receiving.tickRx (hroom : packed.1.length < maxRxIdx) {level : Bool}
    (hidle : idleAfter idle level < rxIdleLineHighTicks) :
    (phy.tickRx level).Receiving (packStep packed level) (idleAfter idle level) := by
  have hshift := h.packing.shiftSample hroom level
  simp only [DaliBitbangPhy.tickRx]
  cases level with
  | false =>
    exact ⟨by simp [h.busState], by simp [h.rxState],
      packing_of_eq hshift rfl rfl rfl rfl, rfl, by simp [h.notDecoded]⟩
  | true =>
    have hsum : saturatingAdd u8Max (phy.shiftSample true).rxIdle 1 = idle + 1 := by
      simp only [idleAfter, if_true, rxIdleLineHighTicks] at hidle
      rw [shiftSample_rxIdle, h.rxIdle]
      exact saturatingAdd_of_le (by simp only [u8Max]; omega)
    have hwait : ¬ rxIdleLineHighTicks <= idle + 1 := Nat.not_le.mpr hidle
    simp only [hsum, hwait, if_true, if_false]
    exact ⟨by simp [h.busState], by simp [h.rxState],
      packing_of_eq hshift rfl rfl rfl rfl, rfl, by simp [h.notDecoded]⟩

theorem Receiving.noteLevel (level : Bool) : (phy.noteLevel level).Receiving packed idle :=
  ⟨h.busState, h.rxState, packing_of_eq h.packing rfl rfl rfl rfl, h.rxIdle, h.notDecoded⟩

theorem Receiving.tick_eq (level : Bool) : phy.tick level = (phy.noteLevel level).tickRx level := by
  simp [DaliBitbangPhy.tick, h.busState]

theorem Receiving.ticks (levels : List Bool) (hroom : packed.1.length + levels.length <= maxRxIdx)
    (hidle : idle + levels.length < rxIdleLineHighTicks) :
    (phy.ticks levels).Receiving (levels.foldl packStep packed) (levels.foldl idleAfter idle) := by
  induction levels generalizing phy packed idle with
  | nil => exact h
  | cons level levels ih =>
    rw [length_cons] at hroom hidle
    have hnext : idleAfter idle level <= idle + 1 := by
      cases level <;> simp [idleAfter]
    have hgrow := length_packStep packed level
    have hstep := (h.noteLevel level).tickRx (by omega) (Nat.lt_of_le_of_lt hnext (by omega))
    rw [<- h.tick_eq] at hstep
    exact ih hstep (by omega) (by omega)

end

/-!
## Completing a capture
-/

/-- An idle receiver whose last capture is exactly these bytes. -/
structure Captured (phy : DaliBitbangPhy) (bytes : List Byte) : Prop where
  busState : phy.busState = .idle
  rxState : phy.rxState = .completed
  sampleCount : phy.lastRx.sampleCount = bytes.length
  samples : forall k, k < bytes.length -> phy.lastRx.samples[k]? = bytes[k]?
  notDecoded : phy.lastRx.isrDecode = .notDecoded

theorem Receiving.complete (h : phy.Receiving packed 15) (hroom : packed.1.length < maxRxIdx) :
    (phy.tick true).Captured ((packStep packed true).1 ++ [peekIdle]) := by
  have hnoted := h.noteLevel true
  have hshift := hnoted.packing.shiftSample hroom true
  have hsum : saturatingAdd u8Max
      ((phy.noteLevel true).shiftSample true).rxIdle 1 = 16 := by
    rw [shiftSample_rxIdle, hnoted.rxIdle]
    rfl
  have hgrow : (packStep packed true).1.length <= maxRxIdx := by
    unfold packStep
    split <;> simp <;> omega
  have hfits : (packStep packed true).1.length < 64 := Nat.lt_succ_of_le hgrow
  have hpos : saturatingAdd u16Max (packStep packed true).1.length 1 =
      (packStep packed true).1.length + 1 :=
    saturatingAdd_of_le (by simp only [u16Max]; omega)
  rw [h.tick_eq]
  simp only [DaliBitbangPhy.tickRx, hsum, if_true, rxIdleLineHighTicks,
    Nat.le_refl, completeRx, finishRxAndNotify, setBusIdle]
  refine ⟨rfl, rfl, ?_, ?_, ?_⟩
  · simp [hshift.rxPos, hpos]
  · intro k hk
    simp only [length_append, length_singleton] at hk
    rw [Vector.getElem?_setIfInBounds, hshift.rxPos]
    by_cases hlast : (packStep packed true).1.length = k
    · simp [<- hlast, hfits]
    · rw [if_neg hlast, hshift.rxData k (by omega), getElem?_append_left (by omega)]
  · simp [h.notDecoded]

theorem Captured.ticksOf_eq {bytes : List Byte} (h : phy.Captured bytes) :
    ticksOf phy.lastRx = bytes.flatMap byteTicks := by
  have hbytes : phy.lastRx.samples.toList.take phy.lastRx.sampleCount = bytes := by
    apply ext_getElem?
    intro k
    rw [getElem?_take, h.sampleCount]
    rcases Nat.lt_or_ge k bytes.length with hlt | hge
    · rw [if_pos hlt, <- h.samples k hlt, Vector.getElem?_toList]
    · rw [if_neg (Nat.not_lt.mpr hge), getElem?_eq_none hge]
  rw [ticksOf, hbytes]

theorem Captured.ticks {bytes : List Byte} (h : phy.Captured bytes) (count : Nat) :
    (phy.ticks (replicate count true)).Captured bytes := by
  induction count generalizing phy with
  | zero => exact h
  | succ count ih =>
    apply ih
    simp only [DaliBitbangPhy.tick, h.busState, tickIdle, if_true]
    exact ⟨h.busState, h.rxState, h.sampleCount, h.samples, h.notDecoded⟩

/-!
## A frame on an idle line
-/

end DaliBitbangPhy

/-- The levels of a data bit: a one is dominant first, a zero recessive first. -/
def bitLevels (one : Bool) : List Bool :=
  replicate 4 (!one) ++ replicate 4 one

/-- The levels of half-bits that last four ticks each. -/
def halfBitLevels (halves : List Bool) : List Bool :=
  halves.flatMap (fun dominant => replicate 4 (!dominant))

theorem halfBitLevels_append (first second : List Bool) :
    halfBitLevels (first ++ second) = halfBitLevels first ++ halfBitLevels second :=
  flatMap_append

variable (bits)

theorem halfBitLevels_bits : halfBitLevels (bits.flatMap bitHalves) = bits.flatMap bitLevels := by
  induction bits with
  | nil => rfl
  | cons one bits ih =>
    rw [flatMap_cons, halfBitLevels_append, ih, flatMap_cons]
    cases one <;> rfl

/-- The levels of a frame up to its stop bits: the start bit is a one. -/
def frameLevels : List Bool :=
  (true :: bits).flatMap bitLevels

theorem length_frameLevels : (frameLevels bits).length = 8 * (bits.length + 1) := by
  rw [frameLevels, length_flatMap,
    map_congr_left (fun one _ => show (bitLevels one).length = 8 by
      simp [bitLevels])]
  simp
  omega

theorem halfBitLevels_frame :
    halfBitLevels (frameHalfBits bits) = frameLevels bits ++ replicate 16 true := by
  rw [frameHalfBits, halfBitLevels_append, halfBitLevels_append, halfBitLevels_bits]
  rfl

def captureBytes : List Byte :=
  (true :: bits).map (fun one => cellByte (some one)) ++
    replicate (if bits.getLastD true then 2 else 3) (cellByte none)

namespace DaliBitbangPhy

variable {bits} {phy : DaliBitbangPhy}

theorem Receiving.bitLevels {cells : List Byte} {idle : Nat} (h : phy.Receiving (cells, []) idle)
    (hroom : cells.length + 8 <= maxRxIdx) (hidle : idle <= 4) (one : Bool) :
    (phy.ticks (bitLevels one)).Receiving
      (cells ++ [cellByte (some one)], []) (if one then 4 else 0) := by
  have hrun := h.ticks (Phy.bitLevels one) hroom
    (by simp only [rxIdleLineHighTicks, Phy.bitLevels]; simp; omega)
  have hpack : (Phy.bitLevels one).foldl packStep (cells, []) =
      (cells ++ [cellByte (some one)], []) := by
    have hbyte : packByte (Phy.bitLevels one) = cellByte (some one) := by
      cases one <;> decide
    rw [<- hbyte]
    simp [Phy.bitLevels, packStep, replicate]
  have hcount : (Phy.bitLevels one).foldl idleAfter idle =
      if one then 4 else 0 := by
    cases one <;> simp [Phy.bitLevels, idleAfter, replicate]
  rwa [hpack, hcount] at hrun

theorem Receiving.cells {cells : List Byte} (last : Bool)
    (h : phy.Receiving (cells, []) (if last then 4 else 0))
    (hroom : cells.length + bits.length + 8 <= maxRxIdx) :
    (phy.ticks (bits.flatMap Phy.bitLevels)).Receiving
      (cells ++ bits.map (fun one => cellByte (some one)), [])
      (if bits.getLastD last then 4 else 0) := by
  induction bits generalizing phy cells last with
  | nil => simpa using h
  | cons one bits ih =>
    rw [length_cons] at hroom
    have hidle : (if last then 4 else 0) <= 4 := by cases last <;> decide
    have hbit := h.bitLevels (by omega) hidle one
    have hrest := ih one hbit (by simp; omega)
    rw [flatMap_cons, ticks_append, map_cons, getLastD_cons]
    simpa only [append_assoc, singleton_append] using hrest

theorem receiving_second (hbus : phy.busState = .idle) (hdebounce : phy.rxDebounce = 1)
    (hfresh : phy.lastRx.isrDecode = .notDecoded) :
    (phy.tick false).Receiving ([], [false, false]) 0 := by
  have htick : phy.tick false =
      DaliBitbangPhy.tickRx (DaliBitbangPhy.tickRx (enterRx
        { phy.noteLevel false with rxDebounce := 2 }) false) false := by
    simp [tick, hbus, tickIdle, noteLevel, hdebounce, saturatingAdd, u8Max, rxStartDebounceTicks]
  have hentered : (enterRx
      { phy.noteLevel false with rxDebounce := 2 }).Receiving ([], []) 0 :=
    ⟨rfl, rfl, ⟨rfl, by decide, rfl, ⟨0, rfl⟩, by simp⟩, rfl, hfresh⟩
  rw [htick]
  exact (hentered.tickRx (by decide) (by decide)).tickRx (by decide) (by decide)

theorem receiving_start (hbus : phy.busState = .idle) (hquiet : phy.rxDebounce = 0)
    (hfresh : phy.lastRx.isrDecode = .notDecoded) :
    (phy.ticks [false, false]).Receiving ([], [false, false]) 0 := by
  have hfirst : phy.tick false = { phy.noteLevel false with rxDebounce := 1 } := by
    simp [tick, hbus, tickIdle, noteLevel, hquiet, saturatingAdd, u8Max, rxStartDebounceTicks]
  rw [ticks_cons, ticks_cons, ticks_nil, hfirst]
  exact receiving_second hbus rfl hfresh

/-- A recessive line leaves an idle receiver idle and ends its debounce. -/
theorem ticks_recessive (hbus : phy.busState = .idle) (count : Nat)
    (hquiet : phy.rxDebounce = 0 ∨ 0 < count) :
    (phy.ticks (replicate count true)).busState = .idle ∧
      (phy.ticks (replicate count true)).rxDebounce = 0 ∧
      (phy.ticks (replicate count true)).lastRx = phy.lastRx := by
  induction count generalizing phy with
  | zero => exact ⟨hbus, by simpa using hquiet, rfl⟩
  | succ count ih =>
    have hstep : (phy.tick true).busState = .idle ∧ (phy.tick true).rxDebounce = 0 ∧
        (phy.tick true).lastRx = phy.lastRx := by
      simp [tick, hbus, tickIdle]
    have hrest := ih hstep.1 (.inl hstep.2.1)
    rw [hstep.2.2] at hrest
    exact hrest

private theorem receiving_frame (hbus : phy.busState = .idle) (hquiet : phy.rxDebounce = 0)
    (hfresh : phy.lastRx.isrDecode = .notDecoded) (hlen : bits.length <= 40) :
    (phy.ticks (frameLevels bits)).Receiving ((true :: bits).map (fun one => cellByte (some one)),
      []) (if bits.getLastD true then 4 else 0) := by
  have hsplit : frameLevels bits =
      [false, false] ++ ([false, false, true, true, true, true] ++
        bits.flatMap Phy.bitLevels) := rfl
  have hstart := (receiving_start hbus hquiet hfresh).ticks
    [false, false, true, true, true, true] (by decide) (by decide)
  have hpack : [false, false, true, true, true, true].foldl packStep
      ([], [false, false]) = ([cellByte (some true)], []) := by decide
  rw [hpack] at hstart
  rw [hsplit, ticks_append, ticks_append]
  have hroom : [cellByte (some true)].length + bits.length + 8 <= maxRxIdx := by
    simp only [maxRxIdx, daliRxSampleBufLen, length_singleton]
    omega
  exact Receiving.cells true hstart hroom

theorem foldl_idleAfter_recessive (count idle : Nat) :
    (replicate count true).foldl idleAfter idle = idle + count := by
  induction count generalizing idle with
  | zero => rfl
  | succ count ih =>
    rw [replicate_succ, foldl_cons, ih, idleAfter, if_pos rfl]
    omega

/-- Recessive ticks up to the fifteenth in a row wait; the sixteenth ends the
capture and the ones behind it change nothing. -/
private theorem captured_tail {cells : List Byte} {idle : Nat} (h : phy.Receiving (cells, []) idle)
    (wait : Nat) (hwait : idle + wait = 15) (hroom : cells.length + 16 <= maxRxIdx) {count : Nat}
    (hcount : 16 <= count) :
    (phy.ticks (replicate count true)).Captured
      ((packStep ((replicate wait true).foldl packStep (cells, [])) true).1 ++ [peekIdle]) := by
  have hsplit : count = wait + ((count - wait - 1) + 1) := by omega
  have hgrow := length_foldl_packStep (replicate wait true) (cells, [])
  simp only [length_replicate] at hgrow
  have hready := h.ticks (replicate wait true) (by simp only [length_replicate]; omega)
    (by simp only [length_replicate, rxIdleLineHighTicks]; omega)
  rw [foldl_idleAfter_recessive, hwait] at hready
  rw [hsplit, replicate_add, replicate_succ, ticks_append, ticks_cons]
  exact (hready.complete (by omega)).ticks _

/-- An idle receiver captures an undisturbed frame as one byte for each bit. -/
theorem captured_frame (hbus : phy.busState = .idle) (hquiet : phy.rxDebounce = 0)
    (hfresh : phy.lastRx.isrDecode = .notDecoded) (hlen : bits.length <= 40) {count : Nat}
    (hcount : 16 <= count) :
    (phy.ticks (frameLevels bits ++ replicate count true)).Captured (captureBytes bits) := by
  have hframe := receiving_frame hbus hquiet hfresh hlen
  have hroom : ((true :: bits).map (fun one => cellByte (some one))).length +
      16 <= maxRxIdx := by
    simp [maxRxIdx, daliRxSampleBufLen]
    omega
  have hbyte : packByte
      [true, true, true, true, true, true, true, true] = cellByte none := by
    decide
  rw [ticks_append, captureBytes]
  cases hlast : bits.getLastD true with
  | true =>
    rw [hlast] at hframe
    have hdone := captured_tail hframe 11 rfl hroom hcount
    simpa [packStep, replicate, hbyte, cellByte, peekIdle] using hdone
  | false =>
    rw [hlast] at hframe
    have hdone := captured_tail hframe 15 rfl hroom hcount
    simpa [packStep, replicate, hbyte, cellByte, peekIdle] using hdone

theorem captureBytes_getElem? {k : Nat} (h : k < (captureBytes bits).length) :
    (captureBytes bits)[k]? = some (cellByte (true :: bits)[k]?) := by
  rw [captureBytes] at h ⊢
  rcases Nat.lt_or_ge k (true :: bits).length with hlt | hge
  · rw [getElem?_append_left (by simpa using hlt), getElem?_map, getElem?_eq_getElem hlt]
    rfl
  · rw [getElem?_append_right (by simpa using hge),
      getElem?_eq_none hge, getElem?_replicate, length_map]
    rw [length_append, length_map, length_replicate] at h
    rw [if_pos (by omega)]

theorem length_captureBytes (bits : List Bool) :
    bits.length + 3 <= (captureBytes bits).length ∧
      (captureBytes bits).length <= bits.length + 4 := by
  simp only [captureBytes, length_append, length_map, length_replicate, length_cons]
  split <;> omega

/-- The window over the capture of an undisturbed frame shows whole cells. -/
theorem Captured.cellWindow (h : phy.Captured (captureBytes bits)) (hlen : bits.length <= 40) :
    CellWindow (SampleWindow.ofCapture phy.lastRx.samples phy.lastRx.sampleCount)
      (true :: bits) := by
  have hlength := length_captureBytes bits
  have hmin : min (captureBytes bits).length daliRxSampleBufLen =
      (captureBytes bits).length :=
    Nat.min_eq_left (by simp only [daliRxSampleBufLen]; omega)
  constructor
  · intro k hk
    rw [length_cons] at hk
    simp only [SampleWindow.byte, SampleWindow.ofCapture, h.sampleCount, hmin]
    rw [if_neg (by omega), Vector.getElem?_ofFn, dif_pos (by omega)]
    rcases Nat.lt_or_ge k (captureBytes bits).length with hlt | hge
    · simp only [hlt, if_true, h.samples k hlt, captureBytes_getElem? hlt, Option.getD_some]
    · have hpad : k = (captureBytes bits).length := by omega
      rw [getElem?_eq_none (by rw [length_cons]; omega)]
      simp [hpad, peekIdle, cellByte]
  · simp only [SampleWindow.ofCapture, h.sampleCount, hmin, length_cons]
    omega

end DaliBitbangPhy

end Oxidali.Phy
