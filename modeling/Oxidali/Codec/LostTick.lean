import Oxidali.Codec.RoundTrip
import Oxidali.Phy.LostTick

/-!
# Forward frames that lost a tick

A sampling tick that was missed leaves a capture one sample short.  Whichever
tick it is, phase 0 reads the frame that was sent, so the search never looks at
a shifted phase.
-/

namespace Oxidali.Codec

open Words Phy List

/-- The event holds the ticks: whole bytes, so that the ticks of a broken last
byte are left out or recessive ones are added to them. -/
structure CaptureOf (event : RxCompletedEvent) (ticks : List Bool) : Prop where
  sampleCount_le : event.sampleCount <= daliRxSampleBufLen
  length_lt : ticks.length < 8 * (event.sampleCount + 1)
  samples : forall k, k < event.sampleCount -> event.samples[k]? = some (byteAt ticks (8 * k))
  isrDecode : event.isrDecode = .notDecoded ∨
    event.isrDecode = .decoded (tryDecode event sniffedBitLengths)

variable {event : RxCompletedEvent}

theorem CaptureOf.decode_eq {ticks : List Bool} (h : CaptureOf event ticks) :
    decodeSniffedWithPhase event = sniffedOf (tryDecode event sniffedBitLengths) := by
  rcases h.isrDecode with hnone | hfound
  · rw [decodeSniffedWithPhase, hnone]
  · rw [decodeSniffedWithPhase, hfound]

theorem byteAt_behind {cells : List Bool} {idle position : Nat} (h : cells.length <= position) :
    byteAt (cells ++ replicate idle true) position = peekIdle := by
  have hidle : byteAt [] 0 = peekIdle := by decide
  rw [<- hidle]
  apply byteAt_congr
  intro i _
  rw [getD_append_right _ _ _ _ (by omega), getD_eq_getElem?_getD, getElem?_replicate, getD_nil]
  split <;> rfl

theorem CaptureOf.tickWindow {cells : List Bool} {idle count : Nat}
    (h : CaptureOf event (cells ++ replicate idle true)) (hcells : cells.length <= 8 * count)
    (hcount : count <= event.sampleCount) :
    TickWindow (SampleWindow.ofCapture event.samples event.sampleCount)
      (cells ++ replicate idle true) count := by
  have hmin : min event.sampleCount daliRxSampleBufLen = event.sampleCount :=
    Nat.min_eq_left h.sampleCount_le
  have hle := h.sampleCount_le
  simp only [daliRxSampleBufLen] at hle
  constructor
  · intro k hk
    simp only [SampleWindow.byte, SampleWindow.ofCapture, hmin]
    rw [if_neg (by omega), Vector.getElem?_ofFn, dif_pos (by omega)]
    rcases Nat.lt_or_ge k event.sampleCount with hlt | hge
    · simp only [hlt, if_true, h.samples k hlt, Option.getD_some]
    · have hpad : k = event.sampleCount := by omega
      rw [byteAt_behind (by omega)]
      simp [hpad]
  · simp only [SampleWindow.ofCapture, hmin]
    omega

theorem ticksOf_captured {phy : DaliBitbangPhy} {bits : List Bool}
    (h : phy.Captured (captureBytes bits)) :
    exists idle, 16 <= idle ∧ ticksOf phy.lastRx = frameLevels bits ++ replicate idle true := by
  have hcell : forall one, byteTicks (cellByte (some one)) = bitLevels one := by
    decide
  have hidle : byteTicks (cellByte none) = replicate 8 true := by decide
  have hcells : ((true :: bits).map (fun one => cellByte (some one))).flatMap
      byteTicks = frameLevels bits := by
    rw [flatMap_map, frameLevels]
    congr 1
    funext one
    exact hcell one
  have htail : forall count, (replicate count (cellByte none)).flatMap
      byteTicks = replicate (8 * count) true := by
    intro count
    induction count with
    | zero => rfl
    | succ count ih =>
      rw [replicate_succ, flatMap_cons, ih, hidle, <- replicate_add, Nat.mul_succ, Nat.add_comm]
  refine ⟨8 * (if bits.getLastD true then 2 else 3), ?_, ?_⟩
  · split <;> decide
  · rw [h.ticksOf_eq, captureBytes, flatMap_append, hcells, htail]

/-- Without any one of its ticks, the capture of a frame of the bus decodes to
that frame. -/
theorem decode_eraseIdx {width value idle place : Nat}
    (hwidth : width = 8 ∨ width = 16 ∨ width = 24) (hidle : 16 <= idle)
    (h : CaptureOf event ((frameLevels (bitsOf value width) ++
      replicate idle true).eraseIdx place)) :
    (decodeSniffedWithPhase event).frame = frameCarrying width value := by
  have hlevels := h.length_lt
  have hlength := le_length_eraseIdx (frameLevels (bitsOf value width) ++ replicate idle true) place
  rw [length_append, length_frameLevels, length_bitsOf, length_replicate] at hlength
  have hcount : width + 2 <= event.sampleCount := by omega
  rcases eraseIdx_levels (true :: bitsOf value width) idle place with
    ⟨cells, rest, herased, hbits, hlost⟩
  rw [frameLevels, herased] at h
  rcases cells with _ | ⟨⟨_, loss⟩, cells⟩
  · cases hbits
  · rcases cons.inj hbits with ⟨rfl, hdata⟩
    have hcells : cells.length = width := by
      rw [<- length_map Prod.fst, hdata, length_bitsOf]
    have hticks := length_lossyTicks ((true, loss) :: cells)
    rw [length_cons, hcells] at hticks
    have hwindow := h.tickWindow (show _ <= 8 * (width + 2) by omega) hcount
    rcases hwindow.decodePhase_lossy hlost rfl (by omega) (by omega) with
      ⟨final, hfinal, hcollected⟩
    rw [hdata] at hcollected
    rcases frame_of_collected hwidth hcollected with ⟨hlength, hframe⟩
    have hfound := tryDecode_of_phase_zero hfinal
      (show sniffedBitLengths.contains final.finish.bitLen = true by
        rw [hlength, sniffedBitLengths_contains]; exact hwidth)
      (show manchesterRxMinDecodedBits <= final.finish.bitLen by
        rw [hlength]; simp only [manchesterRxMinDecodedBits]; omega)
    rw [h.decode_eq, hfound]
    exact hframe

def captureOfTicks (ticks : List Bool) : RxCompletedEvent :=
  { RxCompletedEvent.new with
    samples := Vector.ofFn fun k => byteAt ticks (8 * k.val)
    sampleCount := ticks.length / 8 }

theorem captureOf_captureOfTicks {ticks : List Bool}
    (h : ticks.length <= 8 * daliRxSampleBufLen) : CaptureOf (captureOfTicks ticks) ticks := by
  simp only [daliRxSampleBufLen] at h
  refine ⟨?_, ?_, ?_, .inl rfl⟩
  · simp only [captureOfTicks, daliRxSampleBufLen]
    omega
  · simp only [captureOfTicks]
    omega
  · intro k hk
    simp only [captureOfTicks] at hk
    rw [captureOfTicks, Vector.getElem?_ofFn, dif_pos (by omega)]

theorem length_ticksOf (event : RxCompletedEvent) :
    (ticksOf event).length <= 8 * daliRxSampleBufLen := by
  have hbyte : forall byte, (byteTicks byte).length = 8 := by
    intro byte
    simp [byteTicks]
  have htaken : (event.samples.toList.take event.sampleCount).length <=
      daliRxSampleBufLen := by
    rw [length_take, Vector.length_toList]
    exact Nat.min_le_right _ _
  rw [ticksOf, length_flatMap, map_congr_left (fun byte _ => hbyte byte), map_const',
    sum_replicate_nat, Nat.mul_comm]
  exact Nat.mul_le_mul_left 8 htaken

/-- The undisturbed capture of a forward frame still decodes to that frame when
any one of its ticks was lost. -/
theorem forward_lost_tick {rx : DaliBitbangPhy} (hrx : rx.Reachable) (hidle : rx.busState = .idle)
    {width : Nat} (hwidth : width = 16 ∨ width = 24) (value before : Nat)
    (hquiet : rx.rxDebounce = 0 ∨ 0 < before) (after : Nat) :
    let received := rx.ticks (replicate before true ++
      (halfBitLevels (frameHalfBits (bitsOf value width)) ++ replicate after true))
    exists event, received.takeCompletedRxEvent.2 = some event ∧
      forall place damaged, CaptureOf damaged ((ticksOf event).eraseIdx place) ->
        (decodeSniffedWithPhase damaged).frame = frameCarrying width value := by
  intro received
  have hcaptured : received.Captured (captureBytes (bitsOf value width)) :=
    undisturbed_captured hrx hidle (by omega) value before hquiet after
  rcases ticksOf_captured hcaptured with ⟨idle, hlong, hticks⟩
  refine ⟨_, takeCompletedRxEvent_of_captured hcaptured, ?_⟩
  intro place damaged hdamaged
  rw [hticks] at hdamaged
  exact decode_eraseIdx (.inr hwidth) hlong hdamaged

/-- A forward frame without its twenty-second tick. -/
theorem forward_lost_tick_within :
    exists event, (DaliBitbangPhy.new.ticks (replicate 1 true ++
        (halfBitLevels (frameHalfBits (bitsOf 0x82A9 16)) ++
          replicate 0 true))).takeCompletedRxEvent.2 = some event ∧
      (decodeSniffedWithPhase (captureOfTicks ((ticksOf event).eraseIdx 21))).frame =
          .forward16 0x82A9 := by
  obtain ⟨event, htaken, hdecode⟩ := forward_lost_tick .new rfl
    (show 16 = 16 ∨ 16 = 24 by decide) 0x82A9 1 (.inr (by decide)) 0
  refine ⟨event, htaken, hdecode 21 _ (captureOf_captureOfTicks ?_)⟩
  exact Nat.le_trans (length_eraseIdx_le _ _) (length_ticksOf event)

end Oxidali.Codec
