import Oxidali.Phy.Capture

/-!
# Transmitting on an undisturbed line

What holds of the layer in every state its callers can bring it to, and the
levels it drives when nobody else touches the line: three recessive ticks of
lead, four ticks for each half-bit, and a released line behind the frame.
-/

namespace Oxidali.Phy

open Words HalfBitBuffer List

namespace DaliBitbangPhy

/-!
## Reachable states
-/

/-- The states the public operations lead to, at any line levels. -/
inductive Reachable : DaliBitbangPhy -> Prop where
  | new : Reachable new
  | tick {phy : DaliBitbangPhy} (level : Bool) :
      Reachable phy -> Reachable (phy.tick level)
  | startTx {phy : DaliBitbangPhy} (halfbits : HalfBitBuffer) :
      Reachable phy -> Reachable (phy.startTx halfbits).1
  | startAnswer {phy : DaliBitbangPhy} (halfbits : HalfBitBuffer) :
      Reachable phy -> Reachable (phy.startAnswer halfbits).1
  | pollTxState {phy : DaliBitbangPhy} :
      Reachable phy -> Reachable phy.pollTxState.1
  | takeIdleAfterBreak {phy : DaliBitbangPhy} :
      Reachable phy -> Reachable phy.takeIdleAfterBreak.1
  | acknowledgeRxFrame {phy : DaliBitbangPhy} :
      Reachable phy -> Reachable phy.acknowledgeRxFrame
  | takeCompletedRxEvent {phy : DaliBitbangPhy} :
      Reachable phy -> Reachable phy.takeCompletedRxEvent.1
  | setCollisionPolicy {phy : DaliBitbangPhy} (policy : CollisionPolicy) :
      Reachable phy -> Reachable (phy.setCollisionPolicy policy)

/-- The layer releases the line whenever it listens, and leaves decoding to
whoever takes the capture. -/
structure Sound (phy : DaliBitbangPhy) : Prop where
  released : phy.busState = .idle ∨ phy.busState = .rx -> phy.driven = true
  notDecoded : phy.lastRx.isrDecode = .notDecoded

variable {phy : DaliBitbangPhy} (level : Bool)

theorem tickRx_notDecoded (h : phy.lastRx.isrDecode = .notDecoded) :
    (phy.tickRx level).lastRx.isrDecode = .notDecoded := by
  simp only [tickRx, completeRx, finishRxAndNotify, setBusIdle]
  split
  · split <;> simp [h]
  · simp [h]

theorem tickRx_released (h : phy.driven) : (phy.tickRx level).driven := by
  simp only [tickRx, completeRx, finishRxAndNotify, setBusIdle]
  split
  · split <;> simp [h]
  · simp [h]

theorem tickIdle_sound (hdriven : phy.driven) (h : phy.lastRx.isrDecode = .notDecoded) :
    (phy.tickIdle level).driven ∧ (phy.tickIdle level).lastRx.isrDecode = .notDecoded := by
  have hrun : forall count (receiving : DaliBitbangPhy),
      receiving.driven = true -> receiving.lastRx.isrDecode = .notDecoded ->
        ((fun receiving => tickRx receiving false)^[count] receiving).driven = true ∧
          ((fun receiving => tickRx receiving false)^[count]
            receiving).lastRx.isrDecode = .notDecoded := by
    intro count
    induction count with
    | zero =>
      intro receiving hreleased hfresh
      exact ⟨hreleased, hfresh⟩
    | succ count ih =>
      intro receiving hreleased hfresh
      exact ih _ (tickRx_released false hreleased) (tickRx_notDecoded false hfresh)
  cases level with
  | true => exact ⟨hdriven, h⟩
  | false =>
    simp only [tickIdle, Bool.false_eq_true, if_false]
    split
    · exact hrun _ _ hdriven h
    · exact ⟨hdriven, h⟩

theorem Sound.tick (h : phy.Sound) (level : Bool) : (phy.tick level).Sound := by
  have hidle : forall released : DaliBitbangPhy, released.driven ->
      released.lastRx.isrDecode = .notDecoded -> (released.tickIdle level).Sound := by
    intro released hdriven hfresh
    have hsound := tickIdle_sound level hdriven hfresh
    exact ⟨fun _ => hsound.1, hsound.2⟩
  cases hbus : phy.busState with
  | idle =>
    simp only [DaliBitbangPhy.tick, hbus]
    exact hidle _ (h.released (.inl hbus)) h.notDecoded
  | rx =>
    simp only [DaliBitbangPhy.tick, hbus]
    exact ⟨fun _ => tickRx_released level (h.released (.inr hbus)),
      tickRx_notDecoded level h.notDecoded⟩
  | tx =>
    simp only [DaliBitbangPhy.tick, hbus, tickTx, tickTxArmed]
    repeat' split
    · exact hidle _ rfl h.notDecoded
    all_goals
      constructor
      · simp [hbus, setBusIdle, enterCollisionTx, driveHalfBit]
      · exact h.notDecoded
  | collisionTx =>
    simp only [DaliBitbangPhy.tick, hbus, tickCollisionTx]
    repeat' split
    · exact ⟨by simp [hbus], h.notDecoded⟩
    · exact ⟨by simp [hbus], h.notDecoded⟩
    · exact ⟨fun _ => rfl, h.notDecoded⟩
    · exact hidle _ rfl h.notDecoded

theorem Sound.loadTx (h : phy.Sound) (halfbits : HalfBitBuffer) (answer : Bool) :
    (phy.loadTx halfbits answer).1.Sound := by
  unfold DaliBitbangPhy.loadTx
  split
  · exact h
  · exact ⟨by simp, h.notDecoded⟩

theorem Reachable.sound (h : phy.Reachable) : phy.Sound := by
  induction h with
  | new => exact ⟨fun _ => rfl, rfl⟩
  | tick level _ ih => exact ih.tick level
  | startTx halfbits _ ih =>
    unfold DaliBitbangPhy.startTx
    split
    · exact ih.loadTx halfbits false
    · exact ih
  | startAnswer halfbits _ ih =>
    unfold DaliBitbangPhy.startAnswer
    split
    · exact ih.loadTx halfbits true
    · exact ih
  | pollTxState _ ih =>
    unfold DaliBitbangPhy.pollTxState
    repeat' split
    all_goals exact ⟨ih.released, ih.notDecoded⟩
  | takeIdleAfterBreak _ ih => exact ⟨ih.released, ih.notDecoded⟩
  | acknowledgeRxFrame _ ih =>
    unfold DaliBitbangPhy.acknowledgeRxFrame
    split <;> exact ⟨ih.released, ih.notDecoded⟩
  | takeCompletedRxEvent _ ih =>
    unfold DaliBitbangPhy.takeCompletedRxEvent DaliBitbangPhy.acknowledgeRxFrame
    repeat' split
    all_goals exact ⟨ih.released, ih.notDecoded⟩
  | setCollisionPolicy policy _ ih => exact ⟨ih.released, ih.notDecoded⟩

/-!
## The levels of a frame
-/

def loopback (phy : DaliBitbangPhy) : DaliBitbangPhy := phy.tick phy.driven

def drive : DaliBitbangPhy -> Nat -> List Bool
  | _, 0 => []
  | phy, count + 1 => phy.loopback.driven :: drive phy.loopback count

/-- Sending half-bit `index`, which holds the line for `hold` more ticks. -/
structure Sending (phy : DaliBitbangPhy) (halfbits : HalfBitBuffer)
    (index hold : Nat) : Prop where
  busState : phy.busState = .tx
  txArmed : phy.txArmed = 0
  txSpCnt : phy.txSpCnt = hold
  txHb : phy.txHb = halfbits
  txHbCnt : phy.txHbCnt = index
  level : hold ≠ 0 -> phy.txHigh = phy.driven

variable {halfbits : HalfBitBuffer} {index : Nat}

theorem Sending.next (h : phy.Sending halfbits index 0) (hmore : index < halfbits.length)
    (hfits : halfbits.length <= 72) :
    phy.loopback.Sending halfbits (index + 1) 3 ∧
      phy.loopback.driven = !halfbits.halfBit index := by
  have hcount : wrappingAdd u8Max index 1 = index + 1 :=
    wrappingAdd_of_le (by simp only [u8Max]; omega)
  have hplace : index / 8 < 9 := by omega
  have hnot : ¬ halfbits.length <= index := Nat.not_le.mpr hmore
  simp [loopback, tick, noteLevel, h.busState, tickTx, h.txArmed, h.txSpCnt,
    h.txHb, h.txHbCnt, hnot, txCollisionDetected, hplace, driveHalfBit, hcount]
  exact ⟨rfl, rfl, rfl, rfl, rfl, fun _ => rfl⟩

theorem Sending.holds {hold : Nat} (h : phy.Sending halfbits index (hold + 1))
    (hmore : index < halfbits.length) :
    phy.loopback.Sending halfbits index hold ∧ phy.loopback.driven = phy.driven := by
  have hnot : ¬ halfbits.length <= index := Nat.not_le.mpr hmore
  have hlevel := h.level (Nat.succ_ne_zero hold)
  -- The line reads back what is driven, so no collision is seen.
  have hfree : (phy.noteLevel phy.driven).txCollisionDetected phy.driven =
      false := by
    cases hdriven : phy.driven <;> simp [txCollisionDetected, noteLevel, hlevel, hdriven]
  simp [loopback, tick, h.busState, tickTx, hfree]
  simp [noteLevel, h.txArmed, h.txSpCnt, h.txHb, h.txHbCnt, hnot]
  exact ⟨rfl, rfl, rfl, rfl, rfl, fun _ => hlevel⟩

/-- A half-bit with another one behind it holds the line for four ticks. -/
theorem Sending.drive (h : phy.Sending halfbits index 0) (hmore : index + 1 < halfbits.length)
    (hfits : halfbits.length <= 72) (count : Nat) :
    exists next : DaliBitbangPhy, next.Sending halfbits (index + 1) 0 ∧
      next.driven = (!halfbits.halfBit index) ∧ phy.drive (count + 4) =
        replicate 4 (!halfbits.halfBit index) ++ next.drive count := by
  obtain ⟨h1, hlevel1⟩ := h.next (by omega) hfits
  obtain ⟨h2, hlevel2⟩ := h1.holds hmore
  obtain ⟨h3, hlevel3⟩ := h2.holds hmore
  obtain ⟨h4, hlevel4⟩ := h3.holds hmore
  refine ⟨_, h4, by rw [hlevel4, hlevel3, hlevel2, hlevel1], ?_⟩
  simp only [DaliBitbangPhy.drive, hlevel4, hlevel3, hlevel2, hlevel1]
  rfl

theorem Sending.drive_list (h : phy.Sending halfbits index 0) (halves : List Bool)
    (hhalves : forall k, k < halves.length -> halfbits.halfBit (index + k) = halves.getD k false)
    (hmore : index + halves.length < halfbits.length) (hfits : halfbits.length <= 72)
    (count : Nat) :
    exists next : DaliBitbangPhy, next.Sending halfbits (index + halves.length) 0 ∧
      phy.drive (4 * halves.length + count) = halfBitLevels halves ++ next.drive count := by
  induction halves generalizing phy index with
  | nil => exact ⟨phy, h, by simp [halfBitLevels]⟩
  | cons dominant halves ih =>
    rw [length_cons] at hmore
    have hhead : halfbits.halfBit index = dominant := by
      simpa using hhalves 0 (by simp)
    obtain ⟨next, hnext, -, hdrive⟩ :=
      h.drive (by omega) hfits (4 * halves.length + count)
    obtain ⟨last, hlast, hrest⟩ := ih hnext
      (by
        intro k hk
        have hk' := hhalves (k + 1) (by simpa using hk)
        rw [getD_cons_succ] at hk'
        rw [<- hk']
        congr 1
        omega)
      (by omega)
    refine ⟨last, ?_, ?_⟩
    · rw [length_cons, show index + (halves.length + 1) = index + 1 + halves.length by omega]
      exact hlast
    · rw [length_cons, show 4 * (halves.length + 1) + count =
        4 * halves.length + count + 4 by omega, hdrive, hrest, hhead,
        halfBitLevels, halfBitLevels, flatMap_cons, append_assoc]

/-- Only recessive half-bits are left to send, or none. -/
structure Releasing (phy : DaliBitbangPhy) : Prop where
  driven : phy.driven = true
  quiet : phy.busState = .idle ∨
    phy.busState = .tx ∧ phy.txArmed = 0 ∧
      forall index, phy.txHbCnt <= index -> phy.txHb.halfBit index = false

theorem Releasing.loopback (h : phy.Releasing) : phy.loopback.Releasing := by
  have hdriven := h.driven
  rcases h.quiet with hbus | ⟨hbus, harmed, hrest⟩
  · simp only [DaliBitbangPhy.loopback, tick, hbus, hdriven, tickIdle, if_true]
    exact ⟨hdriven, .inl hbus⟩
  · have hfree : (phy.noteLevel true).txCollisionDetected true = false := by
      simp [txCollisionDetected]
    have hnoted : (phy.noteLevel true).txArmed = 0 := harmed
    simp only [DaliBitbangPhy.loopback, tick, hbus, hdriven, tickTx, hnoted,
      hfree, ne_eq, not_true_eq_false, if_false, Bool.false_eq_true]
    repeat' split
    · exact ⟨rfl, .inl rfl⟩
    · rename_i hplace
      have hcount : wrappingAdd u8Max phy.txHbCnt 1 = phy.txHbCnt + 1 :=
        wrappingAdd_of_le (by
          simp only [noteLevel] at hplace
          simp only [u8Max]
          omega)
      refine ⟨?_, .inr ⟨hbus, harmed, ?_⟩⟩
      · simp [driveHalfBit, noteLevel, hrest _ (Nat.le_refl _)]
      · intro index hindex
        simp only [driveHalfBit, noteLevel, hcount] at hindex
        exact hrest index (by omega)
    · exact ⟨rfl, .inl rfl⟩
    · exact ⟨hdriven, .inr ⟨hbus, rfl, hrest⟩⟩

theorem Releasing.drive (h : phy.Releasing) (count : Nat) :
    phy.drive count = replicate count true := by
  induction count generalizing phy with
  | zero => rfl
  | succ count ih =>
    rw [DaliBitbangPhy.drive, h.loopback.driven, ih h.loopback, replicate_succ]

theorem Sending.release (h : phy.Sending halfbits index 0) (hmore : index < halfbits.length)
    (hfits : halfbits.length <= 72)
    (hrest : forall later, index <= later -> halfbits.halfBit later = false)
    (count : Nat) : phy.drive count = replicate count true := by
  obtain ⟨hnext, hdriven⟩ := h.next hmore hfits
  rw [hrest index (Nat.le_refl _)] at hdriven
  have hreleasing : phy.loopback.Releasing := by
    refine ⟨hdriven, .inr ⟨hnext.busState, hnext.txArmed, ?_⟩⟩
    intro later hlater
    rw [hnext.txHbCnt] at hlater
    rw [hnext.txHb]
    exact hrest later (by omega)
  cases count with
  | zero => rfl
  | succ count =>
    rw [DaliBitbangPhy.drive, hdriven, hreleasing.drive, replicate_succ]
    rfl

/-- Loaded with a frame, with `lead` ticks to go before its first half-bit. -/
structure Armed (phy : DaliBitbangPhy) (halfbits : HalfBitBuffer)
    (lead : Nat) : Prop where
  busState : phy.busState = .tx
  driven : phy.driven = true
  txArmed : phy.txArmed = lead
  txSpCnt : phy.txSpCnt = 0
  txHb : phy.txHb = halfbits
  txHbCnt : phy.txHbCnt = 0

theorem Armed.drive {lead : Nat} (h : phy.Armed halfbits lead) (count : Nat) :
    exists next : DaliBitbangPhy, next.Sending halfbits 0 0 ∧
      phy.drive (lead + count) = replicate lead true ++ next.drive count := by
  induction lead generalizing phy with
  | zero =>
    exact ⟨phy, ⟨h.busState, h.txArmed, h.txSpCnt, h.txHb, h.txHbCnt,
      fun hhold => absurd rfl hhold⟩, by simp⟩
  | succ lead ih =>
    have hstep : phy.loopback = { phy.noteLevel true with txArmed := lead } := by
      simp [DaliBitbangPhy.loopback, tick, h.busState, h.driven, tickTx,
        tickTxArmed, noteLevel, h.txArmed]
    have hlater : phy.loopback.Armed halfbits lead := by
      rw [hstep]
      exact ⟨h.busState, h.driven, rfl, h.txSpCnt, h.txHb, h.txHbCnt⟩
    obtain ⟨next, hnext, hdrive⟩ := ih hlater
    refine ⟨next, hnext, ?_⟩
    rw [show lead + 1 + count = lead + count + 1 by omega, DaliBitbangPhy.drive, hdrive,
      hlater.driven, replicate_succ, cons_append]

theorem startTx_armed (hphy : phy.Reachable) (hidle : phy.busState = .idle)
    (halfbits : HalfBitBuffer) (hpos : 0 < halfbits.length) (hfits : halfbits.length <= 72) :
    (phy.startTx halfbits).2 ∧ (phy.startTx halfbits).1.Armed halfbits txArmLeadTicks := by
  have hloads : ¬ (halfbits.length = 0 ∨ maxDataHalfBits < halfbits.length) := by
    simp only [maxDataHalfBits]
    omega
  have hdriven := hphy.sound.released (.inl hidle)
  simp only [startTx, hidle, if_true, loadTx, hloads, if_false, true_and]
  exact ⟨rfl, hdriven, rfl, rfl, rfl, rfl⟩

/-- An idle layer accepts an encoded value and, undisturbed, drives its lead,
the levels of its frame and then a released line. -/
theorem drive_encode (hphy : phy.Reachable) (hidle : phy.busState = .idle) (data : BitVec 32)
    {width : Nat} (hwidth : width <= 33) :
    (phy.startTx (encode data width)).2 ∧ forall count, (phy.startTx (encode data width)).1.drive
            (txArmLeadTicks + (8 * (width + 1) + count)) =
          replicate txArmLeadTicks true ++
            (frameLevels (bitsOf data.toNat width) ++ replicate count true) := by
  have hholds := encode_holds data hwidth
  have hlength : (encode data width).length = 2 * width + 6 := by
    rw [hholds.length_eq, length_frameHalfBits, length_bitsOf]
  obtain ⟨haccepted, harmed⟩ := startTx_armed hphy hidle (encode data width) (by omega) (by omega)
  refine ⟨haccepted, ?_⟩
  intro count
  obtain ⟨first, hfirst, hlead⟩ := harmed.drive (8 * (width + 1) + count)
  rw [hlead]
  -- Everything before the stop bits is one list of half-bits.
  let halves := [true, false] ++ (bitsOf data.toNat width).flatMap bitHalves
  have hhalves : halves.length = 2 * width + 2 := by
    simp [halves, -length_flatMap]
  have hbits : forall k, (encode data width).halfBit k =
      (halves ++ replicate 4 false).getD k false := hholds.halfBit_eq
  obtain ⟨last, hlast, hdrive⟩ := hfirst.drive_list halves
    (by
      intro k hk
      rw [Nat.zero_add, hbits, getD_append _ _ _ _ hk])
    (by omega) (by omega) count
  rw [show 8 * (width + 1) + count = 4 * halves.length + count by omega, hdrive]
  rw [hlast.release (by omega) (by omega)
    (by
      intro later hlater
      rw [hbits, getD_append_right _ _ _ _ (by omega)]
      exact getElem?_getD_replicate_default_eq _ _ _)]
  simp only [halves, halfBitLevels_append, halfBitLevels_bits]
  rfl

end DaliBitbangPhy

end Oxidali.Phy
