import Oxidali.Phy.Transmit
import Oxidali.Phy.TxPhase
import Oxidali.Lib.Runs

/-!
# What the layer does to the line

The layer that is handed encoded frames only is busy exactly while it transmits,
releases the line whenever it listens, and never holds it dominant for longer
than a collision break lasts.
-/

namespace Oxidali.Phy

open Words Runs HalfBitBuffer List

/-!
## Runs of dominant half-bits
-/

namespace HalfBitBuffer

theorem length_pushBits (data : BitVec 32) (remaining : Nat) (buffer : HalfBitBuffer)
    (h : buffer.length <= u8Max) :
    (pushBits data remaining buffer).length =
      saturatingAdd u8Max buffer.length (2 * remaining) := by
  induction remaining generalizing buffer with
  | zero => exact (Nat.min_eq_left h).symm
  | succ remaining ih =>
    have hstep : (buffer.pushPair (dataPair ((data >>> remaining) &&& 1#32 != 0#32))).length =
          saturatingAdd u8Max buffer.length 2 := rfl
    rw [pushBits, ih _ (by rw [hstep]; exact Nat.min_le_right _ _), hstep]
    simp only [saturatingAdd]
    omega

/-- Only the frames of at most 33 bits fit the buffer. -/
theorem bitCount_le_of_fits {data : BitVec 32} {bitCount : Nat}
    (h : (encode data bitCount).length <= maxDataHalfBits) : bitCount <= 33 := by
  have hbits := length_pushBits data bitCount (empty.pushPair startPair) (by decide)
  have hlength : (encode data bitCount).length = saturatingAdd u8Max
      (saturatingAdd u8Max (pushBits data bitCount (empty.pushPair startPair)).length 2) 2 := rfl
  have hstart : (empty.pushPair startPair).length = 2 := rfl
  rw [hlength, hbits, hstart] at h
  simp only [saturatingAdd, u8Max, maxDataHalfBits] at h
  omega

/-- No pair of half-bits is dominant twice. -/
def Paired (buffer : HalfBitBuffer) : Prop :=
  forall pair, buffer.halfBit (2 * pair) = true -> buffer.halfBit (2 * pair + 1) = false

theorem Paired.not_three {buffer : HalfBitBuffer} (h : buffer.Paired) {index : Nat}
    (hfirst : buffer.halfBit index) (hsecond : buffer.halfBit (index + 1)) :
    buffer.halfBit (index + 2) = false := by
  rcases Nat.even_or_odd' index with ⟨pair, rfl | rfl⟩
  · rw [h pair hfirst] at hsecond
    cases hsecond
  · exact h (pair + 1) hsecond

theorem paired_halves (bits tail : List Bool) (htail : forall index, tail.getD index false = false)
    (pair : Nat) (h : (bits.flatMap bitHalves ++ tail).getD (2 * pair) false) :
    (bits.flatMap bitHalves ++ tail).getD (2 * pair + 1) false = false := by
  induction bits generalizing pair with
  | nil => exact htail _
  | cons one bits ih =>
    cases pair with
    | zero =>
      have hone : one := h
      rw [hone]
      rfl
    | succ pair => exact ih pair h

theorem encode_paired {data : BitVec 32} {bitCount : Nat}
    (h : (encode data bitCount).length <= maxDataHalfBits) : (encode data bitCount).Paired := by
  have hholds := encode_holds data (bitCount_le_of_fits h)
  have hframe : frameHalfBits (bitsOf data.toNat bitCount) =
      (true :: bitsOf data.toNat bitCount).flatMap bitHalves ++ replicate 4 false := rfl
  intro pair hpair
  rw [hholds.halfBit_eq, hframe] at hpair ⊢
  exact paired_halves _ _ (fun index => getElem?_getD_replicate_default_eq _ _ _) pair hpair

end HalfBitBuffer

namespace DaliBitbangPhy

/-!
## One tick
-/

/-- The ticks the half-bit before the one on the line was dominant. -/
def dominantBefore (phy : DaliBitbangPhy) : Nat :=
  if 2 <= phy.txHbCnt ∧ phy.txHb.halfBit (phy.txHbCnt - 2) = true then 4 else 0

theorem dominantBefore_le (phy : DaliBitbangPhy) : phy.dominantBefore <= 4 := by
  unfold dominantBefore
  split <;> decide

/-- What a layer that sends has done to the line: the half-bit it holds, and how
long the line has been dominant. -/
structure Holding (phy : DaliBitbangPhy) (low : Nat) : Prop where
  paired : phy.txHb.Paired
  fits : phy.txHb.length <= maxDataHalfBits
  armed : phy.txArmed ≠ 0 -> phy.txHbCnt = 0
  lead : phy.txHbCnt = 0 -> phy.driven = true ∧ phy.txSpCnt = 0
  hold : phy.txSpCnt <= 3
  level : 0 < phy.txHbCnt ->
    phy.txHigh = phy.driven ∧ phy.driven = !phy.txHb.halfBit (phy.txHbCnt - 1)
  low_le : low <= 4 - phy.txSpCnt + phy.dominantBefore

/-- The line is released but for the half-bits of a frame and the break, and has
been dominant for `low` ticks. -/
structure Driving (phy : DaliBitbangPhy) (low : Nat) : Prop where
  sound : phy.Sound
  busy_iff : phy.txBusy = true <-> phy.busState = .tx ∨ phy.busState = .collisionTx
  released : phy.driven = true -> low = 0
  sending : phy.busState = .tx -> phy.Holding low
  breaking : phy.busState = .collisionTx ->
    low <= phy.txSpCnt ∧ phy.txSpCnt < collisionCheckTick ∧ low <= collisionBreakTicks

variable {phy : DaliBitbangPhy} {low : Nat}

theorem Driving.low_le (h : phy.Driving low) : low <= collisionBreakTicks := by
  have hbreak : collisionBreakTicks = 12 := by decide
  cases hbus : phy.busState with
  | idle => rw [h.released (h.sound.released (.inl hbus))]; exact Nat.zero_le _
  | rx => rw [h.released (h.sound.released (.inr hbus))]; exact Nat.zero_le _
  | collisionTx => exact (h.breaking hbus).2.2
  | tx =>
    have hlow := (h.sending hbus).low_le
    have hbefore := phy.dominantBefore_le
    omega

theorem driving_of_listening {after : DaliBitbangPhy} (hsound : after.Sound)
    (hbusy : after.txBusy = false) (hbus : after.busState = .idle ∨ after.busState = .rx) :
    after.Driving (runAfter false low after.driven) := by
  have hdriven := hsound.released hbus
  have hrun : runAfter false low after.driven = 0 := by rw [hdriven]; rfl
  have hnot : ¬ (after.busState = .tx ∨ after.busState = .collisionTx) := by
    rcases hbus with hbus | hbus <;> rw [hbus] <;> decide
  refine ⟨hsound, ?_, fun _ => hrun, fun h => absurd (.inl h) hnot, fun h => absurd (.inr h) hnot⟩
  rw [hbusy]
  exact ⟨fun h => absurd h (by decide), fun h => absurd h hnot⟩

/-- Before a dominant half-bit the line has been dominant for one half-bit at
most. -/
theorem Holding.low_before (h : phy.Holding low) (hreleased : phy.driven -> low = 0)
    (hdominant : phy.txHb.halfBit phy.txHbCnt) :
    low <= if 0 < phy.txHbCnt ∧ phy.txHb.halfBit (phy.txHbCnt - 1) then 4 else 0 := by
  rcases Nat.eq_zero_or_pos phy.txHbCnt with hnone | hpos
  · rw [hreleased (h.lead hnone).1]
    exact Nat.zero_le _
  · have hlow := h.low_le
    have hlevel := (h.level hpos).2
    cases hlast : phy.txHb.halfBit (phy.txHbCnt - 1) with
    | false =>
      rw [hlast] at hlevel
      rw [hreleased hlevel]
      exact Nat.zero_le _
    | true =>
      have hnone : phy.dominantBefore = 0 := by
        apply if_neg
        rintro ⟨htwo, hfirst⟩
        have hthree := h.paired.not_three hfirst (by
          rw [show phy.txHbCnt - 2 + 1 = phy.txHbCnt - 1 by omega]; exact hlast)
        rw [show phy.txHbCnt - 2 + 2 = phy.txHbCnt by omega, hdominant] at hthree
        cases hthree
      rw [if_pos ⟨hpos, rfl⟩]
      omega

/-- The next half-bit: two dominant ones in a row stand behind a recessive
one. -/
theorem Holding.driveHalfBit (h : phy.Holding low) (hreleased : phy.driven -> low = 0)
    (harmed : phy.txArmed = 0)
    (hmore : phy.txHbCnt < phy.txHb.length) : { phy.driveHalfBit with txSpCnt := 3 }.Holding
      (runAfter false low phy.driveHalfBit.driven) := by
  have hfits := h.fits
  have hcount : wrappingAdd u8Max phy.txHbCnt 1 = phy.txHbCnt + 1 :=
    wrappingAdd_of_le (by
      simp only [maxDataHalfBits] at hfits; simp only [u8Max]; omega)
  refine ⟨h.paired, h.fits, fun hnot => absurd harmed hnot, ?_, Nat.le_refl _, ?_, ?_⟩
  · intro hzero
    rw [DaliBitbangPhy.driveHalfBit, hcount] at hzero
    exact absurd hzero (Nat.succ_ne_zero _)
  · intro _
    simp only [DaliBitbangPhy.driveHalfBit, hcount, Nat.add_sub_cancel, and_self]
  · cases hdominant : phy.txHb.halfBit phy.txHbCnt with
    | false => simp [DaliBitbangPhy.driveHalfBit, hdominant, runAfter]
    | true =>
      have hrun : runAfter false low phy.driveHalfBit.driven = low + 1 := by
        simp [DaliBitbangPhy.driveHalfBit, hdominant, runAfter]
      have hbefore := h.low_before hreleased hdominant
      have hsame : dominantBefore { phy.driveHalfBit with txSpCnt := 3 } =
          if 0 < phy.txHbCnt ∧ phy.txHb.halfBit (phy.txHbCnt - 1) = true then 4 else 0 := by
        simp only [dominantBefore, DaliBitbangPhy.driveHalfBit, hcount]
        congr 1
        rw [eq_iff_iff]
        constructor
        · rintro ⟨htwo, hhalf⟩
          exact ⟨by omega, hhalf⟩
        · rintro ⟨hpos, hhalf⟩
          exact ⟨by omega, hhalf⟩
      rw [hrun, hsame]
      simp only
      omega

theorem Holding.holds (h : phy.Holding low) (hheld : phy.txSpCnt ≠ 0) :
    { phy with txSpCnt := phy.txSpCnt - 1 }.Holding (runAfter false low phy.driven) := by
  have hpos : 0 < phy.txHbCnt := by
    rcases Nat.eq_zero_or_pos phy.txHbCnt with hnone | hpos
    · exact absurd (h.lead hnone).2 hheld
    · exact hpos
  have hhold := h.hold
  have hlow := h.low_le
  refine ⟨h.paired, h.fits, h.armed, fun hzero => absurd hzero (Nat.ne_of_gt hpos),
    by simp only; omega, h.level, ?_⟩
  have hsame : dominantBefore { phy with txSpCnt := phy.txSpCnt - 1 } =
      phy.dominantBefore := rfl
  rw [hsame, runAfter]
  simp only
  split <;> omega

theorem Driving.marked (h : phy.Driving low) (lowRun highRun collision : Nat) (yielded : Bool) :
    { phy with
      lowRunTicks := lowRun
      highRunTicks := highRun
      txCollision := collision
      txYielded := yielded }.Driving low := by
  refine ⟨⟨h.sound.released, h.sound.notDecoded⟩, h.busy_iff, h.released, ?_, h.breaking⟩
  intro hbus
  have hsend := h.sending hbus
  exact ⟨hsend.paired, hsend.fits, hsend.armed, hsend.lead, hsend.hold, hsend.level, hsend.low_le⟩

theorem Driving.sends (h : phy.Driving low) (hbus : phy.busState = .tx) {after : DaliBitbangPhy}
    (hsound : after.Sound) (hbusy : after.txBusy = phy.txBusy) (hafter : after.busState = .tx)
    {run : Nat} (hreleased : after.driven -> run = 0)
    (hholding : after.Holding run) : after.Driving run := by
  refine ⟨hsound, ?_, hreleased, fun _ => hholding, ?_⟩
  · rw [hbusy, h.busy_iff, hbus, hafter]
  · intro hbreak
    rw [hafter] at hbreak
    cases hbreak

theorem runAfter_released {driven : Bool} (h : driven) : runAfter false low driven = 0 := by
  rw [h]
  rfl

/-- A collision is seen only while the layer itself drives nothing. -/
theorem Holding.driven_of_collision (h : phy.Holding low) {level : Bool}
    (hcollision : phy.txCollisionDetected level) : phy.driven := by
  simp only [txCollisionDetected, Bool.and_eq_true, Bool.or_eq_true,
    decide_eq_true_eq] at hcollision
  rcases hcollision with ⟨⟨⟨_, hhigh⟩, _⟩, hheld⟩
  have hpos : 0 < phy.txHbCnt := by
    apply Nat.pos_of_ne_zero
    intro hnone
    rw [(h.lead hnone).2] at hheld
    rcases hheld with hheld | hheld <;> cases hheld
  rw [<- (h.level hpos).1, hhigh]

theorem Driving.tickTx (h : phy.Driving low) (hbus : phy.busState = .tx) (level : Bool)
    (hsound : (phy.tickTx level).Sound) :
    (phy.tickTx level).Driving (runAfter false low (phy.tickTx level).driven) := by
  have hsend := h.sending hbus
  revert hsound
  unfold DaliBitbangPhy.tickTx
  split
  next harmed =>
    unfold tickTxArmed
    split
    next hyields =>
      intro hsound
      have hidle := tickIdle_released { phy with txYielded := true, txArmed := 0 } level
      exact driving_of_listening hsound hidle.2.2.2.2.1 (.inl hidle.2.2.2.2.2)
    next hwaits =>
      intro hsound
      have hlead := hsend.lead (hsend.armed harmed)
      have hrun : runAfter false low phy.driven = 0 := runAfter_released hlead.1
      refine h.sends hbus hsound rfl hbus (fun _ => hrun) ?_
      rw [hrun]
      exact ⟨hsend.paired, hsend.fits, fun _ => hsend.armed harmed, hsend.lead,
        hsend.hold, hsend.level, Nat.zero_le _⟩
  next harmed =>
    rw [not_not] at harmed
    split
    next hend =>
      intro hsound
      exact driving_of_listening hsound rfl (.inl rfl)
    next hmore =>
      split
      next hcollision =>
        intro hsound
        have hdriven := hsend.driven_of_collision hcollision
        have hrun : runAfter false low phy.driven = 0 :=
          runAfter_released hdriven
        have hbusy := h.busy_iff.mpr (.inl hbus)
        refine ⟨hsound, ⟨fun _ => .inr rfl, fun _ => hbusy⟩, fun _ => hrun, nofun, fun _ => ?_⟩
        exact ⟨hrun.trans_le (Nat.zero_le _), show 0 < collisionCheckTick by decide,
          hrun.trans_le (Nat.zero_le _)⟩
      next hfree =>
        split
        next hheld =>
          split
          next hinside =>
            intro hsound
            refine h.sends hbus hsound rfl hbus runAfter_released ?_
            exact hsend.driveHalfBit h.released harmed (Nat.lt_of_not_le hmore)
          next houtside =>
            intro hsound
            exact driving_of_listening hsound rfl (.inl rfl)
        next hheld =>
          intro hsound
          refine h.sends hbus hsound rfl hbus runAfter_released ?_
          exact hsend.holds hheld

theorem Driving.tickCollisionTx (h : phy.Driving low) (hbus : phy.busState = .collisionTx)
    (level : Bool) (hsound : (phy.tickCollisionTx level).Sound) :
    (phy.tickCollisionTx level).Driving
      (runAfter false low (phy.tickCollisionTx level).driven) := by
  rcases h.breaking hbus with ⟨hlow, hcount, _⟩
  have hcheck : collisionCheckTick = 14 := by decide
  have hbreak : collisionBreakTicks = 12 := by decide
  have hnext : wrappingAdd u8Max phy.txSpCnt 1 = phy.txSpCnt + 1 :=
    wrappingAdd_of_le (by simp only [u8Max]; omega)
  have hbusy := h.busy_iff.mpr (.inr hbus)
  revert hsound
  unfold DaliBitbangPhy.tickCollisionTx
  rw [hnext]
  simp only
  split
  next hbreaks =>
    intro hsound
    have hrun : runAfter false low false = low + 1 := rfl
    refine ⟨hsound, ⟨fun _ => .inr hbus, fun _ => hbusy⟩, ?_, ?_, fun _ => ?_⟩
    · rintro ⟨⟩
    · intro hsends
      rw [hbus] at hsends
      cases hsends
    · rw [hrun]
      exact ⟨Nat.succ_le_succ hlow, show phy.txSpCnt + 1 < collisionCheckTick by omega, by omega⟩
  next hbreaks =>
    split
    next hwaits =>
      intro hsound
      have hrun : runAfter false low true = 0 := rfl
      refine ⟨hsound, ⟨fun _ => .inr hbus, fun _ => hbusy⟩, fun _ => hrun, ?_, fun _ => ?_⟩
      · intro hsends
        rw [hbus] at hsends
        cases hsends
      · exact ⟨Nat.zero_le _, hwaits, Nat.zero_le _⟩
    next hchecks =>
      split
      next hhigh =>
        intro hsound
        exact driving_of_listening hsound rfl (.inl rfl)
      next hlow =>
        intro hsound
        have hidle := tickIdle_released
          { phy with
            txSpCnt := phy.txSpCnt + 1
            driven := true
            txIdleAfterBreak := level } level
        exact driving_of_listening hsound hidle.2.2.2.2.1 (.inl hidle.2.2.2.2.2)

theorem Driving.tick (h : phy.Driving low) (level : Bool) :
    (phy.tick level).Driving (runAfter false low (phy.tick level).driven) := by
  have hsound := h.sound.tick level
  have hnoted : (phy.noteLevel level).Driving low := h.marked _ _ _ _
  have hquiet : phy.busState = .idle ∨ phy.busState = .rx -> phy.txBusy = false := by
    intro hbus
    rw [Bool.eq_false_iff, ne_eq, h.busy_iff]
    rcases hbus with hbus | hbus <;> rw [hbus] <;> decide
  cases hbus : phy.busState with
  | idle =>
    have hframe := tickIdle_frame level
      (show (phy.noteLevel level).busState = .idle from hbus) (hquiet (.inl hbus))
    simp only [DaliBitbangPhy.tick, hbus] at hsound ⊢
    exact driving_of_listening hsound hframe.2.1 hframe.2.2
  | rx =>
    have hframe := (tickRx_frame (phy.noteLevel level) level).2 hbus (hquiet (.inr hbus))
    simp only [DaliBitbangPhy.tick, hbus] at hsound ⊢
    exact driving_of_listening hsound hframe.1 hframe.2
  | tx =>
    simp only [DaliBitbangPhy.tick, hbus] at hsound ⊢
    exact hnoted.tickTx hbus level hsound
  | collisionTx =>
    simp only [DaliBitbangPhy.tick, hbus] at hsound ⊢
    exact hnoted.tickCollisionTx hbus level hsound

/-!
## Whole runs
-/

theorem Driving.loadTx (h : phy.Driving low) (hdriven : phy.driven) (data : BitVec 32)
    (bitCount : Nat) (answer : Bool) :
    (phy.loadTx (encode data bitCount) answer).1.Driving low := by
  have hsound := h.sound.loadTx (encode data bitCount) answer
  revert hsound
  unfold DaliBitbangPhy.loadTx
  split
  · intro _
    exact h
  next hfits =>
    intro hsound
    rw [not_or, Nat.not_lt] at hfits
    refine ⟨hsound, ⟨fun _ => .inl rfl, fun _ => rfl⟩, h.released, fun _ => ?_, nofun⟩
    refine ⟨encode_paired hfits.2, hfits.2, fun _ => rfl,
      fun _ => ⟨hdriven, rfl⟩, Nat.zero_le _, nofun, ?_⟩
    rw [h.released hdriven]
    exact Nat.zero_le _

/-- The states of a layer that is ticked at any levels, asked to send encoded
frames and polled, with the levels it drove after each tick. -/
inductive Drives : DaliBitbangPhy -> List Bool -> Prop where
  | new (policy : CollisionPolicy) : Drives (new.setCollisionPolicy policy) []
  | tick {phy : DaliBitbangPhy} {driven : List Bool} (level : Bool) :
      Drives phy driven -> Drives (phy.tick level) (driven ++ [(phy.tick level).driven])
  | startTx {phy : DaliBitbangPhy} {driven : List Bool} (data : BitVec 32)
      (bitCount : Nat) : Drives phy driven -> Drives (phy.startTx (encode data bitCount)).1 driven
  | startAnswer {phy : DaliBitbangPhy} {driven : List Bool} (data : BitVec 32)
      (bitCount : Nat) : Drives phy driven ->
        Drives (phy.startAnswer (encode data bitCount)).1 driven
  | pollTxState {phy : DaliBitbangPhy} {driven : List Bool} :
      Drives phy driven -> Drives phy.pollTxState.1 driven

theorem Drives.driving {driven : List Bool} (h : Drives phy driven) :
    phy.Driving (runLength false driven) := by
  induction h with
  | new policy =>
    refine ⟨⟨fun _ => rfl, rfl⟩, ⟨nofun, ?_⟩, fun _ => rfl, nofun, nofun⟩
    rintro (hbus | hbus) <;> cases hbus
  | tick level _ ih =>
    rw [runLength_concat]
    exact ih.tick level
  | startTx data bitCount _ ih =>
    unfold DaliBitbangPhy.startTx
    split
    next hidle =>
      exact ih.loadTx (ih.sound.released (.inl hidle)) data bitCount false
    next => exact ih
  | startAnswer data bitCount _ ih =>
    unfold DaliBitbangPhy.startAnswer
    split
    next hbus =>
      exact ih.loadTx (ih.sound.released hbus) data bitCount true
    next => exact ih
  | pollTxState _ ih =>
    unfold DaliBitbangPhy.pollTxState
    repeat' split
    · exact ih.marked _ _ _ false
    · exact ih.marked _ _ 0 _
    · exact ih
    · exact ih

theorem Drives.no_long_run {driven : List Bool} (h : Drives phy driven) :
    ¬ replicate (collisionBreakTicks + 1) false <:+: driven := by
  induction h with
  | new policy => decide
  | tick level hdrives ih =>
    intro hlong
    rcases replicate_infix_concat hlong with hbefore | hnow
    · exact ih hbefore
    · exact absurd (Drives.tick level hdrives).driving.low_le (Nat.not_le.mpr hnow)
  | startTx data bitCount _ ih | startAnswer data bitCount _ ih | pollTxState _ ih =>
    exact ih

/-- Whatever the line does and whenever frames are started and the outcome is
polled: busy is transmitting, listening releases the line, and the line is never
driven dominant for more than a break. -/
theorem drives_within_break {driven : List Bool} (h : Drives phy driven) :
    (phy.txBusy = true <-> phy.busState = .tx ∨ phy.busState = .collisionTx) ∧
      (phy.busState = .idle ∨ phy.busState = .rx -> phy.driven = true) ∧
      ¬ replicate (collisionBreakTicks + 1) false <:+: driven :=
  ⟨h.driving.busy_iff, h.driving.sound.released, h.no_long_run⟩

/-- What is driven while the line shows the levels. -/
def drivenUnder (phy : DaliBitbangPhy) : List Bool -> List Bool
  | [] => []
  | level :: rest => (phy.tick level).driven :: drivenUnder (phy.tick level) rest

theorem Drives.ticks {driven : List Bool} (h : Drives phy driven) (levels : List Bool) :
    Drives (phy.ticks levels) (driven ++ drivenUnder phy levels) := by
  induction levels generalizing phy driven with
  | nil => simpa [drivenUnder] using h
  | cons level rest ih => simpa [drivenUnder] using ih (h.tick level)

/-- A frame meets a dominant line in its first recessive half-bit, and the break is driven
to its end. -/
theorem started_within_break :
    let started := ((new.setCollisionPolicy .on).startTx (encode 0xA5 8)).1
    let levels := replicate 9 true ++ replicate 13 false
    (started.ticks levels).busState = .collisionTx ∧
      replicate collisionBreakTicks false <:+ drivenUnder started levels ∧
      ¬ replicate (collisionBreakTicks + 1) false <:+: drivenUnder started levels := by
  intro started levels
  have hrun := ((Drives.new .on).startTx 0xA5 8).ticks levels
  rw [nil_append] at hrun
  exact ⟨by decide, by decide, (drives_within_break hrun).2.2⟩

end DaliBitbangPhy
end Oxidali.Phy
