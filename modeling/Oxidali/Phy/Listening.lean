import Oxidali.Phy.Transmit
import Oxidali.Lib.Runs

/-!
# A layer that only receives

Whatever the line does, a capture opens with the second of two dominant ticks,
holds every level from the first of them on, and closes with the sixteenth
recessive tick in a row.  The position in the buffer saturates, so a line that
does not rest for that long overwrites its last byte and nothing behind it.
-/

namespace Oxidali.Phy

open Words Runs List

namespace DaliBitbangPhy

/-- The layers that were only ticked, at these levels, and whose captures may
have been taken in between. -/
inductive Hears : List Bool -> DaliBitbangPhy -> Prop where
  | new (policy : CollisionPolicy) : Hears [] (new.setCollisionPolicy policy)
  | tick {levels : List Bool} {phy : DaliBitbangPhy} (level : Bool) :
      Hears levels phy -> Hears (levels ++ [level]) (phy.tick level)
  | taken {levels : List Bool} {phy : DaliBitbangPhy} :
      Hears levels phy -> Hears levels phy.takeCompletedRxEvent.1

variable {levels : List Bool} {phy : DaliBitbangPhy}

theorem Hears.reachable (h : Hears levels phy) : phy.Reachable := by
  induction h with
  | new policy => exact .setCollisionPolicy policy .new
  | tick level _ ih => exact .tick level ih
  | taken _ ih => exact .takeCompletedRxEvent ih

theorem Hears.ticks (h : Hears levels phy) (more : List Bool) :
    Hears (levels ++ more) (phy.ticks more) := by
  induction more generalizing levels phy with
  | nil => simpa using h
  | cons level more ih =>
    have hrest := ih (h.tick level)
    rwa [append_assoc] at hrest

/-- Nothing is captured, and the line is not dominant. -/
def Paused (levels : List Bool) : Prop :=
  exists phy, Hears levels phy ∧ phy.busState = .idle ∧ phy.rxDebounce = 0

/-- Levels of a capture that has not closed. -/
structure OpenCapture (captured : List Bool) : Prop where
  opens : [false, false] <+: captured
  going : forall before, before <+: captured -> runLength true before < rxIdleLineHighTicks

/-- The layer has captured these levels, as far as its buffer reaches. -/
structure Capturing (phy : DaliBitbangPhy) (captured : List Bool) : Prop where
  busState : phy.busState = .rx
  rxState : phy.rxState = .receiving
  rxPos_le : phy.rxPos <= maxRxIdx
  rxIdle : phy.rxIdle = runLength true captured
  short : captured.length / 8 < maxRxIdx ->
    phy.Receiving (captured.foldl packStep ([], [])) (runLength true captured)

inductive Listens (levels : List Bool) (phy : DaliBitbangPhy) : Prop where
  | quiet (hbus : phy.busState = .idle) (hdebounce : phy.rxDebounce = 0)
  | starting (hbus : phy.busState = .idle) (hdebounce : phy.rxDebounce = 1)
      (before : List Bool) (hlevels : levels = before ++ [false])
      (hpaused : Paused before)
  | capturing (before captured : List Bool) (hlevels : levels = before ++ captured)
      (hpaused : Paused before) (hopen : OpenCapture captured)
      (hcapturing : phy.Capturing captured)

/-!
## One tick
-/

theorem shiftSample_rxPos_le (level : Bool)
    (h : phy.rxPos <= maxRxIdx) : (phy.shiftSample level).rxPos <= maxRxIdx := by
  simp only [shiftSample]
  split
  · exact Nat.min_le_right _ _
  · exact h

variable {phy : DaliBitbangPhy} {captured : List Bool} {level : Bool}

theorem OpenCapture.concat (h : OpenCapture captured)
    (hgoing : runLength true (captured ++ [level]) < rxIdleLineHighTicks) :
    OpenCapture (captured ++ [level]) := by
  refine ⟨h.opens.trans (prefix_append _ _), ?_⟩
  intro before hbefore
  rcases prefix_concat_iff.mp hbefore with rfl | hshorter
  · exact hgoing
  · exact h.going before hshorter

section

variable (h : phy.Capturing captured)
include h

theorem Capturing.tick_eq (level : Bool) : phy.tick level = (phy.noteLevel level).tickRx level := by
  simp [DaliBitbangPhy.tick, h.busState]

theorem Capturing.idle_eq (hopen : OpenCapture captured) :
    saturatingAdd u8Max ((phy.noteLevel true).shiftSample true).rxIdle 1 =
      runLength true captured + 1 := by
  have hrun := hopen.going captured prefix_rfl
  simp only [rxIdleLineHighTicks] at hrun
  rw [shiftSample_rxIdle, noteLevel_rxIdle, h.rxIdle]
  exact saturatingAdd_of_le (by simp only [u8Max]; omega)

theorem Capturing.going (hopen : OpenCapture captured)
    (hgoing : runLength true (captured ++ [level]) < rxIdleLineHighTicks) :
    (phy.tick level).Capturing (captured ++ [level]) ∧ (phy.tick level).lastRx = phy.lastRx := by
  have hpos : ((phy.noteLevel level).shiftSample level).rxPos <= maxRxIdx :=
    shiftSample_rxPos_le level h.rxPos_le
  have hrun := hgoing
  rw [runLength_concat] at hrun
  have hshort : (captured ++ [level]).length / 8 < maxRxIdx ->
      (phy.tick level).Receiving ((captured ++ [level]).foldl packStep ([], []))
        (runLength true (captured ++ [level])) := by
    intro hlength
    rw [length_append, length_singleton] at hlength
    have hreceiving := h.short (by omega)
    rw [hreceiving.tick_eq, foldl_append, runLength_concat]
    exact (hreceiving.noteLevel level).tickRx
      (by rw [(length_foldl_packStep_eq captured).1]; omega) hrun
  have hstate : (phy.tick level).busState = .rx ∧
      (phy.tick level).rxState = .receiving ∧ (phy.tick level).rxPos <= maxRxIdx ∧
      (phy.tick level).rxIdle = runLength true (captured ++ [level]) ∧
      (phy.tick level).lastRx = phy.lastRx := by
    rw [h.tick_eq, runLength_concat]
    cases level with
    | false =>
      simp only [tickRx, Bool.false_eq_true, if_false]
      refine ⟨?_, ?_, hpos, rfl, ?_⟩
      · simp [h.busState]
      · simp [h.rxState]
      · simp
    | true =>
      have hwait : ¬ rxIdleLineHighTicks <= runLength true captured + 1 :=
        Nat.not_le.mpr hrun
      simp only [tickRx, if_true, h.idle_eq hopen, hwait, if_false]
      refine ⟨?_, ?_, hpos, rfl, ?_⟩
      · simp [h.busState]
      · simp [h.rxState]
      · simp
  rcases hstate with ⟨hbus, hrx, hplace, hidle, hlast⟩
  exact ⟨⟨hbus, hrx, hplace, hidle, hshort⟩, hlast⟩

theorem Capturing.closes (hopen : OpenCapture captured)
    (hdone : rxIdleLineHighTicks <= runLength true (captured ++ [level])) :
    (phy.tick level).busState = .idle ∧ (phy.tick level).rxDebounce = 0 ∧
      (phy.tick level).lastRx.sampleCount <= daliRxSampleBufLen ∧
      ((captured ++ [level]).length / 8 < maxRxIdx -> (phy.tick level).Captured
          (((captured ++ [level]).foldl packStep ([], [])).1 ++ [peekIdle])) := by
  have hbefore := hopen.going captured prefix_rfl
  rw [runLength_concat, runAfter] at hdone
  cases level with
  | false =>
    rw [if_neg (by decide)] at hdone
    exact absurd hdone (by decide)
  | true =>
    simp only [if_true] at hdone
    have hpos : ((phy.noteLevel true).shiftSample true).rxPos <= maxRxIdx :=
      shiftSample_rxPos_le true h.rxPos_le
    have hcount : saturatingAdd u16Max
        ((phy.noteLevel true).shiftSample true).rxPos 1 <= daliRxSampleBufLen :=
      Nat.le_trans (Nat.min_le_left _ _) (Nat.succ_le_succ hpos)
    have hstate : (phy.tick true).busState = .idle ∧ (phy.tick true).rxDebounce = 0 ∧
        (phy.tick true).lastRx.sampleCount <= daliRxSampleBufLen := by
      rw [h.tick_eq]
      simp only [tickRx, if_true, h.idle_eq hopen, hdone, completeRx, finishRxAndNotify, setBusIdle]
      exact ⟨trivial, trivial, hcount⟩
    refine ⟨hstate.1, hstate.2.1, hstate.2.2, ?_⟩
    intro hlength
    rw [length_append, length_singleton] at hlength
    have hreceiving := h.short (by omega)
    have hfifteen : runLength true captured = 15 := by
      simp only [rxIdleLineHighTicks] at hbefore hdone
      omega
    rw [hfifteen] at hreceiving
    rw [foldl_append]
    exact hreceiving.complete (by rw [(length_foldl_packStep_eq captured).1]; omega)

end

theorem tickIdle_lastRx (phy : DaliBitbangPhy) (level : Bool) :
    (phy.tickIdle level).lastRx = phy.lastRx := by
  have hrun : forall count (receiving : DaliBitbangPhy),
      ((fun receiving => tickRx receiving false)^[count] receiving).lastRx =
        receiving.lastRx := by
    intro count
    induction count with
    | zero =>
      intro receiving
      rfl
    | succ count ih =>
      intro receiving
      rw [Function.iterate_succ_apply, ih]
      simp [tickRx]
  unfold tickIdle
  split
  · rfl
  · simp only
    split
    · rw [hrun]
      rfl
    · rfl

/-- An idle layer that is ticked: the second of two dominant ticks opens a
capture, and nothing else does. -/
theorem Hears.tick_idle (h : Hears levels phy) (hidle : phy.busState = .idle)
    (hquiet : phy.rxDebounce = 0 ∨ phy.rxDebounce = 1 ∧
      exists before, levels = before ++ [false] ∧ Paused before) (level : Bool) :
    Listens (levels ++ [level]) (phy.tick level) := by
  cases level with
  | true =>
    apply Listens.quiet
    · simp [DaliBitbangPhy.tick, hidle, tickIdle]
    · simp [DaliBitbangPhy.tick, hidle, tickIdle]
  | false =>
    rcases hquiet with hzero | ⟨hone, before, hlevels, hpaused⟩
    · have htick : phy.tick false = { phy.noteLevel false with rxDebounce := 1 } := by
        simp [DaliBitbangPhy.tick, hidle, tickIdle, DaliBitbangPhy.noteLevel, hzero,
          saturatingAdd, u8Max, rxStartDebounceTicks]
      rw [htick]
      exact .starting hidle rfl levels rfl ⟨phy, h, hidle, hzero⟩
    · have hreceiving := receiving_second hidle hone h.reachable.sound.notDecoded
      apply Listens.capturing before [false, false] (by rw [hlevels]; simp) hpaused
      · refine ⟨prefix_rfl, ?_⟩
        intro shorter hshorter
        exact Nat.lt_of_le_of_lt (Nat.le_trans (runLength_le_length true shorter)
          hshorter.length_le) (by decide)
      · exact ⟨hreceiving.busState, hreceiving.rxState,
          hreceiving.packing.rxPos.trans_le (Nat.zero_le _), hreceiving.rxIdle, fun _ => hreceiving⟩

/-!
## Whole runs
-/

theorem Listens.taken (h : Listens levels phy) : Listens levels phy.takeCompletedRxEvent.1 := by
  have hsame : phy.takeCompletedRxEvent.1.busState = phy.busState ∧
      phy.takeCompletedRxEvent.1.rxDebounce = phy.rxDebounce := by
    unfold takeCompletedRxEvent acknowledgeRxFrame
    repeat' split
    all_goals exact ⟨rfl, rfl⟩
  cases h with
  | quiet hbus hdebounce =>
    exact .quiet (hsame.1.trans hbus) (hsame.2.trans hdebounce)
  | starting hbus hdebounce before hlevels hpaused =>
    exact .starting (hsame.1.trans hbus) (hsame.2.trans hdebounce) before hlevels hpaused
  | capturing before captured hlevels hpaused hopen hcapturing =>
    have hnone : phy.takeCompletedRxEvent.1 = phy := by
      simp [takeCompletedRxEvent, hcapturing.rxState]
    rw [hnone]
    exact .capturing before captured hlevels hpaused hopen hcapturing

theorem Hears.tick_listens (h : Hears levels phy) (hlistens : Listens levels phy)
    (hcount : phy.lastRx.sampleCount <= daliRxSampleBufLen) (level : Bool) :
    Listens (levels ++ [level]) (phy.tick level) ∧
      (phy.tick level).lastRx.sampleCount <= daliRxSampleBufLen := by
  have hlast : phy.busState = .idle -> (phy.tick level).lastRx = phy.lastRx := by
    intro hidle
    simp only [DaliBitbangPhy.tick, hidle]
    exact tickIdle_lastRx _ level
  cases hlistens with
  | quiet hbus hdebounce =>
    rw [hlast hbus]
    exact ⟨h.tick_idle hbus (.inl hdebounce) level, hcount⟩
  | starting hbus hdebounce before hlevels hpaused =>
    rw [hlast hbus]
    exact ⟨h.tick_idle hbus (.inr ⟨hdebounce, before, hlevels, hpaused⟩) level, hcount⟩
  | capturing before captured hlevels hpaused hopen hcapturing =>
    rcases Nat.lt_or_ge (runLength true (captured ++ [level])) rxIdleLineHighTicks
      with hgoing | hdone
    · rcases hcapturing.going hopen hgoing with ⟨hcapturing, hsame⟩
      rw [hsame]
      refine ⟨.capturing before (captured ++ [level]) ?_ hpaused
        (hopen.concat hgoing) hcapturing, hcount⟩
      rw [hlevels, append_assoc]
    · rcases hcapturing.closes hopen hdone with ⟨hbus, hdebounce, hbound, _⟩
      exact ⟨.quiet hbus hdebounce, hbound⟩

theorem Hears.listens (h : Hears levels phy) :
    Listens levels phy ∧ phy.lastRx.sampleCount <= daliRxSampleBufLen := by
  induction h with
  | new policy => exact ⟨.quiet rfl rfl, Nat.zero_le _⟩
  | tick level hhears ih => exact hhears.tick_listens ih.1 ih.2 level
  | taken _ ih =>
    refine ⟨ih.1.taken, ?_⟩
    unfold takeCompletedRxEvent acknowledgeRxFrame
    repeat' split
    all_goals exact ih.2

theorem Listens.of_rx (h : Listens levels phy) (hbus : phy.busState = .rx) :
    exists before captured, levels = before ++ captured ∧ Paused before ∧
      OpenCapture captured ∧ phy.Capturing captured := by
  cases h with
  | quiet hidle | starting hidle =>
    rw [hidle] at hbus
    cases hbus
  | capturing before captured hlevels hpaused hopen hcapturing =>
    exact ⟨before, captured, hlevels, hpaused, hopen, hcapturing⟩

theorem tick_opens (hidle : phy.busState = .idle)
    (hopen : (phy.tick level).busState = .rx) : level = false ∧ phy.rxDebounce ≠ 0 := by
  cases level with
  | true =>
    simp [DaliBitbangPhy.tick, hidle, tickIdle] at hopen
  | false =>
    refine ⟨rfl, ?_⟩
    intro hquiet
    simp [DaliBitbangPhy.tick, hidle, tickIdle, DaliBitbangPhy.noteLevel, hquiet,
      saturatingAdd, u8Max, rxStartDebounceTicks] at hopen

/-- What a closed capture holds: its levels, and recessive bits up to the end of
the byte they end in, or one byte of them. -/
theorem ticksOf_closed (hclosed : rxIdleLineHighTicks <= runLength true captured)
    (h : phy.Captured ((captured.foldl packStep ([], [])).1 ++ [peekIdle])) :
    exists pad, 1 <= pad ∧ pad <= 8 ∧ 8 * phy.lastRx.sampleCount = captured.length + pad ∧
      ticksOf phy.lastRx = captured ++ replicate pad true := by
  have hlengths := length_foldl_packStep_eq captured
  have hpacked := flatMap_byteTicks_packStep captured
  have hidle : byteTicks peekIdle = replicate 8 true := by decide
  refine ⟨8 - captured.length % 8, by omega, by omega, ?_, ?_⟩
  · rw [h.sampleCount, length_append, length_singleton, hlengths.1]
    omega
  · -- The bits left over are among the sixteen recessive ones at the end.
    have hpending : (captured.foldl packStep ([], [])).2 =
        replicate (captured.length % 8) true := by
      rw [eq_replicate_iff]
      refine ⟨hlengths.2, ?_⟩
      intro level hmem
      have hend := (replicate_suffix_iff true captured _).mpr hclosed
      have hrest : (captured.foldl packStep ([], [])).2 <:+ captured :=
        ⟨_, hpacked⟩
      have hinside := suffix_of_suffix_length_le hrest hend (by
        rw [hlengths.2, length_replicate]
        simp only [rxIdleLineHighTicks]
        omega)
      exact eq_of_mem_replicate (hinside.subset hmem)
    have hsplit : replicate 8 true = replicate (captured.length % 8) true ++
        replicate (8 - captured.length % 8) true := by
      rw [<- replicate_add]
      congr 1
      omega
    rw [h.ticksOf_eq, flatMap_append, flatMap_singleton, hidle, hsplit,
      <- hpending, <- append_assoc, hpacked]

/-- Every capture a layer that only receives completes, the places it writes
to, and what opens a capture. -/
theorem hears_captures {levels : List Bool} (h : Hears levels phy) (level : Bool) :
    (phy.busState = .rx -> (phy.tick level).busState = .idle ->
        exists before captured, levels ++ [level] = before ++ captured ∧
          Paused before ∧ [false, false] <+: captured ∧
          replicate rxIdleLineHighTicks true <:+ captured ∧
          (forall shorter, shorter <+: captured -> shorter ≠ captured ->
            ¬ replicate rxIdleLineHighTicks true <:+ shorter) ∧
          (captured.length / 8 < 63 -> (phy.tick level).rxState = .completed ∧
            exists pad, 1 <= pad ∧ pad <= 8 ∧
              8 * (phy.tick level).lastRx.sampleCount = captured.length + pad ∧
              ticksOf (phy.tick level).lastRx = captured ++ replicate pad true)) ∧
      (phy.busState = .rx -> min phy.rxPos maxRxIdx < 64 ∧ (phy.shiftSample level).rxPos < 64) ∧
      (phy.tick level).lastRx.sampleCount <= 64 ∧
      (phy.busState = .idle -> (phy.tick level).busState = .rx ->
        level = false ∧ exists before, levels = before ++ [false] ∧ Paused before) := by
  refine ⟨?_, ?_, (h.tick_listens h.listens.1 h.listens.2 level).2, ?_⟩
  · intro hbus hidle
    rcases h.listens.1.of_rx hbus with
      ⟨before, captured, hlevels, hpaused, hopen, hcapturing⟩
    rcases Nat.lt_or_ge (runLength true (captured ++ [level])) rxIdleLineHighTicks
      with hgoing | hdone
    · rw [(hcapturing.going hopen hgoing).1.busState] at hidle
      cases hidle
    · refine ⟨before, captured ++ [level], by rw [hlevels, append_assoc], hpaused,
        hopen.opens.trans (prefix_append _ _), (replicate_suffix_iff _ _ _).mpr hdone, ?_, ?_⟩
      · intro shorter hshorter hne hclosed
        rcases prefix_concat_iff.mp hshorter with heq | hinside
        · exact hne heq
        · exact absurd (hopen.going shorter hinside)
            (Nat.not_lt.mpr ((replicate_suffix_iff _ _ _).mp hclosed))
      · intro hshort
        have hcaptured := (hcapturing.closes hopen hdone).2.2.2 hshort
        exact ⟨hcaptured.rxState, ticksOf_closed hdone hcaptured⟩
  · intro hbus
    rcases h.listens.1.of_rx hbus with ⟨_, _, _, _, _, hcapturing⟩
    exact ⟨Nat.lt_succ_of_le (Nat.min_le_right _ _),
      Nat.lt_succ_of_le (shiftSample_rxPos_le level hcapturing.rxPos_le)⟩
  · intro hidle hopened
    rcases tick_opens hidle hopened with ⟨hlow, hpending⟩
    refine ⟨hlow, ?_⟩
    cases h.listens.1 with
    | quiet _ hdebounce => exact absurd hdebounce hpending
    | starting _ _ before hlevels hpaused => exact ⟨before, hlevels, hpaused⟩
    | capturing _ _ _ _ _ hcapturing =>
      rw [hcapturing.busState] at hidle
      cases hidle

/-- Two dominant ticks and sixteen recessive ones are one capture. -/
theorem short_pulse_captured :
    let heard := new.ticks ([false, false] ++ replicate 15 true)
    heard.busState = .rx ∧ (heard.tick true).busState = .idle ∧ exists before captured,
        ([false, false] ++ replicate 15 true) ++ [true] = before ++ captured ∧
          [false, false] <+: captured := by
  have hears : Hears ([false, false] ++ replicate 15 true)
      (new.ticks ([false, false] ++ replicate 15 true)) :=
    (Hears.new .auto).ticks _
  refine ⟨by decide, by decide, ?_⟩
  rcases (hears_captures hears true).1 (by decide) (by decide) with
    ⟨before, captured, hlevels, _, hopens, _⟩
  exact ⟨before, captured, hlevels, hopens⟩

end DaliBitbangPhy
end Oxidali.Phy
