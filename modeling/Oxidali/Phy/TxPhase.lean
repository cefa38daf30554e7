import Oxidali.Phy.Fsm

/-!
# The transmitter between its start and its report

The owner of the layer starts a frame, ticks until the layer is no longer
busy, and only then asks how the frame ended.  Under that discipline the
layer is busy exactly in its two transmitting states, does not receive while
it is, and what it says at the end is what happened to the frame.
-/

namespace Oxidali.Phy

open Words

namespace DaliBitbangPhy

structure Paced (phy : DaliBitbangPhy) : Prop where
  busy_iff : phy.txBusy = true <-> phy.busState = .tx ∨ phy.busState = .collisionTx
  deaf : phy.txBusy = true -> phy.rxState = .empty
  sending : phy.busState = .tx ->
    0 < phy.txHb.length ∧ phy.txHb.length <= HalfBitBuffer.maxDataHalfBits ∧
      phy.txHbCnt <= phy.txHb.length ∧ phy.txCollision = 0 ∧
      phy.txYielded = false
  breaking : phy.busState = .collisionTx -> phy.txCollision ≠ 0 ∧ phy.txYielded = false

theorem new_paced : new.Paced := by
  constructor <;> simp [new, blank, setBusIdle]

variable {phy : DaliBitbangPhy}

theorem Paced.idle (h : phy.Paced) (hbusy : phy.txBusy = false) :
    phy.busState = .idle ∨ phy.busState = .rx := by
  cases hbus : phy.busState with
  | idle => exact .inl rfl
  | rx => exact .inr rfl
  | tx =>
    rw [h.busy_iff.mpr (.inl hbus)] at hbusy
    cases hbusy
  | collisionTx =>
    rw [h.busy_iff.mpr (.inr hbus)] at hbusy
    cases hbusy

theorem paced_of_idle (hbusy : phy.txBusy = false)
    (hbus : phy.busState = .idle ∨ phy.busState = .rx) : phy.Paced := by
  constructor <;> rcases hbus with hbus | hbus <;> simp [hbusy, hbus]

/-!
## Listening
-/

/-- What one tick of reception can change of the transmitter's side. -/
theorem tickRx_frame (phy : DaliBitbangPhy) (level : Bool) :
    (phy.tickRx level).txHbCnt = phy.txHbCnt ∧
      (phy.busState = .rx -> phy.txBusy = false -> (phy.tickRx level).txBusy = false ∧
          ((phy.tickRx level).busState = .idle ∨ (phy.tickRx level).busState = .rx)) := by
  have hshift : (phy.shiftSample level).txHbCnt = phy.txHbCnt ∧
      (phy.shiftSample level).txBusy = phy.txBusy := by
    simp only [shiftSample]
    split <;> exact ⟨rfl, rfl⟩
  simp only [tickRx, completeRx, finishRxAndNotify, setBusIdle]
  split
  · split
    · exact ⟨hshift.1, fun _ _ => ⟨rfl, .inl rfl⟩⟩
    · refine ⟨hshift.1, fun hbus hbusy => ⟨hshift.2.trans hbusy, .inr ?_⟩⟩
      simpa using hbus
  · refine ⟨hshift.1, fun hbus hbusy => ⟨hshift.2.trans hbusy, .inr ?_⟩⟩
    simpa using hbus

/-- The first ticks of a reception never end it: they are all dominant. -/
theorem tickRx_low_frame (hbus : phy.busState = .rx) (hbusy : phy.txBusy = false) :
    (phy.tickRx false).txHbCnt = phy.txHbCnt ∧
      (phy.tickRx false).txBusy = false ∧ (phy.tickRx false).busState = .rx := by
  have hshift : (phy.shiftSample false).txHbCnt = phy.txHbCnt ∧
      (phy.shiftSample false).txBusy = phy.txBusy := by
    simp only [shiftSample]
    split <;> exact ⟨rfl, rfl⟩
  refine ⟨hshift.1, hshift.2.trans hbusy, ?_⟩
  simpa [tickRx] using hbus

theorem iterate_tickRx_low_frame (count : Nat) (hbus : phy.busState = .rx)
    (hbusy : phy.txBusy = false) :
    ((fun receiving => tickRx receiving false)^[count] phy).txHbCnt = phy.txHbCnt ∧
      ((fun receiving => tickRx receiving false)^[count] phy).txBusy = false ∧
      ((fun receiving => tickRx receiving false)^[count] phy).busState = .rx := by
  induction count generalizing phy with
  | zero => exact ⟨rfl, hbusy, hbus⟩
  | succ count ih =>
    have hfirst := tickRx_low_frame hbus hbusy
    have hrest := ih hfirst.2.2 hfirst.2.1
    exact ⟨hrest.1.trans hfirst.1, hrest.2⟩

theorem tickIdle_frame (level : Bool) (hbus : phy.busState = .idle) (hbusy : phy.txBusy = false) :
    (phy.tickIdle level).txHbCnt = phy.txHbCnt ∧ (phy.tickIdle level).txBusy = false ∧
      ((phy.tickIdle level).busState = .idle ∨ (phy.tickIdle level).busState = .rx) := by
  cases level with
  | true => exact ⟨rfl, hbusy, .inl hbus⟩
  | false =>
    simp only [tickIdle, Bool.false_eq_true, if_false]
    split
    · have hrun := iterate_tickRx_low_frame (saturatingAdd u8Max phy.rxDebounce 1)
        (show (enterRx { phy with
          rxDebounce := saturatingAdd u8Max phy.rxDebounce 1 }).busState = .rx
          from rfl) hbusy
      exact ⟨hrun.1, hrun.2.1, .inr hrun.2.2⟩
    · exact ⟨rfl, hbusy, .inl hbus⟩

/-- A line just released is not received on before it has been dominant for
two ticks. -/
theorem tickIdle_released (phy : DaliBitbangPhy) (level : Bool) :
    (phy.setBusIdle.tickIdle level).rxState = phy.rxState ∧
      (phy.setBusIdle.tickIdle level).txYielded = phy.txYielded ∧
      (phy.setBusIdle.tickIdle level).txCollision = phy.txCollision ∧
      (phy.setBusIdle.tickIdle level).txHbCnt = phy.txHbCnt ∧
      (phy.setBusIdle.tickIdle level).txBusy = false ∧
      (phy.setBusIdle.tickIdle level).busState = .idle := by
  cases level with
  | true => exact ⟨rfl, rfl, rfl, rfl, rfl, rfl⟩
  | false =>
    have hstill : ¬ rxStartDebounceTicks <= saturatingAdd u8Max 0 1 := by decide
    simp [tickIdle, setBusIdle, hstill]

/-!
## Transmitting

How a tick of a transmitting layer can go on: the layer holds the line, drives
the next half-bit, breaks off for a collision, or has ended.
-/

inductive TxOutcome (phy after : DaliBitbangPhy) : Prop where
  | holding (hcount : after.txHbCnt = phy.txHbCnt) (hpaced : after.Paced)
      (hbusy : after.txBusy = true)
  | driving (hcount : after.txHbCnt = phy.txHbCnt + 1) (hpaced : after.Paced)
      (hbus : after.busState = .tx)
  | breaking (hcount : after.txHbCnt = phy.txHbCnt) (hpaced : after.Paced)
      (hbus : after.busState = .collisionTx)
  | yielded (hcount : after.txHbCnt = phy.txHbCnt)
      (hbusy : after.txBusy = false) (hbus : after.busState = .idle)
      (hrx : after.rxState = .empty) (hend : after.txYielded = true)
  | collided (hcount : after.txHbCnt = phy.txHbCnt)
      (hbusy : after.txBusy = false) (hbus : after.busState = .idle)
      (hrx : after.rxState = .empty) (hyielded : after.txYielded = false)
      (hend : after.txCollision ≠ 0)
  | sent (hcount : after.txHbCnt = phy.txHbCnt)
      (hbusy : after.txBusy = false) (hbus : after.busState = .idle)
      (hrx : after.rxState = .empty) (hyielded : after.txYielded = false)
      (hclear : after.txCollision = 0) (hend : 0 < phy.txHbCnt)

theorem Paced.tickTx_outcome (h : phy.Paced) (hbus : phy.busState = .tx) (level : Bool) :
    TxOutcome phy ((phy.noteLevel level).tickTx level) := by
  have hbusy : phy.txBusy := h.busy_iff.mpr (.inl hbus)
  have hrx := h.deaf hbusy
  rcases h.sending hbus with ⟨hpos, hmax, hcnt, hclear, hyield⟩
  have hpaced : forall after : DaliBitbangPhy, after.txBusy ->
      after.busState = .tx -> after.rxState = .empty ->
      after.txHb = phy.txHb -> after.txHbCnt <= phy.txHb.length ->
      after.txCollision = 0 -> after.txYielded = false -> after.Paced := by
    intro after hbusy hbus hrx hhb hcnt hclear hyield
    constructor <;> simp [hbusy, hbus, hrx, hhb, hpos, hmax, hcnt, hclear, hyield]
  simp only [tickTx, tickTxArmed]
  split
  next harmed =>
    split
    next hlow =>
      have hreleased := tickIdle_released
        { phy.noteLevel level with txYielded := true, txArmed := 0 } level
      exact .yielded hreleased.2.2.2.1 hreleased.2.2.2.2.1
        hreleased.2.2.2.2.2 (hreleased.1.trans hrx) hreleased.2.1
    next hfree => exact .holding rfl (hpaced _ hbusy hbus hrx rfl hcnt hclear hyield) hbusy
  next harmed =>
    split
    next hend => exact .sent rfl rfl rfl hrx hyield hclear (by
      have hcount : (phy.noteLevel level).txHbCnt = phy.txHbCnt := rfl
      have hlength : (phy.noteLevel level).txHb.length = phy.txHb.length := rfl
      omega)
    next hmore =>
      split
      next hcollision =>
        refine .breaking rfl ?_ rfl
        constructor <;>
          simp [enterCollisionTx, noteLevel, hbusy, hrx, hclear, hyield, saturatingAdd, u8Max]
      next hown =>
        split
        next hnext =>
          have hlt : phy.txHbCnt < phy.txHb.length := Nat.lt_of_not_le hmore
          have hwrap : wrappingAdd u8Max phy.txHbCnt 1 = phy.txHbCnt + 1 := by
            apply wrappingAdd_of_le
            simp only [HalfBitBuffer.maxDataHalfBits] at hmax
            simp only [u8Max]
            omega
          split
          next hinside =>
            refine .driving hwrap (hpaced _ hbusy hbus hrx rfl ?_ hclear hyield) hbus
            exact hwrap.trans_le hlt
          next houtside =>
            simp only [HalfBitBuffer.maxDataHalfBits] at hmax
            have hcount : (phy.noteLevel level).txHbCnt = phy.txHbCnt := rfl
            omega
        next hhold =>
          exact .holding rfl (hpaced _ hbusy hbus hrx rfl hcnt hclear hyield) hbusy

theorem Paced.tickCollisionTx_outcome (h : phy.Paced) (hbus : phy.busState = .collisionTx)
    (level : Bool) : TxOutcome phy ((phy.noteLevel level).tickCollisionTx level) := by
  have hbusy : phy.txBusy := h.busy_iff.mpr (.inr hbus)
  have hrx := h.deaf hbusy
  rcases h.breaking hbus with ⟨hcollided, hyield⟩
  simp only [tickCollisionTx]
  split
  next hbreak =>
    refine .breaking rfl ?_ hbus
    constructor <;> simp [noteLevel, hbusy, hbus, hrx, hcollided, hyield]
  next hbreak =>
    split
    next hwait =>
      refine .breaking rfl ?_ hbus
      constructor <;> simp [noteLevel, hbusy, hbus, hrx, hcollided, hyield]
    next hcheck =>
      split
      next hhigh => exact .collided rfl rfl rfl hrx hyield hcollided
      next hlow =>
        have hreleased := tickIdle_released
          { phy.noteLevel level with
            txSpCnt := wrappingAdd u8Max (phy.noteLevel level).txSpCnt 1
            driven := true
            txIdleAfterBreak := level } level
        exact .collided hreleased.2.2.2.1 hreleased.2.2.2.2.1
          hreleased.2.2.2.2.2 (hreleased.1.trans hrx)
          (hreleased.2.1.trans hyield)
          (hreleased.2.2.1.trans_ne hcollided)

theorem Paced.tick_outcome (h : phy.Paced) (hbusy : phy.txBusy) (level : Bool) :
    TxOutcome phy (phy.tick level) := by
  rcases h.busy_iff.mp hbusy with hbus | hbus
  · simp only [DaliBitbangPhy.tick, hbus]
    exact h.tickTx_outcome hbus level
  · simp only [DaliBitbangPhy.tick, hbus]
    exact h.tickCollisionTx_outcome hbus level

theorem Paced.tick_idle (h : phy.Paced) (hbusy : phy.txBusy = false) (level : Bool) :
    (phy.tick level).txHbCnt = phy.txHbCnt ∧ (phy.tick level).txBusy = false ∧
      ((phy.tick level).busState = .idle ∨ (phy.tick level).busState = .rx) := by
  rcases h.idle hbusy with hbus | hbus
  · simp only [DaliBitbangPhy.tick, hbus]
    exact tickIdle_frame level hbus hbusy
  · simp only [DaliBitbangPhy.tick, hbus]
    have hframe := tickRx_frame (phy.noteLevel level) level
    exact ⟨hframe.1, hframe.2 hbus hbusy⟩

theorem TxOutcome.paced {after : DaliBitbangPhy} (h : TxOutcome phy after) : after.Paced := by
  cases h with
  | holding _ hpaced _ | driving _ hpaced _ | breaking _ hpaced _ => exact hpaced
  | yielded _ hbusy hbus | collided _ hbusy hbus | sent _ hbusy hbus =>
    exact paced_of_idle hbusy (.inl hbus)

theorem Paced.tick (h : phy.Paced) (level : Bool) : (phy.tick level).Paced := by
  cases hbusy : phy.txBusy with
  | true => exact (h.tick_outcome hbusy level).paced
  | false =>
    have hidle := h.tick_idle hbusy level
    exact paced_of_idle hidle.2.1 hidle.2.2

/-!
## Starting and asking
-/

theorem loadTx_paced (h : phy.Paced) (halfbits : HalfBitBuffer) (answer : Bool) :
    (phy.loadTx halfbits answer).1.Paced := by
  unfold loadTx
  split
  · exact h
  next hlen =>
    rw [not_or, Nat.not_lt] at hlen
    constructor <;> simp [Nat.pos_of_ne_zero hlen.1, hlen.2]

theorem Paced.startTx (h : phy.Paced) (halfbits : HalfBitBuffer) :
    (phy.startTx halfbits).1.Paced := by
  unfold DaliBitbangPhy.startTx
  split
  · exact loadTx_paced h halfbits false
  · exact h

theorem Paced.startAnswer (h : phy.Paced) (halfbits : HalfBitBuffer) :
    (phy.startAnswer halfbits).1.Paced := by
  unfold DaliBitbangPhy.startAnswer
  split
  · exact loadTx_paced h halfbits true
  · exact h

variable (phy) (halfbits : HalfBitBuffer)

theorem loadTx_started (answer : Bool) :
    (phy.loadTx halfbits answer).2 ∧ (phy.loadTx halfbits answer).1.txBusy ∧
        (phy.loadTx halfbits answer).1.txHbCnt = 0 ∨
      phy.loadTx halfbits answer = (phy, false) := by
  unfold loadTx
  split
  · exact .inr rfl
  · exact .inl ⟨rfl, rfl, rfl⟩

theorem startTx_started :
    (phy.startTx halfbits).2 ∧ (phy.startTx halfbits).1.txBusy ∧
        (phy.startTx halfbits).1.txHbCnt = 0 ∨
      phy.startTx halfbits = (phy, false) := by
  unfold startTx
  split
  · exact loadTx_started phy halfbits false
  · exact .inr rfl

theorem startAnswer_started :
    (phy.startAnswer halfbits).2 ∧ (phy.startAnswer halfbits).1.txBusy ∧
        (phy.startAnswer halfbits).1.txHbCnt = 0 ∨
      phy.startAnswer halfbits = (phy, false) := by
  unfold startAnswer
  split
  · exact loadTx_started phy halfbits true
  · exact .inr rfl

@[simp] theorem pollTxState_txBusy : phy.pollTxState.1.txBusy = phy.txBusy := by
  unfold pollTxState
  repeat' split
  all_goals rfl

@[simp] theorem pollTxState_busState : phy.pollTxState.1.busState = phy.busState := by
  unfold pollTxState
  repeat' split
  all_goals rfl

variable {phy}

theorem takeCompletedRxEvent_some {after : DaliBitbangPhy} {ev : RxCompletedEvent}
    (h : phy.takeCompletedRxEvent = (after, some ev)) :
    phy.rxState = .completed ∧ after = { phy with rxState := .empty } := by
  unfold takeCompletedRxEvent at h
  split at h
  · cases h
  next hcompleted =>
    rw [not_not] at hcompleted
    cases h
    refine ⟨hcompleted, ?_⟩
    simp [acknowledgeRxFrame, hcompleted]

theorem pollTxState_ne_transmitting (h : phy.Paced) (hidle : phy.txBusy = false) :
    phy.pollTxState.2 ≠ .transmitting := by
  have hbus : phy.busState ≠ .tx := by
    intro hbus
    rw [h.busy_iff.mpr (.inl hbus)] at hidle
    cases hidle
  unfold pollTxState
  repeat' split
  all_goals simp_all

end DaliBitbangPhy

end Oxidali.Phy
