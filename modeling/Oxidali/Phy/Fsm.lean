import Oxidali.Lib.Packing
import Oxidali.Phy.HalfBits
import Oxidali.Phy.Manchester

/-!
# The bit-banged physical layer

One tick reads the line, then advances whichever of the four bus states the
layer is in.  The hardware is the level read at a tick and the level `driven`
after it; `true` is the recessive (high) level.
-/

namespace Oxidali.Phy

open Words

def maxRxIdx : Nat := daliRxSampleBufLen - 1

def phyTickUs : Nat := 104

def rxIdleLineHighTicks : Nat := 16

def rxStartDebounceTicks : Nat := 2

def txArmLeadTicks : Nat := 3

def collisionBreakMinUs : Nat := 1200

def ceilTicksForWindow (minUs tickUs : Nat) : Nat :=
  (minUs + tickUs - 1) / tickUs

def collisionBreakTicks : Nat := ceilTicksForWindow collisionBreakMinUs phyTickUs

def collisionCheckTick : Nat := collisionBreakTicks + 2

def backwardFrameHalfBits : Nat := 22

inductive BusState where
  | idle
  | rx
  | tx
  | collisionTx
  deriving DecidableEq

inductive RxState where
  | empty
  | receiving
  | completed
  deriving DecidableEq

inductive TxPollResult where
  | ok
  | collision
  | transmitting
  | yielded
  deriving DecidableEq

inductive CollisionPolicy where
  | auto
  | off
  | on
  deriving DecidableEq

structure RxCompletedEvent where
  samples : Vector Byte 64
  sampleCount : Nat
  preIdleTicks : Nat
  rxEpoch : Nat
  rxTick : Nat
  maxSampleGapUs : Nat
  timingDegraded : Bool
  sniffSeq : Nat
  isrDecode : IsrDecode
  deriving DecidableEq

def RxCompletedEvent.new : RxCompletedEvent :=
  { samples := Vector.replicate 64 0, sampleCount := 0, preIdleTicks := 0
    rxEpoch := 0, rxTick := 0, maxSampleGapUs := 0, timingDegraded := false
    sniffSeq := 0, isrDecode := .notDecoded }

structure DaliBitbangPhy where
  driven : Bool
  txBusy : Bool
  busState : BusState
  idlecnt : Nat
  highRunTicks : Nat
  rxState : RxState
  rxData : Vector Byte 64
  rxPos : Nat
  rxByte : Byte
  rxBitCnt : Nat
  rxIdle : Nat
  rxDebounce : Nat
  lowRunTicks : Nat
  txHb : HalfBitBuffer
  txHbCnt : Nat
  txSpCnt : Nat
  txHigh : Bool
  txCollision : Nat
  txIdleAfterBreak : Bool
  txArmed : Nat
  txYielded : Bool
  txAnswer : Bool
  rxPreIdle : Nat
  txPreIdle : Nat
  collisionPolicy : CollisionPolicy
  lastRx : RxCompletedEvent

namespace DaliBitbangPhy

def setBusIdle (phy : DaliBitbangPhy) : DaliBitbangPhy :=
  { phy with
    driven := true
    idlecnt := phy.highRunTicks
    rxDebounce := 0
    busState := .idle
    txBusy := false }

/-- The state `new` builds before it puts the bus idle. -/
def blank : DaliBitbangPhy :=
  { driven := true, txBusy := false, busState := .idle, idlecnt := 0
    highRunTicks := 0, rxState := .empty, rxData := Vector.replicate 64 0
    rxPos := 0, rxByte := 0, rxBitCnt := 0, rxIdle := 0, rxDebounce := 0
    lowRunTicks := 0, txHb := HalfBitBuffer.empty, txHbCnt := 0, txSpCnt := 0
    txHigh := false, txCollision := 0, txIdleAfterBreak := false, txArmed := 0
    txYielded := false, txAnswer := false, rxPreIdle := 0, txPreIdle := 0
    collisionPolicy := .auto, lastRx := RxCompletedEvent.new }

def new : DaliBitbangPhy :=
  { blank.setBusIdle with rxState := .empty, txCollision := 0 }

variable (phy : DaliBitbangPhy)

def setCollisionPolicy (policy : CollisionPolicy) : DaliBitbangPhy :=
  { phy with collisionPolicy := policy }

def enterRx : DaliBitbangPhy :=
  { phy with
    rxPreIdle := min phy.idlecnt u8Max
    rxPos := 0
    rxBitCnt := 0
    rxIdle := 0
    rxByte := 0
    rxState := .receiving
    busState := .rx }

def finishRxAndNotify : DaliBitbangPhy :=
  { phy with
    lastRx :=
      { phy.lastRx with
        sampleCount := phy.rxPos
        samples := phy.rxData
        preIdleTicks := phy.rxPreIdle } }

/-!
## Receiving
-/

/-- One sample shifted in; every eighth one fills a byte of the buffer. -/
def shiftSample (busIsHigh : Bool) : DaliBitbangPhy :=
  let byte := shiftIn phy.rxByte busIsHigh
  let count := wrappingAdd u8Max phy.rxBitCnt 1
  if count = 8 then
    { phy with
      rxByte := byte
      rxData := phy.rxData.setIfInBounds (min phy.rxPos maxRxIdx) byte
      rxPos := min (saturatingAdd u16Max phy.rxPos 1) maxRxIdx
      rxBitCnt := 0 }
  else { phy with rxByte := byte, rxBitCnt := count }

variable (level : Bool)

@[simp] theorem shiftSample_busState : (phy.shiftSample level).busState = phy.busState := by
  simp only [shiftSample]
  split <;> rfl

@[simp] theorem shiftSample_rxState : (phy.shiftSample level).rxState = phy.rxState := by
  simp only [shiftSample]
  split <;> rfl

@[simp] theorem shiftSample_rxIdle : (phy.shiftSample level).rxIdle = phy.rxIdle := by
  simp only [shiftSample]
  split <;> rfl

@[simp] theorem shiftSample_lastRx : (phy.shiftSample level).lastRx = phy.lastRx := by
  simp only [shiftSample]
  split <;> rfl

@[simp] theorem shiftSample_driven : (phy.shiftSample level).driven = phy.driven := by
  simp only [shiftSample]
  split <;> rfl

/-- The line has been recessive long enough: the capture ends in one idle byte. -/
def completeRx : DaliBitbangPhy :=
  finishRxAndNotify <| setBusIdle
    { phy with
      rxData := phy.rxData.setIfInBounds phy.rxPos peekIdle
      rxPos := saturatingAdd u16Max phy.rxPos 1
      rxState := .completed }

variable (busIsHigh : Bool)

def tickRx : DaliBitbangPhy :=
  let shifted := phy.shiftSample busIsHigh
  if busIsHigh then
    let rxIdle := saturatingAdd u8Max shifted.rxIdle 1
    let waiting := { shifted with rxIdle }
    if rxIdleLineHighTicks <= rxIdle then waiting.completeRx else waiting
  else { shifted with rxIdle := 0 }

def tickIdle : DaliBitbangPhy :=
  if busIsHigh then
    { phy with rxDebounce := 0, idlecnt := saturatingAdd u16Max phy.idlecnt 1 }
  else
    let rxDebounce := saturatingAdd u8Max phy.rxDebounce 1
    let debounced := { phy with rxDebounce }
    if rxStartDebounceTicks <= rxDebounce then
      -- The samples the debounce waited for belong to the start bit.
      (fun receiving => tickRx receiving false)^[rxDebounce] debounced.enterRx
    else debounced

/-!
## Transmitting
-/

def tickTxArmed : DaliBitbangPhy :=
  if !busIsHigh && !phy.txAnswer then
    tickIdle (setBusIdle { phy with txYielded := true, txArmed := 0 }) busIsHigh
  else { phy with txArmed := phy.txArmed - 1 }

def txCollisionDetected : Bool :=
  let policyOk := phy.collisionPolicy = .on ∨
    phy.collisionPolicy = .auto ∧ phy.txHb.length ≠ backwardFrameHalfBits
  policyOk && phy.txHigh && !busIsHigh && (phy.txSpCnt = 1 || phy.txSpCnt = 2)

def enterCollisionTx : DaliBitbangPhy :=
  { phy with
    txCollision := saturatingAdd u8Max phy.txCollision 1
    txSpCnt := 0
    txIdleAfterBreak := false
    busState := .collisionTx }

/-- The next half-bit goes on the line and holds it for four ticks. -/
def driveHalfBit : DaliBitbangPhy :=
  let dominant := phy.txHb.halfBit phy.txHbCnt
  { phy with
    driven := !dominant
    txHigh := !dominant
    txHbCnt := wrappingAdd u8Max phy.txHbCnt 1
    txSpCnt := 4 }

def tickTx : DaliBitbangPhy :=
  if phy.txArmed ≠ 0 then phy.tickTxArmed busIsHigh
  else if phy.txHb.length <= phy.txHbCnt then phy.setBusIdle
  else if phy.txCollisionDetected busIsHigh then phy.enterCollisionTx
  else if phy.txSpCnt = 0 then
    if phy.txHbCnt / 8 < 9 then
      let driving := phy.driveHalfBit
      { driving with txSpCnt := driving.txSpCnt - 1 }
    else phy.setBusIdle
  else { phy with txSpCnt := phy.txSpCnt - 1 }

def tickCollisionTx : DaliBitbangPhy :=
  let txSpCnt := wrappingAdd u8Max phy.txSpCnt 1
  if txSpCnt <= collisionBreakTicks then { phy with txSpCnt, driven := false }
  else if txSpCnt < collisionCheckTick then { phy with txSpCnt, driven := true }
  else
    let released :=
      setBusIdle { phy with txSpCnt, driven := true, txIdleAfterBreak := busIsHigh }
    if busIsHigh then released else released.tickIdle busIsHigh

/-- The run counters, which every tick updates before it looks at the state. -/
def noteLevel : DaliBitbangPhy :=
  { phy with
    lowRunTicks :=
      if busIsHigh then 0 else saturatingAdd u16Max phy.lowRunTicks 1
    highRunTicks :=
      if busIsHigh then saturatingAdd u16Max phy.highRunTicks 1 else 0 }

@[simp] theorem noteLevel_busState : (phy.noteLevel level).busState = phy.busState := rfl

@[simp] theorem noteLevel_rxState : (phy.noteLevel level).rxState = phy.rxState := rfl

@[simp] theorem noteLevel_rxIdle : (phy.noteLevel level).rxIdle = phy.rxIdle := rfl

@[simp] theorem noteLevel_lastRx : (phy.noteLevel level).lastRx = phy.lastRx := rfl

def tick (busIsHigh : Bool) : DaliBitbangPhy :=
  let noted := phy.noteLevel busIsHigh
  match phy.busState with
  | .idle => noted.tickIdle busIsHigh
  | .rx => noted.tickRx busIsHigh
  | .tx => noted.tickTx busIsHigh
  | .collisionTx => noted.tickCollisionTx busIsHigh

/-!
## Starting a frame and reading the outcome
-/

variable (halfbits : HalfBitBuffer)

def loadTx (answer : Bool) : DaliBitbangPhy × Bool :=
  if halfbits.length = 0 ∨ HalfBitBuffer.maxDataHalfBits < halfbits.length then
    (phy, false)
  else
    ({ phy with
       txAnswer := answer
       txPreIdle := phy.idlecnt
       txHb := halfbits
       txHbCnt := 0
       txSpCnt := 0
       txCollision := 0
       txIdleAfterBreak := false
       txYielded := false
       txArmed := txArmLeadTicks
       rxState := .empty
       busState := .tx
       txBusy := true }, true)

def startTx : DaliBitbangPhy × Bool :=
  if phy.busState = .idle then phy.loadTx halfbits false else (phy, false)

def startAnswer : DaliBitbangPhy × Bool :=
  if phy.busState = .idle ∨ phy.busState = .rx then phy.loadTx halfbits true
  else (phy, false)

def lineDebouncing : Bool := phy.rxDebounce ≠ 0

def pollTxState : DaliBitbangPhy × TxPollResult :=
  if phy.txYielded then ({ phy with txYielded := false }, .yielded)
  else if phy.txCollision ≠ 0 then ({ phy with txCollision := 0 }, .collision)
  else if phy.busState = .tx then (phy, .transmitting)
  else (phy, .ok)

def takeIdleAfterBreak : DaliBitbangPhy × Bool :=
  ({ phy with txIdleAfterBreak := false }, phy.txIdleAfterBreak)

def acknowledgeRxFrame : DaliBitbangPhy :=
  if phy.rxState = .completed then { phy with rxState := .empty } else phy

def takeCompletedRxEvent : DaliBitbangPhy × Option RxCompletedEvent :=
  if phy.rxState ≠ .completed then (phy, none)
  else (phy.acknowledgeRxFrame, some phy.lastRx)

def ticks (levels : List Bool) : DaliBitbangPhy :=
  levels.foldl tick phy

@[simp] theorem ticks_nil : phy.ticks [] = phy := rfl

@[simp] theorem ticks_cons (levels : List Bool) :
    phy.ticks (level :: levels) = (phy.tick level).ticks levels := rfl

@[simp] theorem ticks_append (first second : List Bool) :
    phy.ticks (first ++ second) = (phy.ticks first).ticks second :=
  List.foldl_append

end DaliBitbangPhy

end Oxidali.Phy
