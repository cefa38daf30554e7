import Oxidali.Lib.Fifo
import Oxidali.Phy.AnswerTable

/-!
# The interrupt core

`PhyIsrCore` sits between the tasks and the bit-banged layer.  Tasks submit
and queue frames, cancel exchanges, stage answers and take events; the timer
interrupt arms the transmitter, ticks the layer and reports what happened.

Three fields are no part of the program and are read by none of its
operations: `accepted` numbers the requests, `loaded` is the request whose
half-bits the transmitter was last given, and `history` records what the core
did, the newest entry first.
-/

namespace Oxidali.Phy

open Words

def rxRingCap : Nat := 8

def sessionRingCap : Nat := 8

def txRingCap : Nat := 5

def lateTickUs : Nat := 2 * phyTickUs

def busPowerDownTicks : Nat := 433

def lineHeldTicks : Nat := 24

def systemFailureTicks : Nat := 5288

def backwardDataBits : Nat := 8

def answerArmTargetIdleTicks : Nat := 6500 / phyTickUs - txArmLeadTicks

def answerArmMaxIdleTicks : Nat := 10500 / phyTickUs - txArmLeadTicks

def backwardReceiveMinTicks : Nat := ceilTicksForWindow 2400 phyTickUs

def rxStartStampLagTicks : Nat := rxStartDebounceTicks

def forwardLengthMinSamples : Nat := 19

def forward24LengthMinSamples : Nat := 23

def forward24Bits : Nat := 24

inductive FrameLengthClass where
  | backward
  | forward

def frameLengthClass (sampleCount : Nat) : FrameLengthClass :=
  if forwardLengthMinSamples <= sampleCount then .forward else .backward

def isForward24Length (sampleCount : Nat) : Bool :=
  forward24LengthMinSamples <= sampleCount

inductive AnswerGate where
  | hold
  | arm (late : Bool)
  | expired

def answerGate (idleTicks target limit : Nat) : AnswerGate :=
  if idleTicks < target then .hold
  else if idleTicks <= limit then .arm (target < idleTicks)
  else .expired

structure TxGates where
  minIdleTicks : Nat
  restartGate : Nat

structure TxCommand where
  serial : Nat
  data : Vector Byte 9
  len : Nat
  expectsBackward : Bool
  minIdleTicks : Nat
  restartGate : Nat
  exchangeId : Nat

structure TxRequest where
  serial : Nat
  exchangeId : Nat
  batched : Bool
  data : Vector Byte 9
  len : Nat
  expectsBackward : Bool
  minIdleTicks : Nat
  restartGate : Nat
  deriving DecidableEq

def TxCommand.request (cmd : TxCommand) : TxRequest :=
  { serial := cmd.serial, exchangeId := cmd.exchangeId, batched := false
    data := cmd.data, len := cmd.len, expectsBackward := cmd.expectsBackward
    minIdleTicks := cmd.minIdleTicks, restartGate := cmd.restartGate }

inductive SessionEvent where
  | txComplete (preIdleTicks : Nat)
  | txCollision
  | txRejected
  | txVoided
  | rxComplete (ev : RxCompletedEvent)
  | foreignForward (preIdleTicks sampleCount : Nat)
  deriving DecidableEq

def SessionEvent.isTerminal : SessionEvent -> Bool
  | txComplete _ => true
  | txCollision => true
  | txRejected => true
  | txVoided => true
  | rxComplete _ => false
  | foreignForward _ _ => false

inductive TryArmAnswer where
  | notStaged
  | held
  | armed

inductive LineUnderAnswer where
  | idle
  | backward
  | busy

/-- What the core did.  A pushed event names the request it reports on, if it
reports on one, whether or not the ring had room for it. -/
inductive Entry where
  | accepted (serial : Nat)
  | started (request : TxRequest)
  | halfBit (request : TxRequest)
  | sent (request : TxRequest)
  | collided (serial : Option Nat)
  | pushed (exchangeId : Nat) (serial : Option Nat) (event : SessionEvent)
  | discarded (serial : Nat)
  | cancelled (exchangeId : Nat)
  | closed (exchangeId : Nat)
  | captured (ev : RxCompletedEvent)
  deriving DecidableEq

structure AnswerTally where
  sent : Nat
  stale : Nat
  expired : Nat
  late : Nat
  rejected : Nat
  collided : Nat
  overBackward : Nat

structure TxCounters where
  yields : Nat
  voided : Nat
  collisionRestarts : Nat

structure TableCounters where
  answered : Nat
  cellBusy : Nat
  decodeOverrun : Nat

structure HeldCapture where
  ev : RxCompletedEvent
  window : SampleWindow
  search : BestPhaseSearch

structure LineCounters where
  powerDown : Bool
  systemFailure : Bool
  powerDownEntries : Nat
  systemFailureEntries : Nat
  heldRuns : Nat
  heldLongest : Nat
  wireTicksActive : Nat
  wireTicksTx : Nat

structure PhyIsrCore where
  phy : DaliBitbangPhy
  cmd : Option TxCommand
  txQueue : Fifo TxRequest (txRingCap - 1)
  pending : Option TxRequest
  batchAborted : Bool
  requested : Nat
  acknowledged : Nat
  cancelActive : Bool
  rxMaxGapUs : Nat
  exchangeEpoch : Nat
  activeEpoch : Nat
  sessionEvents : Fifo (Nat × SessionEvent) (sessionRingCap - 1)
  rxRing : Fifo RxCompletedEvent (rxRingCap - 1)
  sniffDropped : Nat
  sessionDropped : Nat
  staleSessionEvents : Nat
  idleTicks : Nat
  activeExpectsBackward : Bool
  sessionExchange : Nat
  sessionRxStarted : Nat
  line : LineCounters
  wireTicksTotal : Nat
  answer : Option (Nat × HalfBitBuffer)
  busEpoch : Nat
  activeIsAnswer : Bool
  lastAnswerArmSinceEdgeTicks : Nat
  answers : AnswerTally
  tx : TxCounters
  forwardEdgeTick : Nat
  rxStartedTick : Nat
  sniffSeq : Nat
  held : Option HeldCapture
  table : AnswerTableCell
  tableCounts : TableCounters
  accepted : Nat
  loaded : Option TxRequest
  history : List Entry

def count (counter : Nat) : Nat := wrappingAdd u32Max counter 1

namespace PhyIsrCore

def new : PhyIsrCore :=
  { phy := DaliBitbangPhy.new, cmd := none, txQueue := Fifo.empty
    pending := none, batchAborted := false, requested := 0, acknowledged := 0
    cancelActive := false, rxMaxGapUs := 0, exchangeEpoch := 0, activeEpoch := 0
    sessionEvents := Fifo.empty, rxRing := Fifo.empty, sniffDropped := 0
    sessionDropped := 0, staleSessionEvents := 0, idleTicks := 0
    activeExpectsBackward := false, sessionExchange := 0, sessionRxStarted := 0
    line :=
      { powerDown := false, systemFailure := false, powerDownEntries := 0
        systemFailureEntries := 0, heldRuns := 0, heldLongest := 0
        wireTicksActive := 0, wireTicksTx := 0 }
    wireTicksTotal := 0, answer := none, busEpoch := 0, activeIsAnswer := false
    lastAnswerArmSinceEdgeTicks := 0
    answers :=
      { sent := 0, stale := 0, expired := 0, late := 0, rejected := 0
        collided := 0, overBackward := 0 }
    tx := { yields := 0, voided := 0, collisionRestarts := 0 }
    forwardEdgeTick := 0, rxStartedTick := 0, sniffSeq := 0, held := none
    table := AnswerTableCell.new
    tableCounts := { answered := 0, cellBusy := 0, decodeOverrun := 0 }
    accepted := 0, loaded := none, history := [] }

/-!
## Events and queues
-/

variable (core : PhyIsrCore) (exchangeId : Nat) (ev : RxCompletedEvent)

def pushSessionEventFor (serial : Option Nat) (event : SessionEvent) : PhyIsrCore :=
  let pushed := core.sessionEvents.tryPush (exchangeId, event)
  { core with
    sessionEvents := pushed.1
    sessionDropped :=
      if pushed.2 then core.sessionDropped else count core.sessionDropped
    history := .pushed exchangeId serial event :: core.history }

def pushSessionEvent (serial : Option Nat) (event : SessionEvent) : PhyIsrCore :=
  core.pushSessionEventFor core.activeEpoch serial event

def pushToSnifferRing : PhyIsrCore :=
  let pushed := core.rxRing.tryPush ev
  { core with
    rxRing := pushed.1
    sniffDropped := if pushed.2 then core.sniffDropped else count core.sniffDropped }

def clearPending : PhyIsrCore := { core with pending := none }

/-- The queue first, then the command cell. -/
def nextRequest : PhyIsrCore × Option TxRequest :=
  match core.txQueue.tryPop with
  | (txQueue, some req) => ({ core with txQueue }, some req)
  | (_, none) => ({ core with cmd := none }, core.cmd.map TxCommand.request)

def discardQueued : PhyIsrCore :=
  { core with pending := none, txQueue := Fifo.empty }

def abortBatchTail : PhyIsrCore :=
  let queued := !core.txQueue.isEmpty
  let cleared := core.discardQueued
  let voided :=
    match core.pending with
    | some request =>
      { cleared with tx := { cleared.tx with voided := count cleared.tx.voided } }
        |>.pushSessionEventFor request.exchangeId (some request.serial) .txVoided
    | none => cleared
  if queued ∨ core.pending.any TxRequest.batched then
    { voided with batchAborted := true }
  else voided

/-!
## Cancelling

The requests a cancellation takes away: all that wait, and the one on the wire
if it belongs to the cancelled exchange.
-/

/-- A forward frame is being transmitted. -/
def forwardOnAir : Bool :=
  core.phy.txBusy && !core.activeIsAnswer

/-- What waits to be started, in the order it will be; the pending request does
not wait while it is on the wire. -/
def waiting (onAir : Bool) : List TxRequest :=
  (if onAir then [] else core.pending.toList) ++
    (core.txQueue.items ++ (core.cmd.map TxCommand.request).toList)

def noteDiscarded (requests : List TxRequest) : PhyIsrCore :=
  { core with
    history :=
      (requests.map fun request => Entry.discarded request.serial).reverse ++ core.history }

def applyRequestedCancel : PhyIsrCore :=
  let raw := core.requested
  if raw = 0 then core
  else
    let active := core.forwardOnAir && core.activeEpoch = raw
    let waiting := core.waiting core.forwardOnAir
    let taken := if active then core.loaded.toList ++ waiting else waiting
    let noted := core.noteDiscarded taken
    let dropped :=
      if active then
        { noted with cancelActive := true, txQueue := Fifo.empty, cmd := none }
      else { noted.discardQueued with cmd := none, cancelActive := false }
    let closing := dropped.sessionExchange = raw
    { dropped with
      activeExpectsBackward :=
        if dropped.activeEpoch = raw then false else dropped.activeExpectsBackward
      sessionExchange := if closing then 0 else dropped.sessionExchange
      sessionRxStarted := if closing then 0 else dropped.sessionRxStarted
      requested := 0
      acknowledged := raw
      history := .cancelled raw :: dropped.history }

/-!
## Arming the transmitter
-/

def ticksSinceForwardEdge : Nat :=
  min (wrappingSub u32Max core.wireTicksTotal core.forwardEdgeTick) u16Max

def receptionBeganInTheBackwardWindow : Bool :=
  backwardReceiveMinTicks <=
    wrappingSub u32Max core.rxStartedTick core.forwardEdgeTick - rxStartStampLagTicks

def lineUnderAnswer : LineUnderAnswer :=
  if lineHeldTicks <= core.phy.lowRunTicks then .busy
  else
    match core.phy.busState with
    | .idle => if core.phy.lineDebouncing then .backward else .idle
    | .rx => if core.receptionBeganInTheBackwardWindow then .backward else .busy
    | .tx => .busy
    | .collisionTx => .busy

def fireStagedAnswer (hb : HalfBitBuffer) (sinceEdge : Nat) (late overBackward : Bool) :
    PhyIsrCore :=
  let taken :=
    { core with
      answer := none
      lastAnswerArmSinceEdgeTicks := sinceEdge
      answers :=
        { core.answers with
          late := if late then count core.answers.late else core.answers.late }
      activeExpectsBackward := false }
  match core.phy.startAnswer hb with
  | (phy, true) =>
    { taken with
      phy
      activeIsAnswer := true
      loaded := none
      answers :=
        { taken.answers with
          overBackward :=
            if overBackward then count taken.answers.overBackward
            else taken.answers.overBackward } }
  | (phy, false) =>
    { taken with
      phy
      activeIsAnswer := false
      answers :=
        { taken.answers with rejected := count taken.answers.rejected } }

def armOverLine (hb : HalfBitBuffer) (sinceEdge : Nat) (late : Bool) : PhyIsrCore × TryArmAnswer :=
  match core.lineUnderAnswer with
  | .busy => (core, .held)
  | .idle => (core.fireStagedAnswer hb sinceEdge late false, .armed)
  | .backward => (core.fireStagedAnswer hb sinceEdge late true, .armed)

def tryArmAnswer : PhyIsrCore × TryArmAnswer :=
  match core.answer with
  | none => (core, .notStaged)
  | some (epoch, hb) =>
    if epoch ≠ core.busEpoch then
      ({ core with
         answer := none
         answers := { core.answers with stale := count core.answers.stale } },
        .notStaged)
    else
      let sinceEdge := core.ticksSinceForwardEdge
      match answerGate sinceEdge answerArmTargetIdleTicks answerArmMaxIdleTicks with
      | .hold => (core, .held)
      | .expired =>
        ({ core with
           answer := none
           answers :=
             { core.answers with expired := count core.answers.expired } },
          .notStaged)
      | .arm late => core.armOverLine hb sinceEdge late

/-- The pending request, taken from the queue or the cell if there is none. -/
def holdRequest : PhyIsrCore :=
  match core.pending with
  | some _ => core
  | none =>
    let next := core.nextRequest
    { next.1 with pending := next.2 }

def armPendingForward : PhyIsrCore :=
  let holding := core.holdRequest
  match holding.pending with
  | none => holding
  | some req =>
    if holding.phy.idlecnt < req.minIdleTicks then holding
    else
      let arming :=
        { holding with
          activeEpoch := req.exchangeId
          activeExpectsBackward := req.expectsBackward }
      match holding.phy.startTx { data := req.data, length := req.len } with
      | (phy, true) =>
        { arming with
          phy
          busEpoch := wrappingAdd u8Max arming.busEpoch 1
          loaded := some req
          history := .started req :: arming.history }
      | (phy, false) =>
        { arming with phy, pending := none, activeExpectsBackward := false }
          |>.pushSessionEvent (some req.serial) .txRejected

def armPendingTx : PhyIsrCore :=
  let core := core.applyRequestedCancel
  if core.phy.txBusy then core
  else
    match core.tryArmAnswer with
    | (core, .armed) => core
    | (core, .held) => core
    | (core, .notStaged) =>
      if core.sessionExchange ≠ 0 then core
      else if core.phy.busState ≠ .idle ∨ core.phy.lineDebouncing then core
      else core.armPendingForward

/-!
## Reporting
-/

def trackRxTiming (before after : RxState) (gapUs : Nat) : PhyIsrCore :=
  let fresh :=
    if before ≠ .receiving ∧ after = .receiving then 0 else core.rxMaxGapUs
  { core with
    rxMaxGapUs :=
      if before = .receiving ∨ after = .receiving then max fresh gapUs else fresh }

def LineCounters.note (line : LineCounters) (lowRun : Nat) (busState : BusState) : LineCounters :=
  let powerDown : Bool := busPowerDownTicks <= lowRun
  let systemFailure : Bool := systemFailureTicks <= lowRun
  { powerDown, systemFailure
    powerDownEntries :=
      if powerDown && !line.powerDown then count line.powerDownEntries
      else line.powerDownEntries
    systemFailureEntries :=
      if systemFailure && !line.systemFailure then count line.systemFailureEntries
      else line.systemFailureEntries
    heldRuns :=
      if lowRun = lineHeldTicks then min (line.heldRuns + 1) u16Max
      else line.heldRuns
    heldLongest :=
      if lineHeldTicks <= lowRun then max line.heldLongest lowRun
      else line.heldLongest
    wireTicksActive :=
      if busState ≠ .idle then count line.wireTicksActive else line.wireTicksActive
    wireTicksTx :=
      if busState = .tx ∨ busState = .collisionTx then count line.wireTicksTx
      else line.wireTicksTx }

def publishTickState : PhyIsrCore :=
  { core with
    idleTicks := core.phy.idlecnt
    line := LineCounters.note core.line core.phy.lowRunTicks core.phy.busState
    wireTicksTotal := count core.wireTicksTotal
    sessionRxStarted :=
      if core.sessionExchange ≠ 0 ∧ core.phy.rxState = .receiving then
        1 + core.phy.rxPreIdle
      else core.sessionRxStarted }

def noteRxStart (before after : RxState) : PhyIsrCore :=
  if before ≠ .receiving ∧ after = .receiving then
    { core with rxStartedTick := core.wireTicksTotal }
  else core

def reportAnswerCompletion (poll : TxPollResult) : PhyIsrCore :=
  let answers := core.answers
  { core with
    answers :=
      if poll = .collision then { answers with collided := count answers.collided }
      else if poll = .yielded then { answers with stale := count answers.stale }
      else { answers with sent := count answers.sent } }

def restartAfterBreak : PhyIsrCore × Bool :=
  match core.pending with
  | none => (core, false)
  | some request =>
    if request.restartGate = 0 then (core, false)
    else
      ({ core with
         pending :=
           some
             { request with
               minIdleTicks := request.restartGate
               restartGate := 0 } }, true)

/-- The request on the wire, for the history. -/
def loadedSerial : Option Nat :=
  core.loaded.map TxRequest.serial

def forgetExchange : PhyIsrCore :=
  { core.clearPending with activeExpectsBackward := false, sessionExchange := 0 }

def reportCollision : PhyIsrCore :=
  core.forgetExchange.abortBatchTail.pushSessionEvent core.loadedSerial .txCollision

def reportCollisionOrRestart : PhyIsrCore :=
  let idle := core.phy.takeIdleAfterBreak
  let noted := { core with phy := idle.1, history := .collided core.loadedSerial :: core.history }
  if idle.2 then
    match noted.restartAfterBreak with
    | (restarted, true) =>
      { restarted with
        tx :=
          { restarted.tx with
            collisionRestarts := count restarted.tx.collisionRestarts } }
    | (refused, false) => refused.reportCollision
  else noted.reportCollision

def reportFrameSent : PhyIsrCore :=
  { core.clearPending with
    sessionExchange :=
      if core.activeExpectsBackward then core.activeEpoch else core.sessionExchange
    activeExpectsBackward := false
    history := core.loaded.toList.map Entry.sent ++ core.history }
    |>.pushSessionEvent core.loadedSerial (.txComplete core.phy.txPreIdle)

def reportForwardCompletion (poll : TxPollResult) : PhyIsrCore :=
  if core.cancelActive then
    { core with
      cancelActive := false
      busEpoch :=
        if poll = .yielded then wrappingSub u8Max core.busEpoch 1 else core.busEpoch
      pending := none
      activeExpectsBackward := false
      sessionExchange := 0
      sessionRxStarted := 0 }
  else
    match poll with
    | .ok => core.reportFrameSent
    | .collision => core.reportCollisionOrRestart
    | .yielded =>
      { core with
        activeExpectsBackward := false
        busEpoch := wrappingSub u8Max core.busEpoch 1
        tx := { core.tx with yields := count core.tx.yields } }
    | .transmitting => core

def reportTxCompletion : PhyIsrCore :=
  let polled := core.phy.pollTxState
  let core := { core with phy := polled.1 }
  if core.activeIsAnswer then
    reportAnswerCompletion { core with activeIsAnswer := false } polled.2
  else core.reportForwardCompletion polled.2

/-- A frame is reported on the tick that ends it. -/
def reportEnd (wasBusy : Bool) : PhyIsrCore :=
  if wasBusy && !core.phy.txBusy then core.reportTxCompletion else core

/-!
## Captures
-/

def stage (epoch : Nat) (hb : HalfBitBuffer) : PhyIsrCore × Bool :=
  if hb.length = 0 ∨ HalfBitBuffer.maxDataHalfBits < hb.length then (core, false)
  else if core.answer.isSome then (core, false)
  else ({ core with answer := some (epoch, hb) }, true)

def answerFromTable (frame : QueryFrame) (ev : RxCompletedEvent) : PhyIsrCore :=
  let previous := wrappingSub u32Max ev.sniffSeq 1
  let found := core.table.answer frame previous core.wireTicksTotal
  let core := { core with table := found.1 }
  match found.2 with
  | none => core
  | some value =>
    let counts := core.tableCounts
    match core.stage ev.rxEpoch (HalfBitBuffer.encode value.toNat backwardDataBits) with
    | (staged, true) =>
      { staged with tableCounts := { counts with answered := count counts.answered } }
    | (busy, false) =>
      { busy with tableCounts := { counts with cellBusy := count counts.cellBusy } }

def pushSnifferCapture : PhyIsrCore :=
  let flushed :=
    match core.held with
    | none => core
    | some overtaken =>
      { core with
        held := none
        tableCounts :=
          { core.tableCounts with
            decodeOverrun := count core.tableCounts.decodeOverrun } }
        |>.pushToSnifferRing overtaken.ev
  let sniffSeq := count flushed.sniffSeq
  let numbered := { flushed with sniffSeq }
  let ev := { ev with sniffSeq }
  if isForward24Length ev.sampleCount then
    { numbered with
      held :=
        some
          { ev
            window := SampleWindow.ofCapture ev.samples ev.sampleCount
            search := BestPhaseSearch.new sniffedBitLengths } }
  else numbered.pushToSnifferRing ev

/-- The query a decoded 24-bit capture holds. -/
def queryOf (found : Option PhaseDecode) : Option QueryFrame :=
  match found with
  | none => none
  | some decode =>
    if decode.bitLen = forward24Bits then
      some
        { address := decode.data.get 0, instanceByte := decode.data.get 1
          opcode := decode.data.get 2 }
    else none

/-- One phase of the search for the held capture. -/
def stepHeldCapture : PhyIsrCore :=
  match core.held with
  | none => core
  | some capture =>
    match capture.search.stepWith (capture.window.decodePhase manchesterRxMaxDecodedBits) with
    | (search, .searching) => { core with held := some { capture with search } }
    | (_, .done found) =>
      let ev := { capture.ev with isrDecode := .decoded found }
      let released := { core with held := none }
      let answered :=
        match queryOf found with
        | some frame => released.answerFromTable frame ev
        | none => released
      answered.pushToSnifferRing ev

def routeBackwardCapture : PhyIsrCore :=
  let exchange := core.sessionExchange
  let closed := { core with sessionExchange := 0, sessionRxStarted := 0 }
  if exchange ≠ 0 then
    closed.pushSessionEventFor exchange none (.rxComplete ev)
  else closed.pushSnifferCapture ev

def routeForwardCapture : PhyIsrCore :=
  let aborted := core.abortBatchTail
  let exchange := aborted.sessionExchange
  let closed := { aborted with sessionExchange := 0, sessionRxStarted := 0 }
  let told :=
    if exchange ≠ 0 then
      closed.pushSessionEventFor exchange none (.foreignForward ev.preIdleTicks ev.sampleCount)
    else closed
  told.pushSnifferCapture ev

def stampRxTiming : RxCompletedEvent :=
  { ev with
    rxTick := core.wireTicksTotal
    maxSampleGapUs := core.rxMaxGapUs
    timingDegraded := lateTickUs <= core.rxMaxGapUs }

def drainCompletedRx : PhyIsrCore :=
  match core.phy.takeCompletedRxEvent with
  | (_, none) => core
  | (phy, some taken) =>
    let stamped := core.stampRxTiming taken
    let drained := { core with phy, rxMaxGapUs := 0 }
    match frameLengthClass taken.sampleCount with
    | .backward =>
      let ev := { stamped with rxEpoch := core.busEpoch }
      routeBackwardCapture { drained with history := .captured ev :: drained.history } ev
    | .forward =>
      let busEpoch := wrappingAdd u8Max core.busEpoch 1
      let ev := { stamped with rxEpoch := busEpoch }
      routeForwardCapture
        { drained with
          busEpoch
          forwardEdgeTick := wrappingSub u32Max core.wireTicksTotal phy.idlecnt
          history := .captured ev :: drained.history } ev

/-!
## The interrupt
-/

/-- The level of the line at a tick, and the time since the one before. -/
structure TickInput where
  busIsHigh : Bool
  sampleGapUs : Nat

/-- The half-bit counter moves exactly when a half-bit goes on the line. -/
def drivesHalfBit (phy : DaliBitbangPhy) (busIsHigh : Bool) : Bool :=
  (phy.tick busIsHigh).txHbCnt ≠ phy.txHbCnt

def tickPhy (busIsHigh : Bool) : PhyIsrCore :=
  { core with
    phy := core.phy.tick busIsHigh
    history :=
      if drivesHalfBit core.phy busIsHigh then
        core.loaded.toList.map Entry.halfBit ++ core.history
      else core.history }

/-- The layer's tick, and what is published from it. -/
def tickLine (rxBefore : RxState) (input : TickInput) : PhyIsrCore :=
  let ticked := core.tickPhy input.busIsHigh
  let rxAfter := ticked.phy.rxState
  (ticked.trackRxTiming rxBefore rxAfter input.sampleGapUs).publishTickState
    |>.noteRxStart rxBefore rxAfter

def tick (input : TickInput) : PhyIsrCore :=
  let armed := core.armPendingTx
  let ticked := armed.tickLine core.phy.rxState input
  (ticked.reportEnd armed.phy.txBusy).stepHeldCapture.drainCompletedRx

/-!
## The tasks' operations
-/

def validLen (len : Nat) : Bool :=
  len ≠ 0 && len <= HalfBitBuffer.maxDataHalfBits

/-- A frame as a task hands it over. -/
structure TxFrame where
  halfbitData : Vector Byte 9
  halfbitLen : Nat
  expectsBackward : Bool
  gates : TxGates

def submitTxFor (frame : TxFrame) (exchangeId : Nat) : PhyIsrCore × Bool :=
  if core.requested ≠ 0 then (core, false)
  else if ¬ validLen frame.halfbitLen ∨ core.cmd.isSome then (core, false)
  else
    ({ core with
       cmd :=
         some
           { serial := core.accepted, data := frame.halfbitData
             len := frame.halfbitLen, expectsBackward := frame.expectsBackward
             minIdleTicks := frame.gates.minIdleTicks
             restartGate := frame.gates.restartGate, exchangeId }
       accepted := core.accepted + 1
       history := .accepted core.accepted :: core.history }, true)

def queueTxFor (frame : TxFrame) (exchangeId : Nat) : PhyIsrCore × Bool :=
  if core.requested ≠ 0 then (core, false)
  else if ¬ validLen frame.halfbitLen then (core, false)
  else
    match core.txQueue.tryPush
        { serial := core.accepted, exchangeId, batched := true
          data := frame.halfbitData, len := frame.halfbitLen
          expectsBackward := frame.expectsBackward
          minIdleTicks := frame.gates.minIdleTicks
          restartGate := frame.gates.restartGate } with
    | (_, false) => (core, false)
    | (txQueue, true) =>
      ({ core with
         txQueue
         accepted := core.accepted + 1
         history := .accepted core.accepted :: core.history }, true)

def beginExchange : PhyIsrCore × Nat :=
  let id := max (wrappingAdd u32Max core.exchangeEpoch 1) 1
  ({ core with exchangeEpoch := id }, id)

def cancelExchange : PhyIsrCore :=
  { core with requested := exchangeId }

def takeBatchAborted : PhyIsrCore × Bool :=
  ({ core with batchAborted := false }, core.batchAborted)

def popAnySessionEvent : PhyIsrCore × Option SessionEvent :=
  let popped := core.sessionEvents.tryPop
  ({ core with sessionEvents := popped.1 }, popped.2.map Prod.snd)

/-- The events before the first one stamped with the exchange are stale. -/
def popSessionEventFor : PhyIsrCore × Option SessionEvent :=
  let stale := core.sessionEvents.items.takeWhile fun event => event.1 ≠ exchangeId
  let left := core.sessionEvents.items.drop stale.length
  ({ core with
     sessionEvents :=
       ⟨left.tail, by
          rw [List.length_tail, List.length_drop]
          exact Nat.le_trans (Nat.sub_le _ _)
            (Nat.le_trans (Nat.sub_le _ _) core.sessionEvents.bounded)⟩
     staleSessionEvents := count^[stale.length] core.staleSessionEvents },
    left.head?.map Prod.snd)

def unpackRxStarted (packed : Nat) : Option Nat :=
  if packed = 0 then none else some (min (packed - 1) u8Max)

def closeBackwardWindow : PhyIsrCore × Option Nat :=
  let called := { core with history := .closed core.exchangeEpoch :: core.history }
  if core.sessionExchange = core.exchangeEpoch then
    ({ called with sessionExchange := 0, sessionRxStarted := 0 },
      unpackRxStarted core.sessionRxStarted)
  else (called, none)

def takeSessionRxStarted : PhyIsrCore × Option Nat :=
  if core.sessionExchange ≠ core.exchangeEpoch then (core, none)
  else
    ({ core with sessionRxStarted := 0 }, unpackRxStarted core.sessionRxStarted)

def submitAnswer (rxEpoch : Nat) (hb : HalfBitBuffer) : PhyIsrCore × Bool :=
  core.stage rxEpoch hb

def publishAnswerTable (image : AnswerTableImage) (accountsFor : Nat) : PhyIsrCore :=
  { core with table := core.table.publish image accountsFor core.wireTicksTotal }

def setAnswerLeaseForMs (nowTick remainingMs : Nat) : PhyIsrCore :=
  { core with table := core.table.setLeaseForMs nowTick remainingMs }

def popRx : PhyIsrCore × Option RxCompletedEvent :=
  let popped := core.rxRing.tryPop
  ({ core with rxRing := popped.1 }, popped.2)

def takeSniffDropped : PhyIsrCore × Nat :=
  ({ core with sniffDropped := 0 }, core.sniffDropped)

def takeSessionDropped : PhyIsrCore × Nat :=
  ({ core with sessionDropped := 0 }, core.sessionDropped)

/-!
## Runs
-/

inductive Op where
  | tick (input : TickInput)
  | beginExchange
  | submitTxFor (frame : TxFrame) (exchangeId : Nat)
  | queueTxFor (frame : TxFrame) (exchangeId : Nat)
  | cancelExchange (exchangeId : Nat)
  | closeBackwardWindow
  | popSessionEventFor (exchangeId : Nat)
  | popAnySessionEvent
  | takeBatchAborted
  | takeSessionRxStarted
  | submitAnswer (rxEpoch : Nat) (hb : HalfBitBuffer)
  | publishAnswerTable (image : AnswerTableImage) (accountsFor : Nat)
  | setAnswerLeaseForMs (nowTick remainingMs : Nat)
  | popRx
  | takeSniffDropped
  | takeSessionDropped

def step : Op -> PhyIsrCore
  | .tick input => core.tick input
  | .beginExchange => core.beginExchange.1
  | .submitTxFor frame exchangeId => (core.submitTxFor frame exchangeId).1
  | .queueTxFor frame exchangeId => (core.queueTxFor frame exchangeId).1
  | .cancelExchange exchangeId => core.cancelExchange exchangeId
  | .closeBackwardWindow => core.closeBackwardWindow.1
  | .popSessionEventFor exchangeId => (core.popSessionEventFor exchangeId).1
  | .popAnySessionEvent => core.popAnySessionEvent.1
  | .takeBatchAborted => core.takeBatchAborted.1
  | .takeSessionRxStarted => core.takeSessionRxStarted.1
  | .submitAnswer rxEpoch hb => (core.submitAnswer rxEpoch hb).1
  | .publishAnswerTable image accountsFor => core.publishAnswerTable image accountsFor
  | .setAnswerLeaseForMs nowTick remainingMs =>
    core.setAnswerLeaseForMs nowTick remainingMs
  | .popRx => core.popRx.1
  | .takeSniffDropped => core.takeSniffDropped.1
  | .takeSessionDropped => core.takeSessionDropped.1

def run (ops : List Op) : PhyIsrCore :=
  ops.foldl step core

end PhyIsrCore
end Oxidali.Phy
