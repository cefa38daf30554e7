import Oxidali.Lamps.ApplyDiff

/-!
# The operation tracker

Every request that takes time is an operation.  The tracker opens it, collects what
the workers report of it, and ends it once: by a signal, by a deadline, by a delivery
that was rejected, by a newer operation on the same resource or by a reset.  Reports
that come before their operation wait in buffers.
-/

namespace Oxidali.Operations

/-! ## What the workers send -/

inductive OperationType where
  | discovery
  | attributeRead
  | memoryBankRead
  | groupApply
  | sceneApply
  | haDiscoveryPublish
  | commissioningIdentify
  | commissioningAddressChange
  | commissioningReplaceDevice
  | attributeWrite
  | configWrite
  | firmwareUpdate
  | policyApply
deriving DecidableEq

def OperationType.coalescesPerResource : OperationType -> Bool
  | .configWrite => false
  | .attributeWrite => false
  | .groupApply => false
  | .sceneApply => false
  | .policyApply => false
  | .commissioningIdentify => false
  | .commissioningAddressChange => false
  | .commissioningReplaceDevice => false
  | _ => true

inductive OperationStatus where
  | accepted
  | running
  | succeeded
  | failed
  | timedOut
  | cancelled
deriving DecidableEq

def OperationStatus.isTerminal : OperationStatus -> Bool
  | .accepted => false
  | .running => false
  | _ => true

inductive ErrorCode where
  | invalidJson
  | unknownField
  | invalidEnum
  | invalidValue
  | invalidResourceId
  | notFound
  | conflict
  | unsupportedCapability
  | unsupportedField
  | commandsIngressOverload
  | confirmationTimeout
  | operationFailed
  | superseded
  | vlUnbound
  | registryReset
  | executionFailed
  | verifyFailed
  | invalidChannel
  | wsClientsExhausted
  | wsOriginRejected
  | deviceAbsent
  | preempted
  | verifyUnanswered
  | verifyContended
  | readContended
  | policyException
  | unknownDevice
deriving DecidableEq

structure CompactError where
  code : ErrorCode
  message : String

inductive ProgramTarget where
  | virtualLamp (virtualLampId : Nat)
  | short (shortAddress : Nat)
deriving DecidableEq

structure GroupProgrammed where
  target : ProgramTarget
  groupId : Nat
  action : GroupMembershipAction
  error : Option CompactError

structure SceneProgrammed where
  target : ProgramTarget
  sceneId : Nat
  action : SceneProgramAction
  error : Option CompactError

structure AttributesWritten where
  shortAddress : Nat
  error : Option CompactError

structure IdentifyResult where
  shortAddress : Nat
  mechanism : String

structure AddressChangeResult where
  oldShortAddress : Nat
  newShortAddress : Nat

structure ReplaceDeviceResult where
  failedShortAddress : Nat
  replacementShortAddress : Nat
  metadataAndOverrides : Bool

structure HaDiscoveryResult where
  entitiesPublished : Nat
  entitiesFailed : Nat

inductive AttributeGroupReadOutcome where
  | notRequested
  | success
  | contendedAbort
  | transportAbort
  | notAttempted
  | preempted
  | deviceAbsent
  | sequenceIncomplete

structure AttributeReadOutcomes where
  identity : AttributeGroupReadOutcome
  runtimeStatus : AttributeGroupReadOutcome
  common102 : AttributeGroupReadOutcome
  dt8Color : AttributeGroupReadOutcome
  dt6Led : AttributeGroupReadOutcome
  dt7Switching : AttributeGroupReadOutcome
  groups : AttributeGroupReadOutcome
  scenes : AttributeGroupReadOutcome
  extended : AttributeGroupReadOutcome
  memoryBanks : AttributeGroupReadOutcome

inductive WorkerSignalKind where
  | workerStarted
  | workerSucceeded
  | workerFailed

structure WorkerSignal where
  signal : WorkerSignalKind
  error : Option CompactError

/-! ## Counting what an apply has done -/

def virtualLampCount : Nat := 64
def maxShortAddresses : Nat := 64
def u16Max : Nat := 65535

def bumpTotal (total : Nat) : Nat := min (total + 1) u16Max

inductive OutcomeBucket where
  | success
  | skipped
  | failed
deriving DecidableEq

structure GroupApplyAccumulator where
  programmedTotal : Nat
  skippedTotal : Nat
  failedTotal : Nat
  seenCells : Nat -> BitVec 64

structure SceneApplyAccumulator where
  writtenTotal : Nat
  updatedTotal : Nat
  clearedTotal : Nat
  skippedTotal : Nat
  failedTotal : Nat
  seenRows : BitVec 64

structure PolicyApplyAccumulator where
  writtenTotal : Nat
  skippedTotal : Nat
  failedTotal : Nat
  seenShorts : BitVec 64

def GroupApplyAccumulator.default : GroupApplyAccumulator where
  programmedTotal := 0
  skippedTotal := 0
  failedTotal := 0
  seenCells := fun _ => 0

def SceneApplyAccumulator.default : SceneApplyAccumulator where
  writtenTotal := 0
  updatedTotal := 0
  clearedTotal := 0
  skippedTotal := 0
  failedTotal := 0
  seenRows := 0

def PolicyApplyAccumulator.default : PolicyApplyAccumulator where
  writtenTotal := 0
  skippedTotal := 0
  failedTotal := 0
  seenShorts := 0

/-- The row with the bit set, and whether it was set before. -/
def rowBitAlreadySet (row : BitVec 64) (bit : Nat) : BitVec 64 × Bool :=
  (row ||| BitVec.twoPow 64 bit, row.getLsbD bit)

inductive OperationDetail where
  | none
  | groupApply (result : GroupApplyAccumulator)
  | sceneApply (result : SceneApplyAccumulator)
  | policyApply (result : PolicyApplyAccumulator)
  | attributeRead (view : AttributeReadOutcomes)
  | identify (view : IdentifyResult)
  | addressChange (view : AddressChangeResult)
  | replaceDevice (view : ReplaceDeviceResult)
  | haDiscovery (view : HaDiscoveryResult)

def OperationDetail.fromBegin : OperationType -> OperationDetail
  | .groupApply => .groupApply GroupApplyAccumulator.default
  | .sceneApply => .sceneApply SceneApplyAccumulator.default
  | .policyApply => .policyApply PolicyApplyAccumulator.default
  | _ => .none

/-- `ApplyFamily`: how the outcomes of one kind of apply are counted. -/
structure ApplyFamily (Body Result : Type) where
  skip : ErrorCode
  fromDetail : OperationDetail -> Option Result
  toDetail : Result -> OperationDetail
  alreadyCounted : Result -> Body -> Result × Bool
  error : Body -> Option CompactError
  bump : Result -> Body -> OutcomeBucket -> Result

def groupFamily : ApplyFamily GroupProgrammed GroupApplyAccumulator where
  skip := .vlUnbound
  fromDetail := fun
    | .groupApply result => some result
    | _ => none
  toDetail := .groupApply
  alreadyCounted := fun result body =>
    match body.target with
    | .virtualLamp lamp =>
      if lamp >= virtualLampCount || body.groupId >= 16 then (result, false)
      else
        let row := rowBitAlreadySet (result.seenCells body.groupId) lamp
        ({ result with seenCells := fun group =>
            if group = body.groupId then row.1 else result.seenCells group }, row.2)
    | .short _ => (result, false)
  error := GroupProgrammed.error
  bump := fun result _ bucket =>
    match bucket with
    | .success => { result with programmedTotal := bumpTotal result.programmedTotal }
    | .skipped => { result with skippedTotal := bumpTotal result.skippedTotal }
    | .failed => { result with failedTotal := bumpTotal result.failedTotal }

def sceneFamily : ApplyFamily SceneProgrammed SceneApplyAccumulator where
  skip := .vlUnbound
  fromDetail := fun
    | .sceneApply result => some result
    | _ => none
  toDetail := .sceneApply
  alreadyCounted := fun result body =>
    match body.target with
    | .virtualLamp lamp =>
      if lamp >= virtualLampCount then (result, false)
      else
        let row := rowBitAlreadySet result.seenRows lamp
        ({ result with seenRows := row.1 }, row.2)
    | .short _ => (result, false)
  error := SceneProgrammed.error
  bump := fun result body bucket =>
    match bucket with
    | .success =>
      match body.action with
      | .write => { result with writtenTotal := bumpTotal result.writtenTotal }
      | .update => { result with updatedTotal := bumpTotal result.updatedTotal }
      | .clear => { result with clearedTotal := bumpTotal result.clearedTotal }
    | .skipped => { result with skippedTotal := bumpTotal result.skippedTotal }
    | .failed => { result with failedTotal := bumpTotal result.failedTotal }

def policyFamily : ApplyFamily AttributesWritten PolicyApplyAccumulator where
  skip := .policyException
  fromDetail := fun
    | .policyApply result => some result
    | _ => none
  toDetail := .policyApply
  alreadyCounted := fun result body =>
    if body.shortAddress >= maxShortAddresses then (result, false)
    else
      let row := rowBitAlreadySet result.seenShorts body.shortAddress
      ({ result with seenShorts := row.1 }, row.2)
  error := AttributesWritten.error
  bump := fun result _ bucket =>
    match bucket with
    | .success => { result with writtenTotal := bumpTotal result.writtenTotal }
    | .skipped => { result with skippedTotal := bumpTotal result.skippedTotal }
    | .failed => { result with failedTotal := bumpTotal result.failedTotal }

namespace ApplyFamily

variable {Body Result : Type} (family : ApplyFamily Body Result)

def bucketOf (body : Body) : OutcomeBucket :=
  match family.error body with
  | none => .success
  | some error => if error.code = family.skip then .skipped else .failed

/-- `record_apply_outcome`; an outcome that was counted before still marks its bit. -/
def recordOutcome (detail : OperationDetail) (body : Body) : OperationDetail :=
  match family.fromDetail detail with
  | none => detail
  | some result =>
    let counted := family.alreadyCounted result body
    if counted.2 then family.toDetail counted.1
    else family.toDetail (family.bump counted.1 body (family.bucketOf body))

end ApplyFamily

/-! ## The state of the tracker -/

structure TrackedOp where
  workflowCorrelationId : Nat
  operationKey : String
  opType : OperationType
  adapterId : Nat
  status : OperationStatus
  deadline : Nat
  startedAtUnixMs : Nat
  detail : OperationDetail

/-- The resource is the key without its serial number. -/
def resourceOf (operationKey : String) : String :=
  if '-' ∈ operationKey.toList then
    String.ofList (operationKey.toList.reverse.dropWhile fun c => c ≠ '-').tail.reverse
  else operationKey

structure CoalesceKey where
  opType : OperationType
  adapterId : Nat
  resource : String
deriving DecidableEq

def coalesceKey (opType : OperationType) (adapterId : Nat) (operationKey : String) :
    CoalesceKey where
  opType := opType
  adapterId := adapterId
  resource := resourceOf operationKey

def TrackedOp.key (op : TrackedOp) : CoalesceKey :=
  coalesceKey op.opType op.adapterId op.operationKey

structure StatusChanged where
  correlation : Nat
  opType : OperationType
  status : OperationStatus
  error : Option CompactError
  startedAtMs : Nat
  finishedAtMs : Option Nat
  ttlRemainingMs : Nat
  operationKey : String

structure TrackerCounters where
  accepted : BitVec 32
  succeeded : BitVec 32
  failed : BitVec 32
  timedOut : BitVec 32
  cancelled : BitVec 32
  pendingOutcomesExpired : BitVec 32

namespace TrackerCounters

variable (counters : TrackerCounters)

def bump : OperationStatus -> TrackerCounters
  | .accepted => { counters with accepted := counters.accepted + 1 }
  | .running => counters
  | .succeeded => { counters with succeeded := counters.succeeded + 1 }
  | .failed => { counters with failed := counters.failed + 1 }
  | .timedOut => { counters with timedOut := counters.timedOut + 1 }
  | .cancelled => { counters with cancelled := counters.cancelled + 1 }

/-- `OperationTotals::terminal`. -/
def terminal : BitVec 32 :=
  counters.succeeded + counters.failed + counters.timedOut + counters.cancelled

/-- `OperationTotals::in_flight`. -/
def inFlight : BitVec 32 :=
  counters.accepted - counters.terminal

end TrackerCounters

structure PendingEntry (V : Type) where
  expiresAt : Nat
  value : V

abbrev PendingMap (V : Type) := AList fun _ : Nat => PendingEntry V

def pendingOutcomeTtl : Nat := 10000
def maxPendingCorrelations : Nat := 16
def maxPendingOutcomes : Nat := 256
def maxPendingSignals : Nat := 4
def closedCorrelationsRemembered : Nat := 2 * maxPendingCorrelations
def rejectionsRemembered : Nat := 32

namespace PendingMap

variable {V : Type}

def capReached (map : PendingMap V) (workflow : Nat) : Bool :=
  map.keys.length >= maxPendingCorrelations && workflow ∉ map

def insertSingle (map : PendingMap V) (now workflow : Nat) (value : V) : PendingMap V :=
  if map.capReached workflow then map
  else map.insert workflow ⟨now + pendingOutcomeTtl, value⟩

def queueList (map : PendingMap (List V)) (now workflow : Nat) (value : V)
    (maxPerCorrelation : Nat) : PendingMap (List V) :=
  if map.capReached workflow then map
  else
    let entry := (map.lookup workflow).getD ⟨now + pendingOutcomeTtl, []⟩
    map.insert workflow (if entry.value.length < maxPerCorrelation then
      { entry with value := entry.value ++ [value] } else entry)

def evictExpired (map : PendingMap V) (now : Nat) : PendingMap V where
  entries := map.entries.filter fun entry => now < entry.2.expiresAt
  nodupKeys := map.nodupKeys.sublist List.filter_sublist

/-- The values that waited for the correlation. -/
def waiting (map : PendingMap (List V)) (workflow : Nat) : List V :=
  (map.lookup workflow).elim [] PendingEntry.value

end PendingMap

/-- The last correlations that were noted, oldest first. -/
structure RecentCorrelations where
  held : List Nat
  capacity : Nat

namespace RecentCorrelations

variable (recent : RecentCorrelations) (correlation : Nat)

def note : RecentCorrelations :=
  { recent with held := (if recent.held.length >= recent.capacity then recent.held.tail
    else recent.held) ++ [correlation] }

def holds : Bool :=
  recent.held.contains correlation

def take : RecentCorrelations × Bool :=
  ({ recent with held := recent.held.filter fun held => held ≠ correlation },
    recent.held.contains correlation)

end RecentCorrelations

structure Pending where
  groupApply : PendingMap (List GroupProgrammed)
  sceneApply : PendingMap (List SceneProgrammed)
  policyApply : PendingMap (List AttributesWritten)
  attributeRead : PendingMap AttributeReadOutcomes
  identify : PendingMap IdentifyResult
  addressChange : PendingMap AddressChangeResult
  replaceDevice : PendingMap ReplaceDeviceResult
  workerSignals : PendingMap (List WorkerSignal)

namespace Pending

def empty : Pending where
  groupApply := ∅
  sceneApply := ∅
  policyApply := ∅
  attributeRead := ∅
  identify := ∅
  addressChange := ∅
  replaceDevice := ∅
  workerSignals := ∅

variable (pending : Pending)

def removeCorrelation (correlation : Nat) : Pending where
  groupApply := pending.groupApply.erase correlation
  sceneApply := pending.sceneApply.erase correlation
  policyApply := pending.policyApply.erase correlation
  attributeRead := pending.attributeRead.erase correlation
  identify := pending.identify.erase correlation
  addressChange := pending.addressChange.erase correlation
  replaceDevice := pending.replaceDevice.erase correlation
  workerSignals := pending.workerSignals.erase correlation

def evictExpired (now : Nat) : Pending where
  groupApply := PendingMap.evictExpired pending.groupApply now
  sceneApply := PendingMap.evictExpired pending.sceneApply now
  policyApply := PendingMap.evictExpired pending.policyApply now
  attributeRead := PendingMap.evictExpired pending.attributeRead now
  identify := PendingMap.evictExpired pending.identify now
  addressChange := PendingMap.evictExpired pending.addressChange now
  replaceDevice := PendingMap.evictExpired pending.replaceDevice now
  workerSignals := PendingMap.evictExpired pending.workerSignals now

def size : Nat :=
  pending.groupApply.keys.length + pending.sceneApply.keys.length
    + pending.policyApply.keys.length + pending.attributeRead.keys.length
    + pending.identify.keys.length + pending.addressChange.keys.length
    + pending.replaceDevice.keys.length + pending.workerSignals.keys.length

end Pending

/-- The tracker with what it has published, newest first. -/
structure Tracker where
  active : AList fun _ : Nat => TrackedOp
  coalesce : AList fun _ : CoalesceKey => Nat
  pending : Pending
  closed : RecentCorrelations
  rejected : RecentCorrelations
  counters : TrackerCounters
  published : List StatusChanged

structure Clock where
  now : Nat
  unixMs : Nat

namespace Tracker

def new : Tracker where
  active := ∅
  coalesce := ∅
  pending := Pending.empty
  closed := ⟨[], closedCorrelationsRemembered⟩
  rejected := ⟨[], rejectionsRemembered⟩
  counters := {
    accepted := 0
    succeeded := 0
    failed := 0
    timedOut := 0
    cancelled := 0
    pendingOutcomesExpired := 0 }
  published := []

/-! ## Status events -/

variable (self : Tracker) (clock : Clock) (correlation : Nat)

def publishStatus (op : TrackedOp) (status : OperationStatus) (finishedAt : Option Nat) (ttl : Nat)
    (error : Option CompactError) : Tracker :=
  { self with published := {
      correlation := op.workflowCorrelationId
      opType := op.opType
      status := status
      error := error
      startedAtMs := op.startedAtUnixMs
      finishedAtMs := finishedAt
      ttlRemainingMs := ttl
      operationKey := op.operationKey } :: self.published }

def ttlRemainingMs (deadline now : Nat) : Nat :=
  min (deadline - now) 4294967295

def bumpCounter (status : OperationStatus) : Tracker :=
  { self with counters := self.counters.bump status }

variable (op : TrackedOp)

def emitTransition (status : OperationStatus) (finishedAt : Option Nat)
    (error : Option CompactError) : Tracker :=
  (self.publishStatus op status finishedAt
    (if status.isTerminal then 0 else ttlRemainingMs op.deadline clock.now)
    error).bumpCounter status

def clearActiveEntry : Tracker :=
  { self with
    active := self.active.erase correlation
    closed := self.closed.note correlation
    pending := self.pending.removeCorrelation correlation
    coalesce := if self.coalesce.lookup op.key = some correlation then
      self.coalesce.erase op.key else self.coalesce }

def applyTerminal (status : OperationStatus) (error : Option CompactError) : Tracker :=
  (self.emitTransition clock op status (some clock.unixMs) error).clearActiveEntry correlation op

def emitTerminalWithRetention (status : OperationStatus) (code : ErrorCode) : Tracker :=
  (self.publishStatus op status (some clock.unixMs) 0 (some ⟨code, ""⟩)).bumpCounter status

def promoteRunning : Tracker :=
  if op.status = .accepted then
    let told := self.publishStatus op .running none (ttlRemainingMs op.deadline clock.now) none
    match told.active.lookup correlation with
    | none => told
    | some slot =>
      { told with active := told.active.insert correlation { slot with
          status := .running } }
  else self

def setDetail (detail : OperationDetail) : Tracker :=
  match self.active.lookup correlation with
  | none => self
  | some op =>
    { self with active := self.active.insert correlation { op with detail := detail } }

/-! ## Outcomes of an apply -/

section Family

variable {Body Result : Type}

structure Buffer (V : Type) where
  get : Pending -> PendingMap (List V)
  set : Pending -> PendingMap (List V) -> Pending

def groupBuffer : Buffer GroupProgrammed where
  get := Pending.groupApply
  set := fun pending map => { pending with groupApply := map }

def sceneBuffer : Buffer SceneProgrammed where
  get := Pending.sceneApply
  set := fun pending map => { pending with sceneApply := map }

def policyBuffer : Buffer AttributesWritten where
  get := Pending.policyApply
  set := fun pending map => { pending with policyApply := map }

def signalBuffer : Buffer WorkerSignal where
  get := Pending.workerSignals
  set := fun pending map => { pending with workerSignals := map }

def queue {V : Type} (self : Tracker) (buffer : Buffer V) (clock : Clock) (correlation : Nat)
    (value : V) (maxPerCorrelation : Nat) : Tracker :=
  let map := PendingMap.queueList (buffer.get self.pending) clock.now correlation value
    maxPerCorrelation
  { self with pending := buffer.set self.pending map }

def applyOutcome (family : ApplyFamily Body Result) (buffer : Buffer Body) (self : Tracker)
    (clock : Clock) (correlation : Nat) (body : Body) : Tracker :=
  match self.active.lookup correlation with
  | none =>
    if self.closed.holds correlation then self
    else self.queue buffer clock correlation body maxPendingOutcomes
  | some op =>
    let promoted := self.promoteRunning clock correlation op
    match promoted.active.lookup correlation with
    | none => promoted
    | some slot => promoted.setDetail correlation (family.recordOutcome slot.detail body)

/-- Applies what has waited, as long as the operation is open. -/
def replay {V : Type} (step : Tracker -> V -> Tracker) (correlation : Nat) :
    Tracker -> List V -> Tracker
  | self, [] => self
  | self, item :: rest =>
    let next := step self item
    if correlation ∈ next.active then replay step correlation next rest else next

def replayPending {V : Type} (self : Tracker) (buffer : Buffer V) (correlation : Nat)
    (step : Tracker -> V -> Tracker) : Tracker :=
  let waiting := PendingMap.waiting (buffer.get self.pending) correlation
  let map := (buffer.get self.pending).erase correlation
  replay step correlation { self with pending := buffer.set self.pending map } waiting

def flushOutcomes (family : ApplyFamily Body Result) (buffer : Buffer Body) (self : Tracker)
    (clock : Clock) (correlation : Nat) : Tracker :=
  self.replayPending buffer correlation fun tracker body =>
    applyOutcome family buffer tracker clock correlation body

end Family

/-! ## Signals and rejected deliveries -/

def applyWorkerFailure (op : TrackedOp) (signal : WorkerSignal) : Tracker :=
  self.applyTerminal clock correlation op .failed
    (some (signal.error.getD ⟨.operationFailed, ""⟩))

def applyWorkerSignal (signal : WorkerSignal) (background : Bool) : Tracker :=
  match self.active.lookup correlation with
  | none =>
    if background || self.closed.holds correlation then self
    else self.queue signalBuffer clock correlation signal maxPendingSignals
  | some op =>
    match signal.signal with
    | .workerStarted => self.promoteRunning clock correlation op
    | .workerSucceeded => self.applyTerminal clock correlation op .succeeded none
    | .workerFailed => self.applyWorkerFailure clock correlation op signal

def failUndelivered : Tracker :=
  match self.active.lookup correlation with
  | none => self
  | some op =>
    (self.emitTerminalWithRetention clock op .failed
      .commandsIngressOverload).clearActiveEntry correlation op

def failOnParkedRejection : Tracker :=
  let taken := self.rejected.take correlation
  let without := { self with rejected := taken.1 }
  if taken.2 then without.failUndelivered clock correlation else without

/-- A confirmation that says that a command was not delivered. -/
def drainRejected : Tracker :=
  if correlation ∈ self.active then self.failUndelivered clock correlation
  else if self.closed.holds correlation then self
  else { self with rejected := self.rejected.note correlation }

/-! ## Beginning an operation -/

structure OperationBegin where
  operationType : OperationType
  operationKey : String
  ttlMs : Nat

def supersedeStaleOperation (key : CoalesceKey) (correlation : Nat) : Tracker :=
  match self.coalesce.lookup key with
  | none => self
  | some old =>
    if old = correlation then self
    else
      match self.active.lookup old with
      | none => self
      | some op =>
        let removed := { self with
          active := self.active.erase old
          closed := self.closed.note old }
        let told := removed.emitTerminalWithRetention clock op .cancelled .superseded
        { told with coalesce := told.coalesce.erase key }

def attachAttributeRead (view : AttributeReadOutcomes) : Tracker :=
  match self.active.lookup correlation with
  | none => self
  | some op =>
    if op.opType = .attributeRead then self.setDetail correlation (.attributeRead view)
    else self

def flushPendingAttributeRead : Tracker :=
  match self.pending.attributeRead.lookup correlation with
  | none => self
  | some entry =>
    { self with pending := { self.pending with
        attributeRead := self.pending.attributeRead.erase correlation } }
      |>.attachAttributeRead correlation entry.value

def flushPendingCommissioning : OperationType -> Tracker
  | .commissioningIdentify =>
    match self.pending.identify.lookup correlation with
    | none => self
    | some entry =>
      { self with pending := { self.pending with
          identify := self.pending.identify.erase correlation } }
        |>.setDetail correlation (.identify entry.value)
  | .commissioningAddressChange =>
    match self.pending.addressChange.lookup correlation with
    | none => self
    | some entry =>
      { self with pending := { self.pending with
          addressChange := self.pending.addressChange.erase correlation } }
        |>.setDetail correlation (.addressChange entry.value)
  | .commissioningReplaceDevice =>
    match self.pending.replaceDevice.lookup correlation with
    | none => self
    | some entry =>
      { self with pending := { self.pending with
          replaceDevice := self.pending.replaceDevice.erase correlation } }
        |>.setDetail correlation (.replaceDevice entry.value)
  | _ => self

/-- The outcomes that wait for the kind of operation. -/
def flushApply : OperationType -> Tracker
  | .groupApply => flushOutcomes groupFamily groupBuffer self clock correlation
  | .sceneApply => flushOutcomes sceneFamily sceneBuffer self clock correlation
  | .policyApply => flushOutcomes policyFamily policyBuffer self clock correlation
  | .attributeRead => self.flushPendingAttributeRead correlation
  | _ => self

def flushSignals : Tracker :=
  self.replayPending signalBuffer correlation fun tracker signal =>
    tracker.applyWorkerSignal clock correlation signal false

def flushBeginBacklog (opType : OperationType) : Tracker :=
  (((self.flushApply clock correlation opType).flushPendingCommissioning correlation
    opType).flushSignals clock correlation).failOnParkedRejection clock correlation

def openedOp (adapterId : Nat) (body : OperationBegin) : TrackedOp where
  workflowCorrelationId := correlation
  operationKey := body.operationKey
  opType := body.operationType
  adapterId := adapterId
  status := .accepted
  deadline := clock.now + max body.ttlMs 1
  startedAtUnixMs := clock.unixMs
  detail := OperationDetail.fromBegin body.operationType

/-- The operation is entered into the tables. -/
def enter (op : TrackedOp) : Tracker :=
  let told := self.emitTransition clock op .accepted none none
  { told with
    coalesce := if op.opType.coalescesPerResource then
      told.coalesce.insert op.key op.workflowCorrelationId else told.coalesce
    active := told.active.insert op.workflowCorrelationId op }

def handleOperationBegin (adapterId : Nat) (body : OperationBegin) : Tracker :=
  let op := openedOp clock correlation adapterId body
  let free := if op.opType.coalescesPerResource then
    self.supersedeStaleOperation clock op.key correlation else self
  (free.enter clock op).flushBeginBacklog clock correlation op.opType

/-! ## Events, resets and deadlines -/

inductive TrackerEvent where
  | groupProgrammed (body : GroupProgrammed)
  | sceneProgrammed (body : SceneProgrammed)
  | attributesWritten (body : AttributesWritten)
  | attributeReadOutcomes (view : AttributeReadOutcomes)
  | deviceIdentified (view : IdentifyResult)
  | addressingCompleted (view : AddressChangeResult)
  | haDiscoveryPublished (view : HaDiscoveryResult)
  | deviceReplaced (view : ReplaceDeviceResult)
  | workerSignal (signal : WorkerSignal)

def awaitsPolicyOutcomes : Bool :=
  (self.active.lookup correlation).all fun op => op.opType = .policyApply

/-- A result that is attached to its operation or waits for it. -/
def attachOrBuffer {V : Type} (self : Tracker) (clock : Clock) (correlation : Nat) (view : V)
    (detail : V -> OperationDetail) (get : Pending -> PendingMap V)
    (set : Pending -> PendingMap V -> Pending) : Tracker :=
  if correlation ∈ self.active then self.setDetail correlation (detail view)
  else if self.closed.holds correlation then self
  else
    let map := PendingMap.insertSingle (get self.pending) clock.now correlation view
    { self with pending := set self.pending map }

def handleEvent (background : Bool) : TrackerEvent -> Tracker
  | .groupProgrammed body =>
    applyOutcome groupFamily groupBuffer self clock correlation body
  | .sceneProgrammed body =>
    applyOutcome sceneFamily sceneBuffer self clock correlation body
  | .attributesWritten body =>
    if self.awaitsPolicyOutcomes correlation then
      applyOutcome policyFamily policyBuffer self clock correlation body
    else self
  | .attributeReadOutcomes view =>
    if correlation ∈ self.active then self.attachAttributeRead correlation view
    else if background || self.closed.holds correlation then self
    else { self with pending := { self.pending with
      attributeRead := PendingMap.insertSingle self.pending.attributeRead clock.now
        correlation view } }
  | .deviceIdentified view =>
    self.attachOrBuffer clock correlation view .identify Pending.identify
      fun pending map => { pending with identify := map }
  | .addressingCompleted view =>
    self.attachOrBuffer clock correlation view .addressChange Pending.addressChange
      fun pending map => { pending with addressChange := map }
  | .haDiscoveryPublished view => self.setDetail correlation (.haDiscovery view)
  | .deviceReplaced view =>
    self.attachOrBuffer clock correlation view .replaceDevice Pending.replaceDevice
      fun pending map => { pending with replaceDevice := map }
  | .workerSignal signal => self.applyWorkerSignal clock correlation signal background

def resetOne (self : Tracker) (correlation : Nat) : Tracker :=
  match self.active.lookup correlation with
  | none => self
  | some op =>
    let told := self.emitTerminalWithRetention clock op .cancelled .registryReset
    { told with closed := told.closed.note correlation }

/-- `order` is the order in which the table lists its operations. -/
def handleRegistryReset (order : List Nat) : Tracker :=
  { order.foldl (resetOne clock) self with
    active := ∅
    coalesce := ∅ }

def dueCorrelations (now : Nat) : List Nat :=
  self.active.keys.filter fun correlation =>
    (self.active.lookup correlation).any fun op =>
      now >= op.deadline && (op.status = .accepted || op.status = .running)

def timeOutOne (self : Tracker) (correlation : Nat) : Tracker :=
  match self.active.lookup correlation with
  | none => self
  | some op =>
    (self.emitTerminalWithRetention clock op .timedOut
      .confirmationTimeout).clearActiveEntry correlation op

def evictExpiredPending (now : Nat) : Tracker :=
  let kept := self.pending.evictExpired now
  { self with
    pending := kept
    counters := { self.counters with
      pendingOutcomesExpired := self.counters.pendingOutcomesExpired
        + BitVec.ofNat 32 (self.pending.size - kept.size) } }

/-- `order` is the order in which the table lists the operations that are due. -/
def tickDeadlines (order : List Nat) : Tracker :=
  order.foldl (timeOutOne clock) (self.evictExpiredPending clock.now)

/-! ## What reaches the tracker -/

inductive Input where
  | begin (correlation adapterId : Nat) (body : OperationBegin)
  | registryReset (order : List Nat)
  | event (correlation : Nat) (background : Bool) (event : TrackerEvent)
  | rejected (correlation : Nat)
  | tick (order : List Nat)

def handle : Input -> Tracker
  | .begin correlation adapterId body =>
    self.handleOperationBegin clock correlation adapterId body
  | .registryReset order => self.handleRegistryReset clock order
  | .event correlation background event =>
    self.handleEvent clock correlation background event
  | .rejected correlation => self.drainRejected clock correlation
  | .tick order => self.tickDeadlines clock order

end Tracker

end Oxidali.Operations
