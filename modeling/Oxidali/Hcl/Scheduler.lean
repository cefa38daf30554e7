import Oxidali.Lamps.ApplyDiff

/-!
# The schedule worker

Schedules of light curves drive groups and whole adapters.  A tick computes what every
schedule wants, merges the wishes into commands and publishes them one by one; while it
waits for a confirmation it goes on serving holds, commits and edits.  A manual change
of a lamp suspends the targets it touches in a ledger, each for its own schedule.
-/

namespace Oxidali.Hcl

open BitVec
open Lamps (PowerState kelvinToMirek)

/-! ## Schedules -/

inductive LevelMode where
  | absolute
  | lastActive
  | none
deriving DecidableEq

inductive TimeRef where
  | absolute
  | sunrise
  | sunset
deriving DecidableEq

inductive Algorithm where
  | stepped
  | interpolated
deriving DecidableEq

inductive TargetScope where
  | group
  | broadcast
deriving DecidableEq

structure SchedulePointRow where
  timeRef : TimeRef
  offsetMinutes : Int
  levelMode : LevelMode
  level : Option Nat
  colorTemperatureKelvin : Option Nat
deriving DecidableEq

structure TargetRow where
  adapterId : Nat
  scope : TargetScope
  groupMask : BitVec 16
deriving DecidableEq

structure ScheduleView where
  scheduleId : String
  enabled : Bool
  algorithm : Algorithm
  activeDaysMask : BitVec 8
  latitudeMicrodeg : Option Int
  longitudeMicrodeg : Option Int
  targets : List TargetRow
  points : List SchedulePointRow
deriving DecidableEq

structure LocalCivilTime where
  yearDay : Nat
  weekday : Nat
  minutesSinceMidnight : Nat
  utcOffsetMinutes : Int

def daysPerWeek : Nat := 7

def runsToday (schedule : ScheduleView) (civil : LocalCivilTime) : Bool :=
  civil.weekday < daysPerWeek && schedule.enabled && schedule.activeDaysMask.getLsbD civil.weekday

structure DesiredState where
  levelMode : LevelMode
  level : Option Nat
  colorTemperatureKelvin : Option Nat

namespace DesiredState

def isNoop (state : DesiredState) : Bool :=
  state.colorTemperatureKelvin.isNone && state.levelMode = .none

def wireEqual (state other : DesiredState) : Bool :=
  state.levelMode = other.levelMode && state.level = other.level
    && state.colorTemperatureKelvin.map kelvinToMirek
      = other.colorTemperatureKelvin.map kelvinToMirek

end DesiredState

/-! ## The plan of a tick -/

structure TargetKey where
  adapterId : Nat
  scope : TargetScope
  groupId : Nat
deriving DecidableEq

structure DesiredEntry where
  key : TargetKey
  state : DesiredState
  schedule : Nat

/-- All colours of a plan are colour temperatures. -/
structure LightSetpoint where
  power : PowerState
  level : Option Nat
  color : Option Nat
deriving DecidableEq

inductive PlannedCommand where
  | targetState (key : TargetKey) (setpoint : LightSetpoint)
  | recallLastActive (key : TargetKey)
deriving DecidableEq

def PlannedCommand.key : PlannedCommand -> TargetKey
  | .targetState key _ => key
  | .recallLastActive key => key

def groupCount : Nat := 16

def expandTarget (row : TargetRow) : List TargetKey :=
  match row.scope with
  | .broadcast => [⟨row.adapterId, .broadcast, 0⟩]
  | .group =>
    ((List.range groupCount).filter fun group => row.groupMask.getLsbD group).map
      fun group => ⟨row.adapterId, .group, group⟩

def ScheduleView.expanded (schedule : ScheduleView) : List TargetKey :=
  schedule.targets.flatMap expandTarget

/-- The entry in the place of an earlier one for the same target. -/
def offer (entry : DesiredEntry) : List DesiredEntry -> List DesiredEntry
  | [] => [entry]
  | seen :: rest =>
    if seen.key = entry.key then entry :: rest else seen :: offer entry rest

def coalesce (entries : List DesiredEntry) : List DesiredEntry :=
  entries.foldl (fun coalesced entry => offer entry coalesced) []

def absoluteSetpoint (level : Nat) (color : Option Nat) : LightSetpoint where
  power := if level = 0 then .off else .on
  level := some level
  color := color

def colorOnlySetpoint (color : Nat) : LightSetpoint where
  power := .unknown
  level := none
  color := some color

def commandsFor (entry : DesiredEntry) : List PlannedCommand :=
  let colourOnly := (entry.state.colorTemperatureKelvin.map fun color =>
    PlannedCommand.targetState entry.key (colorOnlySetpoint color)).toList
  match entry.state.levelMode, entry.state.level with
  | .absolute, some level =>
    [.targetState entry.key (absoluteSetpoint level entry.state.colorTemperatureKelvin)]
  | .lastActive, _ => colourOnly ++ [.recallLastActive entry.key]
  | .absolute, none => colourOnly
  | .none, _ => colourOnly

structure TickPlan where
  commands : List PlannedCommand
  dropped : Nat

def maxCommandsPerTick : Nat := 32

def planOne (tickPlan : TickPlan) (entry : DesiredEntry) : TickPlan :=
  let unit := commandsFor entry
  if tickPlan.dropped > 0
      || tickPlan.commands.length + unit.length > maxCommandsPerTick then
    { tickPlan with dropped := tickPlan.dropped + unit.length }
  else { tickPlan with commands := tickPlan.commands ++ unit }

def plan (entries : List DesiredEntry) : TickPlan :=
  (entries.filter fun entry => !entry.state.isNoop).foldl planOne ⟨[], 0⟩

/-! ## Overrides -/

structure SetpointDimensions where
  level : Bool
  color : Bool

def SetpointDimensions.intersects (self other : SetpointDimensions) : Bool :=
  (self.level && other.level) || (self.color && other.color)

def drivenDimensions (points : List SchedulePointRow) : SetpointDimensions where
  level := points.any fun point => point.levelMode ≠ .none
  color := points.any fun point => point.colorTemperatureKelvin.isSome

inductive RuntimeSource where
  | poller
  | sniffer
  | api
  | mqtt
  | hcl
  | cluster
  | adapterProxy
  | rules
  | readback

structure RuntimeCommit where
  adapterId : Nat
  virtualLampId : Option Nat
  valueSource : Option RuntimeSource
  states : SetpointDimensions
  holdsHcl : Bool

namespace RuntimeCommit

def isForeign (commit : RuntimeCommit) : Bool :=
  match commit.valueSource with
  | some .hcl => false
  | some .poller => false
  | some .readback => false
  | none => false
  | _ => true

def overrides (commit : RuntimeCommit) : Bool :=
  commit.holdsHcl && commit.isForeign

end RuntimeCommit

inductive OverrideTarget where
  | group (groupId : Nat)
  | broadcast
  | virtualLamp (virtualLampId : Nat)

structure Causes where
  lamps : BitVec 64
  groups : BitVec 16
  broadcast : Bool

def lampBit (virtualLampId : Nat) : BitVec 64 :=
  twoPow 64 virtualLampId

namespace Causes

def empty : Causes := ⟨0, 0, false⟩

def ofBroadcast : Causes := ⟨0, 0, true⟩

def ofGroup (groupId : Nat) : Causes := ⟨0, twoPow 16 groupId, false⟩

/-- A lamp beyond the mask counts as a broadcast. -/
def ofLamp (virtualLampId : Option Nat) : Causes :=
  match (virtualLampId.map lampBit).filter fun bit => bit ≠ 0 with
  | some lamps => ⟨lamps, 0, false⟩
  | none => ofBroadcast

def ofHold : OverrideTarget -> Causes
  | .broadcast => ofBroadcast
  | .group groupId => ofGroup groupId
  | .virtualLamp lamp => ofLamp (some lamp)

def ofCommit (commit : RuntimeCommit) : Causes :=
  ofLamp commit.virtualLampId

def join (causes other : Causes) : Causes where
  lamps := causes.lamps ||| other.lamps
  groups := causes.groups ||| other.groups
  broadcast := causes.broadcast || other.broadcast

def without (causes other : Causes) : Causes where
  lamps := causes.lamps &&& ~~~other.lamps
  groups := causes.groups &&& ~~~other.groups
  broadcast := causes.broadcast && !other.broadcast

def isEmpty (causes : Causes) : Bool :=
  causes.lamps = 0 && causes.groups = 0 && !causes.broadcast

end Causes

structure Flag where
  since : Nat
  causes : Causes

structure OverrideLedger where
  day : Option Nat
  suspended : String -> TargetKey -> Option Flag

def yearDayRing : Nat := 366

namespace OverrideLedger

def new : OverrideLedger where
  day := none
  suspended := fun _ _ => none

variable (ledger : OverrideLedger) (schedule : String)

def rolledForward (yearDay : Nat) : Bool :=
  match ledger.day with
  | none => true
  | some prev =>
    if prev = yearDay then false
    else (yearDay + yearDayRing - prev) % yearDayRing
      <= (prev + yearDayRing - yearDay) % yearDayRing

/-- `None` where the day is not a later one. -/
def rollOverTo (yearDay : Nat) : Option OverrideLedger :=
  if ledger.rolledForward yearDay then some ⟨some yearDay, fun _ _ => none⟩ else none

def isSuspended (target : TargetKey) : Bool :=
  (ledger.suspended schedule target).isSome

def suspend (target : TargetKey) (atMinutes : Nat) (cause : Causes) : OverrideLedger :=
  let flag := (ledger.suspended schedule target).getD ⟨atMinutes, Causes.empty⟩
  let joined := { flag with causes := flag.causes.join cause }
  { ledger with suspended := fun other key =>
      if other = schedule ∧ key = target then some joined
      else ledger.suspended other key }

def clearSchedule : OverrideLedger :=
  { ledger with suspended := fun other key =>
      if other = schedule then none else ledger.suspended other key }

def resume (adapterId : Nat) (removal : Causes) : OverrideLedger :=
  let lifted : Flag -> Option Flag := fun flag =>
    let causes := flag.causes.without removal
    if causes.isEmpty then none else some ⟨flag.since, causes⟩
  { ledger with suspended := fun schedule target =>
      (ledger.suspended schedule target).bind fun flag =>
        if target.adapterId ≠ adapterId then some flag else lifted flag }

end OverrideLedger

/-! ## What the worker reads -/

structure GroupApplyRow where
  virtualLampId : Nat
  appliedGroupsMask : BitVec 16

/-- The registry and the clock at the time of a call. -/
structure Reading where
  schedules : List ScheduleView
  groupApplySnapshot : Nat -> Option (List GroupApplyRow)
  civil : Option LocalCivilTime

namespace Reading

variable (reading : Reading) (adapterId : Nat)

def sortedSchedules : List ScheduleView :=
  reading.schedules.insertionSort fun a b => a.scheduleId <= b.scheduleId

def rows : List GroupApplyRow :=
  (reading.groupApplySnapshot adapterId).getD []

def inGroup (row : GroupApplyRow) (groupId : Nat) : Bool :=
  groupId < groupCount && row.appliedGroupsMask.getLsbD groupId

variable (groupId : Nat)

def memberLamps : BitVec 64 :=
  ((reading.rows adapterId).filter fun row => inGroup row groupId).foldl
    (fun lamps row => lamps ||| lampBit row.virtualLampId) 0

def groupsOfMembers : BitVec 16 :=
  ((reading.rows adapterId).filter fun row => inGroup row groupId).foldl
    (fun groups row => groups ||| row.appliedGroupsMask) 0

def lampIsInGroup (virtualLampId groupId : Nat) : Bool :=
  groupId < groupCount
    && ((reading.rows adapterId).find? fun row => row.virtualLampId = virtualLampId).any
      fun row => row.appliedGroupsMask.getLsbD groupId

def lampInTarget (virtualLampId : Nat) (target : TargetKey) : Bool :=
  adapterId = target.adapterId
    && match target.scope with
      | .broadcast => true
      | .group => reading.lampIsInGroup adapterId virtualLampId target.groupId

def groupCoversTarget (target : TargetKey) : Bool :=
  let membersGroups := reading.groupsOfMembers adapterId groupId
  match target.scope with
  | .broadcast => membersGroups ≠ 0
  | .group =>
    target.groupId = groupId
      || (target.groupId < groupCount && membersGroups.getLsbD target.groupId)

def commitHitsTarget (commit : RuntimeCommit) (target : TargetKey)
    (driven : SetpointDimensions) : Bool :=
  commit.overrides && commit.states.intersects driven
    && match commit.virtualLampId with
      | some lamp => reading.lampInTarget commit.adapterId lamp target
      | none => commit.adapterId = target.adapterId && target.scope = .broadcast

def holdCoversTarget (held : OverrideTarget) (target : TargetKey) : Bool :=
  adapterId = target.adapterId
    && match held with
      | .broadcast => true
      | .group groupId => reading.groupCoversTarget adapterId groupId target
      | .virtualLamp lamp => reading.lampInTarget adapterId lamp target

def resumeRemoval : OverrideTarget -> Causes
  | .broadcast => ⟨allOnes 64, allOnes 16, true⟩
  | .group groupId =>
    { Causes.ofGroup groupId with lamps := reading.memberLamps adapterId groupId }
  | .virtualLamp lamp => ⟨lampBit lamp, 0, false⟩

end Reading

/-! ## The state of the worker -/

structure PublishRecord where
  state : DesiredState
  confirmed : Bool

structure TickScope where
  sources : List (TargetKey × String)
  published : List TargetKey
  stoodDown : List TargetKey
  edited : List String
  cut : Bool

namespace TickScope

def planned (schedules : List ScheduleView) (fresh : List DesiredEntry) : TickScope where
  sources := fresh.filterMap fun entry =>
    schedules[entry.schedule]?.map fun view => (entry.key, view.scheduleId)
  published := []
  stoodDown := []
  edited := []
  cut := false

def plannedByAnEditedSchedule (tick : TickScope) (target : TargetKey) : Bool :=
  tick.sources.any fun source => source.1 = target && tick.edited.contains source.2

end TickScope

/-- A command on the bus, with the scope of its tick and the ledger of that moment. -/
structure Sent where
  command : PlannedCommand
  sources : List (TargetKey × String)
  overrides : OverrideLedger

structure Scheduler where
  lastPublished : TargetKey -> Option PublishRecord
  publishedFrom : Option (List ScheduleView)
  tick : Option TickScope
  overrides : OverrideLedger
  sent : List Sent

namespace Scheduler

def new : Scheduler where
  lastPublished := fun _ => none
  publishedFrom := none
  tick := none
  overrides := OverrideLedger.new
  sent := []

variable (curve : ScheduleView -> LocalCivilTime -> Option DesiredState)
  (self : Scheduler) (reading : Reading)

variable (target : TargetKey)

def forget : Scheduler :=
  { self with lastPublished := fun key =>
      if key = target then none else self.lastPublished key }

def standDown : Scheduler :=
  { self.forget target with tick := self.tick.map fun tick =>
      { tick with stoodDown := tick.stoodDown ++ [target] } }

def notePublished : Scheduler :=
  { self with tick := self.tick.map fun tick =>
      { tick with published := tick.published ++ [target] } }

def driven : Bool :=
  (self.lastPublished target).isSome
    || self.tick.any fun tick => tick.published.contains target

def skipsInTick : Scheduler × Bool :=
  match self.tick with
  | none => (self, false)
  | some tick =>
    let cut := tick.plannedByAnEditedSchedule target
    ({ self with tick := some { tick with cut := tick.cut || cut } },
      cut || tick.stoodDown.contains target)

def scheduleNamed (views : List ScheduleView) (scheduleId : String) : Option ScheduleView :=
  views.find? fun view => view.scheduleId = scheduleId

def editDuringTick (edited : String) (current : List ScheduleView) : Scheduler :=
  let was := self.publishedFrom.bind fun views => scheduleNamed views edited
  let now := scheduleNamed current edited
  if was = now then self
  else
    let stale := (was.toList ++ now.toList).flatMap ScheduleView.expanded
    { self with
      lastPublished := fun key => if key ∈ stale then none else self.lastPublished key
      tick := self.tick.map fun tick => { tick with
        published := tick.published.filter fun key => key ∉ stale
        edited := tick.edited ++ [edited] } }

def forgetEdited (current : List ScheduleView) : Scheduler :=
  if self.publishedFrom = some current then
    { self with lastPublished := fun key =>
        (self.lastPublished key).map fun record => { record with confirmed := false } }
  else
    { self with
      lastPublished := fun _ => none
      publishedFrom := none }

def rollOverLedger (yearDay : Nat) : Scheduler :=
  match self.overrides.rollOverTo yearDay with
  | none => self
  | some overrides =>
    { self with
      overrides := overrides
      lastPublished := fun _ => none }

/-! ## Frames -/

inductive Frame where
  | overrideClear (scheduleId : String)
  | overrideHold (adapterId : Nat) (target : OverrideTarget)
  | overrideResume (adapterId : Nat) (target : OverrideTarget)
  | scheduleChanged (scheduleId : String) (removed : Bool)
  | runtimeStateChanged (commit : RuntimeCommit)
  | ignored

def suspend (self : Scheduler) (schedule : String) (target : TargetKey) (atMinutes : Nat)
    (cause : Causes) : Scheduler :=
  { self with overrides := self.overrides.suspend schedule target atMinutes cause }

def holdTarget (atMinutes : Nat) (cause : Causes) (covered : String × TargetKey) : Scheduler :=
  (self.suspend covered.1 covered.2 atMinutes cause).standDown covered.2

variable (civil : LocalCivilTime)

/-- The targets of today's schedules that the condition selects, with their schedules. -/
def selected (select : ScheduleView -> TargetKey -> Bool) : List (String × TargetKey) :=
  (reading.schedules.filter fun schedule => runsToday schedule civil).flatMap
    fun schedule => (schedule.expanded.filter (select schedule)).map
      fun target => (schedule.scheduleId, target)

variable (adapterId : Nat)

def holdCoveredTargets (held : OverrideTarget) : Scheduler :=
  (selected reading civil fun _ target =>
    reading.holdCoversTarget adapterId held target).foldl
      (fun state covered =>
        holdTarget state civil.minutesSinceMidnight (Causes.ofHold held) covered) self

def handleOverrideHold (held : OverrideTarget) : Scheduler :=
  match reading.civil with
  | none => self
  | some civil =>
    (self.rollOverLedger civil.yearDay).holdCoveredTargets reading civil adapterId held

def handleOverrideClear (scheduleId : String) : Scheduler :=
  { self with overrides := self.overrides.clearSchedule scheduleId }

def handleOverrideResume (target : OverrideTarget) : Scheduler :=
  { self with overrides :=
      self.overrides.resume adapterId (reading.resumeRemoval adapterId target) }

def applyScheduleChange (scheduleId : String) (removed : Bool) : Scheduler :=
  let current := reading.sortedSchedules
  let edited := if self.tick.isSome then self.editDuringTick scheduleId current
    else self.forgetEdited current
  if removed then edited.handleOverrideClear scheduleId else edited

variable (commit : RuntimeCommit)

/-- The targets that a commit takes over, for each schedule. -/
def hit : List (String × TargetKey) :=
  selected reading civil fun schedule target => self.driven target
    && reading.commitHitsTarget commit target (drivenDimensions schedule.points)

/-- The targets on which a commit leaves a schedule alone. -/
def spared : List (String × TargetKey) :=
  selected reading civil fun schedule target => self.driven target
    && !reading.commitHitsTarget commit target (drivenDimensions schedule.points)

def suspendHits (atMinutes : Nat) (cause : Causes) (hits : List (String × TargetKey)) : Scheduler :=
  hits.foldl (fun state found => state.suspend found.1 found.2 atMinutes cause) self

def standDownAll (targets : List TargetKey) : Scheduler :=
  targets.foldl standDown self

def suspendHitTargets : Scheduler :=
  if commit.overrides then
    match reading.civil with
    | none => self
    | some civil =>
      let rolled := self.rollOverLedger civil.yearDay
      let hits := rolled.hit reading civil commit
      let sparedTargets := (rolled.spared reading civil commit).map Prod.snd
      (rolled.suspendHits civil.minutesSinceMidnight (Causes.ofCommit commit)
        hits).standDownAll ((hits.map Prod.snd).filter fun target =>
          target ∉ sparedTargets)
  else self

def applyFrame : Frame -> Scheduler
  | .overrideClear scheduleId => self.handleOverrideClear scheduleId
  | .overrideHold adapterId target => self.handleOverrideHold reading adapterId target
  | .overrideResume adapterId target => self.handleOverrideResume reading adapterId target
  | .scheduleChanged scheduleId removed =>
    self.applyScheduleChange reading scheduleId removed
  | .runtimeStateChanged commit => self.suspendHitTargets reading commit
  | .ignored => self

/-! ## Ticks -/

/-- The outcomes of the commands of a tick, for each target. -/
abbrev PublishOutcomes := List (TargetKey × Bool)

def mergeOutcome (outcomes : PublishOutcomes) (key : TargetKey) (confirmed : Bool) :
    PublishOutcomes :=
  if outcomes.any fun entry => entry.1 = key then
    outcomes.map fun entry =>
      if entry.1 = key then (entry.1, entry.2 && confirmed) else entry
  else outcomes ++ [(key, confirmed)]

def markUnpublishedKeys (outcomes : PublishOutcomes) (unpublished : List PlannedCommand) :
    PublishOutcomes :=
  unpublished.foldl (fun marked command => marked.map fun entry =>
    if entry.1 = command.key then (entry.1, false) else entry) outcomes

/-- What comes of a command: it is not queued, or the worker waits, serves frames and
then has the confirmation or gives up. -/
inductive Answer where
  | refused
  | answered (served : List (Reading × Frame)) (confirmed : Bool)

def serveInbox (served : List (Reading × Frame)) : Scheduler :=
  served.foldl (fun state item => state.applyFrame item.1 item.2) self

def publishOne (command : PlannedCommand) : Scheduler :=
  let sources := self.tick.elim [] TickScope.sources
  { self.notePublished command.key with
    sent := ⟨command, sources, self.overrides⟩ :: self.sent }

def publishPlan (answers : Nat -> Answer) : Nat -> List PlannedCommand -> Scheduler ->
    PublishOutcomes -> Scheduler × PublishOutcomes
  | _, [], self, outcomes => (self, outcomes)
  | index, command :: rest, self, outcomes =>
    let skipped := self.skipsInTick command.key
    if skipped.2 then publishPlan answers (index + 1) rest skipped.1 outcomes
    else
      match answers index with
      | .refused => (skipped.1, markUnpublishedKeys outcomes (command :: rest))
      | .answered served confirmed =>
        publishPlan answers (index + 1) rest ((skipped.1.publishOne command).serveInbox served)
          (mergeOutcome outcomes command.key confirmed)

/-- `curve` is what a schedule wants at a time of the day. -/
def desiredEntries (schedules : List ScheduleView) (civil : LocalCivilTime) : List DesiredEntry :=
  schedules.zipIdx.flatMap fun item =>
    if runsToday item.1 civil then
      match curve item.1 civil with
      | none => []
      | some state =>
        (item.1.expanded.filter fun target =>
          !self.overrides.isSuspended item.1.scheduleId target).map fun key => ⟨key, state, item.2⟩
    else []

def unconfirmedEntries (entries : List DesiredEntry) : List DesiredEntry :=
  entries.filter fun entry => !(self.lastPublished entry.key).any fun record =>
    record.confirmed && record.state.wireEqual entry.state

/-- The start of a tick: the state with its scope, the entries and the plan. -/
def planTick : Scheduler × List DesiredEntry × TickPlan :=
  let rolled := self.rollOverLedger civil.yearDay
  let schedules := reading.sortedSchedules
  let fresh := rolled.unconfirmedEntries (coalesce (desiredEntries curve rolled schedules civil))
  ({ rolled with
      publishedFrom := some schedules
      tick := some (TickScope.planned schedules fresh) }, fresh, plan fresh)

def recordPublished (fresh : List DesiredEntry) (outcomes : PublishOutcomes)
    (tick : TickScope) : Scheduler :=
  let recorded := (fresh.filter fun entry =>
      !tick.plannedByAnEditedSchedule entry.key).foldl
    (fun last entry =>
      match outcomes.find? fun outcome => outcome.1 = entry.key with
      | none => last
      | some outcome => fun key =>
        if key = entry.key then some ⟨entry.state, outcome.2⟩ else last key)
    self.lastPublished
  { self with lastPublished := fun key =>
      if key ∈ tick.stoodDown then none else recorded key }

def finishTick (fresh : List DesiredEntry) (outcomes : PublishOutcomes) : Scheduler :=
  let tick := self.tick.getD (TickScope.planned [] [])
  let recorded := recordPublished { self with tick := none } fresh outcomes tick
  if tick.edited.isEmpty then recorded
  else { recorded with publishedFrom := some reading.sortedSchedules }

structure TickInput where
  heldForMaintenance : Bool
  applicationActive : Bool
  quiescent : Bool
  reading : Reading
  answers : Nat -> Answer
  finish : Reading

def TickInput.due (input : TickInput) : Option LocalCivilTime :=
  if input.heldForMaintenance || !input.applicationActive || input.quiescent then none
  else input.reading.civil

def runTick (input : TickInput) : Scheduler :=
  match input.due with
  | none => self
  | some civil =>
    let planned := planTick curve self input.reading civil
    let result := publishPlan input.answers 0 planned.2.2.commands planned.1 []
    result.1.finishTick input.finish planned.2.1 result.2

end Scheduler

end Oxidali.Hcl
