import Oxidali.Rules.Limits

/-!
# What the rule engine sees and keeps

The snapshot of the world an input is handled with, and the state of the engine
that a restart loses.  Times are in milliseconds; a sum that would leave 64 bits
stops at their maximum.
-/

namespace Oxidali.Rules

/-! ## The world -/

structure WallTime where
  minutesOfDay : Nat
  weekday : Nat

structure SunTimes where
  sunriseMin : Nat
  sunsetMin : Nat

structure LampState where
  adapterId : Nat
  id : Nat
  isOn : Bool
  level : Option Nat
  cctKelvin : Option Nat
  lastLevel : Option Nat

structure GroupState where
  adapterId : Nat
  id : Nat
  anyOn : Bool
  allOff : Bool
  memberCount : Nat

structure DeviceState where
  adapterId : Nat
  shortAddress : Nat
  online : Bool

structure InputState where
  adapterId : Nat
  shortAddress : Nat
  instanceNumber : Nat
  occupied : Option Bool
  light : Option Nat
  position : Option Nat
  lastEventAgeMs : Option Nat

structure HclTargetState where
  target : LightTarget
  enabled : Bool
  overridden : Bool

structure WorldSnapshot where
  nowMs : Nat
  wall : Option WallTime := none
  sun : Option SunTimes := none
  controllerActive : Bool := true
  lamps : List LampState := []
  groups : List GroupState := []
  devices : List DeviceState := []
  inputs : List InputState := []
  hcl : List HclTargetState := []

namespace WorldSnapshot

def lamp (world : WorldSnapshot) (lamp : LampRef) : Option LampState :=
  world.lamps.find? fun state => state.adapterId = lamp.adapterId ∧ state.id = lamp.id

def group (world : WorldSnapshot) (group : GroupRef) : Option GroupState :=
  world.groups.find? fun state =>
    state.adapterId = group.adapterId ∧ state.id = group.id

def device (world : WorldSnapshot) (device : DeviceRef) : Option DeviceState :=
  world.devices.find? fun state =>
    state.adapterId = device.adapterId ∧ state.shortAddress = device.shortAddress

def input (world : WorldSnapshot) (input : InputRef) : Option InputState :=
  world.inputs.find? fun state => state.adapterId = input.adapterId
    ∧ state.shortAddress = input.deviceShortAddress ∧ state.instanceNumber = input.instanceNumber

def hclTarget (world : WorldSnapshot) (target : LightTarget) : Option HclTargetState :=
  world.hcl.find? fun state => state.target = target

def anyLampOn (world : WorldSnapshot) (adapterId : Nat) : Bool :=
  world.lamps.any fun state => state.adapterId = adapterId && state.isOn

end WorldSnapshot

/-! ## Maps -/

section Maps

variable {κ α : Type} [DecidableEq κ] (map : List (κ × α))

def lookup (key : κ) : Option α :=
  (map.find? fun entry => entry.1 = key).map Prod.snd

def insert (key : κ) (value : α) : List (κ × α) :=
  if map.any fun entry => entry.1 = key then
    map.map fun entry => if entry.1 = key then (key, value) else entry
  else map ++ [(key, value)]

def remove (key : κ) : List (κ × α) :=
  map.filter fun entry => entry.1 ≠ key

end Maps

/-! ## The engine's own state -/

def maxChainDepth : Nat := 4
def chainWindowMs : Nat := 2000
def maxPendingContinuations : Nat := 32
def maxTimers : Nat := 16
def maxVars : Nat := 16
def inputValueMask10bit : Nat := 0x3FF

/-- `u64::saturating_add`. -/
def laterMs (nowMs delayMs : Nat) : Nat :=
  min (nowMs + delayMs) (2 ^ 64 - 1)

structure EventCtx where
  value : Option Int := none
  device : Option Int := none
  instance_ : Option Int := none
  option : Option Int := none

inductive ChainKey where
  | lamp (adapterId id : Nat)
  | group (adapterId id : Nat)
  | adapterWide (adapterId : Nat)
  | scene (scene : Nat)
  | hcl (target : LightTarget)
  | brokerTopic (topic : String)
deriving DecidableEq

structure ChainEntry where
  key : ChainKey
  depth : Nat
  atMs : Nat

structure NamedTimer where
  name : String
  dueMs : Nat
deriving DecidableEq

/-- One step of a rule whose calls and repetitions are expanded.  A branch is
followed by the steps of its two sides. -/
inductive FlatStep where
  | prim (action : Primitive)
  | wait (ms : Nat)
  | branch (condition : Condition) (thenLen elseLen : Nat)
  | afterSched (delayMs : Nat) (body : List FlatStep)
  | fail

structure Continuation where
  seq : Nat
  dueMs : Nat
  rule : String
  triggerKind : TriggerKind
  depth : Nat
  budgetLeft : Nat
  ctx : EventCtx
  steps : List FlatStep

structure EverySlot where
  rule : String
  triggerIdx : Nat
  periodMs : Nat
  dueMs : Nat

structure Volatile where
  lastActivationMs : List (String × Nat) := []
  cyclePos : List (String × Nat) := []
  vars : List (String × VarValue) := []
  timers : List NamedTimer := []
  continuations : List Continuation := []
  every : List EverySlot := []
  chain : List ChainEntry := []
  lightEdge : List ((Nat × Nat × Nat) × Nat) := []
  stats : List (String × Nat) := []
  prevWeekMin : Option Nat := none
  seq : Nat := 0

namespace Volatile

variable (vol : Volatile)

def pruneChain (nowMs : Nat) : Volatile :=
  { vol with chain := vol.chain.filter fun entry => nowMs - entry.atMs <= chainWindowMs }

/-- One more than the deepest cause among `keys`, 0 without one. -/
def chainDepthFor (keys : List ChainKey) (nowMs : Nat) : Nat :=
  (((vol.chain.filter fun entry => nowMs - entry.atMs <= chainWindowMs).filter
    fun entry => keys.contains entry.key).map fun entry => entry.depth + 1).foldl max 0

def recordChain (key : ChainKey) (depth nowMs : Nat) : Volatile :=
  { vol with chain := vol.chain ++ [{ key := key, depth := depth, atMs := nowMs }] }

def timer (vol : Volatile) (name : String) : Option NamedTimer :=
  vol.timers.find? fun timer => timer.name = name

def cancelTimer (name : String) : Volatile :=
  { vol with timers := vol.timers.filter fun timer => timer.name ≠ name }

def retainRuleNames (survives : String -> Bool) : Volatile :=
  { vol with
    lastActivationMs := vol.lastActivationMs.filter fun entry => survives entry.1
    cyclePos := vol.cyclePos.filter fun entry => survives entry.1 }

def keepStats (names : List String) : Volatile :=
  { vol with stats := names.foldl (fun stats name =>
      insert stats name ((lookup vol.stats name).getD 0)) [] }

def countStat (name : String) : Volatile :=
  match lookup vol.stats name with
  | some count => { vol with stats := insert vol.stats name ((count + 1) % 2 ^ 32) }
  | none => vol

end Volatile

def lampChainKeys (adapterId lampId : Nat) : List ChainKey :=
  [.lamp adapterId lampId, .adapterWide adapterId]

def groupChainKeys (adapterId groupId : Nat) : List ChainKey :=
  [.group adapterId groupId, .adapterWide adapterId]

def targetChainKeys : LightTarget -> List ChainKey
  | .lamp lamp => [.lamp lamp.adapterId lamp.id]
  | .group group => [.group group.adapterId group.id, .adapterWide group.adapterId]
  | .broadcast adapterId => [.adapterWide adapterId]

structure EngineCounters where
  activationsTotal : Nat := 0
  activationsDry : Nat := 0
  suppressedCooldown : Nat := 0
  suppressedDisabled : Nat := 0
  conditionsRejected : Nat := 0
  partialOutcomes : Nat := 0
  chainDepthExceeded : Nat := 0
  effectsEmitted : Nat := 0
  actionsFailed : Nat := 0
  continuationsScheduled : Nat := 0
  continuationsFired : Nat := 0
  continuationsDropped : Nat := 0
  ticksTimeUnsynced : Nat := 0

/-- A counter of 32 bits that stops at its maximum. -/
def saturating (count more : Nat) : Nat :=
  min (count + more) (2 ^ 32 - 1)

def bump (count : Nat) : Nat :=
  saturating count 1

end Oxidali.Rules
