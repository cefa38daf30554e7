import Mathlib

/-!
# Rules

A rule has triggers, conditions and actions; a block is a named list of actions
that rules call.  The actions that run at once are `Primitive`; the others say
how the rest is run.
-/

namespace Oxidali.Rules

/-! ## What a rule refers to -/

structure LampRef where
  adapterId : Nat
  id : Nat
deriving DecidableEq

structure GroupRef where
  adapterId : Nat
  id : Nat
deriving DecidableEq

structure DeviceRef where
  adapterId : Nat
  shortAddress : Nat
deriving DecidableEq

structure InputRef where
  adapterId : Nat
  deviceShortAddress : Nat
  instanceNumber : Nat
deriving DecidableEq

structure InputDeviceRef where
  adapterId : Nat
  deviceShortAddress : Nat
deriving DecidableEq

structure InputGroupSelector where
  adapterId : Nat
  instanceGroup : Nat
  instanceType : Option Nat
deriving DecidableEq

inductive InputSelector where
  | instance_ (input : InputRef)
  | group (selector : InputGroupSelector)
deriving DecidableEq

inductive LightTarget where
  | lamp (lamp : LampRef)
  | group (group : GroupRef)
  | broadcast (adapterId : Nat)
deriving DecidableEq

/-! ## Values and times -/

inductive Reading where
  | lampLevel (lamp : LampRef)
  | lampCct (lamp : LampRef)
  | lampIsOn (lamp : LampRef)
  | lampLastLevel (lamp : LampRef)
  | groupAnyOn (group : GroupRef)
  | groupAllOff (group : GroupRef)
  | groupMemberCount (group : GroupRef)
  | inputOccupied (input : InputRef)
  | inputLight (input : InputRef)
  | inputPosition (input : InputRef)
  | inputLastEventAge (input : InputRef)
  | timeNow
  | timeHour
  | timeMinute
  | timeWeekday
  | sunRise
  | sunSet
  | sunIsUp
  | var (name : String)
  | eventValue
  | eventDevice
  | eventInstance
  | eventOption
deriving DecidableEq

inductive ValueExpr where
  | literal (value : Int)
  | reading (reading : Reading)
  | offset (reading : Reading) (delta : Int)
deriving DecidableEq

inductive VarValue where
  | int (value : Int)
  | text (text : String)
deriving DecidableEq

structure TimeOfDay where
  hour : Nat
  minute : Nat
deriving DecidableEq

inductive SolarEvent where
  | sunrise
  | sunset
deriving DecidableEq

inductive TimeBound where
  | clock (time : TimeOfDay)
  | solar (event : SolarEvent) (offsetMs : Int)
deriving DecidableEq

/-- The days of the week as a mask, Monday being bit 0. -/
structure DaySet where
  mask : Nat
deriving DecidableEq

def DaySet.contains (days : DaySet) (weekday : Nat) : Bool :=
  days.mask.testBit weekday

/-! ## Conditions -/

inductive Cmp where
  | eq
  | ne
  | ge
  | le
  | gt
  | lt
deriving DecidableEq

inductive HclState where
  | enabled
  | overridden
deriving DecidableEq

inductive GroupAggregate where
  | anyOn
  | allOff
deriving DecidableEq

inductive VarOperand where
  | text (text : String)
  | value (value : ValueExpr)
deriving DecidableEq

inductive Condition where
  | timeInRange (start finish : TimeBound)
  | dayIn (days : DaySet)
  | sunIs (up : Bool)
  | lampIs (lamp : LampRef) (on : Bool)
  | lampLevel (lamp : LampRef) (cmp : Cmp) (value : ValueExpr)
  | lampCct (lamp : LampRef) (cmp : Cmp) (value : ValueExpr)
  | groupState (group : GroupRef) (state : GroupAggregate)
  | inputOccupancy (input : InputRef) (occupied : Bool)
  | inputLight (input : InputRef) (above : Bool) (threshold : ValueExpr)
  | hclState (target : LightTarget) (state : HclState)
  | deviceOnline (device : DeviceRef)
  | ruleEnabled (rule : String)
  | lastFiredOlderThan (rule : String) (thanMs : Nat)
  | timerRunning (timer : String)
  | controllerActive
  | varCompare (name : String) (cmp : Cmp) (value : VarOperand)
deriving DecidableEq

/-! ## Actions -/

inductive LevelSpec where
  | absolute (level : ValueExpr)
  | relative (delta : Int)
deriving DecidableEq

inductive CctSpec where
  | absolute (cct : ValueExpr)
  | relative (deltaK : Int)
deriving DecidableEq

inductive DimDirection where
  | up
  | down
deriving DecidableEq

inductive LightOp where
  | on (level : Option ValueExpr)
  | off
  | toggle (level : Option ValueExpr)
  | level (level : LevelSpec)
  | dim (delta : Int)
  | dimHold (direction : DimDirection)
  | cct (cct : CctSpec)
  | xy (x1e4 y1e4 : Nat)
  | rgb (r g b : Nat)
  | lastActive
  | stopFade
  | recallMax
  | recallMin
deriving DecidableEq

structure LightAction where
  op : LightOp
  target : LightTarget
  holdHcl : Option Bool
deriving DecidableEq

inductive SceneAction where
  | recall_ (scene : ValueExpr) (target : Option LightTarget)
  | apply (scene : ValueExpr)
  | cycle (scenes : List Nat)
deriving DecidableEq

inductive HclAction where
  | resume (target : LightTarget)
  | hold (target : LightTarget)
  | enable (schedule : String)
  | disable (schedule : String)
deriving DecidableEq

inductive InputAction where
  | feedbackOn (input : InputRef)
  | feedbackOff (input : InputRef)
  | panelSelect (adapterId group : Nat) (selected : ValueExpr)
  | cancelHold (input : InputRef)
  | catchMovement (input : InputRef)
deriving DecidableEq

inductive TimerAction where
  | start (timer : String) (durationMs : Nat)
  | restart (timer : String) (durationMs : Nat)
  | cancel (timer : String)
deriving DecidableEq

inductive StateAction where
  | varSet (name : String) (value : VarValue)
  | varAdd (name : String) (delta : ValueExpr)
  | ruleEnable (rule : String)
  | ruleDisable (rule : String)
  | mqttPublish (topic payload : String) (retain : Bool)
  | log (text : String)
  | statCount (name : String)
deriving DecidableEq

inductive Primitive where
  | light (action : LightAction)
  | scene (action : SceneAction)
  | hcl (action : HclAction)
  | input (action : InputAction)
  | timer (action : TimerAction)
  | state (action : StateAction)
deriving DecidableEq

inductive Action where
  | prim (action : Primitive)
  | wait (durationMs : Nat)
  | after (delayMs : Nat) (actions : List Action)
  | call (block : String)
  | repeat_ (count : Nat) (actions : List Action)
  | conditional (condition : Condition) (thenActions elseActions : List Action)

mutual

def Action.decEq : (first second : Action) -> Decidable (first = second)
  | .prim action, .prim other =>
    if h : action = other then isTrue (by rw [h]) else isFalse (by simp [h])
  | .wait ms, .wait other =>
    if h : ms = other then isTrue (by rw [h]) else isFalse (by simp [h])
  | .after ms actions, .after other others =>
    match Action.decEqList actions others with
    | isTrue hactions =>
      if h : ms = other then isTrue (by rw [h, hactions]) else isFalse (by simp [h])
    | isFalse hactions => isFalse (by simp [hactions])
  | .call block, .call other =>
    if h : block = other then isTrue (by rw [h]) else isFalse (by simp [h])
  | .repeat_ count actions, .repeat_ other others =>
    match Action.decEqList actions others with
    | isTrue hactions =>
      if h : count = other then isTrue (by rw [h, hactions]) else isFalse (by simp [h])
    | isFalse hactions => isFalse (by simp [hactions])
  | .conditional condition thens elses, .conditional other thens' elses' =>
    match Action.decEqList thens thens', Action.decEqList elses elses' with
    | isTrue hthen, isTrue helse =>
      if h : condition = other then isTrue (by rw [h, hthen, helse])
      else isFalse (by simp [h])
    | isFalse hthen, _ => isFalse (by simp [hthen])
    | _, isFalse helse => isFalse (by simp [helse])
  | .prim _, .wait _ | .prim _, .after _ _ | .prim _, .call _
  | .prim _, .repeat_ _ _ | .prim _, .conditional _ _ _
  | .wait _, .prim _ | .wait _, .after _ _ | .wait _, .call _
  | .wait _, .repeat_ _ _ | .wait _, .conditional _ _ _
  | .after _ _, .prim _ | .after _ _, .wait _ | .after _ _, .call _
  | .after _ _, .repeat_ _ _ | .after _ _, .conditional _ _ _
  | .call _, .prim _ | .call _, .wait _ | .call _, .after _ _
  | .call _, .repeat_ _ _ | .call _, .conditional _ _ _
  | .repeat_ _ _, .prim _ | .repeat_ _ _, .wait _ | .repeat_ _ _, .after _ _
  | .repeat_ _ _, .call _ | .repeat_ _ _, .conditional _ _ _
  | .conditional _ _ _, .prim _ | .conditional _ _ _, .wait _
  | .conditional _ _ _, .after _ _ | .conditional _ _ _, .call _
  | .conditional _ _ _, .repeat_ _ _ => isFalse (by simp)

def Action.decEqList : (first second : List Action) -> Decidable (first = second)
  | [], [] => isTrue rfl
  | [], _ :: _ => isFalse (by simp)
  | _ :: _, [] => isFalse (by simp)
  | action :: rest, other :: others =>
    match Action.decEq action other, Action.decEqList rest others with
    | isTrue h, isTrue hrest => isTrue (by rw [h, hrest])
    | isFalse h, _ => isFalse (by simp [h])
    | _, isFalse hrest => isFalse (by simp [hrest])

end

instance : DecidableEq Action := Action.decEq

/-! ## Triggers -/

inductive TriggerKind where
  | inputEvent
  | inputOccupancy
  | inputLightCross
  | inputPositionChange
  | inputDevicePowerCycled
  | inputDeviceManualConfigChanged
  | atTime
  | atSolar
  | every
  | lampTurns
  | lampLevelCross
  | groupBecomes
  | sceneRecalled
  | deviceOnlineTransition
  | hclOverride
  | timerFires
  | controllerStarts
  | controllerBecomesActive
  | ruleFails
  | httpTrigger
  | mqttMessage
deriving DecidableEq

inductive InputEventMatch where
  | press
  | release
  | shortPress
  | doublePress
  | longPressStart
  | longPressRepeat
  | longPressStop
  | buttonFree
  | buttonStuck
  | movement
  | noMovement
  | anyEvent
  | raw (data : Nat)
deriving DecidableEq

inductive OccupancyState where
  | occupied
  | vacant
deriving DecidableEq

inductive CrossDirection where
  | above
  | below
deriving DecidableEq

inductive PowerTransition where
  | on
  | off
deriving DecidableEq

inductive OnlineTransition where
  | comesOnline
  | goesOffline
deriving DecidableEq

inductive OverrideTransition where
  | starts
  | clears
deriving DecidableEq

inductive Trigger where
  | inputEvent (source : InputSelector) (event : InputEventMatch)
  | inputOccupancy (source : InputRef) (becomes : OccupancyState)
  | inputLightCross (source : InputRef) (direction : CrossDirection) (threshold : Nat)
  | inputPositionChange (source : InputRef)
  | inputDevicePowerCycled (device : InputDeviceRef)
  | inputDeviceManualConfigChanged (device : InputDeviceRef)
  | atTime (time : TimeOfDay) (days : DaySet)
  | atSolar (event : SolarEvent) (offsetMs : Int)
  | every (periodMs : Nat)
  | lampTurns (lamp : LampRef) (becomes : PowerTransition)
  | lampLevelCross (lamp : LampRef) (direction : CrossDirection) (threshold : Nat)
  | groupBecomes (group : GroupRef) (becomes : GroupAggregate)
  | sceneRecalled (adapterId scene : Nat)
  | deviceOnlineTransition (device : DeviceRef) (transition : OnlineTransition)
  | hclOverride (target : LightTarget) (transition : OverrideTransition)
  | timerFires (timer : String)
  | controllerStarts
  | controllerBecomesActive
  | ruleFails (rule : String)
  | httpTrigger
  | mqttMessage (topic : String) (payload : Option String)
deriving DecidableEq

def Trigger.kind : Trigger -> TriggerKind
  | inputEvent .. => .inputEvent
  | inputOccupancy .. => .inputOccupancy
  | inputLightCross .. => .inputLightCross
  | inputPositionChange .. => .inputPositionChange
  | inputDevicePowerCycled .. => .inputDevicePowerCycled
  | inputDeviceManualConfigChanged .. => .inputDeviceManualConfigChanged
  | atTime .. => .atTime
  | atSolar .. => .atSolar
  | every .. => .every
  | lampTurns .. => .lampTurns
  | lampLevelCross .. => .lampLevelCross
  | groupBecomes .. => .groupBecomes
  | sceneRecalled .. => .sceneRecalled
  | deviceOnlineTransition .. => .deviceOnlineTransition
  | hclOverride .. => .hclOverride
  | timerFires .. => .timerFires
  | controllerStarts => .controllerStarts
  | controllerBecomesActive => .controllerBecomesActive
  | ruleFails .. => .ruleFails
  | httpTrigger => .httpTrigger
  | mqttMessage .. => .mqttMessage

def Trigger.mqttTopic : Trigger -> Option String
  | mqttMessage topic _ => some topic
  | _ => none

/-! ## Rule sets -/

structure DefBlock where
  name : String
  actions : List Action
deriving DecidableEq

structure Rule where
  name : String
  enabled : Bool
  cooldownMs : Nat
  holdHcl : Bool
  triggers : List Trigger
  conditions : List Condition
  actions : List Action
deriving DecidableEq

structure RuleSet where
  langId : Nat
  blocks : List DefBlock
  rules : List Rule
deriving DecidableEq

namespace RuleSet

def empty (langId : Nat) : RuleSet where
  langId := langId
  blocks := []
  rules := []

def block (set : RuleSet) (name : String) : Option DefBlock :=
  set.blocks.find? fun block => block.name = name

def rule (set : RuleSet) (name : String) : Option Rule :=
  set.rules.find? fun rule => rule.name = name

end RuleSet
end Oxidali.Rules
