import Oxidali.Rules.Exec

/-!
# Inputs of the engine and the triggers they match
-/

namespace Oxidali.Rules

inductive InputEventKind where
  | press
  | release
  | shortPress
  | doublePress
  | longPressStart
  | longPressRepeat
  | longPressStop
  | buttonStuck
  | buttonFree
  | becameOccupied
  | becameVacant
  | movement
  | noMovement
  | lightCrossedAbove
  | lightCrossedBelow
  | positionChanged
  | generic
deriving DecidableEq

structure InputEvent where
  adapterId : Nat
  shortAddress : Option Nat
  instanceNumber : Option Nat
  instanceType : Option Nat
  instanceGroups : List (Option Nat)
  kind : InputEventKind
  value : Nat
deriving DecidableEq

structure LampChange where
  adapterId : Nat
  lampId : Nat
  isOn : Bool
  level : Option Nat
  wasOn : Bool
  previousLevel : Option Nat
deriving DecidableEq

structure GroupChange where
  adapterId : Nat
  groupId : Nat
  anyOn : Bool
  wasAnyOn : Bool
deriving DecidableEq

inductive EngineInput where
  | inputEvent (event : InputEvent)
  | lampChanged (change : LampChange)
  | groupChanged (change : GroupChange)
  | sceneRecalled (adapterId sceneId : Nat)
  | devicePresence (adapterId shortAddress : Nat) (online : Bool)
  | hclOverride (started : Bool) (target : LightTarget)
  | controllerActive (active : Bool)
  | controllerStarts
  | powerCycled (adapterId : Nat) (shortAddress : Option Nat)
  | manualConfigChanged (adapterId shortAddress : Nat)
  | runRule (name : String) (dry : Bool)
  | tick
  | ruleFailed (name : String)
  | mqttMessage (topic : String) (payload : List Nat) (truncated : Bool)
deriving DecidableEq

def utf8Bytes (text : String) : List Nat :=
  text.toUTF8.toList.map UInt8.toNat

/-! ## Events of input devices -/

def InputEvent.isFrom (event : InputEvent) (source : InputRef) : Bool :=
  source.adapterId = event.adapterId ∧ some source.deviceShortAddress = event.shortAddress
    ∧ some source.instanceNumber = event.instanceNumber

def sourceMatches (source : InputSelector) (event : InputEvent) : Bool :=
  match source with
  | .instance_ input => event.isFrom input
  | .group selector =>
    selector.adapterId = event.adapterId
      && event.instanceGroups.contains (some selector.instanceGroup)
      && selector.instanceType.all fun type => some type = event.instanceType

def derivedFromAReport (kind : InputEventKind) : Bool :=
  kind = .becameOccupied || kind = .becameVacant

def eventMatches (matcher : InputEventMatch) (kind : InputEventKind) (value : Nat) : Bool :=
  match matcher with
  | .press => kind = .press
  | .release => kind = .release
  | .shortPress => kind = .shortPress
  | .doublePress => kind = .doublePress
  | .longPressStart => kind = .longPressStart
  | .longPressRepeat => kind = .longPressRepeat
  | .longPressStop => kind = .longPressStop
  | .buttonFree => kind = .buttonFree
  | .buttonStuck => kind = .buttonStuck
  | .movement => kind = .movement
  | .noMovement => kind = .noMovement
  | .anyEvent => !derivedFromAReport kind
  | .raw data => !derivedFromAReport kind && value = data

def occupancyMatches (becomes : OccupancyState) (kind : InputEventKind) : Bool :=
  match becomes with
  | .occupied => kind = .becameOccupied
  | .vacant => kind = .becameVacant

def lightValueKind (kind : InputEventKind) : Bool :=
  kind = .lightCrossedAbove || kind = .lightCrossedBelow

def crosses (direction : CrossDirection) (threshold was now : Nat) : Bool :=
  match direction with
  | .above => was <= threshold && threshold < now
  | .below => threshold <= was && now < threshold

def lightCrosses (vol : Volatile) (source : InputRef) (direction : CrossDirection)
    (threshold value : Nat) : Bool :=
  if value = inputValueMask10bit then false
  else
    match lookup vol.lightEdge
      (source.adapterId, source.deviceShortAddress, source.instanceNumber) with
    | none => false
    | some was => crosses direction threshold was value

def inputEventMatches (event : InputEvent) (vol : Volatile) : Trigger -> Bool
  | .inputEvent source matcher =>
    sourceMatches source event && eventMatches matcher event.kind event.value
  | .inputOccupancy source becomes =>
    event.isFrom source && occupancyMatches becomes event.kind
  | .inputLightCross source direction threshold =>
    event.isFrom source && lightValueKind event.kind
      && lightCrosses vol source direction threshold event.value
  | .inputPositionChange source =>
    event.isFrom source && event.kind = .positionChanged
  | _ => false

/-! ## Changes of state -/

def lampMatches (change : LampChange) : Trigger -> Bool
  | .lampTurns lamp becomes =>
    lamp.adapterId = change.adapterId && lamp.id = change.lampId
      && change.wasOn != change.isOn && (becomes == .on) == change.isOn
  | .lampLevelCross lamp direction threshold =>
    lamp.adapterId = change.adapterId && lamp.id = change.lampId
      && match change.previousLevel, change.level with
        | some was, some now => crosses direction threshold was now
        | _, _ => false
  | _ => false

def groupMatches (change : GroupChange) : Trigger -> Bool
  | .groupBecomes group becomes =>
    group.adapterId = change.adapterId && group.id = change.groupId
      && match becomes with
        | .anyOn => !change.wasAnyOn && change.anyOn
        | .allOff => change.wasAnyOn && !change.anyOn
  | _ => false

def triggerMatches (input : EngineInput) (vol : Volatile) (trigger : Trigger) : Bool :=
  match input, trigger with
  | .inputEvent event, trigger => inputEventMatches event vol trigger
  | .lampChanged change, trigger => lampMatches change trigger
  | .groupChanged change, trigger => groupMatches change trigger
  | .sceneRecalled adapterId sceneId, .sceneRecalled adapter scene =>
    adapter = adapterId && scene = sceneId
  | .devicePresence adapterId shortAddress online,
      .deviceOnlineTransition device transition =>
      device.adapterId = adapterId && device.shortAddress = shortAddress
        && (transition == .comesOnline) == online
  | .hclOverride started target, .hclOverride wanted transition =>
    wanted = target && started == (transition == .starts)
  | .powerCycled adapterId shortAddress, .inputDevicePowerCycled device =>
    device.adapterId = adapterId && some device.deviceShortAddress = shortAddress
  | .manualConfigChanged adapterId shortAddress,
      .inputDeviceManualConfigChanged device =>
      device.adapterId = adapterId && device.deviceShortAddress = shortAddress
  | .controllerActive active, .controllerBecomesActive => active
  | .controllerStarts, .controllerStarts => true
  | .ruleFailed name, .ruleFails rule => rule = name
  | .mqttMessage topic payload truncated, .mqttMessage wanted literal =>
    wanted = topic && literal.all fun literal => !truncated && utf8Bytes literal = payload
  | _, _ => false

def ruleMatches (rule : Rule) (input : EngineInput) (vol : Volatile) : Option TriggerKind :=
  (rule.triggers.find? (triggerMatches input vol)).map Trigger.kind

/-! ## What a rule may read of its input -/

def digits (bytes : List Nat) : Option Nat :=
  if bytes = [] then none
  else bytes.foldlM (fun value byte =>
    if 48 <= byte ∧ byte <= 57 then some (value * 10 + (byte - 48)) else none) 0

/-- The payload as a decimal number of 32 bits. -/
def mqttValue (payload : List Nat) (truncated : Bool) : Option Int :=
  let number : Option Int := match payload with
    | 45 :: rest => (digits rest).map fun n => -(n : Int)
    | 43 :: rest => (digits rest).map Int.ofNat
    | bytes => (digits bytes).map Int.ofNat
  if truncated then none
  else number.filter fun n => -(2 ^ 31) <= n ∧ n < 2 ^ 31

def eventCtx : EngineInput -> EventCtx
  | .inputEvent event => {
      value := some event.value
      device := event.shortAddress.map Int.ofNat
      instance_ := event.instanceNumber.map Int.ofNat
      option := (event.instanceGroups.head?.join).map Int.ofNat }
  | .lampChanged change => { value := change.level.map Int.ofNat }
  | .groupChanged change => { value := some (if change.anyOn then 1 else 0) }
  | .sceneRecalled _ sceneId => { value := some sceneId }
  | .mqttMessage _ payload truncated => { value := mqttValue payload truncated }
  | _ => {}

/-- The keys under which an earlier effect may have caused the input. -/
def inputChainKeys : EngineInput -> List ChainKey
  | .lampChanged change => lampChainKeys change.adapterId change.lampId
  | .groupChanged change => groupChainKeys change.adapterId change.groupId
  | .sceneRecalled adapterId sceneId => [.scene sceneId, .adapterWide adapterId]
  | .hclOverride _ target => [.hcl target]
  | .mqttMessage topic _ _ => [.brokerTopic topic]
  | _ => []

def inputChainDepth (env : ExecEnv) (vol : Volatile) (input : EngineInput) : Nat :=
  vol.chainDepthFor (inputChainKeys input) env.world.nowMs

end Oxidali.Rules
