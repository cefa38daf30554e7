import Oxidali.Dali.Command
import Oxidali.Registry.RuntimeUpdates

/-!
# Facts heard on the bus

The sniffer's translator turns a frame of another controller into a fact about its
target: a level, a switch-off or a colour.  The projector expands a fact into one
runtime update for each lamp it reaches, with the colour left out where the lamp's
capabilities do not accept it.
-/

namespace Oxidali.Fanout

open Dali (DaliAddress StandardCommand)
open Hcl (GroupApplyRow)
open Lamps (ColorMode ColorValue)
open Overrides
open Registry.RuntimeCommits

/-! ## What the translator publishes -/

inductive DaliTargetScope where
  | virtualLamp
  | short
  | group
  | broadcast
  | addressRange
deriving DecidableEq

/-- The whole address of a fact. -/
structure Target where
  scope : DaliTargetScope
  shortAddress : Option Nat
  groupId : Option Nat

/-- An event of the kind `TargetStateObserved`. -/
structure DaliObservedFrameEvent where
  registryAdapterId : Nat
  target : Target
  setpoint : Option LightSetpoint
  dapcObserved : Bool
  observedAtMs : Nat
  observedAtMonoMs : Stamp

def scopeOf : DaliAddress -> Option Target
  | .short address => some ⟨.short, some address, none⟩
  | .group group => some ⟨.group, none, some group⟩
  | .broadcast => some ⟨.broadcast, none, none⟩
  | .broadcastUnaddressed => none

def dapcMaskLevel : Nat := 255

def classifyProductShape (command : StandardCommand) : Option (LightSetpoint × Bool) :=
  match command.encoding with
  | .directArc level =>
    if level = dapcMaskLevel then none
    else some (LightSetpoint.fromLevel level none, true)
  | .simple 0 => some ({ power := .off, level := some 0 }, false)
  | _ => none

structure ColourStage where
  x : Option Nat
  y : Option Nat
  rgb : Option (Nat × Nat × Nat)
  waf : Option (Nat × Nat × Nat)

def channelColour (mode : ColorMode) (rgb waf : Nat × Nat × Nat) : ColorValue where
  mode := mode
  r := Lamps.dimLevelToSrgbChannel rgb.1
  g := Lamps.dimLevelToSrgbChannel rgb.2.1
  b := Lamps.dimLevelToSrgbChannel rgb.2.2
  w := Lamps.dimLevelToSrgbChannel waf.1
  a := Lamps.dimLevelToSrgbChannel waf.2.1
  f := Lamps.dimLevelToSrgbChannel waf.2.2

def stagedColour (stage : ColourStage) : Option ColorValue :=
  match stage.x, stage.y, stage.rgb, stage.waf with
  | some x, some y, none, none => some { mode := .xy, x := x, y := y }
  | none, none, some rgb, none => some (channelColour .rgb rgb (0, 0, 0))
  | none, none, some rgb, some waf => some (channelColour .rgbwaf rgb waf)
  | _, _, _, _ => none

def decodeCct (mirek : Nat) : Option ColorValue :=
  (Lamps.mirekToKelvin mirek).map fun kelvin =>
    { mode := .cct, colorTemperatureKelvin := kelvin }

/-- What one frame says about its target, and whether it said so directly. -/
inductive Worded : LightSetpoint -> Bool -> Prop where
  | standard (command : StandardCommand) {setpoint : LightSetpoint} {dapc : Bool}
      (h : classifyProductShape command = some (setpoint, dapc)) : Worded setpoint dapc
  | staged (stage : ColourStage) {color : ColorValue} (h : stagedColour stage = some color) :
      Worded { color := some color } false
  | temperature (mirek : Nat) {color : ColorValue} (h : decodeCct mirek = some color) :
      Worded { color := some color } false

/-- A target-state fact the translator can publish. -/
structure Published (body : DaliObservedFrameEvent) : Prop where
  addressed : exists address, scopeOf address = some body.target
  stated : exists setpoint, body.setpoint = some setpoint ∧ Worded setpoint body.dapcObserved

/-! ## What the projector makes of it -/

structure CapabilityFlags where
  brightness : Bool
  cct : Bool
  xy : Bool
  rgb : Bool
  rgbwaf : Bool

def capabilitySupportsColorMode (caps : CapabilityFlags) : ColorMode -> Bool
  | .brightness => caps.brightness
  | .cct => caps.cct
  | .xy => caps.xy
  | .rgb => caps.rgb
  | .rgbwaf => caps.rgbwaf
  | _ => false

def capabilityAcceptsColorMode (caps : CapabilityFlags) (mode : ColorMode) : Bool :=
  !(caps.cct || caps.xy || caps.rgb || caps.rgbwaf) || capabilitySupportsColorMode caps mode

variable (port : ReadPort) (body : DaliObservedFrameEvent) (setpoint : LightSetpoint)

def filterSetpointForCapabilities (caps : CapabilityFlags) : LightSetpoint :=
  { setpoint with
    color := setpoint.color.filter fun color => capabilityAcceptsColorMode caps color.mode }

/-- What the projector reads of the registry. -/
structure ReadPort where
  groupApplySnapshot : Nat -> Option (List GroupApplyRow)
  lampIds : Nat -> List Nat
  capabilities : Nat -> Nat -> CapabilityFlags
  bindingShort : Bindings

def snifferEntry (virtualLampId shortAddress : Option Nat) (setpoint : LightSetpoint)
    (dapcSource : LastDapcSource) : RuntimeRegistryUpdateEntry where
  virtualLampId := virtualLampId
  shortAddress := shortAddress
  setpoint := setpoint
  observation := RuntimeObservation.timestamped .sniffer body.observedAtMs
  lastDapcSource := if body.dapcObserved then some dapcSource else none
  source := .sniffer
  observedAtMonoMs := some body.observedAtMonoMs

def observedShortFact (short : Nat) (setpoint : LightSetpoint) : RegistryCommand :=
  let bound := (port.lampIds body.registryAdapterId).find? fun lamp =>
    port.bindingShort body.registryAdapterId lamp = some short
  .runtimeUpdate body.registryAdapterId (snifferEntry body bound (some short) setpoint .sniffer)

def massFact (lamp : Nat) : RegistryCommand :=
  .runtimeUpdate body.registryAdapterId
    (snifferEntry body (some lamp) none
      (filterSetpointForCapabilities setpoint
        (port.capabilities body.registryAdapterId lamp)) .group)

def expandGroup (group : Nat) (setpoint : LightSetpoint) : List RegistryCommand :=
  match port.groupApplySnapshot body.registryAdapterId with
  | none => []
  | some rows =>
    if group <= 15 then
      (rows.filter fun row => row.appliedGroupsMask.getLsbD group).map fun row =>
        massFact port body setpoint row.virtualLampId
    else
      []

def expandBroadcast : List RegistryCommand :=
  ((port.lampIds body.registryAdapterId).filter fun lamp =>
    (port.bindingShort body.registryAdapterId lamp).isSome).map (massFact port body setpoint)

def handleObservedTargetState : List RegistryCommand :=
  match body.setpoint with
  | none => []
  | some setpoint =>
    match body.target.scope with
    | .short =>
      match body.target.shortAddress with
      | some short => [observedShortFact port body short setpoint]
      | none => []
    | .group =>
      match body.target.groupId with
      | some group => expandGroup port body group setpoint
      | none => []
    | .broadcast => expandBroadcast port body setpoint
    | .virtualLamp | .addressRange => []

def project (rows : Rows) (body : DaliObservedFrameEvent) : Rows :=
  handleCommands port.bindingShort rows (handleObservedTargetState port body)

/-! ## Whom a fact reaches -/

/-- One update of an expansion, apart from what the fact says. -/
structure Addressee where
  virtualLampId : Option Nat
  shortAddress : Option Nat
  caps : Option CapabilityFlags
  dapcSource : LastDapcSource

namespace Addressee

def setpointFor (addressee : Addressee) (setpoint : LightSetpoint) : LightSetpoint :=
  match addressee.caps with
  | some caps => filterSetpointForCapabilities setpoint caps
  | none => setpoint

def entry (addressee : Addressee) : RuntimeRegistryUpdateEntry :=
  snifferEntry body addressee.virtualLampId addressee.shortAddress
    (addressee.setpointFor setpoint) addressee.dapcSource

def ofLamp (adapterId lamp : Nat) : Addressee where
  virtualLampId := some lamp
  shortAddress := none
  caps := some (port.capabilities adapterId lamp)
  dapcSource := .group

end Addressee

def addressees (adapterId : Nat) (target : Target) : List Addressee :=
  match target.scope with
  | .short =>
    match target.shortAddress with
    | some short =>
      [{ virtualLampId := (port.lampIds adapterId).find? fun lamp =>
           port.bindingShort adapterId lamp = some short
         shortAddress := some short
         caps := none
         dapcSource := .sniffer }]
    | none => []
  | .group =>
    match target.groupId, port.groupApplySnapshot adapterId with
    | some group, some rows =>
      if group <= 15 then
        (rows.filter fun row => row.appliedGroupsMask.getLsbD group).map fun row =>
          Addressee.ofLamp port adapterId row.virtualLampId
      else
        []
    | _, _ => []
  | .broadcast =>
    ((port.lampIds adapterId).filter fun lamp =>
      (port.bindingShort adapterId lamp).isSome).map (Addressee.ofLamp port adapterId)
  | .virtualLamp | .addressRange => []

theorem handleObservedTargetState_eq {body : DaliObservedFrameEvent} {setpoint : LightSetpoint}
    (hsetpoint : body.setpoint = some setpoint) :
    handleObservedTargetState port body =
      (addressees port body.registryAdapterId body.target).map fun addressee =>
        .runtimeUpdate body.registryAdapterId (addressee.entry body setpoint) := by
  unfold handleObservedTargetState addressees
  rw [hsetpoint]
  cases body.target.scope with
  | short => cases body.target.shortAddress <;> rfl
  | group =>
    cases body.target.groupId with
    | none => rfl
    | some group =>
      simp only [expandGroup]
      cases port.groupApplySnapshot body.registryAdapterId with
      | none => rfl
      | some rows =>
        dsimp only
        split
        · rw [List.map_map]
          rfl
        · rfl
  | broadcast =>
    rw [List.map_map]
    rfl
  | virtualLamp | addressRange => rfl

/-! ## What a fact states -/

/-- The setpoint of a fact states a level or a colour, never both. -/
inductive Shape : LightSetpoint -> Prop where
  | level (level : Nat) : Shape (LightSetpoint.fromLevel level none)
  | colour (color : ColorValue) (h : statesAColour color.mode = true) :
      Shape { color := some color }

theorem stagedColour_states {stage : ColourStage} {color : ColorValue}
    (h : stagedColour stage = some color) : statesAColour color.mode := by
  unfold stagedColour at h
  split at h
  · cases h
    rfl
  · cases h
    rfl
  · cases h
    rfl
  · cases h

theorem Worded.shape {setpoint : LightSetpoint} {dapc : Bool} (hworded : Worded setpoint dapc) :
    Shape setpoint := by
  cases hworded with
  | standard command h =>
    unfold classifyProductShape at h
    split at h
    · split at h
      · cases h
      · cases h
        exact Shape.level _
    · cases h
      exact Shape.level 0
    · cases h
  | staged stage h => exact Shape.colour _ (stagedColour_states h)
  | temperature mirek h =>
    obtain ⟨kelvin, _, heq⟩ := Option.map_eq_some_iff.1 h
    refine Shape.colour _ ?_
    rw [<- heq]
    rfl

theorem dapcLevel_fromLevel (level : Nat) (color : Option ColorValue) :
    (LightSetpoint.fromLevel level color).dapcLevel = some level := by
  unfold LightSetpoint.dapcLevel LightSetpoint.fromLevel forLevel
  rcases Nat.eq_zero_or_pos level with hzero | hpos
  · simp [hzero]
  · cases level with
    | zero => cases hpos
    | succ level => simp

theorem commandedPower_fromLevel (level : Nat) (color : Option ColorValue) :
    (LightSetpoint.fromLevel level color).commandedPower.isSome := by
  unfold LightSetpoint.commandedPower LightSetpoint.fromLevel forLevel
  rcases Nat.eq_zero_or_pos level with hzero | hpos
  · simp [hzero]
  · simp [hpos]

namespace Addressee

variable (addressee : Addressee) (setpoint : LightSetpoint)

@[simp] theorem power_setpointFor : (addressee.setpointFor setpoint).power = setpoint.power := by
  unfold setpointFor
  cases addressee.caps <;> rfl

@[simp] theorem level_setpointFor : (addressee.setpointFor setpoint).level = setpoint.level := by
  unfold setpointFor
  cases addressee.caps <;> rfl

@[simp] theorem dapcLevel_setpointFor :
    (addressee.setpointFor setpoint).dapcLevel = setpoint.dapcLevel := by
  simp [LightSetpoint.dapcLevel]

@[simp] theorem commandedPower_setpointFor :
    (addressee.setpointFor setpoint).commandedPower = setpoint.commandedPower := by
  simp [LightSetpoint.commandedPower]

theorem color_setpointFor :
    (addressee.setpointFor setpoint).color = setpoint.color.filter fun color =>
      addressee.caps.all fun caps => capabilityAcceptsColorMode caps color.mode := by
  unfold setpointFor
  cases addressee.caps with
  | some caps => rfl
  | none => cases setpoint.color <;> rfl

end Addressee

/-- The update for an addressee only says what was sent. -/
theorem heard_entry {body : DaliObservedFrameEvent} {setpoint : LightSetpoint}
    (hshape : Shape setpoint) (addressee : Addressee) :
    Heard (addressee.entry body setpoint).commit := by
  constructor
  · rfl
  · rfl
  · rfl
  · intro hlevel
    have hnone : setpoint.dapcLevel = none := by
      rw [<- Addressee.dapcLevel_setpointFor addressee]
      exact hlevel
    have hpower : (addressee.entry body setpoint).commit.setpoint.power = setpoint.power :=
      addressee.power_setpointFor setpoint
    rw [hpower]
    cases hshape with
    | level level =>
      rw [dapcLevel_fromLevel] at hnone
      cases hnone
    | colour color h => simp

end Oxidali.Fanout
