import Oxidali.Lamps.ApplyDiff

/-!
# Lamps and their gear

A virtual lamp is bound to the short address of a device.  The registry keeps what it
has read from the gear, and it keeps what is desired of every lamp: its groups and its
rows in the scenes.  A row that the operator has not edited follows the gear.
-/

namespace Oxidali.Lamps

open SceneTarget List

/-! ## Records -/

inductive DeviceType where
  | unknown
  | dt0Fluorescent
  | dt1Emergency
  | dt2Discharge
  | dt3LowVoltageHalogen
  | dt4Incandescent
  | dt5Dc
  | dt6Led
  | dt7Switching
  | dt8Color
  | other

def DeviceType.daliCode : DeviceType -> Option Nat
  | .unknown => none
  | .dt0Fluorescent => some 0
  | .dt1Emergency => some 1
  | .dt2Discharge => some 2
  | .dt3LowVoltageHalogen => some 3
  | .dt4Incandescent => some 4
  | .dt5Dc => some 5
  | .dt6Led => some 6
  | .dt7Switching => some 7
  | .dt8Color => some 8
  | .other => none

def ColorMode.needsDt8 : ColorMode -> Bool
  | .cct => true
  | .xy => true
  | .rgb => true
  | .rgbwaf => true
  | _ => false

/-- What is known of the kind of a device, and what the operator has set for it. -/
structure DeviceProfile where
  name : String
  notes : Option String
  deviceTypeDiscovered : DeviceType
  deviceTypeOverride : Option DeviceType
  supportedDeviceTypes : Option (BitVec 64)
  colorModeDiscovered : ColorMode
  colorModeOverride : Option ColorMode
  dt8AutoActivationRepair : Option Bool
  dt8RgbwafControlAssert : Option Bool
  tcCoolestMirek : Option Nat
  tcWarmestMirek : Option Nat
  capCct : Bool
  capXy : Bool
  capRgb : Bool
  capRgbwaf : Bool

def DeviceProfile.empty : DeviceProfile where
  name := ""
  notes := none
  deviceTypeDiscovered := .unknown
  deviceTypeOverride := none
  supportedDeviceTypes := none
  colorModeDiscovered := .unknown
  colorModeOverride := none
  dt8AutoActivationRepair := none
  dt8RgbwafControlAssert := none
  tcCoolestMirek := none
  tcWarmestMirek := none
  capCct := false
  capXy := false
  capRgb := false
  capRgbwaf := false

def deviceTypeFitsDeclared (declared : Option (BitVec 64)) (deviceType : DeviceType) : Bool :=
  match declared, deviceType.daliCode with
  | some declared, some code => declared.getLsbD code
  | _, _ => true

def colourModeFitsDeclared (declared : Option (BitVec 64)) (mode : ColorMode) : Bool :=
  !mode.needsDt8 || deviceTypeFitsDeclared declared .dt8Color

/-- What a replacement takes over from the device whose place it takes. -/
def DeviceProfile.takeMetadataAndOverrides (profile role : DeviceProfile) : DeviceProfile :=
  { profile with
    name := role.name
    notes := role.notes
    deviceTypeOverride := (role.deviceTypeOverride.filter fun deviceType =>
      deviceTypeFitsDeclared profile.supportedDeviceTypes deviceType).or profile.deviceTypeOverride
    colorModeOverride := (role.colorModeOverride.filter fun mode =>
      colourModeFitsDeclared profile.supportedDeviceTypes mode).or profile.colorModeOverride }

structure MemoryBankRange where
  start : Nat
  length : Nat

structure MemoryBankRecord where
  bank : Nat
  totalBytesRead : Nat
  lastReadMs : Nat
  ranges : List MemoryBankRange
  bytes : List Nat

structure Attributes where
  membership : Option (BitVec 16)
  sceneLevels : SceneId -> Option Nat

inductive SceneColourEvidence where
  | unread
  | noColour
  | colour (colourType : Nat) (values : List (Option Nat))

structure PhysicalDevice where
  randomAddress : Option Nat
  profile : DeviceProfile
  attributes : Attributes
  memoryBanks : List MemoryBankRecord
  sceneColours : SceneId -> SceneColourEvidence
  scanMissCount : Nat

def PhysicalDevice.new : PhysicalDevice where
  randomAddress := none
  profile := DeviceProfile.empty
  attributes := ⟨none, fun _ => none⟩
  memoryBanks := []
  sceneColours := fun _ => .unread
  scanMissCount := 0

structure AdapterRecord where
  name : String
  enabled : Bool

structure GroupRecord where
  name : String
  haEntityEnabled : Bool

structure SceneRecord where
  name : String
  haSelectEnabled : Bool

structure VlRecord where
  name : String
  haEntityEnabled : Bool
  bindingShort : Option ShortAddress

structure GroupRow where
  desiredGroupsMask : BitVec 16
  desiredSeeded : Bool
  desiredFromOperator : Bool
deriving DecidableEq

structure SceneRow where
  included : Bool
  target : Option SceneTarget
  desiredSeeded : Bool
  desiredFromOperator : Bool
deriving DecidableEq

def GroupRecord.default : GroupRecord := ⟨"", true⟩
def SceneRecord.default : SceneRecord := ⟨"", true⟩
def VlRecord.default : VlRecord := ⟨"", true, none⟩
def GroupRow.default : GroupRow := ⟨0, false, false⟩
def SceneRow.default : SceneRow := ⟨false, none, false, false⟩

/-- The tables of the registry; the first part of a key is the adapter. -/
structure Inner where
  adapters : List AdapterRecord
  groups : Nat × GroupId -> Option GroupRecord
  scenes : Nat × SceneId -> Option SceneRecord
  lamps : Nat × LampId -> Option VlRecord
  devices : Nat × ShortAddress -> Option PhysicalDevice
  groupMatrix : Nat × LampId -> Option GroupRow
  sceneMatrix : Nat × SceneId × LampId -> Option SceneRow
  sceneEcho : Nat × SceneId × LampId -> Option SceneTarget

namespace Inner

def new (adapters : List AdapterRecord) : Inner where
  adapters := adapters
  groups := fun _ => none
  scenes := fun _ => none
  lamps := fun _ => none
  devices := fun _ => none
  groupMatrix := fun _ => none
  sceneMatrix := fun _ => none
  sceneEcho := fun _ => none

variable (self : Inner) (adapter : Nat) (short : ShortAddress)

def adapterExists : Bool :=
  adapter < self.adapters.length

def bindingShort (self : Inner) (adapter : Nat) (lamp : LampId) : Option ShortAddress :=
  (self.lamps (adapter, lamp)).bind VlRecord.bindingShort

def changeDevice (change : PhysicalDevice -> PhysicalDevice) : Inner :=
  { self with
    devices := Function.update self.devices (adapter, short)
      ((self.devices (adapter, short)).map change) }

/-! ## Groups -/

def groupRow (lamp : LampId) : GroupRow :=
  (self.groupMatrix (adapter, lamp)).getD GroupRow.default

def membershipOf : Option (BitVec 16) :=
  (self.devices (adapter, short)).bind fun device => device.attributes.membership

def derivedAppliedMask (lamp : LampId) : BitVec 16 :=
  ((self.bindingShort adapter lamp).bind fun short =>
    self.membershipOf adapter short).getD 0

/-- A row that nobody has seeded takes the membership. -/
def GroupRow.seed (row : GroupRow) (membership : BitVec 16) : GroupRow :=
  if row.desiredSeeded then row else ⟨membership, true, false⟩

def seedDesiredForShort (membership : BitVec 16) : Inner :=
  { self with
    groupMatrix := fun key =>
      if key.1 = adapter ∧ self.bindingShort adapter key.2 = some short then
        some (GroupRow.seed (self.groupRow adapter key.2) membership)
      else self.groupMatrix key }

def seedDesiredForNewBinding (lamp : LampId) (short : ShortAddress) : Inner :=
  match self.membershipOf adapter short with
  | none => self
  | some membership =>
    { self with
      groupMatrix := Function.update self.groupMatrix (adapter, lamp)
        (some (GroupRow.seed (self.groupRow adapter lamp) membership)) }

def GroupRow.forget (row : GroupRow) : GroupRow :=
  if !row.desiredSeeded || row.desiredFromOperator then row
  else ⟨0, false, row.desiredFromOperator⟩

def forgetAdoptedDesired (lamp : LampId) : Inner :=
  { self with
    groupMatrix := Function.update self.groupMatrix (adapter, lamp)
      ((self.groupMatrix (adapter, lamp)).map GroupRow.forget) }

def applyGroupRows (rows : List (LampId × BitVec 16)) : Inner :=
  if self.adapterExists adapter then
    { self with
      groupMatrix := rows.foldl (fun matrix row =>
        Function.update matrix (adapter, row.1) (some ⟨row.2, true, true⟩)) self.groupMatrix }
  else self

def writeMembership (membership : Option (BitVec 16)) : Inner :=
  self.changeDevice adapter short fun device =>
    { device with attributes := { device.attributes with membership := membership } }

def applyGroupMembershipReadback (membership : BitVec 16) : Inner :=
  if self.adapterExists adapter && (self.devices (adapter, short)).isSome then
    (self.writeMembership adapter short (some membership)).seedDesiredForShort adapter short
      membership
  else self

/-- What is not known counts as no membership. -/
def seedGroupMatrixFromMembershipRead : Inner :=
  if self.adapterExists adapter then
    self.seedDesiredForShort adapter short ((self.membershipOf adapter short).getD 0)
  else self

/-- The attribute event of a membership query, answered or not. -/
def groupsRead (membership : Option (BitVec 16)) : Inner :=
  let read := self.writeMembership adapter short membership
  match membership with
  | some membership => read.applyGroupMembershipReadback adapter short membership
  | none => read.seedGroupMatrixFromMembershipRead adapter short

def groupApplyRows : List GroupApplyRow :=
  (finRange 64).map fun lamp => {
    virtualLampId := lamp
    desiredGroupsMask := (self.groupRow adapter lamp).desiredGroupsMask
    appliedGroupsMask := self.derivedAppliedMask adapter lamp
    bindingShort := self.bindingShort adapter lamp }

/-! ## Scenes -/

def sceneNotSet : Nat := 255

variable (scene : SceneId)

def desiredRow (lamp : LampId) : SceneRow :=
  (self.sceneMatrix (adapter, scene, lamp)).getD SceneRow.default

/-- The level the gear of the lamp holds for the scene: unknown, none or a level. -/
def levelEvidence : Option (Option Nat) :=
  (self.devices (adapter, short)).bind fun device =>
    (device.attributes.sceneLevels scene).map fun level =>
      if level = sceneNotSet then none else some level

def sceneLevelEvidence (lamp : LampId) : Option (Option Nat) :=
  (self.bindingShort adapter lamp).bind fun short =>
    self.levelEvidence adapter short scene

def colourEvidence : SceneColourEvidence :=
  match self.devices (adapter, short) with
  | none => .unread
  | some device => device.sceneColours scene

def sceneColourEvidence (lamp : LampId) : SceneColourEvidence :=
  match self.bindingShort adapter lamp with
  | none => .unread
  | some short => self.colourEvidence adapter short scene

def desiredRaw (lamp : LampId) : Bool × Option SceneTarget :=
  let row := self.desiredRow adapter scene lamp
  (row.included, row.target.filter fun _ => row.included)

def colourTypeXy : Nat := 0x10
def colourTypeTc : Nat := 0x20
def colourTypeRgbwaf : Nat := 0x80
def colourTypeMask : Nat := 0xff

def slotValue (values : List (Option Nat)) (slot : Nat) : Option Nat :=
  (values[slot]?).join

def observedColourValue (colourType : Nat) (values : List (Option Nat)) : ColorValue :=
  let value := slotValue values
  let channel := fun slot => dimLevelToSrgbChannel (((value slot).map fun v => v % 256).getD 0)
  if colourType = colourTypeTc then
    { mode := .cct
      colorTemperatureKelvin := ((value 0).bind mirekToKelvin).getD 0 }
  else if colourType = colourTypeXy then
    { mode := .xy
      x := (value 0).getD 0
      y := (value 1).getD 0 }
  else if colourType = colourTypeRgbwaf then
    { mode := if [3, 4, 5].any (fun slot => (value slot).any fun v => v ≠ 0) then .rgbwaf
        else .rgb
      r := channel 0
      g := channel 1
      b := channel 2
      w := channel 3
      a := channel 4
      f := channel 5 }
  else { mode := .unknown }

def observationConfirms (desired : ColorValue) (colourType : Nat)
    (values : List (Option Nat)) : Bool :=
  let value := slotValue values
  let confirms := fun (item : Nat × Nat) =>
    value item.2 = some (srgbChannelToDimLevel item.1) || (item.1 = 0 && (value item.2).isNone)
  let channels := fun w a f => ([desired.r, desired.g, desired.b, w, a, f]).zipIdx.all confirms
  match desired.mode with
  | .cct => colourType = colourTypeTc
      && (kelvinToMirek desired.colorTemperatureKelvin).any fun mirek => value 0 = some mirek
  | .xy => colourType = colourTypeXy && value 0 = some desired.x && value 1 = some desired.y
  | .rgb => colourType = colourTypeRgbwaf && channels 0 0 0
  | .rgbwaf => colourType = colourTypeRgbwaf && channels desired.w desired.a desired.f
  | _ => false

def colourFromObservation (desired : Option ColorValue) (colourType : Nat)
    (values : List (Option Nat)) : ColorValue :=
  match desired with
  | some desired =>
    if observationConfirms desired colourType values then desired
    else observedColourValue colourType values
  | none => observedColourValue colourType values

variable (lamp : LampId)

/-- The colour of a scene whose colour has not been read. -/
def unreadSceneColour : Option ColorValue :=
  let row := self.desiredRow adapter scene lamp
  if row.desiredFromOperator then
    (self.sceneEcho (adapter, scene, lamp)).bind color
  else row.target.bind color

def appliedColour : Option ColorValue :=
  match self.sceneColourEvidence adapter scene lamp with
  | .unread => self.unreadSceneColour adapter scene lamp
  | .noColour => none
  | .colour colourType values =>
    some (colourFromObservation
      ((self.desiredRaw adapter scene lamp).2.bind color) colourType values)

def appliedRaw : Bool × Option SceneTarget :=
  match self.sceneLevelEvidence adapter scene lamp with
  | some (some level) => (true, some {
      power := (self.sceneEcho (adapter, scene, lamp)).bind power
      level := some level
      color := self.appliedColour adapter scene lamp })
  | _ => (false, none)

def sceneRowDirty : Bool :=
  let desired := self.desiredRaw adapter scene lamp
  let applied := self.appliedRaw adapter scene lamp
  desired.1 ≠ applied.1 || !sceneTargetsConverged desired.2 applied.2

def followGearScene (entry : SceneRow) (level : Option Nat)
    (colour : SceneColourEvidence) : SceneRow :=
  let color := match colour with
    | .unread => entry.target.bind color
    | .noColour => none
    | .colour colourType values => some (observedColourValue colourType values)
  { included := level.isSome
    target := level.map fun level => ⟨none, some level, color⟩
    desiredSeeded := true
    desiredFromOperator := false }

/-- The rows of the lamps on the short address that the operator has not edited. -/
def seedSceneRowsForShort (scene : SceneId) : Inner :=
  match self.levelEvidence adapter short scene with
  | none => self
  | some level =>
    let colour := self.colourEvidence adapter short scene
    { self with
      sceneMatrix := fun key =>
        if key.1 = adapter ∧ key.2.1 = scene
            ∧ self.bindingShort adapter key.2.2 = some short then
          let entry := self.desiredRow adapter scene key.2.2
          some (if entry.desiredFromOperator then entry else followGearScene entry level colour)
        else self.sceneMatrix key }

def seedAllScenes : Inner :=
  (finRange 16).foldl (fun state scene =>
    state.seedSceneRowsForShort adapter short scene) self

/-- The lamp without its echo of the scene and without a row the operator has not
edited. -/
def dropAdoptedScene (lamp : LampId) (scene : SceneId) : Inner :=
  { self with
    sceneEcho := Function.update self.sceneEcho (adapter, scene, lamp) none
    sceneMatrix := Function.update self.sceneMatrix (adapter, scene, lamp)
      ((self.sceneMatrix (adapter, scene, lamp)).filter fun row =>
        row.desiredFromOperator) }

def readoptSceneRows (lamp : LampId) (short : ShortAddress) : Inner :=
  (finRange 16).foldl (fun state scene =>
    (state.dropAdoptedScene adapter lamp scene).seedSceneRowsForShort adapter short scene) self

def storeSceneEchoForShort (echo : Option SceneTarget) : Inner :=
  { self with
    sceneEcho := fun key =>
      if key.1 = adapter ∧ key.2.1 = scene
          ∧ self.bindingShort adapter key.2.2 = some short then echo
      else self.sceneEcho key }

def writeSceneLevel (level : Option Nat) : Inner :=
  self.changeDevice adapter short fun device =>
    let levels := Function.update device.attributes.sceneLevels scene level
    { device with attributes := { device.attributes with sceneLevels := levels } }

def writeSceneColour (evidence : SceneColourEvidence) : Inner :=
  self.changeDevice adapter short fun device =>
    { device with sceneColours := Function.update device.sceneColours scene evidence }

/-- The attribute event of all scene levels. -/
def scenesRead (levels : Option (SceneId -> Nat)) : Inner :=
  let read := match levels with
    | none => self
    | some levels => self.changeDevice adapter short fun device =>
      let read : SceneId -> Option Nat := fun scene => some (levels scene)
      { device with attributes := { device.attributes with sceneLevels := read } }
  if read.adapterExists adapter then read.seedAllScenes adapter short else read

/-- The attribute event of the level and the colour of one scene. -/
def sceneColourRead (scene : SceneId) (level colourType : Option Nat)
    (values : List (Option Nat)) : Inner :=
  let withLevel := match level with
    | none => self
    | some level => self.writeSceneLevel adapter short scene (some level)
  let read := match colourType with
    | none => withLevel
    | some colourType => withLevel.writeSceneColour adapter short scene
        (if colourType = colourTypeMask then .noColour else .colour colourType values)
  if read.adapterExists adapter then read.seedSceneRowsForShort adapter short scene
  else read

def applySceneProgrammedReadback (scene : SceneId) (level : Option Nat)
    (echo : Option SceneTarget) : Inner :=
  if self.adapterExists adapter && (self.devices (adapter, short)).isSome then
    let withLevel := match level with
      | none => self
      | some level => self.writeSceneLevel adapter short scene (some level)
    (withLevel.storeSceneEchoForShort adapter short scene echo).seedSceneRowsForShort
      adapter short scene
  else self

inductive WriteScope where
  | virtualLamp
  | short (short : ShortAddress)
  | group (group : GroupId)
  | broadcast
  | addressRange

/-- Whether a foreign write reaches the device, and then whether that is certain. -/
def foreignWriteReaches (scope : WriteScope) (short : ShortAddress)
    (membership : Option (BitVec 16)) : Option Bool :=
  match scope with
  | .short target => if target = short then some true else none
  | .group group =>
    match membership with
    | some mask => if mask.getLsbD group then some true else none
    | none => some false
  | .broadcast => some true
  | .virtualLamp => none
  | .addressRange => none

def foreignWriteTo (scene : SceneId) (removal : Bool) (target : ShortAddress × Bool) : Inner :=
  let level := if removal && target.2 then some sceneNotSet else none
  ((self.writeSceneLevel adapter target.1 scene level).writeSceneColour adapter target.1
    scene .unread).storeSceneEchoForShort adapter target.1 scene none

def foreignWriteTargets (scope : WriteScope) : List (ShortAddress × Bool) :=
  (finRange 64).filterMap fun short =>
    (self.devices (adapter, short)).bind fun device =>
      (foreignWriteReaches scope short device.attributes.membership).map
        fun certain => (short, certain)

def applyForeignSceneWrite (scope : WriteScope) (scene : SceneId) (removal : Bool) : Inner :=
  if self.adapterExists adapter then
    (self.foreignWriteTargets adapter scope).foldl (fun state target =>
      state.foreignWriteTo adapter scene removal target) self
  else self

def applySceneMatrixRows (scene : SceneId)
    (rows : List (LampId × Bool × Option SceneTarget)) : Inner :=
  if self.adapterExists adapter then
    { self with
      sceneMatrix := rows.foldl (fun matrix row =>
        Function.update matrix (adapter, scene, row.1) (some ⟨row.2.1, row.2.2, true, true⟩))
          self.sceneMatrix }
  else self

def sceneApplySnapshot (scene : SceneId) : SceneApplySnapshot where
  sceneId := scene
  rows := (finRange 64).map fun lamp => {
    virtualLampId := lamp
    desiredIncluded := (self.desiredRaw adapter scene lamp).1
    desiredTarget := (self.desiredRaw adapter scene lamp).2
    appliedIncluded := (self.appliedRaw adapter scene lamp).1
    appliedTarget := (self.appliedRaw adapter scene lamp).2
    bindingShort := self.bindingShort adapter lamp }

/-! ## Bindings -/

def setBinding (lamp : LampId) (short : Option ShortAddress) : Inner :=
  let record := (self.lamps (adapter, lamp)).getD VlRecord.default
  { self with
    lamps := Function.update self.lamps (adapter, lamp)
      (some { record with bindingShort := short }) }

def readoptForBinding (lamp : LampId) (previous : Option ShortAddress)
    (short : ShortAddress) : Inner :=
  let forgotten := if previous.any fun prev => prev ≠ short then
    self.forgetAdoptedDesired adapter lamp else self
  let seeded := forgotten.seedDesiredForNewBinding adapter lamp short
  if previous = some short then seeded else seeded.readoptSceneRows adapter lamp short

def lampsBoundTo : List LampId :=
  (finRange 64).filter fun lamp => self.bindingShort adapter lamp = some short

def applyVirtualLampBind (lamp : LampId) (short : ShortAddress) : Inner :=
  if (self.devices (adapter, short)).isNone then self
  else if (self.lampsBoundTo adapter short).any fun other => other ≠ lamp then self
  else
    let previous := self.bindingShort adapter lamp
    (self.setBinding adapter lamp (some short)).readoptForBinding adapter lamp previous short

def unbindLamp (lamp : LampId) : Inner :=
  let lamps := Function.update self.lamps (adapter, lamp)
    ((self.lamps (adapter, lamp)).map fun record => { record with bindingShort := none })
  forgetAdoptedDesired { self with lamps := lamps } adapter lamp

def applyVirtualLampDelete (lamp : LampId) : Inner :=
  { self with
    lamps := Function.update self.lamps (adapter, lamp) none
    groupMatrix := Function.update self.groupMatrix (adapter, lamp) none
    sceneMatrix := fun key =>
      if key.1 = adapter ∧ key.2.2 = lamp then none else self.sceneMatrix key
    -- the echo of a scene stays where a row of the matrix was removed
    sceneEcho := fun key =>
      if key.1 = adapter ∧ key.2.2 = lamp ∧ (self.sceneMatrix key).isNone then none
      else self.sceneEcho key }

/-! ## Devices -/

/-- The change of the profile stands for what a scan finds out about the device. -/
def applyDiscoveryProgress (randomAddress : Option Nat)
    (found : DeviceProfile -> DeviceProfile) : Inner :=
  let record := (self.devices (adapter, short)).getD PhysicalDevice.new
  let next := { record with
    randomAddress := randomAddress.or record.randomAddress
    profile := found record.profile
    scanMissCount := 0 }
  { self with devices := Function.update self.devices (adapter, short) (some next) }

def unbindLampsOf : Inner :=
  (self.lampsBoundTo adapter short).foldl (fun state lamp => state.unbindLamp adapter lamp) self

def discoveryEvictMissThreshold : Nat := 3

variable (confirmedMask : BitVec 64)

def missed (short : ShortAddress) (device : PhysicalDevice) : PhysicalDevice :=
  if confirmedMask.getLsbD short then { device with scanMissCount := 0 }
  else { device with scanMissCount := min (device.scanMissCount + 1) 255 }

def countScanMisses : Inner :=
  { self with
    devices := fun key =>
      if key.1 = adapter then (self.devices key).map (missed confirmedMask key.2)
      else self.devices key }

/-- The devices that a scan has missed too often and that were never verified. -/
def evictedBy : List ShortAddress :=
  (finRange 64).filter fun short =>
    !confirmedMask.getLsbD short && (self.devices (adapter, short)).any fun device =>
      device.scanMissCount >= discoveryEvictMissThreshold && device.randomAddress.isNone

def removeDevice : Inner :=
  { self with devices := Function.update self.devices (adapter, short) none }

def reconcileDiscoveryScan (confirmedMask : BitVec 64) : Inner :=
  let counted := self.countScanMisses adapter confirmedMask
  (counted.evictedBy adapter confirmedMask).foldl (fun state short =>
    (state.removeDevice adapter short).unbindLampsOf adapter short) counted

def applyPhysicalDeviceForget : Inner :=
  if (self.devices (adapter, short)).isNone then self
  else (self.removeDevice adapter short).unbindLampsOf adapter short

def rebindLamps (old new : ShortAddress) : Inner :=
  (self.lampsBoundTo adapter old).foldl (fun state lamp =>
    state.setBinding adapter lamp (some new)) self

def applyAddressChange (old new : ShortAddress) : Inner :=
  if old = new || (self.devices (adapter, new)).isSome then self
  else
    match self.devices (adapter, old) with
    | none => self
    | some record =>
      let devices := Function.update (Function.update self.devices (adapter, old) none)
        (adapter, new) (some record)
      rebindLamps { self with devices := devices } adapter old new

def forgetSceneEchoes (lamps : List LampId) : Inner :=
  { self with
    sceneEcho := fun key =>
      if key.1 = adapter ∧ key.2.2 ∈ lamps then none else self.sceneEcho key }

variable (failed replacement : ShortAddress)

def handOverLamps : Inner :=
  let kept := self.lampsBoundTo adapter failed
  if kept.isEmpty then self.rebindLamps adapter replacement failed
  else (self.unbindLampsOf adapter replacement).forgetSceneEchoes adapter kept

def applyDeviceReplacement (restore : Bool) : Inner :=
  if failed = replacement then self
  else
    match self.devices (adapter, replacement) with
    | none => self
    | some record =>
      let profile := match self.devices (adapter, failed), restore with
        | some role, true => record.profile.takeMetadataAndOverrides role.profile
        | _, _ => record.profile
      let next := { record with profile := profile }
      let devices := Function.update
        (Function.update self.devices (adapter, replacement) none) (adapter, failed) (some next)
      handOverLamps { self with devices := devices } adapter failed replacement

end Inner

end Oxidali.Lamps
