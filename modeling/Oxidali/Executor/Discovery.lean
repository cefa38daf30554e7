import Oxidali.Executor.Majority

/-!
# Describing a control gear

`detect_device` asks a short address for its device types and, where it may be a
colour gear, for its colour features.
-/

namespace Oxidali.Executor.Discovery

open Dali

def deviceTypeNone : Nat := 254
def deviceTypeMask : Nat := 255
def maxDeviceTypes : Nat := 16
def dt8DeviceType : Nat := 8
def dt8QueryColourStatus : Nat := 248
def dt8QueryColourTypeFeatures : Nat := 249
def deviceTypeEnumIncomplete : String := "device_type_walk_incomplete"
def discoveryContentConfirm : ContentConfirmPolicy := ⟨false, 2⟩

inductive DeviceType where
  | unknown
  | dt6Led
  | dt8Color
deriving DecidableEq

inductive ColorMode where
  | none
  | brightness
  | cct
  | xy
  | rgb
  | unknown
deriving DecidableEq

/-- `DeviceTypeSet`: the device types up to 63 as the bits of a word. -/
abbrev DeviceTypeSet :=
  Nat

def DeviceTypeSet.insert (set : DeviceTypeSet) (deviceType : Nat) : Option DeviceTypeSet :=
  if 63 < deviceType then .none else some (set ||| (1 <<< deviceType))

structure Dt8Capabilities where
  xyCapable : Bool
  tcCapable : Bool
  rgbCapable : Bool
  rgbwafCapable : Bool

structure Dt8Status where
  supported : Bool := false
  capabilities : Option Dt8Capabilities := .none
  colorMode : ColorMode := .none

/-- The supported types are kept in ascending order. -/
structure SupportedDeviceTypesQuery where
  answered : Bool := false
  supported : List Nat := []
  enumDegraded : Bool := false

structure DeviceIdentity where
  detected : Bool := false
  deviceType : DeviceType := .unknown
  colorMode : ColorMode := .none
  dt8Status : Dt8Status := {}
  typeEnumDegraded : Bool := false
  supportedDeviceTypes : Option DeviceTypeSet := .none

structure DiscoveredDevice where
  shortAddress : Nat
  randomAddress : Option Nat
  deviceType : DeviceType
  colorMode : ColorMode
  dt8XyCapable : Bool
  dt8TcCapable : Bool
  dt8RgbCapable : Bool
  dt8RgbwafCapable : Bool
  typeEnumDegraded : Bool
  supportedDeviceTypes : Option DeviceTypeSet
deriving DecidableEq

inductive Dt8ProbePolicy where
  | discoveryScan
  | explicitRead
deriving DecidableEq

/-! ## Device types -/

inductive MaskWalk where
  | complete (set : List Nat)
  | broken (contended : Bool)

inductive EnumerationOutcome where
  | done (query : SupportedDeviceTypesQuery)
  | broken (contended : Bool)

section Types

variable {C : Type} [DaliApplicationController C]

/-- The answers of QUERY NEXT DEVICE TYPE; `left` more are read at most. -/
def walkNext (address : DaliAddress) : Nat -> List Nat -> Exec C MaskWalk
  | 0, _ => return .broken false
  | left + 1, set => do
      match <- resultOf (sendStandardQueryOnce address .queryNextDeviceType) with
      | .ok .none => return .broken false
      | .ok (some value) =>
        if value = deviceTypeNone then return .complete set
        else if value = deviceTypeMask then return .broken false
        else if value ∈ set then return .broken true
        else
          let set := List.orderedInsert (· <= ·) value set
          if maxDeviceTypes < set.length then return .broken false
          else walkNext address left set
      | .error error =>
        if error.isPreempted then throw error
        else if error.isBusContended then return .broken true
        else throw error

variable (address : DaliAddress)

def walkMaskSequence : Exec C MaskWalk :=
  walkNext address (maxDeviceTypes + 1) []

def enumerateDeviceTypes (policy : ContentConfirmPolicy) : Exec C EnumerationOutcome := do
  match <- confirmObservedQuery policy (sendStandardQueryObserved address .queryDeviceType) with
  | .none => return .done {}
  | some first =>
    if first = deviceTypeNone then return .done { answered := true }
    else if first ≠ deviceTypeMask then
      return .done { answered := true, supported := [first] }
    else
      match <- walkMaskSequence address with
      | .complete set => return .done { answered := true, supported := set }
      | .broken contended => return .broken contended

/-- The enumerations that `query_supported_device_types_with_policy` tries. -/
def enumerateRuns (address : DaliAddress) (policy : ContentConfirmPolicy) :
    Nat -> Bool -> Exec C SupportedDeviceTypesQuery
  | 0, contended =>
    throw (.operationFailed
      (if contended then "bus_contended" else deviceTypeEnumIncomplete))
  | left + 1, contended => do
      match <- enumerateDeviceTypes address policy with
      | .done supported => return supported
      | .broken again => enumerateRuns address policy left (contended || again)

def querySupportedDeviceTypesWithPolicy (policy : ContentConfirmPolicy) :
    Exec C SupportedDeviceTypesQuery :=
  transactionExempt (enumerateRuns address policy 2 false)

def queryTypesWithScanDegrade (probe : Dt8ProbePolicy) (policy : ContentConfirmPolicy) :
    Exec C SupportedDeviceTypesQuery := do
  match <- resultOf (querySupportedDeviceTypesWithPolicy address policy) with
  | .ok supported => return supported
  | .error error =>
    if probe = .discoveryScan
        ∧ error = .operationFailed deviceTypeEnumIncomplete then
      return { answered := true, supported := [], enumDegraded := true }
    else throw error

end Types

def classifySupportedDeviceTypes (supported : List Nat) : DeviceType :=
  if dt8DeviceType ∈ supported then .dt8Color
  else if 6 ∈ supported then .dt6Led
  else .unknown

def declaredDeviceTypes (query : SupportedDeviceTypesQuery) : Option DeviceTypeSet :=
  if !query.answered || query.enumDegraded then .none
  else query.supported.foldlM DeviceTypeSet.insert 0

/-! ## Colour gear -/

section Colour

variable {C : Type} [DaliApplicationController C]
variable (address : DaliAddress) (policy : ContentConfirmPolicy)

def sendDt8RawQueryObserved (opcode : Nat) : Exec C (Option Nat × Bool) := do
  let (response, contended) <- mapErr mapTransportError
    (DaliApplicationController.sendRawEnabledQuery
      (SpecialCommand.enableDeviceType dt8DeviceType).toForwardFrame
      ⟨address.encodeAddressByte ||| 0x01, opcode⟩)
  return (response.value, contended)

def sendDt8RawQueryStable (address : DaliAddress) (opcode : Nat) : Exec C (Option Nat) :=
  confirmObservedQuery policy (sendDt8RawQueryObserved address opcode)

def queryColourTypeFeatures : Exec C (Option Nat) :=
  sendDt8RawQueryStable policy address dt8QueryColourTypeFeatures

def capabilitiesOf (features : Nat) : Dt8Capabilities :=
  let channels := (features &&& 0xE0) >>> 5
  { xyCapable := features &&& 0x01 ≠ 0
    tcCapable := features &&& 0x02 ≠ 0
    rgbCapable := 0 < channels
    rgbwafCapable := 3 < channels }

def queryDt8Capabilities : Exec C (Option Dt8Capabilities) := do
  let first <- queryColourTypeFeatures address policy
  if first = .none ∨ first = some 0 then
    let reread <- queryColourTypeFeatures address policy
    return (reread <|> first).map capabilitiesOf
  else
    return first.map capabilitiesOf

def colorModeFromStatus (status : Nat) : ColorMode :=
  let active := status &&& 0xF0
  if active = 0x10 then .xy
  else if active = 0x20 then .cct
  else if active = 0x80 then .rgb
  else .unknown

def inferDt8DiscoveredColorMode (capabilities : Option Dt8Capabilities)
    (activeColorMode : ColorMode) : ColorMode :=
  if activeColorMode ≠ .unknown then activeColorMode
  else
    match capabilities with
    | some ⟨true, false, false, _⟩ => .xy
    | some ⟨false, true, false, _⟩ => .cct
    | some ⟨false, false, true, _⟩ => .rgb
    | _ => .unknown

def queryDt8Status (allowFallback : Bool) (supportedDeviceTypes : List Nat)
    (policy : ContentConfirmPolicy) : Exec C Dt8Status := do
  let advertised : Bool := dt8DeviceType ∈ supportedDeviceTypes
  if !advertised && !allowFallback then
    return {}
  else
    let capabilities <- queryDt8Capabilities address policy
    let status <- sendDt8RawQueryStable policy address dt8QueryColourStatus
    let mode := status.map colorModeFromStatus
    if advertised || capabilities.isSome || mode.isSome then
      return {
        supported := true
        capabilities := capabilities
        colorMode := inferDt8DiscoveredColorMode capabilities (mode.getD .unknown) }
    else
      return {}

end Colour

/-! ## Identity -/

def foldDt8ProbeIntoIdentity (deviceType : DeviceType) (dt8Status : Dt8Status)
    (declared : Option DeviceTypeSet) : DeviceType × ColorMode × Option DeviceTypeSet :=
  if deviceType = .dt8Color then (deviceType, dt8Status.colorMode, declared)
  else if !dt8Status.supported then (deviceType, .brightness, declared)
  else
    (.dt8Color, dt8Status.colorMode, declared.map fun set => (set.insert dt8DeviceType).getD set)

section Identity

variable {C : Type} [DaliApplicationController C]

def shouldProbeDt8 (probe : Dt8ProbePolicy) (deviceType : DeviceType) (answered : Bool) : Bool :=
  match probe with
  | .discoveryScan => deviceType = .dt8Color || (deviceType = .unknown && answered)
  | .explicitRead => deviceType = .dt8Color || deviceType = .unknown

def probeDeviceIdentityWithPolicy (address : DaliAddress) (probe : Dt8ProbePolicy)
    (policy : ContentConfirmPolicy) : Exec C DeviceIdentity := do
  let types <- queryTypesWithScanDegrade address probe policy
  let deviceType := classifySupportedDeviceTypes types.supported
  let dt8Status <-
    (if shouldProbeDt8 probe deviceType types.answered then
      queryDt8Status address (deviceType = .unknown) types.supported policy
    else pure {})
  if !types.answered && !dt8Status.supported then
    return {}
  else
    let (deviceType, colorMode, declared) :=
      foldDt8ProbeIntoIdentity deviceType dt8Status (declaredDeviceTypes types)
    return {
      detected := true
      deviceType := deviceType
      colorMode := colorMode
      dt8Status := dt8Status
      typeEnumDegraded := types.enumDegraded
      supportedDeviceTypes := declared }

def probeDeviceIdentity (address : DaliAddress) (probe : Dt8ProbePolicy) : Exec C DeviceIdentity :=
  probeDeviceIdentityWithPolicy address probe discoveryContentConfirm

def discovered (shortAddress : Nat) (identity : DeviceIdentity) : DiscoveredDevice :=
  let capable (field : Dt8Capabilities -> Bool) :=
    (identity.dt8Status.capabilities.map field).getD false
  { shortAddress := shortAddress
    randomAddress := .none
    deviceType := identity.deviceType
    colorMode := identity.colorMode
    dt8XyCapable := capable (·.xyCapable)
    dt8TcCapable := capable (·.tcCapable)
    dt8RgbCapable := capable (·.rgbCapable)
    dt8RgbwafCapable := capable (·.rgbwafCapable)
    typeEnumDegraded := identity.typeEnumDegraded
    supportedDeviceTypes := identity.supportedDeviceTypes }

def detectDevice (shortAddress : Nat) : Exec C (Option DiscoveredDevice) := do
  let address <- daliShortAddress shortAddress
  let identity <- probeDeviceIdentity address .discoveryScan
  if identity.detected then return some (discovered shortAddress identity)
  else return .none

end Identity
end Oxidali.Executor.Discovery
