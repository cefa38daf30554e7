import Oxidali.Dali.Dev103
import Oxidali.Phy.AnswerTable

/-!
# The application controller as a control device

On a line of Part 103 the application controller is itself a control device: it
has a short address, groups and an operating mode that other controllers may
change with frames on the wire.  A value that a frame may have changed while the
unit could not listen is unknown, hence the optional registers.
-/

namespace Oxidali.Dali.BusUnit

open Words Phy

structure BusUnitNvm where
  shortAddress : Option Byte
  randomAddress : BitVec 32
  deviceGroups : BitVec 32
  operatingMode : Byte
  powerCycleNotification : Bool
  applicationActive : Bool
deriving DecidableEq

structure BusUnitSnapshot where
  nvm : BusUnitNvm
  revision : BitVec 32
  acknowledgedWireSequence : BitVec 32

def factoryRandomAddress : BitVec 32 := 0x00FFFFFF#32

def standardOperatingMode : Byte := 0x00#8

def factoryNvm : BusUnitNvm where
  shortAddress := none
  randomAddress := factoryRandomAddress
  deviceGroups := 0
  operatingMode := standardOperatingMode
  powerCycleNotification := false
  applicationActive := true

def initialisationMs : BitVec 32 := 900000#32
def quiescentMs : BitVec 32 := 900000#32
def identifyMs : BitVec 32 := 10000#32

/-- `send_twice_span_ms(24)`. -/
def sendTwiceSpanMs : BitVec 32 := 126#32

inductive InitialisationState where
  | disabled
  | enabled
  | withdrawn
deriving DecidableEq

structure FrameBytes where
  address : Byte
  instanceByte : Byte
  data : Byte
deriving DecidableEq

inductive UnitFrame where
  | forward24 (bytes : FrameBytes)
  | other

structure TestFrame where
  data : Byte
  dtr : Byte × Byte × Byte

structure PowerNotice where
  shortAddress : Option Byte
  deviceGroups : BitVec 32

structure UnitEffects where
  nvmChanged : Bool := false
  identify : Option Bool := none
  quiescent : Option Bool := none
  testFrame : Option TestFrame := none
  powerNotification : Option PowerNotice := none

inductive PowerOn where
  | pending
  | notifying (atMs : BitVec 32)
  | done
deriving DecidableEq

structure Device103Unit where
  nvm : BusUnitNvm
  revision : Option (BitVec 32)
  wireSequence : BitVec 32
  dtr0 : Option Byte
  dtr1 : Option Byte
  dtr2 : Option Byte
  searchH : Option Byte
  searchM : Option Byte
  searchL : Option Byte
  initialisation : InitialisationState
  initialisationUntilMs : BitVec 32
  quiescentUntilMs : Option (BitVec 32)
  identifyUntilMs : Option (BitVec 32)
  writeEnabled : Bool
  powerCycleSeen : Bool
  powerOn : PowerOn
  pendingTwice : Option (FrameBytes × BitVec 32)
deriving DecidableEq

def passed (nowMs untilMs : BitVec 32) : Bool :=
  nowMs - untilMs < 0x7FFFFFFF#32

def isNewer (candidate adopted : BitVec 32) : Bool :=
  candidate - adopted ≠ 0 ∧ candidate - adopted < 0x7FFFFFFF#32

def powerNotificationDelay (draw : BitVec 32) : BitVec 32 :=
  1300#32 + draw % 3201#32

def stepLocation (offset : Byte) : Byte :=
  if offset < 0xFF#8 then offset + 1 else offset

/-- The operand of a command that sets or deletes the short address. -/
def shortAddressOperand (value : Byte) : Option (Option Byte) :=
  if value = 0xFF#8 then some none
  else if value.toNat <= maxShortAddress then some (some value)
  else none

namespace Device103Unit

def new : Device103Unit where
  nvm := factoryNvm
  revision := none
  wireSequence := 0
  dtr0 := some 0
  dtr1 := some 0
  dtr2 := some 0
  searchH := some 0xFF
  searchM := some 0xFF
  searchL := some 0xFF
  initialisation := .disabled
  initialisationUntilMs := 0
  quiescentUntilMs := none
  identifyUntilMs := none
  writeEnabled := false
  powerCycleSeen := true
  powerOn := .pending
  pendingTwice := none

variable (unit : Device103Unit)

def isHydrated : Bool :=
  unit.revision.isSome

def isQuiescent : Bool :=
  unit.quiescentUntilMs.isSome

def initialising : Bool :=
  unit.initialisation ≠ .disabled

def searchAddress : Option (BitVec 32) :=
  match unit.searchH, unit.searchM, unit.searchL with
  | some h, some m, some l => some (0#8 ++ h ++ m ++ l)
  | _, _, _ => none

def selected : Bool :=
  unit.searchAddress = some unit.nvm.randomAddress

def accepts (address : Byte) : Bool :=
  address &&& 0x01#8 ≠ 0#8
    ∧ addressesTheDevice address (unit.nvm.shortAddress.getD noShortAddress) unit.nvm.deviceGroups

def lostCapture : Device103Unit :=
  { unit with
    dtr0 := none, dtr1 := none, dtr2 := none
    searchH := none, searchM := none, searchL := none
    initialisation := .disabled
    writeEnabled := false
    pendingTwice := none }

/-- Adopts a snapshot of the registry that is newer and knows of every change
made on the wire. -/
def hydrate (snapshot : BusUnitSnapshot) : Device103Unit × Bool :=
  let newer := match unit.revision with
    | none => true
    | some adopted => isNewer snapshot.revision adopted
  if !newer || snapshot.acknowledgedWireSequence ≠ unit.wireSequence then
    (unit, false)
  else
    ({ unit with
      revision := some snapshot.revision
      nvm := { snapshot.nvm with
        shortAddress := snapshot.nvm.shortAddress.filter
          fun address => address.toNat <= maxShortAddress } }, true)

end Device103Unit

/-! ## Acting on a frame -/

/-- The work on one frame, with what it does to the outside. -/
structure Step where
  unit : Device103Unit
  nowMs : BitVec 32
  twice : Bool
  effects : UnitEffects

namespace Step

variable (step : Step) (command : Special103Command) (data : Byte)

def setNvm (change : BusUnitNvm -> BusUnitNvm) : Step :=
  let before := step.unit.nvm
  let unit := { step.unit with nvm := change before }
  if change before ≠ before then
    { step with
      unit := { unit with wireSequence := unit.wireSequence + 1 }
      effects := { step.effects with nvmChanged := true } }
  else { step with unit := unit }

def stopIdentification : Step :=
  match step.unit.identifyUntilMs with
  | some _ =>
    { step with
      unit := { step.unit with identifyUntilMs := none }
      effects := { step.effects with identify := some false } }
  | none => step

def disableWrite : Step :=
  { step with unit := { step.unit with writeEnabled := false } }

def quiescent (step : Step) (start : Bool) : Step :=
  let effects := if start || step.unit.isQuiescent then
      { step.effects with quiescent := some start }
    else step.effects
  { step with
    effects := effects
    unit := { step.unit with
      powerOn := if start then .done else step.unit.powerOn
      quiescentUntilMs := if start then some (step.nowMs + quiescentMs) else none } }

def reset : Step :=
  let changed := step.setNvm fun nvm =>
    { nvm with deviceGroups := 0, randomAddress := factoryRandomAddress }
  quiescent { changed with unit := { changed.unit with
    searchH := some 0xFF, searchM := some 0xFF, searchL := some 0xFF
    writeEnabled := false
    powerCycleSeen := false } } false

def operatingMode (step : Step) : Step :=
  if step.unit.dtr0 = some standardOperatingMode then
    step.setNvm fun nvm => { nvm with operatingMode := standardOperatingMode }
  else step

/-- Adds or removes the groups that the DTRs name. -/
def changeGroups (shift : Nat) (add : Bool) : Step :=
  match step.unit.dtr1, step.unit.dtr2 with
  | some low, some high =>
    let bits := ((high ++ low).setWidth 32) <<< shift
    step.setNvm fun nvm =>
      { nvm with deviceGroups :=
          if add then nvm.deviceGroups ||| bits else nvm.deviceGroups &&& ~~~ bits }
  | _, _ => step

def groups : Device103Command -> Step
  | .addToDeviceGroups0To15 => step.changeGroups 0 true
  | .addToDeviceGroups16To31 => step.changeGroups 16 true
  | .removeFromDeviceGroups0To15 => step.changeGroups 0 false
  | .removeFromDeviceGroups16To31 => step.changeGroups 16 false
  | _ => step

/-- `none` for a command that `configure` is to act on. -/
def control : Device103Command -> Option Step
  | .identifyDevice =>
    some { step with
      unit := { step.unit with identifyUntilMs := some (step.nowMs + identifyMs) }
      effects := { step.effects with identify := some true } }
  | .resetPowerCycleSeen =>
    some { step with unit := { step.unit with powerCycleSeen := false } }
  | .reset => some step.reset
  | .setShortAddress =>
    match step.unit.dtr0.bind shortAddressOperand with
    | some address =>
      some (step.setNvm fun nvm => { nvm with shortAddress := address })
    | none => some step
  | .enableWriteMemory =>
    some { step with unit := { step.unit with writeEnabled := true } }
  | .setOperatingMode => some step.operatingMode
  | _ => none

def configure : Device103Command -> Step
  | .enableApplicationController =>
    step.setNvm fun nvm => { nvm with applicationActive := true }
  | .disableApplicationController =>
    step.setNvm fun nvm => { nvm with applicationActive := false }
  | .startQuiescentMode => step.quiescent true
  | .stopQuiescentMode => step.quiescent false
  | .enablePowerCycleNotification =>
    step.setNvm fun nvm => { nvm with powerCycleNotification := true }
  | .disablePowerCycleNotification =>
    step.setNvm fun nvm => { nvm with powerCycleNotification := false }
  | command => step.groups command

def query (command : Device103Command) : Step :=
  if command ≠ .readMemoryLocation then step
  else
    { step with unit := { step.unit with
      dtr0 := match step.unit.dtr1 with
        | some bank =>
          if bank = 0 then step.unit.dtr0.map stepLocation else step.unit.dtr0
        | none => none } }

def keepsWriteEnabledOnDevice (command : Device103Command) : Bool :=
  command = .queryContentDtr0 || command = .queryContentDtr1
    || command = .queryContentDtr2

def device (command : Device103Command) : Step :=
  let step := if keepsWriteEnabledOnDevice command then step else step.disableWrite
  if command.expectsBackward then step.query command
  else if step.twice then
    let step := if command ≠ .identifyDevice then step.stopIdentification else step
    match step.control command with
    | some acted => acted
    | none => step.configure command
  else step

def initialiseAddressesUs : Bool :=
  match step.unit.nvm.shortAddress with
  | none => data = 0xFF#8 || data = 0x7F#8
  | some short => data = 0xFF#8 || data = short

def initialise : Step :=
  if !step.twice || !step.initialiseAddressesUs data then step
  else
    { step with unit := { step.unit with
      initialisation :=
        if step.unit.initialisation = .disabled then .enabled
        else step.unit.initialisation
      initialisationUntilMs := step.nowMs + initialisationMs } }

def randomise (entropy : BitVec 32) : Step :=
  if !step.twice || !step.unit.initialising then step
  else step.setNvm fun nvm => { nvm with randomAddress := entropy % 0x00FFFFFF#32 }

def withdraw : Step :=
  if step.unit.selected then
    { step with unit := { step.unit with initialisation := .withdrawn } }
  else step

def programShortAddress : Step :=
  if step.unit.selected then
    match shortAddressOperand data with
    | some address => step.setNvm fun nvm => { nvm with shortAddress := address }
    | none => step
  else step

def search : Step :=
  if !step.unit.initialising then step
  else
    match command with
    | .withdraw => step.withdraw
    | .searchAddrH => { step with unit := { step.unit with searchH := some data } }
    | .searchAddrM => { step with unit := { step.unit with searchM := some data } }
    | .searchAddrL => { step with unit := { step.unit with searchL := some data } }
    | .programShortAddress => step.programShortAddress data
    | _ => step

def writeMemory : Step :=
  if step.unit.writeEnabled && step.unit.dtr1 = some 0 then
    { step with unit := { step.unit with dtr0 := step.unit.dtr0.map stepLocation } }
  else step

def directWrite (offset : Byte) : Step :=
  if step.unit.writeEnabled && step.unit.dtr1 = some 0 then
    { step with unit := { step.unit with dtr0 := some (stepLocation offset) } }
  else step

def testFrame (step : Step) (data : Byte) : Step :=
  let priority := (data &&& 0x07#8).toNat
  if data &&& 0x80#8 ≠ 0 ∨ ¬ (1 <= priority ∧ priority <= 5) then step
  else if step.unit.isQuiescent then step
  else
    -- a 16-bit test frame does not use DTR2
    let dtr2 := step.unit.dtr2.or (if data &&& 0x20#8 ≠ 0 then some 0 else none)
    match step.unit.dtr0, step.unit.dtr1, dtr2 with
    | some dtr0, some dtr1, some dtr2 =>
      { step with effects := { step.effects with
        testFrame := some { data := data, dtr := (dtr0, dtr1, dtr2) } } }
    | _, _, _ => step

def stopsIdentification : Bool :=
  !(command = .initialise || command = .compare || command = .verifyShortAddress
    || command = .queryShortAddress)

def keepsWriteEnabled : Bool :=
  command = .writeMemoryLocation || command = .writeMemoryLocationNoReply
    || command = .dtr0 || command = .dtr1 || command = .dtr2

def special (entropy : BitVec 32) : Step :=
  let step := if keepsWriteEnabled command then step else step.disableWrite
  let step := if stopsIdentification command && (step.twice || !command.sendTwice)
    then step.stopIdentification else step
  match command with
  | .terminate => { step with unit := { step.unit with initialisation := .disabled } }
  | .initialise => step.initialise data
  | .randomise => step.randomise entropy
  | .writeMemoryLocation => step.writeMemory
  | .writeMemoryLocationNoReply => step.writeMemory
  | .dtr0 => { step with unit := { step.unit with dtr0 := some data } }
  | .dtr1 => { step with unit := { step.unit with dtr1 := some data } }
  | .dtr2 => { step with unit := { step.unit with dtr2 := some data } }
  | .sendTestframe => step.testFrame data
  | command => step.search command data

def frame (bytes : FrameBytes) (entropy : BitVec 32) : Step :=
  if bytes.address = 0xC1#8 then
    match Special103Command.fromSelector bytes.instanceByte.toNat with
    | some command => step.special command bytes.data entropy
    | none => step
  else if bytes.address = 0xC5#8 then
    step.stopIdentification.directWrite bytes.instanceByte
  else if bytes.address = 0xC7#8 then
    let step := step.stopIdentification
    { step with unit := { step.unit with
      dtr0 := some bytes.data, dtr1 := some bytes.instanceByte } }
  else if bytes.address = 0xC9#8 then
    let step := step.stopIdentification
    { step with unit := { step.unit with
      dtr1 := some bytes.data, dtr2 := some bytes.instanceByte } }
  else if bytes.instanceByte = 0xFE#8 ∧ step.unit.accepts bytes.address then
    match Device103Command.fromOpcode bytes.data.toNat with
    | some command => step.device command
    | none => step
  else step

end Step

/-! ## The calls of the unit -/

namespace Device103Unit

variable (unit : Device103Unit)

def secondOfPair (bytes : FrameBytes) (nowMs : BitVec 32) : Bool × Device103Unit :=
  let pair := match unit.pendingTwice with
    | some (first, at_) => first = bytes ∧ nowMs - at_ < sendTwiceSpanMs
    | none => false
  (pair, { unit with pendingTwice := if pair then none else some (bytes, nowMs) })

def feed (frame : UnitFrame) (nowMs entropy : BitVec 32) : Device103Unit × UnitEffects :=
  match frame with
  | .other => ({ unit with pendingTwice := none }, {})
  | .forward24 bytes =>
    if !unit.isHydrated then (unit.lostCapture, {})
    else
      let (twice, unit) := unit.secondOfPair bytes nowMs
      let step := Step.frame
        { unit := unit, nowMs := nowMs, twice := twice, effects := {} } bytes entropy
      (step.unit, step.effects)

def powerOnStep (nowMs entropy : BitVec 32) : Device103Unit × Option PowerNotice :=
  match unit.powerOn with
  | .pending =>
    if unit.isHydrated then
      ({ unit with powerOn :=
          if unit.nvm.powerCycleNotification then
            .notifying (nowMs + powerNotificationDelay entropy)
          else .done }, none)
    else (unit, none)
  | .notifying atMs =>
    if passed nowMs atMs then
      ({ unit with powerOn := .done },
        if unit.nvm.powerCycleNotification then
          some { shortAddress := unit.nvm.shortAddress
                 deviceGroups := unit.nvm.deviceGroups }
        else none)
    else (unit, none)
  | .done => (unit, none)

def expired (untilMs : Option (BitVec 32)) (nowMs : BitVec 32) : Bool :=
  untilMs.any fun until_ => passed nowMs until_

def tick (nowMs entropy : BitVec 32) : Device103Unit × UnitEffects :=
  let (unit, notice) := unit.powerOnStep nowMs entropy
  let quiet := expired unit.quiescentUntilMs nowMs
  let identified := expired unit.identifyUntilMs nowMs
  ({ unit with
      initialisation :=
        if unit.initialising && passed nowMs unit.initialisationUntilMs then .disabled
        else unit.initialisation
      quiescentUntilMs := if quiet then none else unit.quiescentUntilMs
      identifyUntilMs := if identified then none else unit.identifyUntilMs },
    { powerNotification := notice
      quiescent := if quiet then some false else none
      identify := if identified then some false else none })

end Device103Unit

end Oxidali.Dali.BusUnit
