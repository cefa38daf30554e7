import Mathlib

/-!
# Part 103 frames and commands

The 24-bit forward frames of control devices: an address byte, an instance byte
and an opcode, or a special command with its selector and operand.
-/

namespace Oxidali.Dali

/-! ## Addresses -/

def maxShortAddress : Nat := 63

inductive Device103Address where
  | short (address : Nat)
  | group (group : Nat)
  | broadcast
  | broadcastUnaddressed
  | special (selector : Nat)
deriving DecidableEq

def Device103Address.encode : Device103Address -> Nat
  | .short a => (a <<< 1) ||| 0x01
  | .group g => 0x80 ||| (g <<< 1) ||| 0x01
  | .broadcast => 0xFF
  | .broadcastUnaddressed => 0xFD
  | .special s => 0xC0 ||| (s <<< 1) ||| 0x01

def Device103Address.decode (byte : Nat) : Option Device103Address :=
  let b := byte ||| 0x01
  if b = 0xFF then some .broadcast
  else if b = 0xFD then some .broadcastUnaddressed
  else if b &&& 0x80 = 0 then some (.short ((b >>> 1) &&& 0x3F))
  else if b &&& 0xC0 = 0x80 then some (.group ((b >>> 1) &&& 0x1F))
  else if b &&& 0xE0 = 0xC0 then some (.special ((b >>> 1) &&& 0x0F))
  else none

theorem Device103Address.decode_encode_short {a : Nat} (ha : a <= maxShortAddress) :
    decode (encode (.short a)) = some (.short a) := by
  have hall : forall b : Fin 64, decode (encode (.short b)) = some (.short b) := by
    decide
  exact hall ⟨a, Nat.lt_succ_of_le ha⟩

/-- Instance byte of a command to the device as a whole. -/
def deviceInstance : Nat := 0xFE

/-- A short address as the operand of PROGRAM and VERIFY SHORT ADDRESS. -/
def ShortAddressOperand.new (address : Nat) : Option Nat :=
  if address <= maxShortAddress then some address else none

inductive InitialiseScope103 where
  | device (address : Nat)
  | unaddressed
  | all

def InitialiseScope103.encode : InitialiseScope103 -> Nat
  | .device a => a &&& 0x3F
  | .unaddressed => 0x7F
  | .all => 0xFF

/-! ## Frames -/

structure ForwardFrame24 where
  address : Nat
  instanceByte : Nat
  opcode : Nat

def ForwardFrame24.command (address : Device103Address) (opcode : Nat) : ForwardFrame24 :=
  ⟨address.encode, deviceInstance, opcode⟩

def ForwardFrame24.special (selector data : Nat) : ForwardFrame24 :=
  ⟨(Device103Address.special 0).encode, selector, data⟩

/-! ## Commands -/

inductive Special103Command where
  | terminate
  | initialise
  | randomise
  | compare
  | withdraw
  | searchAddrH
  | searchAddrM
  | searchAddrL
  | programShortAddress
  | verifyShortAddress
  | queryShortAddress
  | writeMemoryLocation
  | writeMemoryLocationNoReply
  | dtr0
  | dtr1
  | dtr2
  | sendTestframe
deriving DecidableEq

namespace Special103Command

def selector : Special103Command -> Nat
  | terminate => 0x00
  | initialise => 0x01
  | randomise => 0x02
  | compare => 0x03
  | withdraw => 0x04
  | searchAddrH => 0x05
  | searchAddrM => 0x06
  | searchAddrL => 0x07
  | programShortAddress => 0x08
  | verifyShortAddress => 0x09
  | queryShortAddress => 0x0A
  | writeMemoryLocation => 0x20
  | writeMemoryLocationNoReply => 0x21
  | dtr0 => 0x30
  | dtr1 => 0x31
  | dtr2 => 0x32
  | sendTestframe => 0x33

variable (command : Special103Command)

def sendTwice : Bool :=
  command = initialise || command = randomise

def all : List Special103Command :=
  [terminate, initialise, randomise, compare, withdraw, searchAddrH, searchAddrM,
    searchAddrL, programShortAddress, verifyShortAddress, queryShortAddress,
    writeMemoryLocation, writeMemoryLocationNoReply, dtr0, dtr1, dtr2, sendTestframe]

def fromSelector (selector : Nat) : Option Special103Command :=
  all.find? fun command => command.selector = selector

def frame (data : Nat) : ForwardFrame24 :=
  ForwardFrame24.special command.selector data

theorem fromSelector_selector : fromSelector command.selector = some command := by
  cases command <;> rfl

end Special103Command

inductive Device103Command where
  | identifyDevice
  | resetPowerCycleSeen
  | reset
  | resetMemoryBank
  | setShortAddress
  | enableWriteMemory
  | enableApplicationController
  | disableApplicationController
  | setOperatingMode
  | addToDeviceGroups0To15
  | addToDeviceGroups16To31
  | removeFromDeviceGroups0To15
  | removeFromDeviceGroups16To31
  | startQuiescentMode
  | stopQuiescentMode
  | enablePowerCycleNotification
  | disablePowerCycleNotification
  | savePersistentVariables
  | queryDeviceStatus
  | queryApplicationControllerError
  | queryInputDeviceError
  | queryMissingShortAddress
  | queryVersionNumber
  | queryNumberOfInstances
  | queryContentDtr0
  | queryContentDtr1
  | queryContentDtr2
  | queryRandomAddressH
  | queryRandomAddressM
  | queryRandomAddressL
  | readMemoryLocation
  | queryApplicationControlEnabled
  | queryOperatingMode
  | queryManufacturerSpecificMode
  | queryQuiescentMode
  | queryDeviceGroups0To7
  | queryDeviceGroups8To15
  | queryDeviceGroups16To23
  | queryDeviceGroups24To31
  | queryPowerCycleNotification
  | queryDeviceCapabilities
  | queryExtendedVersionNumber
  | queryResetState
deriving DecidableEq

namespace Device103Command

def opcode : Device103Command -> Nat
  | identifyDevice => 0x00
  | resetPowerCycleSeen => 0x01
  | reset => 0x10
  | resetMemoryBank => 0x11
  | setShortAddress => 0x14
  | enableWriteMemory => 0x15
  | enableApplicationController => 0x16
  | disableApplicationController => 0x17
  | setOperatingMode => 0x18
  | addToDeviceGroups0To15 => 0x19
  | addToDeviceGroups16To31 => 0x1A
  | removeFromDeviceGroups0To15 => 0x1B
  | removeFromDeviceGroups16To31 => 0x1C
  | startQuiescentMode => 0x1D
  | stopQuiescentMode => 0x1E
  | enablePowerCycleNotification => 0x1F
  | disablePowerCycleNotification => 0x20
  | savePersistentVariables => 0x21
  | queryDeviceStatus => 0x30
  | queryApplicationControllerError => 0x31
  | queryInputDeviceError => 0x32
  | queryMissingShortAddress => 0x33
  | queryVersionNumber => 0x34
  | queryNumberOfInstances => 0x35
  | queryContentDtr0 => 0x36
  | queryContentDtr1 => 0x37
  | queryContentDtr2 => 0x38
  | queryRandomAddressH => 0x39
  | queryRandomAddressM => 0x3A
  | queryRandomAddressL => 0x3B
  | readMemoryLocation => 0x3C
  | queryApplicationControlEnabled => 0x3D
  | queryOperatingMode => 0x3E
  | queryManufacturerSpecificMode => 0x3F
  | queryQuiescentMode => 0x40
  | queryDeviceGroups0To7 => 0x41
  | queryDeviceGroups8To15 => 0x42
  | queryDeviceGroups16To23 => 0x43
  | queryDeviceGroups24To31 => 0x44
  | queryPowerCycleNotification => 0x45
  | queryDeviceCapabilities => 0x46
  | queryExtendedVersionNumber => 0x47
  | queryResetState => 0x48

def all : List Device103Command :=
  [identifyDevice, resetPowerCycleSeen, reset, resetMemoryBank, setShortAddress, enableWriteMemory,
    enableApplicationController, disableApplicationController, setOperatingMode,
    addToDeviceGroups0To15, addToDeviceGroups16To31, removeFromDeviceGroups0To15,
    removeFromDeviceGroups16To31, startQuiescentMode, stopQuiescentMode,
    enablePowerCycleNotification, disablePowerCycleNotification, savePersistentVariables,
    queryDeviceStatus, queryApplicationControllerError, queryInputDeviceError,
    queryMissingShortAddress, queryVersionNumber, queryNumberOfInstances, queryContentDtr0,
    queryContentDtr1, queryContentDtr2, queryRandomAddressH, queryRandomAddressM,
    queryRandomAddressL, readMemoryLocation, queryApplicationControlEnabled, queryOperatingMode,
    queryManufacturerSpecificMode, queryQuiescentMode, queryDeviceGroups0To7,
    queryDeviceGroups8To15, queryDeviceGroups16To23, queryDeviceGroups24To31,
    queryPowerCycleNotification, queryDeviceCapabilities, queryExtendedVersionNumber,
    queryResetState]

def fromOpcode (opcode : Nat) : Option Device103Command :=
  all.find? fun command => command.opcode = opcode

def firstDeviceQuery : Nat := 0x30

def expectsBackward (command : Device103Command) : Bool :=
  firstDeviceQuery <= command.opcode

def frame (command : Device103Command) (address : Device103Address) : ForwardFrame24 :=
  ForwardFrame24.command address command.opcode

end Device103Command
end Oxidali.Dali
