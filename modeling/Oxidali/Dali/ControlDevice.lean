import Oxidali.Dali.Addressing
import Oxidali.Dali.Dev103
import Oxidali.Dali.Response

/-!
# Control devices on a line

How a Part 103 control device takes part in addressing: the special commands it
obeys in the initialisation state, and the queries it answers.  A population is
a family of devices; a frame on the line reaches every one of them.
-/

namespace Oxidali.Dali

structure ControlDevice extends AddressingState where
  /-- The random address that the device draws at RANDOMISE. -/
  entropy : Nat
  instances : Nat

namespace ControlDevice

variable (device : ControlDevice)

def initialiseAddressesUs (data : Nat) : Bool :=
  match device.shortAddress with
  | none => data == 0xFF || data == 0x7F
  | some short => data == 0xFF || data == short

def shortAddressOperand (value : Nat) : Option (Option Nat) :=
  if value = 0xFF then some none
  else if value <= maxShortAddress then some (some value)
  else none

/-! ## Frames heard -/

/-- The commands a device obeys in the initialisation state only. -/
def search (unit : AddressingState) (command : Special103Command) (data : Nat) : AddressingState :=
  match command with
  | .searchAddrH => unit.setSearchH data
  | .searchAddrM => unit.setSearchM data
  | .searchAddrL => unit.setSearchL data
  | .withdraw => unit.withdraw
  | .programShortAddress =>
    match shortAddressOperand data with
    | some address => unit.program address
    | none => unit
  | _ => unit

def special (twice : Bool) (command : Special103Command) (data : Nat) : ControlDevice :=
  match command with
  | .terminate => { device with initialisation := .disabled }
  | .initialise =>
    if twice && device.initialiseAddressesUs data
        && device.initialisation == .disabled then
      { device with initialisation := .enabled }
    else device
  | .randomise =>
    if twice && device.initialising then
      { device with randomAddress := device.entropy }
    else device
  | _ => { device with
      toAddressingState := search device.toAddressingState command data }

def hear (twice : Bool) (frame : ForwardFrame24) : ControlDevice :=
  if frame.address = (Device103Address.special 0).encode then
    match Special103Command.fromSelector frame.instanceByte with
    | some command => device.special twice command frame.opcode
    | none => device
  else device

/-! ## Answers -/

def yes : Nat := 0xFF

def specialReply (command : Special103Command) (data : Nat) : Option Nat :=
  match command with
  | .compare =>
    if device.compares then some yes else none
  | .verifyShortAddress =>
    if device.initialising = true ∧ device.shortAddress = some data then some yes
    else none
  | .queryShortAddress =>
    if device.initialising && device.selected then
      some (device.shortAddress.getD 0xFF)
    else none
  | _ => none

def accepts (address : Nat) : Bool :=
  match Device103Address.decode address with
  | some (.short a) => device.shortAddress == some a
  | some .broadcast => true
  | some .broadcastUnaddressed => device.shortAddress == none
  | _ => false

def reply (frame : ForwardFrame24) : Option Nat :=
  if frame.address = (Device103Address.special 0).encode then
    match Special103Command.fromSelector frame.instanceByte with
    | some command => device.specialReply command frame.opcode
    | none => none
  else if frame.opcode = Device103Command.queryNumberOfInstances.opcode
      ∧ device.accepts frame.address = true then
    some device.instances
  else none

end ControlDevice

/-! ## Populations -/

abbrev Population103 (index : Type) :=
  index -> ControlDevice

namespace Population103

variable {index : Type} (bus : Population103 index)

def hear (twice : Bool) (frame : ForwardFrame24) : Population103 index :=
  fun i => (bus i).hear twice frame

def replies (frame : ForwardFrame24) : index -> Option Nat :=
  fun i => (bus i).reply frame

abbrev states : index -> AddressingState :=
  fun i => (bus i).toAddressingState

end Population103
end Oxidali.Dali
