import Oxidali.Dali.Addressing
import Oxidali.Dali.Command
import Oxidali.Dali.Response

/-!
# Control gear on a line

How a Part 102 control gear takes part in addressing, and how a population of
gear answers the commands of the search.
-/

namespace Oxidali.Dali

/-- Nothing of a gear but its addressing state matters to addressing. -/
abbrev ControlGear :=
  AddressingState

namespace ControlGear

/-- A short address as it stands in an operand: `0AAAAAA1`. -/
def encodeShortAddress (address : Nat) : Nat :=
  ((address &&& 0x3F) <<< 1) ||| 0x01

/-- The operand of PROGRAM SHORT ADDRESS: an address, MASK to delete it, or
neither. -/
def shortAddressOperand (data : Nat) : Option (Option Nat) :=
  if data = 0xFF then some none
  else if data &&& 0x81 = 0x01 then some (some ((data >>> 1) &&& 0x3F))
  else none

/-! ## Frames heard -/

variable (gear : ControlGear)

def special : SpecialCommand -> ControlGear
  | .searchAddrH data => gear.setSearchH data
  | .searchAddrM data => gear.setSearchM data
  | .searchAddrL data => gear.setSearchL data
  | .withdraw => gear.withdraw
  | .programShortAddress data =>
    match shortAddressOperand data with
    | some address => gear.program address
    | none => gear
  | _ => gear

def hear (frame : ForwardFrame) : ControlGear :=
  match SpecialCommand.ofFrame frame with
  | some command => special gear command
  | none => gear

/-! ## Answers -/

def yes : Nat := 0xFF

def specialReply : SpecialCommand -> Option Nat
  | .compare =>
    if gear.compares then some yes else none
  | .verifyShortAddress data =>
    if gear.initialising = true
        ∧ gear.shortAddress.map encodeShortAddress = some data then
      some yes
    else none
  | _ => none

def accepts (addressByte : Nat) : Bool :=
  addressByte = 0xFF
    || (addressByte = 0xFD && gear.shortAddress == none)
    || gear.shortAddress.map encodeShortAddress == some addressByte

def reply (frame : ForwardFrame) : Option Nat :=
  match SpecialCommand.ofFrame frame with
  | some command => specialReply gear command
  | none =>
    if accepts gear frame.addressByte = true ∧ frame.commandByte = 0x91 then some yes
    else if accepts gear frame.addressByte = true ∧ frame.commandByte = 0x96
        ∧ gear.shortAddress = none then
      some yes
    else none

end ControlGear

/-! ## Populations -/

abbrev Population102 (index : Type) :=
  index -> ControlGear

namespace Population102

variable {index : Type}

def hear (gear : Population102 index) (frame : ForwardFrame) : Population102 index :=
  fun i => ControlGear.hear (gear i) frame

def replies (gear : Population102 index) (frame : ForwardFrame) : index -> Option Nat :=
  fun i => ControlGear.reply (gear i) frame

end Population102
end Oxidali.Dali
