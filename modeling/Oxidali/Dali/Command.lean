import Mathlib

/-!
# Part 102 commands

The 16-bit forward frames of control gear.  A standard command is known by its
encoding and an extended command by its metadata, so the commands named here
are the ones the executors send and any other command is a value of the same
types.
-/

namespace Oxidali.Dali

structure ForwardFrame where
  addressByte : Nat
  commandByte : Nat

inductive DaliAddress where
  | short (address : Nat)
  | group (group : Nat)
  | broadcast
  | broadcastUnaddressed
deriving DecidableEq

def DaliAddress.encodeAddressByte : DaliAddress -> Nat
  | short a => (a &&& 0x3F) <<< 1
  | group a => ((a &&& 0x0F) <<< 1) ||| 0x80
  | broadcast => 0xFE
  | broadcastUnaddressed => 0xFC

/-! ## Standard commands -/

inductive CommandEncoding where
  | directArc (level : Nat)
  | simple (opcode : Nat)
  | scene (base scene : Nat)
  | query (opcode : Nat)
  | queryWithParam (base param : Nat)
  | config (opcode : Nat)
  | configWithParam (base param : Nat)
deriving DecidableEq

structure StandardCommand where
  encoding : CommandEncoding
deriving DecidableEq

namespace StandardCommand

def queryControlGearPresent : StandardCommand := ⟨.query 0x91⟩
def queryMissingShortAddress : StandardCommand := ⟨.query 0x96⟩
def queryDeviceType : StandardCommand := ⟨.query 0x99⟩
def queryNextDeviceType : StandardCommand := ⟨.query 0xA7⟩

variable (command : StandardCommand)

def isQuery : Bool :=
  match command.encoding with
  | .query _ => true
  | .queryWithParam _ _ => true
  | _ => false

def toForwardFrame (address : DaliAddress) : ForwardFrame :=
  let addr := address.encodeAddressByte
  match command.encoding with
  | .directArc level => ⟨addr, level⟩
  | .simple opcode => ⟨addr ||| 0x01, opcode⟩
  | .scene base scene => ⟨addr ||| 0x01, base ||| (scene &&& 0x0F)⟩
  | .query opcode => ⟨addr ||| 0x01, opcode⟩
  | .queryWithParam base param => ⟨addr ||| 0x01, base ||| (param &&& 0x0F)⟩
  | .config opcode => ⟨addr ||| 0x01, opcode⟩
  | .configWithParam base param => ⟨addr ||| 0x01, base ||| (param &&& 0x0F)⟩

end StandardCommand

/-! ## Special and extended commands -/

inductive SpecialCommand where
  | terminate
  | dtr0 (data : Nat)
  | initialise (data : Nat)
  | randomise
  | compare
  | withdraw
  | ping
  | searchAddrH (data : Nat)
  | searchAddrM (data : Nat)
  | searchAddrL (data : Nat)
  | programShortAddress (address : Nat)
  | verifyShortAddress (address : Nat)
  | queryShortAddress
  | physicalSelection
  | enableDeviceType (deviceType : Nat)
  | dtr1 (data : Nat)
  | dtr2 (data : Nat)
  | writeMemoryLocation (data : Nat)
  | writeMemoryLocationNoReply (data : Nat)
deriving DecidableEq

namespace SpecialCommand

def wireBytes : SpecialCommand -> Nat × Nat
  | terminate => (0xA1, 0x00)
  | dtr0 data => (0xA3, data)
  | initialise data => (0xA5, data)
  | randomise => (0xA7, 0x00)
  | compare => (0xA9, 0x00)
  | withdraw => (0xAB, 0x00)
  | ping => (0xAD, 0x00)
  | searchAddrH data => (0xB1, data)
  | searchAddrM data => (0xB3, data)
  | searchAddrL data => (0xB5, data)
  | programShortAddress address => (0xB7, address)
  | verifyShortAddress address => (0xB9, address)
  | queryShortAddress => (0xBB, 0x00)
  | physicalSelection => (0xBD, 0x00)
  | enableDeviceType deviceType => (0xC1, deviceType)
  | dtr1 data => (0xC3, data)
  | dtr2 data => (0xC5, data)
  | writeMemoryLocation data => (0xC7, data)
  | writeMemoryLocationNoReply data => (0xC9, data)

def toForwardFrame (command : SpecialCommand) : ForwardFrame :=
  ⟨command.wireBytes.1, command.wireBytes.2⟩

def expectsBackward : SpecialCommand -> Bool
  | compare => true
  | verifyShortAddress _ => true
  | queryShortAddress => true
  | writeMemoryLocation _ => true
  | _ => false

/-- The special command that a frame carries. -/
def ofFrame (frame : ForwardFrame) : Option SpecialCommand :=
  let data := frame.commandByte
  match frame.addressByte with
  | 0xA1 => some terminate
  | 0xA3 => some (dtr0 data)
  | 0xA5 => some (initialise data)
  | 0xA7 => some randomise
  | 0xA9 => some compare
  | 0xAB => some withdraw
  | 0xAD => some ping
  | 0xB1 => some (searchAddrH data)
  | 0xB3 => some (searchAddrM data)
  | 0xB5 => some (searchAddrL data)
  | 0xB7 => some (programShortAddress data)
  | 0xB9 => some (verifyShortAddress data)
  | 0xBB => some queryShortAddress
  | 0xBD => some physicalSelection
  | 0xC1 => some (enableDeviceType data)
  | 0xC3 => some (dtr1 data)
  | 0xC5 => some (dtr2 data)
  | 0xC7 => some (writeMemoryLocation data)
  | 0xC9 => some (writeMemoryLocationNoReply data)
  | _ => none

theorem ofFrame_toForwardFrame (command : SpecialCommand) :
    ofFrame command.toForwardFrame = some command := by
  cases command <;> rfl

end SpecialCommand

structure ExtendedCommand where
  opcode : Nat
  isQuery : Bool
  requiresRepeat : Bool
  enableDeviceType : Nat
deriving DecidableEq

def ExtendedCommand.toForwardFrame (command : ExtendedCommand)
    (address : DaliAddress) : ForwardFrame :=
  ⟨address.encodeAddressByte ||| 0x01, command.opcode⟩

/-! ## Commands -/

inductive DaliCommand where
  | standard (address : DaliAddress) (command : StandardCommand)
  | extended (address : DaliAddress) (command : ExtendedCommand)
  | special (command : SpecialCommand)
deriving DecidableEq

namespace DaliCommand

def toForwardFrame : DaliCommand -> ForwardFrame
  | standard address command => command.toForwardFrame address
  | extended address command => command.toForwardFrame address
  | special command => command.toForwardFrame

def isQuery : DaliCommand -> Bool
  | standard _ command => command.isQuery
  | extended _ command => command.isQuery
  | special command => command.expectsBackward

end DaliCommand
end Oxidali.Dali
