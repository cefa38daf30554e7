import Oxidali.Phy.Fsm

/-!
# The answer table

What the interrupt answers to a 24-bit query without asking the task that owns
the device.  The table is published in two copies; a lookup refuses one that
is behind the wire, too old, or out of its lease.
-/

namespace Oxidali.Phy

open Words

def noShortAddress : Byte := 0xFF

def deviceQueryFirstOpcode : Nat := 0x30

def deviceQueryEntries : Nat := 32

def compareEntry : Nat := deviceQueryEntries

def verifyShortAddressEntry : Nat := deviceQueryEntries + 1

def queryShortAddressEntry : Nat := deviceQueryEntries + 2

def answerEntries : Nat := deviceQueryEntries + 3

abbrev AnswerEntry := BitVec 32

structure AnswerTableImage where
  shortAddress : Byte
  groups : BitVec 32
  entries : Vector AnswerEntry answerEntries

def AnswerTableImage.silent : AnswerTableImage :=
  { shortAddress := noShortAddress, groups := 0
    entries := Vector.replicate answerEntries 0 }

def leaseTtlMs : Nat := 3000

def usPerMs : Nat := 1000

def leaseTicks (remainingMs : Nat) : Nat :=
  min remainingMs leaseTtlMs * usPerMs / phyTickUs

def answerLeaseMaxTicks : Nat := leaseTicks leaseTtlMs

def tableMaxAgeTicks : Nat := 100 * usPerMs / phyTickUs

/-- A 24-bit frame as the interrupt decodes it. -/
structure QueryFrame where
  address : Byte
  instanceByte : Byte
  opcode : Byte

def addressesTheDevice (address shortAddress : Byte) (groups : BitVec 32) : Bool :=
  if address = 0xFF#8 then true
  else if address = 0xFD#8 then shortAddress = noShortAddress
  else if address &&& 0x80#8 = 0#8 then
    (address >>> 1) &&& 0x3F#8 = shortAddress
  else if address &&& 0xC0#8 = 0x80#8 then
    groups.getLsbD ((address >>> 1) &&& 0x1F#8).toNat
  else false

def answerEntryIndex (frame : QueryFrame) (shortAddress : Byte) (groups : BitVec 32) : Option Nat :=
  if frame.address = 0xC1#8 then
    if frame.instanceByte = 0x03#8 then some compareEntry
    else if frame.instanceByte = 0x09#8 then some verifyShortAddressEntry
    else if frame.instanceByte = 0x0A#8 then some queryShortAddressEntry
    else none
  else if frame.address &&& 0x01#8 = 0#8 ∨ frame.instanceByte ≠ 0xFE#8 then none
  else if ¬ addressesTheDevice frame.address shortAddress groups then none
  else if frame.opcode.toNat < deviceQueryFirstOpcode ∨
      deviceQueryEntries <= frame.opcode.toNat - deviceQueryFirstOpcode then none
  else some (frame.opcode.toNat - deviceQueryFirstOpcode)

def entryAnswer (index : Nat) (word : AnswerEntry) (frame : QueryFrame) (shortAddress : Byte)
    (leaseAlive : Bool) : Option Byte :=
  if index = verifyShortAddressEntry ∧ frame.opcode ≠ shortAddress then none
  else
    let half := if leaseAlive then word else word >>> 16
    if half &&& 0x100#32 = 0#32 then none else some (half.setWidth 8)

inductive TableLookup where
  | notPublished
  | notAddressed
  | behind
  | torn
  | silent
  | leaseLapsed
  | answer (value : Byte)

structure TableRefusals where
  leaseLapsed : Nat
  behind : Nat
  torn : Nat

def TableRefusals.note (refusals : TableRefusals) : TableLookup -> TableRefusals
  | .leaseLapsed =>
    { refusals with leaseLapsed := wrappingAdd u32Max refusals.leaseLapsed 1 }
  | .behind => { refusals with behind := wrappingAdd u32Max refusals.behind 1 }
  | .torn => { refusals with torn := wrappingAdd u32Max refusals.torn 1 }
  | _ => refusals

structure TableCopy where
  generation : Nat
  accountsFor : Nat
  publishedTick : Nat
  image : AnswerTableImage

def TableCopy.new : TableCopy :=
  { generation := 0, accountsFor := 0, publishedTick := 0
    image := AnswerTableImage.silent }

/-- A whole write: the generation is odd only while the fields change. -/
def TableCopy.write (copy : TableCopy) (image : AnswerTableImage)
    (accountsFor nowTick : Nat) : TableCopy :=
  { generation := wrappingAdd u32Max copy.generation 2
    accountsFor, publishedTick := nowTick, image }

structure AnswerTableCell where
  live : Fin 2
  copies : Vector TableCopy 2
  leaseUntilTick : Nat
  refusals : TableRefusals

namespace AnswerTableCell

def new : AnswerTableCell :=
  { live := 0, copies := Vector.replicate 2 TableCopy.new, leaseUntilTick := 0
    refusals := { leaseLapsed := 0, behind := 0, torn := 0 } }

variable (cell : AnswerTableCell)

def publish (image : AnswerTableImage) (accountsFor nowTick : Nat) : AnswerTableCell :=
  let next := cell.live + 1
  { cell with
    live := next
    copies := cell.copies.set next ((cell.copies.get next).write image accountsFor nowTick) }

def setLeaseForMs (nowTick remainingMs : Nat) : AnswerTableCell :=
  { cell with leaseUntilTick := wrappingAdd u32Max nowTick (leaseTicks remainingMs) }

def leaseAlive (nowTick : Nat) : Bool :=
  let remaining := wrappingSub u32Max cell.leaseUntilTick nowTick
  remaining ≠ 0 && remaining <= answerLeaseMaxTicks

def decide (frame : QueryFrame) (previousCapture nowTick : Nat) : TableLookup :=
  let copy := cell.copies.get cell.live
  let shortAddress := copy.image.shortAddress
  if copy.generation = 0 then .notPublished
  else if copy.generation % 2 = 1 then .torn
  else
    match answerEntryIndex frame shortAddress copy.image.groups with
    | none => .notAddressed
    | some index =>
      let word := copy.image.entries.toList.getD index 0
      let aged := tableMaxAgeTicks < wrappingSub u32Max nowTick copy.publishedTick
      if copy.accountsFor ≠ previousCapture ∨ aged then .behind
      else
        match entryAnswer index word frame shortAddress (cell.leaseAlive nowTick) with
        | some value => .answer value
        | none =>
          if ¬ cell.leaseAlive nowTick ∧
              (entryAnswer index word frame shortAddress true).isSome then
            .leaseLapsed
          else .silent

def answer (cell : AnswerTableCell) (frame : QueryFrame)
    (previousCapture nowTick : Nat) : AnswerTableCell × Option Byte :=
  let found := cell.decide frame previousCapture nowTick
  ({ cell with refusals := cell.refusals.note found },
    match found with
    | .answer value => some value
    | _ => none)

end AnswerTableCell

end Oxidali.Phy
