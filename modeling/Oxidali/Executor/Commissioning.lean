import Oxidali.Executor.Discovery
import Oxidali.Lib.Bisection

/-!
# Commissioning control gear

`commission_next_unaddressed` finds the gear with the lowest random address that
is still in the search, gives it a short address that is neither in the caller's
list nor answered on the line, and describes the gear at that address.
-/

namespace Oxidali.Executor.Commissioning

open Dali Discovery

def maxRandomAddress : Nat := 0x00FFFFFF
def maxShortAddress : Nat := 63

inductive AttemptFailure where
  | searchRepeatable (error : SemanticDaliError)
  | gearWithdrawn (error : SemanticDaliError)

def AttemptFailure.error : AttemptFailure -> SemanticDaliError
  | searchRepeatable e => e
  | gearWithdrawn e => e

def encodeProgramShortAddress (shortAddress : Nat) : Nat :=
  ((shortAddress &&& 0x3F) <<< 1) ||| 0x01

section Programs

variable {C : Type} [DaliApplicationController C]

/-! ## Search -/

variable (randomAddress : Nat) (usedShortAddresses : List Nat)

def setSearchAddress : Exec C Unit := do
  sendSpecial (.searchAddrH (randomAddress / 65536 % 256))
  sendSpecial (.searchAddrM (randomAddress / 256 % 256))
  sendSpecial (.searchAddrL (randomAddress % 256))

def compareYes : Exec C Bool := do
  return (<- sendSpecialResponse .compare).isYes

def probeSearchAddress : Exec C Bool :=
  transactionExempt do
    setSearchAddress randomAddress
    compareYes

def anyUnaddressedGear : Exec C Bool := do
  return (<- sendStandardResponse .broadcast .queryMissingShortAddress).isYes

/-- Twenty-four halvings bring the interval of random addresses to one point. -/
def searchRounds : Nat := 24

def findLowestRandomAddress : Exec C (Option Nat) := do
  if <- probeSearchAddress maxRandomAddress then
    let low <- Hoare.bisect probeSearchAddress searchRounds 0 maxRandomAddress
    if <- probeSearchAddress low then
      return some low
    else
      throw (.operationFailed "random_search_inconsistent")
  else if <- anyUnaddressedGear then
    throw (.operationFailed "unaddressed_gear_not_reached")
  else
    return none

/-! ## The address to give -/

/-- The bits of the caller's addresses, as the loop over them sets them. -/
def usedMask : Nat :=
  usedShortAddresses.foldl
    (fun used short => if short <= maxShortAddress then used ||| (1 <<< short) else used) 0

/-- The candidates in order, up to the first one that is neither used nor
answered. -/
def firstUnoccupied (used : Nat) : List Nat -> Exec C (Option Nat)
  | [] => return none
  | short :: rest =>
    if used &&& (1 <<< short) ≠ 0 then firstUnoccupied used rest
    else do
      let occupied <- sendStandardResponse (.short short) .queryControlGearPresent
      if occupied.isYes then firstUnoccupied used rest else return some short

def nextFreeShortAddress : Exec C (Option Nat) :=
  firstUnoccupied (usedMask usedShortAddresses) (List.range (maxShortAddress + 1))

/-! ## Programming -/

def programFoundGear (shortAddress : Nat) : Exec C Unit := do
  setSearchAddress randomAddress
  let encodedShort := encodeProgramShortAddress shortAddress
  sendSpecial (.programShortAddress encodedShort)
  let verified <- sendSpecialResponse (.verifyShortAddress encodedShort)
  if verified.isYes then
    sendSpecial .withdraw
  else
    throw (.operationFailed "verify_short_address_failed")

/-- The attempts of `detect_programmed_device` with the last error so far. -/
def detectAttempts (shortAddress : Nat) : Nat -> SemanticDaliError -> Exec C DiscoveredDevice
  | 0, last => throw last
  | left + 1, last => do
      match <- resultOf (detectDevice shortAddress) with
      | .ok (some device) => return device
      | .ok none => detectAttempts shortAddress left last
      | .error error =>
        if error.isHeld then throw error
        else detectAttempts shortAddress left error

def detectProgrammedDevice (shortAddress detectRetries : Nat) : Exec C DiscoveredDevice :=
  detectAttempts shortAddress (min (detectRetries + 1) 255)
    (.operationFailed "programmed_device_not_present")

def commissionNextUnaddressedOnce (detectRetries : Nat) :
    ExceptT AttemptFailure (StateM C) (Option DiscoveredDevice) := do
  match <- mapErr .searchRepeatable findLowestRandomAddress.run with
  | none => return none
  | some randomAddress =>
    match <- mapErr .searchRepeatable (nextFreeShortAddress usedShortAddresses).run with
    | none => throw (.gearWithdrawn (.conflict "no_free_short_address"))
    | some shortAddress =>
      mapErr .searchRepeatable (transactionExempt (programFoundGear randomAddress shortAddress)).run
      let device <- mapErr .gearWithdrawn (detectProgrammedDevice shortAddress detectRetries).run
      return some device

def commissionNextUnaddressed : Exec C (Option DiscoveredDevice) :=
  mapErr AttemptFailure.error (commissionNextUnaddressedOnce usedShortAddresses 0).run

end Programs
end Oxidali.Executor.Commissioning
