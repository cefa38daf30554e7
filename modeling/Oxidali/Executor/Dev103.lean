import Oxidali.Executor.Helpers
import Oxidali.Lib.Bisection

/-!
# Commissioning control devices

`commission_control_devices` gives short addresses to the Part 103 devices that
have none: it opens the initialisation state, lets the devices draw random
addresses, and then repeatedly searches for the lowest one by bisection and
programs, verifies and withdraws the device found.
-/

namespace Oxidali.Executor.Dev103

open Dali

def transportUnsupported24bit : String := "transport_unsupported_24bit"
def frame24Contended : String := "frame24_contended"
def randomAddressMax : Nat := 0x00FFFFFE

def faultToError : Frame24Fault -> SemanticDaliError
  | .unsupported => .operationFailed transportUnsupported24bit
  | .contended => .operationFailed frame24Contended
  | .preempted => .operationFailed preemptedMessage
  | .held cause => .conflict cause.message

section Programs

variable {C : Type} [DaliApplicationController C]

def send (frame : ForwardFrame24) (expectsBackward : Bool) : Exec C DaliResponse :=
  mapErr faultToError (DaliApplicationController.sendFrame24 frame expectsBackward)

def sendTwice (frame : ForwardFrame24) : Exec C Unit :=
  mapErr faultToError (DaliApplicationController.sendFrame24Twice frame)

/-! ## Search -/

def setSearchAddress (address : Nat) : Exec C Unit := do
  let _ <- send (Special103Command.searchAddrH.frame (address / 65536 % 256)) false
  let _ <- send (Special103Command.searchAddrM.frame (address / 256 % 256)) false
  let _ <- send (Special103Command.searchAddrL.frame (address % 256)) false
  return ()

def probeSearchAddress (address : Nat) : Exec C Bool :=
  unitExempt do
    setSearchAddress address
    return (<- send (Special103Command.compare.frame 0x00) true).isYes

/-- Twenty-four halvings bring the interval of random addresses to one point. -/
def searchRounds : Nat := 24

def findLowestRandomAddress : Exec C (Option Nat) := do
  if <- probeSearchAddress randomAddressMax then
    return some (<- Hoare.bisect probeSearchAddress searchRounds 0 randomAddressMax)
  else
    return none

/-! ## Programming -/

def programShortAddress (shortAddress : Nat) : Exec C Unit := do
  match ShortAddressOperand.new shortAddress with
  | none => throw (.operationFailed "invalid_request")
  | some operand =>
    let _ <- send (Special103Command.programShortAddress.frame operand) false
    let verified <- send (Special103Command.verifyShortAddress.frame operand) true
    if verified.isYes then
      let _ <- send (Special103Command.withdraw.frame 0x00) false
      return ()
    else
      throw (.operationFailed "verify_failed")

/-- The addresses of `candidates` in order, up to the first one that no device
answers at. -/
def firstSilentAddress : List Nat -> Exec C (Option Nat)
  | [] => return none
  | shortAddress :: rest => do
      let answer <-
        send (Device103Command.queryNumberOfInstances.frame (.short shortAddress)) true
      if answer.isYes then firstSilentAddress rest else return some shortAddress

def firstFreeShortAddress : Exec C (Option Nat) :=
  firstSilentAddress (List.range (maxShortAddress + 1))

def nextFreeShortAddress (previous : Nat) : Option Nat :=
  if previous < maxShortAddress then some (previous + 1) else none

/-! ## Commissioning -/

/-- The `while let` loop of `commission_body`, with the number of devices it has
addressed; `fuel` bounds the number of its rounds. -/
def commissionLoop : Nat -> Option Nat -> Nat -> Exec C Nat
  | 0, _, addressed => return addressed
  | fuel + 1, nextShort, addressed => do
      match <- findLowestRandomAddress with
      | none => return addressed
      | some random =>
        match nextShort with
        | none => return addressed
        | some shortAddress =>
          unitExempt do
            setSearchAddress random
            programShortAddress shortAddress
          commissionLoop fuel (nextFreeShortAddress shortAddress) (min (addressed + 1) 0xFFFF)

/-- One round for each short address, and the round that ends the loop. -/
def commissionRounds : Nat := maxShortAddress + 2

def commissionBody (scope : InitialiseScope103) : Exec C Nat := do
  sendTwice (Special103Command.initialise.frame scope.encode)
  sendTwice (Special103Command.randomise.frame 0x00)
  let nextShort <- firstFreeShortAddress
  commissionLoop commissionRounds nextShort 0

/-- The result of commissioning and of the two commands that end it. -/
def firstError (result : Except SemanticDaliError Nat)
    (terminate : Except SemanticDaliError DaliResponse)
    (unquiesce : Except SemanticDaliError Unit) : Except SemanticDaliError Nat :=
  match result, terminate, unquiesce with
  | .error e, _, _ => .error e
  | .ok _, .error e, _ => .error e
  | .ok _, .ok _, .error e => .error e
  | .ok count, .ok _, .ok () => .ok count

def commissionControlDevices (includeAddressed : Bool) : Exec C Nat := do
  let scope := if includeAddressed then .all else .unaddressed
  sendTwice (Device103Command.startQuiescentMode.frame .broadcast)
  ExceptT.mk do
    let result <- (commissionBody scope).run
    let terminate <- (send (Special103Command.terminate.frame 0x00) false).run
    let unquiesce <-
      (sendTwice (Device103Command.stopQuiescentMode.frame .broadcast)).run
    return firstError result terminate unquiesce

end Programs
end Oxidali.Executor.Dev103
