import Oxidali.Dali.Controller
import Oxidali.Lib.Hoare

/-!
# Executor helpers

Sending through a controller, with its transport errors turned into the
executors' own.
-/

namespace Oxidali.Executor

open Dali Hoare

inductive SemanticDaliError where
  | conflict (message : String)
  | operationFailed (message : String)
deriving DecidableEq

def preemptedMessage : String := "preempted"

namespace SemanticDaliError

def message : SemanticDaliError -> String
  | conflict message => message
  | operationFailed message => message

variable (error : SemanticDaliError)

def isBusContended : Bool :=
  error = .operationFailed "bus_contended"

def isPreempted : Bool :=
  error = .operationFailed preemptedMessage

def isHeld : Bool :=
  [HoldCause.passive, HoldCause.quiescent].any fun cause =>
    error = .conflict cause.message

end SemanticDaliError

/-- A program of an executor on a controller: it may fail and keeps what it did
to the controller until then. -/
abbrev Exec (C : Type) (α : Type) :=
  ExceptT SemanticDaliError (StateM C) α

/-- `map_transport_error` reads the variant's name off the rendered error. -/
def mapTransportError : FrameError -> SemanticDaliError
  | .held cause => .conflict cause.message
  | .preempted => .operationFailed preemptedMessage
  | .collision => .operationFailed "bus_contended"
  | .busBusy => .operationFailed "bus_contended"
  | .backwardTimeout => .operationFailed "dali_transport_error"
  | .backwardNack => .operationFailed "dali_transport_error"
  | .transportError => .operationFailed "dali_transport_error"

section Sending

variable {C α ε ε' : Type}

/-- `result.map_err(f)`. -/
def mapErr (f : ε -> ε') (act : StateM C (Except ε α)) : ExceptT ε' (StateM C) α :=
  ExceptT.mk (act >>= fun result => pure (result.mapError f))

theorem mapErr_effect {seen : Type} {view : C -> seen} {start : seen} {f : ε -> ε'}
    {act : StateM C (Except ε α)} {post : α -> seen -> Prop} {fail : seen -> Prop}
    (hact : Effect view start (ExceptT.mk act) post fail) :
    Effect view start (mapErr f act) post fail := by
  intro c hc
  have hout := hact c hc
  change Outcome _ _ ((act c).1.mapError f) (act c).2
  change Outcome _ _ (act c).1 (act c).2 at hout
  revert hout
  cases (act c).1 with
  | ok v | error e => exact fun h => h

/-- The result of a program that its caller looks at instead of passing an error
on. -/
def resultOf (act : Exec C α) : Exec C (Except SemanticDaliError α) :=
  ExceptT.lift act.run

theorem resultOf_effect {seen : Type} {view : C -> seen} {start : seen} {act : Exec C α}
    {post : α -> seen -> Prop} {fail failing : seen -> Prop}
    (hact : Effect view start act post fail) :
    Effect view start (resultOf act)
      (fun result after => match result with
        | .ok v => post v after
        | .error _ => fail after) failing := by
  intro c hc
  have hout := hact c hc
  change (match (act.run c).1 with
    | .ok v => post v (view (act.run c).2)
    | .error _ => fail (view (act.run c).2))
  cases hresult : (act.run c).1 with
  | ok v | error e =>
    rw [hresult] at hout
    exact hout

variable [DaliApplicationController C] (address : DaliAddress) (command : StandardCommand)

def sendStandard : Exec C DaliResponse :=
  mapErr mapTransportError (DaliApplicationController.sendCommand (.standard address command))

/-- A query with whether something else was heard on the line. -/
def sendStandardQueryObserved : Exec C (Option Nat × Bool) := do
  let (response, contended) <- mapErr mapTransportError
    (DaliApplicationController.sendCommandObserved (.standard address command))
  return (response.value, contended || response == .violation)

def sendStandardQueryOnce : Exec C (Option Nat) := do
  let (backward, _) <- mapErr mapTransportError
    (DaliApplicationController.sendRawOnce (command.toForwardFrame address) true)
  return backward.value

def sendStandardResponse : Exec C DaliResponse :=
  sendStandard address command

def sendSpecialResponse (command : SpecialCommand) : Exec C DaliResponse :=
  mapErr mapTransportError (DaliApplicationController.sendCommand (.special command))

def sendSpecial (command : SpecialCommand) : Exec C Unit := do
  let _ <- sendSpecialResponse command
  return ()

end Sending

def daliShortAddress {C : Type} (shortAddress : Nat) : Exec C DaliAddress :=
  if 63 < shortAddress then throw (.conflict "invalid_short_address")
  else return .short shortAddress

/-! ## Scopes around fallible programs -/

section Scopes

variable {C α : Type} [DaliApplicationController C]

def transactionExempt (run : Exec C α) : Exec C α :=
  ExceptT.mk (DaliApplicationController.transactionExempt run.run)

/-- `unit_exempt` around a closure that keeps nothing between its runs. -/
def unitExempt (run : Exec C α) : Exec C α :=
  ExceptT.mk (DaliApplicationController.unitExempt
    (fun (_ : Unit) => run.run >>= fun result => pure (result, ())) () >>= fun out => pure out.1)

/-! ## Scopes that run their program once -/

variable {R seen : Type} {view : C -> seen}

/-- As far as `view` shows, `enclosed` is one run of `run`. -/
def RunsOnce (view : C -> seen) (run enclosed : StateM C R) : Prop :=
  forall c, exists first last, view first = view c
    ∧ run first = ((enclosed c).1, last) ∧ view (enclosed c).2 = view last

omit [DaliApplicationController C] in
theorem RunsOnce.effect {run enclosed : Exec C α} {start : seen} {post : α -> seen -> Prop}
    {fail : seen -> Prop} (honce : RunsOnce view run.run enclosed.run)
    (hrun : Effect view start run post fail) : Effect view start enclosed post fail := by
  intro c hc
  rcases honce c with ⟨first, last, hfirst, hran, hlast⟩
  have hout := hrun first (hfirst.trans hc)
  have hresult : (run.run first).1 = (enclosed.run c).1 := by rw [hran]
  have hseen : view (run.run first).2 = view (enclosed.run c).2 := by
    rw [hran, hlast]
  rw [hresult] at hout
  revert hout
  cases (enclosed.run c).1 with
  | ok v =>
    change post v (view (run.run first).2) -> post v (view (enclosed.run c).2)
    rw [hseen]
    exact id
  | error e =>
    change fail (view (run.run first).2) -> fail (view (enclosed.run c).2)
    rw [hseen]
    exact id

theorem unitExempt_runsOnce {run : Exec C α}
    (honce : forall locals : Unit, RunsOnce view (run.run >>= fun result => pure (result, ()))
        (DaliApplicationController.unitExempt
          (fun (_ : Unit) => run.run >>= fun result => pure (result, ())) locals)) :
    RunsOnce view run.run (unitExempt run).run := by
  intro c
  rcases honce () c with ⟨first, last, hfirst, hran, hlast⟩
  refine ⟨first, last, hfirst, ?_, hlast⟩
  have hresult := congrArg (fun out => out.1.1) hran
  have hstate := congrArg Prod.snd hran
  exact Prod.ext hresult hstate

end Scopes
end Oxidali.Executor
