import Oxidali.Operations.Tracker

/-!
# The apply orchestrator

An apply is paced cell by cell.  For a bound cell the orchestrator asks the DALI worker
and waits for the outcome, twice at most, and then reports a failure in its place.
Cells without a device are reported as skipped.  When all cells are through, one signal
ends the operation.

The tracker and the orchestrator hear the same events in the same order: the log of a
session.  The orchestrator has read a part of it.
-/

namespace Oxidali.Operations

/-! ## Paced families -/

def ErrorCode.restName : ErrorCode -> String
  | .invalidJson => "invalid_json"
  | .unknownField => "unknown_field"
  | .invalidEnum => "invalid_enum"
  | .invalidValue => "invalid_value"
  | .invalidResourceId => "invalid_resource_id"
  | .notFound => "not_found"
  | .conflict => "conflict"
  | .unsupportedCapability => "unsupported_capability"
  | .unsupportedField => "unsupported_field"
  | .commandsIngressOverload => "commands_ingress_overload"
  | .confirmationTimeout => "confirmation_timeout"
  | .operationFailed => "operation_failed"
  | .superseded => "superseded"
  | .vlUnbound => "vl_unbound"
  | .registryReset => "registry_reset"
  | .executionFailed => "execution_failed"
  | .verifyFailed => "verify_failed"
  | .invalidChannel => "invalid_channel"
  | .wsClientsExhausted => "ws_clients_exhausted"
  | .wsOriginRejected => "ws_origin_rejected"
  | .deviceAbsent => "device_absent"
  | .preempted => "preempted"
  | .verifyUnanswered => "verify_unanswered"
  | .verifyContended => "verify_contended"
  | .readContended => "read_contended"
  | .policyException => "policy_exception"
  | .unknownDevice => "unknown_device"

/-- `PacedCell`, with the family in which the tracker counts the outcomes. -/
structure Paced (Cell Body Result : Type) where
  family : ApplyFamily Body Result
  event : Body -> Tracker.TrackerEvent
  outcomeIn : Tracker.TrackerEvent -> Option Body
  isBound : Cell -> Bool
  outcome : Cell -> Option CompactError -> Body
  isOutcomeOf : Cell -> Body -> Bool

def hardErrorOf (error : Option CompactError) (skip : ErrorCode) : Option CompactError :=
  match error with
  | none => none
  | some error => if error.code = skip then none else some error

/-- What the bus has accepted: an outcome of this run, or anything else. -/
inductive Said (Cell : Type) where
  | outcome (clock : Clock) (background : Bool) (cell : Cell) (error : Option CompactError)
  | other (clock : Clock) (input : Tracker.Input)

/-- `asked` are the cells whose commands were accepted, `synthesised` those that the
orchestrator has reported as failed, and `refused` says that the report of a skipped
cell was not accepted. -/
structure Session (Cell : Type) where
  log : List (Said Cell)
  read : Nat
  asked : List Cell
  synthesised : List Cell
  refused : Bool

namespace Session

def start (Cell : Type) : Session Cell where
  log := []
  read := 0
  asked := []
  synthesised := []
  refused := false

variable {Cell : Type} (session : Session Cell)

def accepts (items : List (Said Cell)) : Session Cell :=
  { session with log := session.log ++ items }

def ask (cell : Cell) : Session Cell :=
  { session with asked := cell :: session.asked }

def reads (count : Nat) : Session Cell :=
  { session with read := session.read + count }

def giveUp (cell : Cell) : Session Cell :=
  { session with synthesised := cell :: session.synthesised }

def refuse : Session Cell :=
  { session with refused := true }

def unread : List (Said Cell) :=
  session.log.drop session.read

end Session

namespace Paced

variable {Cell Body Result : Type} (paced : Paced Cell Body Result) (workflow : Nat)

def matchOutcome (cell : Cell) (body : Body) : Option (Option CompactError) :=
  if paced.isOutcomeOf cell body then
    some (hardErrorOf (paced.family.error body) paced.family.skip)
  else none

def said : Said Cell -> Clock × Tracker.Input
  | .outcome clock background cell error =>
    (clock, .event workflow background (paced.event (paced.outcome cell error)))
  | .other clock input => (clock, input)

def hears (tracker : Tracker) (item : Said Cell) : Tracker :=
  tracker.handle (paced.said workflow item).1 (paced.said workflow item).2

/-- An event of this run is matched against the cell that the orchestrator waits for. -/
def matchSaid (cell : Cell) (item : Said Cell) : Option (Option CompactError) :=
  match (paced.said workflow item).2 with
  | .event correlation _ event =>
    if correlation = workflow then
      (paced.outcomeIn event).bind (paced.matchOutcome cell)
    else none
  | _ => none

/-! ## What the others do -/

/-- The input leaves the operation open and its counts as they are. -/
def Spares (clock : Clock) (input : Tracker.Input) : Prop :=
  forall (tracker : Tracker) (op : TrackedOp), tracker.active.lookup workflow = some op ->
    exists next, (tracker.handle clock input).active.lookup workflow = some next
      ∧ next.detail = op.detail

/-- What the bus accepts from others while a run is not aborted: any outcome of a cell
that the worker was asked to program, and what does not touch the operation. -/
def Arrives (asked : List Cell) : Said Cell -> Prop
  | .outcome _ _ cell _ => cell ∈ asked
  | .other clock input => Spares workflow clock input
      ∧ forall background event, input = .event workflow background event ->
        paced.outcomeIn event = none

inductive Passes : Session Cell -> Session Cell -> Prop where
  | arrive (session : Session Cell) (items : List (Said Cell))
      (harrive : forall item, item ∈ items -> paced.Arrives workflow session.asked item) :
      Passes session (session.accepts items)

/-! ## The run -/

def skipBatch : Nat := 8

/-- `wait_for_cell_outcome`: the first outcome of the cell that is read, or `none` when
the time is up. -/
inductive WaitsFor (cell : Cell) :
    Session Cell -> Option (Option CompactError) -> Session Cell -> Prop where
  | done {session later : Session Cell} {before after : List (Said Cell)}
      {item : Said Cell} {hardError : Option CompactError}
      (hpass : Passes paced workflow session later)
      (hunread : later.unread = before ++ item :: after)
      (hbefore : forall item, item ∈ before -> paced.matchSaid workflow cell item = none)
      (hmatch : paced.matchSaid workflow cell item = some hardError) :
      WaitsFor cell session (some hardError) (later.reads (before.length + 1))
  | timedOut {session later : Session Cell} {before after : List (Said Cell)}
      (hpass : Passes paced workflow session later)
      (hunread : later.unread = before ++ after)
      (hbefore : forall item, item ∈ before -> paced.matchSaid workflow cell item = none) :
      WaitsFor cell session none (later.reads before.length)

/-- An event of the orchestrator for the cell, and whether the bus accepts it. -/
inductive Publishes (cell : Cell) (error : CompactError) :
    Session Cell -> Bool -> Session Cell -> Prop where
  | queued {session later : Session Cell} (clock : Clock) (background : Bool)
      (hpass : Passes paced workflow session later) :
      Publishes cell error session true
        (later.accepts [.outcome clock background cell (some error)])
  | refused {session later : Session Cell} (hpass : Passes paced workflow session later) :
      Publishes cell error session false later

/-- `synthesize_failed_outcome`: whether the event was queued and which outcome comes
back makes no difference. -/
inductive Synthesises (cell : Cell) (message : String) :
    Session Cell -> Option CompactError -> Session Cell -> Prop where
  | failed {session told later : Session Cell} {queued : Bool}
      {heard : Option (Option CompactError)}
      (hpublish : Publishes paced workflow cell ⟨.executionFailed, message⟩
        (session.giveUp cell) queued told)
      (hwait : WaitsFor paced workflow cell told heard later) :
      Synthesises cell message session (some ⟨.executionFailed, message⟩) later

/-- The attempts of `pace_one_cell` that are left. -/
inductive Attempts (cell : Cell) :
    Nat -> Session Cell -> Option CompactError -> Session Cell -> Prop where
  | spent {session later : Session Cell} {hardError : Option CompactError}
      (hfail : Synthesises paced workflow cell "outcome_timeout" session hardError later) :
      Attempts cell 0 session hardError later
  | refused {left : Nat} {session passed later : Session Cell}
      {hardError : Option CompactError} (hpass : Passes paced workflow session passed)
      (hfail : Synthesises paced workflow cell "cell_ingress_overload" passed hardError
        later) :
      Attempts cell (left + 1) session hardError later
  | answered {left : Nat} {session passed later : Session Cell}
      {hardError : Option CompactError} (hpass : Passes paced workflow session passed)
      (hwait : WaitsFor paced workflow cell (passed.ask cell) (some hardError) later) :
      Attempts cell (left + 1) session hardError later
  | timedOut {left : Nat} {session passed waited later : Session Cell}
      {hardError : Option CompactError} (hpass : Passes paced workflow session passed)
      (hwait : WaitsFor paced workflow cell (passed.ask cell) none waited)
      (hnext : Attempts cell left waited hardError later) :
      Attempts cell (left + 1) session hardError later

def skipError : CompactError :=
  ⟨paced.family.skip, paced.family.skip.restName⟩

/-- `pace_skip_batch`.  The wait for the loopbacks reads some events and ends without an
error, whether all of them were seen or not. -/
inductive Skips :
    List Cell -> Session Cell -> Option CompactError -> Session Cell -> Prop where
  | waited {session later : Session Cell} {count : Nat}
      (hpass : Passes paced workflow session later) (hcount : count <= later.unread.length) :
      Skips [] session none (later.reads count)
  | queued {cell : Cell} {rest : List Cell} {session told later : Session Cell}
      {hardError : Option CompactError}
      (hpublish : Publishes paced workflow cell paced.skipError session true told)
      (hrest : Skips rest told hardError later) :
      Skips (cell :: rest) session hardError later
  | refused {cell : Cell} {rest : List Cell} {session later : Session Cell}
      (hpublish : Publishes paced workflow cell paced.skipError session false later) :
      Skips (cell :: rest) session
        (some ⟨.commandsIngressOverload, "skip_ingress_overload"⟩) later.refuse

/-- The unbound cells at the front, eight at most. -/
def batchOf (diff : List Cell) : List Cell :=
  (diff.takeWhile fun cell => !paced.isBound cell).take skipBatch

/-- `pace_cells` of a run that is not aborted, with the first hard error. -/
inductive Paces :
    List Cell -> Session Cell -> Option CompactError -> Session Cell -> Prop where
  | done (session : Session Cell) : Paces [] session none session
  | bound {cell : Cell} {rest : List Cell} {session next later : Session Cell}
      {hardError restError : Option CompactError} (hbound : paced.isBound cell = true)
      (hcell : Attempts paced workflow cell 2 session hardError next)
      (hrest : Paces rest next restError later) :
      Paces (cell :: rest) session (hardError.or restError) later
  | skipped {cell : Cell} {rest : List Cell} {session next later : Session Cell}
      {hardError restError : Option CompactError} (hbound : paced.isBound cell = false)
      (hbatch : Skips paced workflow (paced.batchOf (cell :: rest)) session hardError next)
      (hrest : Paces ((cell :: rest).drop (paced.batchOf (cell :: rest)).length) next
        restError later) :
      Paces (cell :: rest) session (hardError.or restError) later

end Paced

/-- `publish_terminal_signal`. -/
def terminalSignal : Option CompactError -> WorkerSignal
  | none => ⟨.workerSucceeded, none⟩
  | some error => ⟨.workerFailed, some error⟩

/-- `execute_apply` of a run that is not aborted: the signal it ends with. -/
inductive Paced.Executes {Cell Body Result : Type} (paced : Paced Cell Body Result)
    (workflow : Nat) :
    Option (List Cell) -> Session Cell -> WorkerSignal -> Session Cell -> Prop where
  | absent (session : Session Cell) :
      Executes paced workflow none session
        (terminalSignal (some ⟨.notFound, "adapter_not_found"⟩)) session
  | paced {diff : List Cell} {session later : Session Cell} {hardError : Option CompactError}
      (hpaces : Paces paced workflow diff session hardError later) :
      Executes paced workflow (some diff) session (terminalSignal hardError) later

end Oxidali.Operations
