import Oxidali.Phy.RequestDesk

/-!
# What becomes of a transmit request

Over whole runs of the core, every request is reported at most once and is
silent from then on, and a request a cancellation has taken does not come
back.  One case is out: a second cancellation, of another exchange, that finds
a cancelled frame still on the wire makes the core forget the first one.
-/

namespace Oxidali.Phy

open Words Dispatch Entry List

namespace PhyIsrCore

/-- A cancellation about to be applied is not of another exchange than the
cancelled frame on the wire. -/
def Undisturbed (core : PhyIsrCore) : Prop :=
  core.requested ≠ 0 -> core.cancelActive = true -> core.requested = core.activeEpoch

instance (core : PhyIsrCore) : Decidable core.Undisturbed :=
  inferInstanceAs (Decidable (_ -> _ -> _))

theorem filterMap_discarded (requests : List TxRequest) :
    requests.filterMap (lifecycle ∘ fun request => .discarded request.serial) =
      requests.map (Event.withdrawn ∘ TxRequest.serial) := by
  rw [<- filterMap_eq_map]
  rfl

variable {core : PhyIsrCore}

theorem applyRequestedCancel_steps (h : core.Tied) (hguard : core.Undisturbed) :
    Desk.Steps (core.desk core.forwardOnAir)
      (core.applyRequestedCancel.desk core.forwardOnAir) := by
  simp only [applyRequestedCancel]
  split
  · exact .refl _
  next hraw =>
    split
    next hactive =>
      -- The frame on the wire is recalled, and all that waits withdrawn.
      rw [Bool.and_eq_true] at hactive
      rcases h.aired hactive.1 with ⟨req, hreq, -, -⟩
      have hrecall : Desk.Step (core.desk core.forwardOnAir)
          { core.desk core.forwardOnAir with
            recalled := true
            history := .withdrawn req.serial ::
              (core.desk core.forwardOnAir).history } :=
        Desk.Step.takeBack _ (by simp [desk, loadedSerial, hactive.1, hreq])
      refine hrecall.steps.trans ?_
      have hwithdraw := Desk.steps_withdraw ((core.waiting core.forwardOnAir).map TxRequest.serial)
        { core.desk core.forwardOnAir with
          recalled := true
          history := .withdrawn req.serial ::
            (core.desk core.forwardOnAir).history }
        (append_nil _).symm
      simpa [desk, waiting, loadedSerial, noteDiscarded, hactive.1, hreq, filterMap_cons,
        filterMap_discarded, lifecycle] using hwithdraw
    next hother =>
      -- No cancelled frame is on the wire, so none is forgotten.
      have hkept : core.cancelActive = false := by
        rw [Bool.eq_false_iff]
        intro hcancel
        apply hother
        rw [Bool.and_eq_true, decide_eq_true_eq]
        exact ⟨h.cancelling hcancel, (hguard hraw hcancel).symm⟩
      have hwithdraw := Desk.steps_withdraw ((core.waiting core.forwardOnAir).map TxRequest.serial)
        (core.desk core.forwardOnAir) (append_nil _).symm
      simpa [desk, waiting, loadedSerial, noteDiscarded, discardQueued, hkept, filterMap_cons,
        filterMap_discarded, lifecycle] using hwithdraw

/-!
## Runs
-/

def Op.isTick : Op -> Bool
  | .tick _ => true
  | _ => false

/-- The ticks of a run apply no cancellation over a frame cancelled before. -/
def UndisturbedRun (core : PhyIsrCore) : List Op -> Prop
  | [] => True
  | op :: rest =>
    (op.isTick = true -> core.Undisturbed) ∧ UndisturbedRun (core.step op) rest

def decidableUndisturbedRun :
    (core : PhyIsrCore) -> (ops : List Op) -> Decidable (core.UndisturbedRun ops)
  | _, [] => .isTrue trivial
  | core, op :: rest =>
    have := decidableUndisturbedRun (core.step op) rest
    inferInstanceAs (Decidable ((_ -> _) ∧ _))

instance (core : PhyIsrCore) (ops : List Op) : Decidable (core.UndisturbedRun ops) :=
  decidableUndisturbedRun core ops

theorem step_steps (h : core.Tied) (op : Op) :
    (core.step op).Tied ∧
      ((op.isTick -> core.Undisturbed) -> Desk.Steps (core.desk core.forwardOnAir)
          ((core.step op).desk (core.step op).forwardOnAir)) := by
  have hkept : forall other : PhyIsrCore, other.wireSide = core.wireSide -> other.Tied ∧
        ((op.isTick = true -> core.Undisturbed) -> Desk.Steps (core.desk core.forwardOnAir)
            (other.desk other.forwardOnAir)) := by
    intro other hother
    refine ⟨h.congr hother, fun _ => ?_⟩
    rw [forwardOnAir_congr hother, desk_congr hother]
    exact .refl _
  have haccepted : forall {other : PhyIsrCore}, core.Accepts other -> other.Tied ∧
        ((op.isTick = true -> core.Undisturbed) ->
          Desk.Steps (core.desk core.forwardOnAir) (other.desk other.forwardOnAir)) := by
    intro other haccepts
    rcases haccepts.tied h with ⟨htied, hair⟩
    exact ⟨htied, fun _ => hair ▸ haccepts.steps core.forwardOnAir⟩
  cases op with
  | tick input =>
    have htick := tick_steps h input
    refine ⟨htick.1, fun hguard => ?_⟩
    exact (applyRequestedCancel_steps h (hguard rfl)).trans htick.2
  | submitTxFor frame exchangeId =>
    exact (core.submitTxFor_accepts frame exchangeId).elim
      (fun hsame => hkept _ (congrArg wireSide hsame)) haccepted
  | queueTxFor frame exchangeId =>
    exact (core.queueTxFor_accepts frame exchangeId).elim
      (fun hsame => hkept _ (congrArg wireSide hsame)) haccepted
  | beginExchange | cancelExchange exchangeId =>
    exact ⟨⟨h.paced, h.aired, h.answering, h.cancelling⟩, fun _ => .refl _⟩
  | closeBackwardWindow =>
    simp only [step, closeBackwardWindow]
    split <;> exact ⟨⟨h.paced, h.aired, h.answering, h.cancelling⟩, fun _ => .refl _⟩
  | _ => exact hkept _ (step_wireSide rfl core)

theorem run_steps (h : core.Tied) (ops : List Op) (hops : core.UndisturbedRun ops) :
    Desk.Steps (core.desk core.forwardOnAir) ((core.run ops).desk (core.run ops).forwardOnAir) := by
  induction ops generalizing core with
  | nil => exact .refl _
  | cons op rest ih =>
    have hfirst := step_steps h op
    exact (hfirst.2 hops.1).trans (ih hfirst.1 hops.2)

/-!
## One report for each request
-/

/-- The entry is the final report on the request. -/
def reports (serial : Nat) : Entry -> Bool
  | .pushed _ (some reported) event => event.isTerminal && reported = serial
  | _ => false

/-- What a history says of the requests: each is reported at most once, is not
driven any more once it is, and once a cancellation has taken it, is neither
started nor reported as sent. -/
structure ReportedOnce (history : List Entry) : Prop where
  once : forall serial, history.countP (reports serial) <= 1
  silent : forall newer older serial exchangeId event,
    history = newer ++ .pushed exchangeId (some serial) event :: older ->
    event.isTerminal = true ->
    forall request, .halfBit request ∈ newer -> request.serial ≠ serial
  discarded : forall newer older serial, history = newer ++ .discarded serial :: older ->
    (forall request, .started request ∈ newer -> request.serial ≠ serial) ∧
      forall exchangeId preIdleTicks,
        .pushed exchangeId (some serial) (.txComplete preIdleTicks) ∉ newer

theorem countP_reports (history : List Entry) (serial : Nat) :
    history.countP (reports serial) =
      (history.filterMap lifecycle).countP (Event.isFinish serial) := by
  induction history with
  | nil => rfl
  | cons entry past ih =>
    rcases entry with _ | _ | _ | _ | _ | ⟨_, _ | reported, event⟩ | _ | _ | _ | _
    case pushed.some =>
      cases hterminal : event.isTerminal <;>
        simp [lifecycle, countP_cons, reports, Event.isFinish, hterminal, ih]
    all_goals simp [filterMap_cons, lifecycle, reports, Event.isFinish, ih]

theorem reportedOnce_of_legal {history : List Entry}
    (h : Legal (history.filterMap lifecycle)) : ReportedOnce history := by
  constructor
  · intro serial
    rw [countP_reports]
    exact h.finished_at_most_once serial
  · intro newer older serial exchangeId event hhistory hterminal request hdriven
    rw [hhistory, filterMap_append, filterMap_cons_some
      (show lifecycle (.pushed exchangeId (some serial) event) =
        some (.finished serial event) by simp [lifecycle, hterminal])] at h
    exact h.nothing_after_finished (.worked request.serial) (mem_filterMap.mpr ⟨_, hdriven, rfl⟩)
  · intro newer older serial hhistory
    rw [hhistory, filterMap_append, filterMap_cons_some
      (show lifecycle (.discarded serial) = some (.withdrawn serial) from rfl)] at h
    rcases h.after_withdrawn with ⟨hstarted, hfinished⟩
    constructor
    · rintro request hmem rfl
      exact hstarted (mem_filterMap.mpr ⟨_, hmem, rfl⟩)
    · intro exchangeId preIdleTicks hmem
      exact hfinished _ (mem_filterMap.mpr ⟨_, hmem, rfl⟩)

/-- In a run that applies no cancellation over a cancelled frame, every request
is reported at most once and stays away once it is reported or discarded. -/
theorem run_reportedOnce (ops : List Op) (hops : new.UndisturbedRun ops) :
    ReportedOnce (new.run ops).history := by
  have hsteps := run_steps new_tied ops hops
  exact reportedOnce_of_legal (Desk.empty_sound.steps hsteps).legal

def shortFrame (expectsBackward : Bool) : TxFrame :=
  { halfbitData := Vector.replicate 9 0, halfbitLen := 1, expectsBackward
    gates := { minIdleTicks := 0, restartGate := 0 } }

def lineTick (busIsHigh : Bool) : Op :=
  .tick { busIsHigh, sampleGapUs := phyTickUs }

/-- A frame is cancelled on the wire and stays unreported to its end. -/
theorem cancelledFrame_unreported :
    let ops := [.submitTxFor (shortFrame false) 1, lineTick true,
      .cancelExchange 1] ++ replicate 5 (lineTick true)
    new.UndisturbedRun ops ∧ ReportedOnce (new.run ops).history :=
  ⟨by decide +kernel, run_reportedOnce _ (by decide +kernel)⟩

/-- Exchange 1 is cancelled on the wire, then exchange 2 is. -/
def twoCancellations : List Op :=
  [.submitTxFor (shortFrame false) 1, lineTick true, .cancelExchange 1,
    lineTick true, .cancelExchange 2] ++ replicate 4 (lineTick true)

/-- The second cancellation makes the core forget the first one: the cancelled
frame is reported as sent. -/
theorem cancelledFrame_reported_sent : ¬ ReportedOnce (new.run twoCancellations).history := by
  intro h
  have hcancelled : .discarded 0 ∈ (new.run twoCancellations).history.drop 1 := by
    decide +kernel
  have hsent : (new.run twoCancellations).history.take 1 =
      [.pushed 1 (some 0) (.txComplete 0)] := by
    decide +kernel
  rcases append_of_mem hcancelled with ⟨newer, older, hsplit⟩
  have hhistory := (take_append_drop 1 _).symm.trans (congrArg₂ (· ++ ·) hsent hsplit)
  have hquiet := h.discarded (.pushed 1 (some 0) (.txComplete 0) :: newer) older 0 hhistory
  exact hquiet.2 1 0 (mem_cons_self ..)

end PhyIsrCore
end Oxidali.Phy
