import Oxidali.Lib.Dispatch
import Oxidali.Phy.Moves

/-!
# The life of a transmit request

A request moves from the command cell or the batch queue to the pending slot
and on the wire, may come back when the frame yields or is restarted behind a
collision, and leaves with one report or with none.  Seen from the requests
the core is a desk that serves one of them at a time; every operation is a run
of steps of that desk.
-/

namespace Oxidali.Phy

open Words Dispatch Entry SessionEvent TxRequest List

/-- What an entry says about the life of a request. -/
def Entry.lifecycle : Entry -> Option (Event SessionEvent)
  | accepted serial => some (.accepted serial)
  | started request => some (.started request.serial)
  | halfBit request => some (.worked request.serial)
  | pushed _ (some serial) event =>
    if event.isTerminal then some (.finished serial event) else none
  | discarded serial => some (.withdrawn serial)
  | _ => none

namespace PhyIsrCore

/-- The core seen from the requests.  Within a tick the layer may have released
the line before the core reports it, so that a frame is on the wire is said
by the caller. -/
def desk (core : PhyIsrCore) (onAir : Bool) : Desk SessionEvent :=
  { waiting := (core.waiting onAir).map serial
    serving := if onAir then core.loadedSerial else none
    recalled := core.cancelActive
    next := core.accepted
    history := core.history.filterMap lifecycle }

variable {core other : PhyIsrCore} {req : TxRequest}

theorem desk_congr (h : other.wireSide = core.wireSide) (onAir : Bool) :
    other.desk onAir = core.desk onAir := by
  simp only [wireSide, WireSide.mk.injEq] at h
  simp only [desk, waiting, loadedSerial, h]

def cmdSerials (core : PhyIsrCore) : List Nat :=
  (core.cmd.map TxCommand.request).toList.map serial

theorem cmdSerials_sublist (core : PhyIsrCore) (onAir : Bool) :
    core.cmdSerials.Sublist (core.desk onAir).waiting := by
  simp [cmdSerials, desk, waiting]

theorem desk_serving (h : core.loaded = some req) : (core.desk true).serving = some req.serial := by
  simp [desk, loadedSerial, h]

theorem desk_waiting (h : core.pending = some req) :
    (core.desk false).waiting = req.serial :: (core.desk true).waiting := by
  simp [desk, waiting, h]

theorem Move.steps {stage next : Stage} (h : Move stage next) :
    Desk.Steps (stage.1.desk stage.2) (next.1.desk next.2) := by
  cases h with
  | alike hside =>
    rw [desk_congr hside]
    exact .refl _
  | answer isAnswer => exact .refl _
  | hold core =>
    -- The place where a request waits changes, not the order in which they wait.
    rcases core.holdRequest_frame with ⟨-, -, hcancel, -, haccepted, hhistory, hwaiting⟩
    have hsame : core.holdRequest.desk false = core.desk false := by
      simp [desk, hcancel, haccepted, hhistory, hwaiting]
    rw [hsame]
    exact .refl _
  | @reject core req hreq _ =>
    have hstep := Desk.Step.refuse (core.desk false) .txRejected (desk_waiting hreq)
    simpa [desk, waiting, filterMap_cons, lifecycle, isTerminal] using hstep.steps
  | answered core => exact .refl _
  | drop core =>
    have hdrop := Desk.Step.drop (core.desk true)
    simpa [desk, waiting] using hdrop.steps
  | @sent core req hreq hcancel _ _ =>
    have hfinish := Desk.Step.finish (core.desk true)
      (txComplete core.phy.pollTxState.1.txPreIdle) (desk_serving hreq) hcancel
    simpa [reportFrameSent, desk, waiting, clearPending, loadedSerial, hreq, pushSessionEvent,
      pushSessionEventFor, filterMap_cons, lifecycle, isTerminal] using hfinish.steps
  | @collide core req hreq hcancel =>
    have habandon := Desk.Step.abandon (core.desk true) (core.cmdSerials_sublist true)
    have hfinish := Desk.Step.finish { core.desk true with waiting := core.cmdSerials }
      .txCollision (desk_serving hreq) hcancel
    simpa [desk, waiting, cmdSerials, loadedSerial, hreq, filterMap_cons,
      lifecycle, isTerminal] using habandon.steps.trans hfinish.steps
  | @restart core req hreq hcancel hheld =>
    -- The request goes back to the head of the queue, gates changed.
    have hback := Desk.Step.putBack (core.desk true) (desk_serving hreq) hcancel
    simpa [desk, waiting, restarted, filterMap_cons, lifecycle] using hback.steps
  | @yield core req hreq hcancel hheld =>
    rcases hheld with hnone | hheld
    · -- Its copy was dropped by a cancellation: the request is lost.
      have hdrop := Desk.Step.drop (core.desk true)
      simpa [desk, waiting, hnone, hcancel] using hdrop.steps
    · have hback := Desk.Step.putBack (core.desk true) (desk_serving hreq) hcancel
      simpa [desk, waiting, hheld, hcancel] using hback.steps
  | hear core ev =>
    split <;> exact .refl _
  | overhear core ev =>
    cases hheld : core.pending with
    | none =>
      have habandon := Desk.Step.abandon (core.desk false) (core.cmdSerials_sublist false)
      split <;> simpa [desk, waiting, cmdSerials, filterMap_cons, lifecycle] using habandon.steps
    | some req =>
      have hrefuse := Desk.Step.refuse (core.desk false) .txVoided (desk_waiting hheld)
      have habandon := Desk.Step.abandon
        { core.desk false with
          waiting := (core.desk true).waiting
          history := .finished req.serial .txVoided :: (core.desk false).history }
        (core.cmdSerials_sublist true)
      split <;> simpa [desk, waiting, cmdSerials, filterMap_cons, lifecycle, voided, isTerminal]
        using hrefuse.steps.trans habandon.steps

theorem Starts.steps {armed : PhyIsrCore} (h : core.Starts req armed) :
    Desk.Steps (core.desk false) (armed.desk true) := by
  have hwaiting : (core.desk false).waiting = req.serial :: (core.desk true).waiting := by
    simp [desk, waiting, h.pending]
  have hstep := Desk.Step.start (core.desk false) rfl hwaiting
  rw [desk_congr h.side]
  simpa [desk, waiting, loadedSerial, h.kept, filterMap_cons, lifecycle] using hstep.steps

/-- A half-bit that goes on the line is one of the request in service. -/
theorem tickPhy_steps (h : core.Tied) (level : Bool) :
    Desk.Steps (core.desk core.forwardOnAir) ((core.tickPhy level).desk core.forwardOnAir) := by
  unfold tickPhy
  split
  next hdrives =>
    have hbusy := h.busy_of_drives hdrives
    cases hanswer : core.activeIsAnswer with
    | true =>
      have hloaded := (h.answering hanswer).2
      have hair : core.forwardOnAir = false := by
        simp [forwardOnAir, hanswer]
      rw [hair]
      simpa [desk, waiting, hloaded] using Desk.Steps.refl (core.desk false)
    | false =>
      have hair : core.forwardOnAir := by
        simp [forwardOnAir, hbusy, hanswer]
      rcases h.aired hair with ⟨req, hreq, -, -⟩
      have hwork := Desk.Step.work (core.desk true)
        (show _ = some req.serial by simp [desk, loadedSerial, hreq])
      rw [hair]
      simpa [desk, waiting, loadedSerial, hreq, filterMap_cons, lifecycle] using hwork.steps
  next => exact .refl _

/-- A tick is a run of the desk from the cancellation it applies. -/
theorem tick_steps (h : core.Tied) (input : TickInput) :
    (core.tick input).Tied ∧ Desk.Steps (core.applyRequestedCancel.desk core.forwardOnAir)
        ((core.tick input).desk (core.tick input).forwardOnAir) := by
  refine ⟨(tick_leads h input).tied, ?_⟩
  refine tick_keeps (fun stage => Desk.Steps
    (core.applyRequestedCancel.desk core.forwardOnAir) (stage.1.desk stage.2)) h input
    ?_ ?_ ?_ (.refl _)
  · exact fun hmove hsteps => hsteps.trans hmove.steps
  · exact fun hstarts hsteps => hsteps.trans hstarts.steps
  · exact fun htied hsteps => hsteps.trans (tickPhy_steps htied input.busIsHigh)

/-!
## The tasks

Their operations add requests or leave them alone.
-/

theorem Accepts.tied (haccepts : core.Accepts other) (h : core.Tied) :
    other.Tied ∧ other.forwardOnAir = core.forwardOnAir := by
  have hside := haccepts.side
  simp only [wireSide, WireSide.mk.injEq] at hside
  have hair : other.forwardOnAir = core.forwardOnAir := by simp [forwardOnAir, hside]
  refine ⟨⟨hside.1 ▸ h.paced, ?_, ?_, ?_⟩, hair⟩
  · simpa only [hair, hside] using h.aired
  · simpa only [hside] using h.answering
  · simpa only [hair, hside] using h.cancelling

theorem Accepts.steps (haccepts : core.Accepts other) (onAir : Bool) :
    Desk.Steps (core.desk onAir) (other.desk onAir) := by
  have hside := haccepts.side
  simp only [wireSide, WireSide.mk.injEq] at hside
  obtain ⟨request, front, back, hbefore, hafter, hserial⟩ := haccepts.waits
  have haccept := Desk.Step.accept (core.desk onAir)
    (show (core.desk onAir).waiting =
      ((if onAir then [] else core.pending.toList) ++ front).map serial ++
        back.map serial by simp [desk, hbefore])
  simpa [desk, hafter, hserial, loadedSerial, hside, filterMap_cons, lifecycle] using haccept.steps

end PhyIsrCore
end Oxidali.Phy
