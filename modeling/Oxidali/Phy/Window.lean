import Oxidali.Lib.Since
import Oxidali.Phy.Requests

/-!
# The backward window of an exchange

A frame that expects an answer opens a window when its transmission ends.  The
next capture closes it, and is handed over as the answer if it is short; a
cancellation, the task and a collision close it without one.  The history
tells for which frame a window was opened and that nothing came in between.
-/

namespace Oxidali.Phy

open Words Since List

variable (exchangeId : Nat)

/-- Nothing that has to do with a backward window of the exchange, closing
calls apart. -/
def Entry.calmFor : Entry -> Prop
  | accepted _ => True
  | started _ => False
  | halfBit _ => False
  | sent _ => False
  | collided _ => False
  | pushed _ _ _ => True
  | discarded _ => True
  | cancelled other => other ≠ exchangeId
  | closed _ => True
  | captured _ => False

def Entry.quietFor (entry : Entry) : Prop :=
  entry.calmFor exchangeId ∧ entry ≠ .closed exchangeId

/-- The last half-bit on the line was one of the request. -/
def DrivenFor (request : TxRequest) (history : List Entry) : Prop :=
  Since (fun past => exists rest, past = .halfBit request :: rest)
    (Entry.calmFor request.exchangeId) history

/-- The frame of the request has left the line, and it expects an answer. -/
def SentFor (past : List Entry) : Prop :=
  exists request rest, past = .sent request :: rest ∧
    request.exchangeId = exchangeId ∧ request.expectsBackward = true ∧ DrivenFor request rest

/-- A window has been open for the exchange since a frame of it ended. -/
def OpenedFor (history : List Entry) : Prop :=
  Since (SentFor exchangeId) (Entry.quietFor exchangeId) history

/-- Every answer handed over is the capture just completed, and the window of
its exchange was open up to it. -/
def AnswersInTime (history : List Entry) : Prop :=
  forall newer older exchangeId serial ev,
    history = newer ++ .pushed exchangeId serial (.rxComplete ev) :: older ->
    exists past, older = .captured ev :: past ∧ OpenedFor exchangeId past

/-- The exchange an entry hands an answer to. -/
def Entry.answered : Entry -> Option Nat
  | pushed exchangeId _ (.rxComplete _) => some exchangeId
  | _ => none

theorem AnswersInTime.cons {history : List Entry} (h : AnswersInTime history) {entry : Entry}
    (hentry : entry.answered = none) : AnswersInTime (entry :: history) := by
  intro newer older exchangeId serial ev hsplit
  cases newer with
  | nil =>
    cases hsplit
    cases hentry
  | cons _ newer =>
    cases hsplit
    exact h newer older exchangeId serial ev rfl

theorem AnswersInTime.append {history entries : List Entry} (h : AnswersInTime history)
    (hentries : forall entry, entry ∈ entries -> entry.answered = none) :
    AnswersInTime (entries ++ history) := by
  induction entries with
  | nil => exact h
  | cons entry rest ih =>
    refine (ih ?_).cons (hentries entry (mem_cons_self ..))
    intro other hother
    exact hentries other (mem_cons_of_mem _ hother)

theorem AnswersInTime.answer {past : List Entry} (h : AnswersInTime past) {exchangeId : Nat}
    (hopened : OpenedFor exchangeId past) (serial : Option Nat) (ev : RxCompletedEvent) :
    AnswersInTime (.pushed exchangeId serial (.rxComplete ev) :: .captured ev :: past) := by
  intro newer older otherId otherSerial otherEv hsplit
  cases newer with
  | nil =>
    cases hsplit
    exact ⟨past, rfl, hopened⟩
  | cons _ newer =>
    have hpast : AnswersInTime (.captured ev :: past) := h.cons rfl
    exact hpast newer older otherId otherSerial otherEv (List.cons.inj hsplit).2

namespace PhyIsrCore

/-- What the core keeps about its window.  As for the requests, whether a
forward frame counts as on the wire is said by the caller. -/
structure Awaits (core : PhyIsrCore) (onAir : Bool) : Prop where
  opened : core.sessionExchange ≠ 0 -> OpenedFor core.sessionExchange core.history
  shut : onAir = true -> core.sessionExchange = 0
  expecting : onAir = true -> core.activeExpectsBackward = true ->
    forall req, core.loaded = some req ->
      req.expectsBackward = true ∧ (0 < core.phy.txHbCnt -> DrivenFor req core.history)
  answered : AnswersInTime core.history

theorem new_awaits : new.Awaits false := by
  constructor
  · exact absurd rfl
  · intro h
    cases h
  · intro h
    cases h
  · intro newer older exchangeId serial ev hsplit
    have hlength := congrArg List.length hsplit
    simp [new] at hlength

variable {core : PhyIsrCore}

/-- With no window open and no frame on the wire there is nothing to wait for. -/
theorem Awaits.of_shut (hshut : core.sessionExchange = 0)
    (hanswered : AnswersInTime core.history) : core.Awaits false := by
  refine ⟨?_, ?_, ?_, hanswered⟩
  · exact absurd hshut
  · intro h
    cases h
  · intro h
    cases h

variable {other : PhyIsrCore} {onAir : Bool}

theorem Awaits.congr (h : core.Awaits onAir) (hside : other.wireSide = core.wireSide) :
    other.Awaits onAir := by
  simp only [wireSide, WireSide.mk.injEq] at hside
  constructor
  · simpa only [hside] using h.opened
  · simpa only [hside] using h.shut
  · simpa only [hside] using h.expecting
  · simpa only [hside] using h.answered

/-!
## Cancelling
-/

theorem quietFor_discarded (requests : List TxRequest) (exchangeId : Nat) :
    forall entry, entry ∈ (requests.map fun request => Entry.discarded request.serial).reverse ->
        entry.quietFor exchangeId ∧ entry.answered = none := by
  intro entry hentry
  rw [mem_reverse, mem_map] at hentry
  rcases hentry with ⟨request, -, rfl⟩
  exact ⟨⟨trivial, by simp⟩, rfl⟩

/-- What a cancellation does to the window and to the history. -/
theorem applyRequestedCancel_window (hraw : core.requested ≠ 0) :
    (exists requests : List TxRequest, core.applyRequestedCancel.history =
        .cancelled core.requested ::
          ((requests.map fun request => Entry.discarded request.serial).reverse ++ core.history)) ∧
      core.applyRequestedCancel.sessionExchange =
        (if core.sessionExchange = core.requested then 0 else core.sessionExchange) ∧
      core.applyRequestedCancel.activeExpectsBackward =
        (if core.activeEpoch = core.requested then false else core.activeExpectsBackward) := by
  simp only [applyRequestedCancel, hraw, if_false]
  split <;> exact ⟨⟨_, rfl⟩, rfl, rfl⟩

theorem applyRequestedCancel_awaits (htied : core.Tied) (h : core.Awaits core.forwardOnAir) :
    core.applyRequestedCancel.Awaits core.forwardOnAir := by
  by_cases hraw : core.requested = 0
  · have hsame : core.applyRequestedCancel = core := by
      simp [applyRequestedCancel, hraw]
    rwa [hsame]
  · rcases applyRequestedCancel_window hraw with
      ⟨⟨requests, hhistory⟩, hsession, hexpects⟩
    rcases core.applyRequestedCancel_frame with ⟨hphy, hloaded, -, -, -⟩
    have hquiet := quietFor_discarded requests
    constructor
    · rw [hsession, hhistory]
      split
      next => exact fun hopen => absurd rfl hopen
      next hother =>
        intro hopen
        refine cons ⟨Ne.symm hother, by simp⟩ (append ?_ (h.opened hopen))
        intro entry hentry
        exact (hquiet core.sessionExchange entry hentry).1
    · intro hon
      rw [hsession, h.shut hon]
      split <;> rfl
    · intro hon hstill req hreq
      rw [hloaded] at hreq
      rw [hexpects] at hstill
      split at hstill
      next => cases hstill
      next hother =>
        rcases htied.aired hon with ⟨aired, haired, hepoch, -⟩
        rw [hreq] at haired
        cases haired
        rcases h.expecting hon hstill req hreq with ⟨hbackward, hdriven⟩
        refine ⟨hbackward, ?_⟩
        rw [hphy, hhistory]
        intro hcount
        rw [hepoch] at hother
        refine cons (Ne.symm hother) (append ?_ (hdriven hcount))
        intro entry hentry
        exact (hquiet req.exchangeId entry hentry).1.1
    · rw [hhistory]
      refine AnswersInTime.cons (h.answered.append ?_) rfl
      intro entry hentry
      exact (hquiet 0 entry hentry).2

/-!
## Moves
-/

theorem Awaits.of_window (h : core.Awaits false)
    (hsession : other.sessionExchange = core.sessionExchange)
    (hhistory : other.history = core.history) : other.Awaits false := by
  constructor
  · rw [hsession, hhistory]
    exact h.opened
  · intro hon
    cases hon
  · intro hon
    cases hon
  · rw [hhistory]
    exact h.answered

theorem tickPhy_awaits (htied : core.Tied) (h : core.Awaits core.forwardOnAir)
    (level : Bool) : (core.tickPhy level).Awaits core.forwardOnAir := by
  cases hair : core.forwardOnAir with
  | false =>
    rw [hair] at h
    -- Nothing of a request is driven: the transmitter is idle or answers.
    have hsame : (core.tickPhy level).history = core.history := by
      unfold tickPhy
      split
      next hdrives =>
        have hbusy := htied.busy_of_drives hdrives
        have hanswer : core.activeIsAnswer := by
          simpa [forwardOnAir, hbusy] using hair
        simp [(htied.answering hanswer).2]
      next => rfl
    exact h.of_window rfl hsame
  | true =>
    rw [hair] at h
    rcases htied.aired hair with ⟨req, hreq, -, -⟩
    have hshut := h.shut rfl
    refine ⟨?_, fun _ => hshut, ?_, ?_⟩
    · exact absurd hshut
    · intro hon hexpects other hother
      rcases h.expecting rfl hexpects other hother with ⟨hbackward, hdriven⟩
      refine ⟨hbackward, ?_⟩
      have hloaded : core.loaded = some other := hother
      unfold tickPhy
      split
      next hdrives =>
        intro _
        rw [hloaded]
        exact intro ⟨core.history, rfl⟩
      next hholds =>
        have hcount : (core.phy.tick level).txHbCnt = core.phy.txHbCnt := by
          simpa [drivesHalfBit] using hholds
        rw [hcount]
        exact hdriven
    · unfold tickPhy
      split
      · rw [hreq]
        exact h.answered.cons rfl
      · exact h.answered

/-- The window opens behind a frame that was sent and expects an answer. -/
theorem reportFrameSent_awaits (h : core.Awaits true) {req : TxRequest}
    (hreq : core.loaded = some req) (hepoch : core.activeEpoch = req.exchangeId)
    (hcount : 0 < core.phy.txHbCnt) : core.reportFrameSent.Awaits false := by
  have hhistory : core.reportFrameSent.history =
      .pushed core.activeEpoch core.loadedSerial (.txComplete core.phy.txPreIdle) ::
        .sent req :: core.history := by
    simp [reportFrameSent, pushSessionEvent, pushSessionEventFor, clearPending, hreq]
  have hanswered : AnswersInTime core.reportFrameSent.history := by
    rw [hhistory]
    exact (h.answered.cons rfl).cons rfl
  cases hexpects : core.activeExpectsBackward with
  | false =>
    refine Awaits.of_shut ?_ hanswered
    simp [reportFrameSent, pushSessionEvent, pushSessionEventFor, hexpects,
      clearPending, h.shut rfl]
  | true =>
    rcases h.expecting rfl hexpects req hreq with ⟨hbackward, hdriven⟩
    have hsession : core.reportFrameSent.sessionExchange = req.exchangeId := by
      simp [reportFrameSent, pushSessionEvent, pushSessionEventFor, hexpects, hepoch]
    refine ⟨?_, by simp, by simp, hanswered⟩
    intro _
    rw [hsession, hhistory]
    refine cons ⟨trivial, by simp⟩ (intro ?_)
    exact ⟨req, core.history, rfl, rfl, hbackward, hdriven hcount⟩

theorem pollTxState_txHbCnt (phy : DaliBitbangPhy) : phy.pollTxState.1.txHbCnt = phy.txHbCnt := by
  unfold DaliBitbangPhy.pollTxState
  repeat' split
  all_goals rfl

theorem hear_awaits (h : core.Awaits false) (ev : RxCompletedEvent) :
    AnswersInTime ((if core.sessionExchange ≠ 0 then
      [.pushed core.sessionExchange none (.rxComplete ev)] else []) ++
        .captured ev :: core.history) := by
  split
  next hopen => exact h.answered.answer (h.opened hopen) none ev
  next => exact h.answered.cons rfl

theorem Move.awaits {stage next : Stage} (hmove : Move stage next)
    (h : stage.1.Awaits stage.2) : next.1.Awaits next.2 := by
  cases hmove with
  | alike hside => exact h.congr hside
  | answer isAnswer => exact h.of_window rfl rfl
  | hold core =>
    rcases core.holdRequest_frame with ⟨-, -, -, hsession, -, hhistory, -⟩
    exact h.of_window hsession hhistory
  | reject _ hshut => exact Awaits.of_shut hshut (h.answered.cons rfl)
  | answered core => exact h.of_window rfl rfl
  | drop core => exact Awaits.of_shut rfl h.answered
  | sent hreq _ hepoch hcount =>
    refine reportFrameSent_awaits ⟨h.opened, h.shut, ?_, h.answered⟩ hreq hepoch ?_
    · simpa only [pollTxState_txHbCnt] using h.expecting
    · simpa only [pollTxState_txHbCnt] using hcount
  | collide _ _ => exact Awaits.of_shut rfl ((h.answered.cons rfl).cons rfl)
  | restart _ _ _ => exact Awaits.of_shut (h.shut rfl) (h.answered.cons rfl)
  | yield _ _ _ => exact Awaits.of_shut (h.shut rfl) h.answered
  | hear core ev => exact Awaits.of_shut rfl (hear_awaits h ev)
  | overhear core ev =>
    refine Awaits.of_shut rfl (AnswersInTime.append (AnswersInTime.append
      (h.answered.cons rfl) ?_) ?_)
    · cases core.pending <;> simp [TxRequest.voided, Entry.answered]
    · split <;> simp [Entry.answered]

theorem Starts.awaits {armed : PhyIsrCore} {req : TxRequest} (hstarts : core.Starts req armed)
    (h : core.Awaits false) : armed.Awaits true := by
  refine Awaits.congr ?_ hstarts.side
  refine ⟨?_, fun _ => hstarts.shut, ?_, h.answered.cons rfl⟩
  · exact fun hopen => absurd hstarts.shut hopen
  · intro _ hexpects other hother
    cases hother
    exact ⟨hexpects, fun hdriven => absurd hdriven (by simp [hstarts.count])⟩

/-!
## Runs
-/

theorem Accepts.awaits (haccepts : core.Accepts other) (h : core.Awaits onAir) :
    other.Awaits onAir := by
  have hentry : forall exchangeId, (Entry.accepted core.accepted).quietFor exchangeId :=
    fun exchangeId => ⟨trivial, by simp⟩
  have hside := haccepts.side
  simp only [wireSide, WireSide.mk.injEq] at hside
  rcases hside with ⟨hphy, -, -, -, -, -, -, -, hexpects, hsession, -, -, hloaded, hhistory⟩
  constructor
  · rw [hsession, hhistory]
    intro hopen
    exact cons (hentry _) (h.opened hopen)
  · rw [hsession]
    exact h.shut
  · rw [hexpects, hloaded, hphy, hhistory]
    intro hon hstill req hreq
    rcases h.expecting hon hstill req hreq with ⟨hbackward, hdriven⟩
    exact ⟨hbackward, fun hcount => cons (hentry _).1 (hdriven hcount)⟩
  · rw [hhistory]
    exact h.answered.cons rfl

theorem closeBackwardWindow_awaits (h : core.Awaits onAir) :
    core.closeBackwardWindow.1.Awaits onAir := by
  have hdriven : forall req, DrivenFor req core.history ->
      DrivenFor req (.closed core.exchangeEpoch :: core.history) := by
    intro req
    exact cons trivial
  have hexpecting : onAir -> core.activeExpectsBackward ->
      forall req, core.loaded = some req ->
        req.expectsBackward = true ∧
          (0 < core.phy.txHbCnt -> DrivenFor req (.closed core.exchangeEpoch :: core.history)) := by
    intro hon hstill req hreq
    rcases h.expecting hon hstill req hreq with ⟨hbackward, hold⟩
    exact ⟨hbackward, fun hcount => hdriven req (hold hcount)⟩
  unfold closeBackwardWindow
  split
  next hmine =>
    refine ⟨?_, fun _ => rfl, hexpecting, h.answered.cons rfl⟩
    exact absurd rfl
  next hother =>
    refine ⟨?_, h.shut, hexpecting, h.answered.cons rfl⟩
    intro hopen
    refine cons ⟨trivial, ?_⟩ (h.opened hopen)
    intro hsame
    exact hother (Entry.closed.inj hsame).symm

theorem step_awaits (htied : core.Tied) (h : core.Awaits core.forwardOnAir) (op : Op) :
    (core.step op).Awaits (core.step op).forwardOnAir := by
  have hkept : forall other : PhyIsrCore, other.wireSide = core.wireSide ->
      other.Awaits other.forwardOnAir := by
    intro other hother
    rw [forwardOnAir_congr hother]
    exact h.congr hother
  have haccepted : forall {other : PhyIsrCore}, core.Accepts other ->
      other.Awaits other.forwardOnAir := by
    intro other haccepts
    rw [(haccepts.tied htied).2]
    exact haccepts.awaits h
  cases op with
  | tick input =>
    refine tick_keeps (fun stage => stage.1.Awaits stage.2) htied input
      Move.awaits Starts.awaits ?_ (applyRequestedCancel_awaits htied h)
    exact fun harmed hawaits => tickPhy_awaits harmed hawaits input.busIsHigh
  | submitTxFor frame exchangeId =>
    exact (core.submitTxFor_accepts frame exchangeId).elim
      (fun hsame => hkept _ (congrArg wireSide hsame)) haccepted
  | queueTxFor frame exchangeId =>
    exact (core.queueTxFor_accepts frame exchangeId).elim
      (fun hsame => hkept _ (congrArg wireSide hsame)) haccepted
  | beginExchange | cancelExchange exchangeId =>
    exact ⟨h.opened, h.shut, h.expecting, h.answered⟩
  | closeBackwardWindow =>
    have hair : core.closeBackwardWindow.1.forwardOnAir = core.forwardOnAir := by
      unfold closeBackwardWindow
      split <;> rfl
    simp only [step]
    rw [hair]
    exact closeBackwardWindow_awaits h
  | _ => exact hkept _ (step_wireSide rfl core)

theorem run_awaits (htied : core.Tied) (h : core.Awaits core.forwardOnAir) (ops : List Op) :
    (core.run ops).Awaits (core.run ops).forwardOnAir := by
  induction ops generalizing core with
  | nil => exact h
  | cons op rest ih =>
    exact ih (step_steps htied op).1 (step_awaits htied h op)

/-- In every run an answer is handed to an exchange only for the first capture
behind a frame of it that expects one, with nothing in between that closes the
window; and since the window in force was opened no forward frame was started. -/
theorem run_answersInTime (ops : List Op) :
    AnswersInTime (new.run ops).history ∧
      ((new.run ops).sessionExchange ≠ 0 ->
        OpenedFor (new.run ops).sessionExchange (new.run ops).history) := by
  have h := run_awaits new_tied new_awaits ops
  exact ⟨h.answered, h.opened⟩

def expectingRun (ticks : Nat) : List Op :=
  [.beginExchange, .submitTxFor (shortFrame true) 1] ++ replicate ticks (lineTick true)

def shortCapture : List Op :=
  replicate 2 (lineTick false) ++ replicate 16 (lineTick true)

/-- An own answer is started and collides. -/
def answerCollides : List Op :=
  .submitAnswer 1 ⟨Vector.replicate 9 0, 2⟩ :: (replicate 58 (lineTick true) ++
    (replicate 14 (lineTick false) ++ replicate 2 (lineTick true)))

/-- A cancellation that is overwritten before a tick applies it leaves the window
open, and so do a closing call between the last half-bit and the tick that ends
the frame and a collision of an own answer: the exchange is answered all the same. -/
theorem cancelled_and_closed_answered :
    (new.run (expectingRun 5)).sessionExchange = 1 ∧
      ((new.run (expectingRun 5 ++ [.cancelExchange 1, .cancelExchange 2] ++
        shortCapture)).history.head?.bind Entry.answered) = some 1 ∧
      (new.run (expectingRun 4)).phy.txHbCnt = 1 ∧ (new.run (expectingRun 4)).exchangeEpoch = 1 ∧
      ((new.run (expectingRun 4 ++ [.closeBackwardWindow, lineTick true] ++
        shortCapture)).history.head?.bind Entry.answered) = some 1 ∧
      (new.run (expectingRun 5 ++ answerCollides)).answers.collided = 1 ∧
      ((new.run (expectingRun 5 ++ answerCollides ++ shortCapture)).history.head?.bind
        Entry.answered) = some 1 := by
  decide +kernel

end PhyIsrCore
end Oxidali.Phy
