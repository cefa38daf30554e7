import Oxidali.Phy.TxPhase
import Oxidali.Phy.WireSide

/-!
# What a tick does to the transmitting side

Behind the cancellation it applies, an interrupt arms the transmitter, ticks the layer,
reports the end of a frame and takes a capture.  All it can do to the transmitting side,
the tick of the layer apart, is a move of a short list.
-/

namespace Oxidali.Phy

open Words DaliBitbangPhy

/-- The report on a request that is dropped before it is started. -/
def TxRequest.voided (request : TxRequest) : Entry :=
  .pushed request.exchangeId (some request.serial) .txVoided

/-- The request as a collision puts it back. -/
def TxRequest.restarted (request : TxRequest) : TxRequest :=
  { request with minIdleTicks := request.restartGate, restartGate := 0 }

namespace PhyIsrCore

/-- What the transmitting side of the core always keeps. -/
structure Tied (core : PhyIsrCore) : Prop where
  paced : core.phy.Paced
  aired : core.forwardOnAir = true ->
    exists req, core.loaded = some req ∧ core.activeEpoch = req.exchangeId ∧
      (core.pending = none ∨ core.pending = some req)
  answering : core.activeIsAnswer = true -> core.phy.txBusy = true ∧ core.loaded = none
  cancelling : core.cancelActive = true -> core.forwardOnAir = true

/-- A core within a tick.  The layer may have released the line before the core reports
it, so that a forward frame is on the wire is said beside the core. -/
abbrev Stage : Type := PhyIsrCore × Bool

inductive Move : Stage -> Stage -> Prop where
  | alike {core other : PhyIsrCore} {onAir : Bool}
      (hside : other.wireSide = core.wireSide) : Move (core, onAir) (other, onAir)
  | answer {core : PhyIsrCore} {phy : DaliBitbangPhy} {loaded : Option TxRequest}
      (isAnswer : Bool) :
      Move (core, false)
        ({ core with
           phy, loaded
           activeExpectsBackward := false
           activeIsAnswer := isAnswer }, false)
  | hold (core : PhyIsrCore) : Move (core, false) (core.holdRequest, false)
  | reject {core : PhyIsrCore} {req : TxRequest} (hreq : core.pending = some req)
      (hshut : core.sessionExchange = 0) :
      Move (core, false)
        ({ core with
           pending := none
           activeEpoch := req.exchangeId
           activeExpectsBackward := false
           history := .pushed req.exchangeId (some req.serial) .txRejected ::
             core.history }, false)
  | answered (core : PhyIsrCore) :
      Move (core, false)
        ({ core with phy := core.phy.pollTxState.1, activeIsAnswer := false }, false)
  | drop (core : PhyIsrCore) :
      Move (core, true)
        ({ core with
           phy := core.phy.pollTxState.1
           cancelActive := false
           pending := none
           activeExpectsBackward := false
           sessionExchange := 0 }, false)
  | sent {core : PhyIsrCore} {req : TxRequest} (hreq : core.loaded = some req)
      (hcancel : core.cancelActive = false) (hepoch : core.activeEpoch = req.exchangeId)
      (hcount : 0 < core.phy.txHbCnt) :
      Move (core, true) (reportFrameSent { core with phy := core.phy.pollTxState.1 }, false)
  | collide {core : PhyIsrCore} {req : TxRequest} (hreq : core.loaded = some req)
      (hcancel : core.cancelActive = false) :
      Move (core, true)
        ({ core with
           phy := core.phy.pollTxState.1.takeIdleAfterBreak.1
           pending := none
           txQueue := Fifo.empty
           activeExpectsBackward := false
           sessionExchange := 0
           history := .pushed core.activeEpoch core.loadedSerial .txCollision ::
             .collided core.loadedSerial :: core.history }, false)
  | restart {core : PhyIsrCore} {req : TxRequest} (hreq : core.loaded = some req)
      (hcancel : core.cancelActive = false) (hheld : core.pending = some req) :
      Move (core, true)
        ({ core with
           phy := core.phy.pollTxState.1.takeIdleAfterBreak.1
           pending := some req.restarted
           history := .collided core.loadedSerial :: core.history }, false)
  | yield {core : PhyIsrCore} {req : TxRequest} (hreq : core.loaded = some req)
      (hcancel : core.cancelActive = false)
      (hheld : core.pending = none ∨ core.pending = some req) :
      Move (core, true)
        ({ core with phy := core.phy.pollTxState.1, activeExpectsBackward := false }, false)
  | hear (core : PhyIsrCore) (ev : RxCompletedEvent) :
      Move (core, false)
        ({ core with
           phy := { core.phy with rxState := .empty }
           sessionExchange := 0
           history :=
             (if core.sessionExchange ≠ 0 then
               [.pushed core.sessionExchange none (.rxComplete ev)] else []) ++
               .captured ev :: core.history }, false)
  | overhear (core : PhyIsrCore) (ev : RxCompletedEvent) :
      Move (core, false)
        ({ core with
           phy := { core.phy with rxState := .empty }
           pending := none
           txQueue := Fifo.empty
           sessionExchange := 0
           history :=
             (if core.sessionExchange ≠ 0 then
               [.pushed core.sessionExchange none
                 (.foreignForward ev.preIdleTicks ev.sampleCount)] else []) ++
               ((core.pending.map TxRequest.voided).toList ++
                 .captured ev :: core.history) }, false)

abbrev Moves : Stage -> Stage -> Prop := Relation.ReflTransGen Move

/-- The pending request of an idle core is started. -/
structure Starts (core : PhyIsrCore) (req : TxRequest) (armed : PhyIsrCore) : Prop where
  pending : core.pending = some req
  shut : core.sessionExchange = 0
  kept : core.cancelActive = false
  count : (core.phy.startTx ⟨req.data, req.len⟩).1.txHbCnt = 0
  tied : armed.Tied
  onAir : armed.forwardOnAir = true
  side : armed.wireSide =
    wireSide { core with
      phy := (core.phy.startTx ⟨req.data, req.len⟩).1
      activeEpoch := req.exchangeId
      activeExpectsBackward := req.expectsBackward
      loaded := some req
      history := .started req :: core.history }

variable {stage : Stage}

theorem Move.moves {next : Stage} (h : Move stage next) : Moves stage next :=
  .single h

variable {core other : PhyIsrCore}

theorem new_tied : new.Tied := by
  refine ⟨new_paced, ?_, ?_, ?_⟩
  · intro h
    cases h
  · intro h
    cases h
  · intro h
    cases h

theorem Tied.congr (htied : core.Tied) (h : other.wireSide = core.wireSide) : other.Tied := by
  have hair := forwardOnAir_congr h
  simp only [wireSide, WireSide.mk.injEq] at h
  constructor
  · rw [h.1]
    exact htied.paced
  · simpa only [hair, h] using htied.aired
  · simpa only [h] using htied.answering
  · simpa only [hair, h] using htied.cancelling

theorem Tied.of_idle (hpaced : core.phy.Paced) (hbusy : core.phy.txBusy = false)
    (hanswer : core.activeIsAnswer = false) (hcancel : core.cancelActive = false) : core.Tied := by
  refine ⟨hpaced, ?_, ?_, ?_⟩
  · simp [forwardOnAir, hbusy]
  · simp [hanswer]
  · simp [hcancel]

theorem Tied.idle (h : core.Tied) (hbusy : core.phy.txBusy = false) :
    core.activeIsAnswer = false ∧ core.cancelActive = false := by
  constructor
  · rw [Bool.eq_false_iff]
    intro hanswer
    rw [(h.answering hanswer).1] at hbusy
    cases hbusy
  · rw [Bool.eq_false_iff]
    intro hcancel
    have hair := h.cancelling hcancel
    rw [forwardOnAir_of_idle hbusy] at hair
    cases hair

theorem Tied.busy_of_drives (h : core.Tied) {level : Bool}
    (hdrives : drivesHalfBit core.phy level = true) : core.phy.txBusy = true := by
  rw [<- Bool.not_eq_false]
  intro hidle
  have hsame := (h.paced.tick_idle hidle level).1
  simp [drivesHalfBit, hsame] at hdrives

/-- Moves that leave a tied core. -/
structure Leads (stage : Stage) (core : PhyIsrCore) : Prop where
  tied : core.Tied
  moves : Moves stage (core, core.forwardOnAir)

theorem Leads.congr (h : Leads stage core) (hside : other.wireSide = core.wireSide) :
    Leads stage other := by
  refine ⟨h.tied.congr hside, h.moves.tail ?_⟩
  rw [forwardOnAir_congr hside]
  exact .alike hside

theorem Leads.intro {onAir : Bool} (htied : core.Tied) (hair : core.forwardOnAir = onAir)
    (hmoves : Moves stage (core, onAir)) : Leads stage core :=
  ⟨htied, hair ▸ hmoves⟩

/-- What arming does: nothing is started, or one request is after some moves. -/
inductive Arms (stage : Stage) (armed : PhyIsrCore) : Prop where
  | rests (hleads : Leads stage armed)
  | starts {held : PhyIsrCore} {req : TxRequest} (hmoves : Moves stage (held, false))
      (hstarts : held.Starts req armed)

theorem Arms.tied (h : Arms stage core) : core.Tied := by
  cases h with
  | rests hleads => exact hleads.tied
  | starts _ hstarts => exact hstarts.tied

theorem Leads.after {next : Stage} (h : Leads next core) (hmoves : Moves stage next) :
    Leads stage core :=
  ⟨h.tied, hmoves.trans h.moves⟩

theorem Leads.of_idle (hpaced : core.phy.Paced) (hbusy : core.phy.txBusy = false)
    (hanswer : core.activeIsAnswer = false) (hcancel : core.cancelActive = false)
    (hmoves : Moves stage (core, false)) : Leads stage core :=
  .intro (.of_idle hpaced hbusy hanswer hcancel) (forwardOnAir_of_idle hbusy) hmoves

/-!
## Cancelling and arming
-/

theorem applyRequestedCancel_frame (core : PhyIsrCore) :
    core.applyRequestedCancel.phy = core.phy ∧ core.applyRequestedCancel.loaded = core.loaded ∧
      core.applyRequestedCancel.activeIsAnswer = core.activeIsAnswer ∧
      core.applyRequestedCancel.activeEpoch = core.activeEpoch ∧
      core.applyRequestedCancel.forwardOnAir = core.forwardOnAir := by
  simp only [applyRequestedCancel]
  split
  · exact ⟨rfl, rfl, rfl, rfl, rfl⟩
  · split <;> exact ⟨rfl, rfl, rfl, rfl, rfl⟩

theorem applyRequestedCancel_tied (h : core.Tied) : core.applyRequestedCancel.Tied := by
  rcases core.applyRequestedCancel_frame with ⟨hphy, hloaded, hanswer, hepoch, hair⟩
  have hpending : core.applyRequestedCancel.pending = core.pending ∨
      core.applyRequestedCancel.pending = none := by
    simp only [applyRequestedCancel]
    split
    · exact .inl rfl
    · split
      · exact .inl rfl
      · exact .inr rfl
  constructor
  · rw [hphy]
    exact h.paced
  · rw [hair, hloaded, hepoch]
    intro hon
    rcases h.aired hon with ⟨req, hreq, hid, hheld⟩
    refine ⟨req, hreq, hid, ?_⟩
    rcases hpending with hsame | hnone
    · rwa [hsame]
    · exact .inl hnone
  · rw [hanswer, hphy, hloaded]
    exact h.answering
  · simp only [applyRequestedCancel]
    split
    · exact h.cancelling
    · split
      next hactive =>
        intro _
        rw [Bool.and_eq_true] at hactive
        exact hactive.1
      next => simp

theorem fireStagedAnswer_leads (h : core.Tied) (hbusy : core.phy.txBusy = false)
    (hb : HalfBitBuffer) (sinceEdge : Nat) (late overBackward : Bool) :
    Leads (core, false) (core.fireStagedAnswer hb sinceEdge late overBackward) := by
  have hcancel := (h.idle hbusy).2
  have hpaced := h.paced.startAnswer hb
  rcases core.phy.startAnswer_started hb with ⟨hstarted, hafter, -⟩ | hrefused
  · have hpair : core.phy.startAnswer hb = ((core.phy.startAnswer hb).1, true) :=
      Prod.ext rfl hstarted
    unfold fireStagedAnswer
    rw [hpair]
    refine .intro ⟨hpaced, ?_, ?_, ?_⟩ (by simp [forwardOnAir])
      (.tail (Move.moves (.answer true)) (.alike rfl))
    · simp [forwardOnAir]
    · exact fun _ => ⟨hafter, rfl⟩
    · simp [hcancel]
  · unfold fireStagedAnswer
    rw [hrefused]
    exact .of_idle h.paced hbusy rfl hcancel (.tail (Move.moves (.answer false)) (.alike rfl))

theorem tryArmAnswer_leads (h : core.Tied) (hbusy : core.phy.txBusy = false) :
    Leads (core, false) core.tryArmAnswer.1 ∧
      (core.tryArmAnswer.2 = .notStaged -> core.tryArmAnswer.1.wireSide = core.wireSide) := by
  have hkept : Leads (core, false) core := by
    refine .of_idle h.paced hbusy ?_ ?_ .refl
    · exact (h.idle hbusy).1
    · exact (h.idle hbusy).2
  unfold tryArmAnswer
  split
  next => exact ⟨hkept, fun _ => rfl⟩
  next hb _ =>
    split
    · exact ⟨hkept.congr rfl, fun _ => rfl⟩
    · dsimp only
      split
      · exact ⟨hkept, nofun⟩
      · exact ⟨hkept.congr rfl, fun _ => rfl⟩
      · unfold armOverLine
        split
        · exact ⟨hkept, nofun⟩
        · exact ⟨fireStagedAnswer_leads h hbusy .., nofun⟩
        · exact ⟨fireStagedAnswer_leads h hbusy .., nofun⟩

theorem holdRequest_frame (core : PhyIsrCore) :
    core.holdRequest.phy = core.phy ∧ core.holdRequest.activeIsAnswer = core.activeIsAnswer ∧
      core.holdRequest.cancelActive = core.cancelActive ∧
      core.holdRequest.sessionExchange = core.sessionExchange ∧
      core.holdRequest.accepted = core.accepted ∧ core.holdRequest.history = core.history ∧
      core.holdRequest.waiting false = core.waiting false := by
  unfold holdRequest
  split
  · exact ⟨rfl, rfl, rfl, rfl, rfl, rfl, rfl⟩
  next hpending =>
    unfold nextRequest
    split
    next hpop =>
      refine ⟨rfl, rfl, rfl, rfl, rfl, rfl, ?_⟩
      simp [waiting, hpending, Fifo.tryPop_some hpop]
    next hpop =>
      refine ⟨rfl, rfl, rfl, rfl, rfl, rfl, ?_⟩
      simp [waiting, hpending, Fifo.tryPop_none hpop]

theorem armPendingForward_arms (h : core.Tied) (hbusy : core.phy.txBusy = false)
    (hshut : core.sessionExchange = 0) : Arms (core, false) core.armPendingForward := by
  rcases core.holdRequest_frame with ⟨hphy, hanswer, hcancel, hsession, -⟩
  rcases h.idle hbusy with ⟨hnoAnswer, hnoCancel⟩
  rw [hnoAnswer] at hanswer
  rw [hnoCancel] at hcancel
  rw [hshut] at hsession
  have hidle : core.holdRequest.phy.txBusy = false := by rw [hphy]; exact hbusy
  have hpaced : core.holdRequest.phy.Paced := by rw [hphy]; exact h.paced
  have hholds : Leads (core, false) core.holdRequest :=
    .of_idle hpaced hidle hanswer hcancel (Move.moves (.hold core))
  unfold armPendingForward
  dsimp only
  split
  · exact .rests hholds
  next req hreq =>
    split
    · exact .rests hholds
    next =>
      have hstart := hpaced.startTx { data := req.data, length := req.len }
      rcases core.holdRequest.phy.startTx_started
          { data := req.data, length := req.len } with
        ⟨hstarted, hafter, hcount⟩ | hrefused
      · have hpair :
            core.holdRequest.phy.startTx { data := req.data, length := req.len } =
              ((core.holdRequest.phy.startTx { data := req.data, length := req.len }).1, true) :=
          Prod.ext rfl hstarted
        rw [hpair]
        refine .starts (Move.moves (.hold core)) ⟨hreq, hsession, hcancel, hcount,
          ⟨hstart, ?_, ?_, ?_⟩, by simp [forwardOnAir, hafter, hanswer], rfl⟩
        · exact fun _ => ⟨req, rfl, rfl, .inr hreq⟩
        · simp [hanswer]
        · simp [hcancel]
      · rw [hrefused]
        refine .rests (.of_idle hpaced hidle hanswer hcancel ?_)
        exact .tail (.tail (Move.moves (.hold core)) (.reject hreq hsession)) (.alike rfl)

theorem armPendingTx_arms (h : core.Tied) :
    Arms (core.applyRequestedCancel, core.forwardOnAir) core.armPendingTx := by
  have htied := applyRequestedCancel_tied h
  rw [<- core.applyRequestedCancel_frame.2.2.2.2]
  unfold armPendingTx
  dsimp only
  split
  next => exact .rests ⟨htied, .refl⟩
  next hidle =>
    rw [Bool.not_eq_true] at hidle
    rw [forwardOnAir_of_idle hidle]
    rcases tryArmAnswer_leads htied hidle with ⟨hstop, hkept⟩
    split <;> rename_i other heq <;> rw [heq] at hstop hkept
    · exact .rests hstop
    · exact .rests hstop
    · have hphy : other.phy = core.applyRequestedCancel.phy := congrArg WireSide.phy (hkept rfl)
      have hquiet : other.phy.txBusy = false := by rw [hphy]; exact hidle
      have hmoves := hstop.moves
      rw [forwardOnAir_of_idle hquiet] at hmoves
      split
      next => exact .rests hstop
      next hshut =>
        split
        next => exact .rests hstop
        next =>
          cases armPendingForward_arms hstop.tied hquiet (not_not.mp hshut) with
          | rests hleads => exact .rests (hleads.after hmoves)
          | starts hmore hstarts => exact .starts (hmoves.trans hmore) hstarts

/-!
## Reporting
-/

theorem abortBatchTail_wireSide (core : PhyIsrCore) :
    core.abortBatchTail.wireSide =
      wireSide { core with
        pending := none
        txQueue := Fifo.empty
        history := (core.pending.map TxRequest.voided).toList ++ core.history } := by
  unfold abortBatchTail
  cases core.pending <;> dsimp only <;> split <;> rfl

theorem reportCollision_wireSide (core : PhyIsrCore) :
    core.reportCollision.wireSide =
      wireSide { core with
        pending := none
        txQueue := Fifo.empty
        activeExpectsBackward := false
        sessionExchange := 0
        history := .pushed core.activeEpoch core.loadedSerial .txCollision ::
          core.history } := by
  have habort := core.forgetExchange.abortBatchTail_wireSide
  change { core.forgetExchange.abortBatchTail.wireSide with
    history := .pushed core.forgetExchange.abortBatchTail.wireSide.activeEpoch
      core.loadedSerial .txCollision ::
        core.forgetExchange.abortBatchTail.wireSide.history } = _
  rw [habort]
  rfl

/-- A frame that ended well has put a half-bit on the line. -/
theorem pollTxState_ok {phy : DaliBitbangPhy} (h : phy.Paced) (hbusy : phy.txBusy) {level : Bool}
    (hidle : (phy.tick level).txBusy = false) (hpoll : (phy.tick level).pollTxState.2 = .ok) :
    0 < (phy.tick level).txHbCnt := by
  cases h.tick_outcome hbusy level with
  | holding _ _ hstill =>
    rw [hstill] at hidle
    cases hidle
  | driving _ hpaced hbus =>
    rw [hpaced.busy_iff.mpr (.inl hbus)] at hidle
    cases hidle
  | breaking _ hpaced hbus =>
    rw [hpaced.busy_iff.mpr (.inr hbus)] at hidle
    cases hidle
  | yielded _ _ _ _ hend => simp [pollTxState, hend] at hpoll
  | collided _ _ _ _ hyielded hend =>
    simp [pollTxState, hyielded, hend] at hpoll
  | sent hcount _ _ _ _ _ hend =>
    rw [hcount]
    exact hend

theorem reportForwardCompletion_leads {req : TxRequest} (hpaced : core.phy.Paced)
    (hidle : core.phy.txBusy = false) (hforward : core.activeIsAnswer = false)
    (hreq : core.loaded = some req) (hepoch : core.activeEpoch = req.exchangeId)
    (hheld : core.pending = none ∨ core.pending = some req)
    (hcount : core.phy.pollTxState.2 = .ok -> 0 < core.phy.txHbCnt) :
    Leads (core, true)
      (reportForwardCompletion { core with phy := core.phy.pollTxState.1 }
        core.phy.pollTxState.2) := by
  have hpolled : core.phy.pollTxState.1.txBusy = false :=
    (pollTxState_txBusy _).trans hidle
  have hbus := hpaced.idle hidle
  rw [<- pollTxState_busState] at hbus
  have hrest := paced_of_idle hpolled hbus
  unfold reportForwardCompletion
  split
  next =>
    exact .of_idle hrest hpolled hforward rfl (.tail (Move.moves (.drop core)) (.alike rfl))
  next hcancel =>
    rw [Bool.not_eq_true] at hcancel
    cases hpoll : core.phy.pollTxState.2 with
    | ok =>
      exact .of_idle hrest hpolled hforward hcancel
        (Move.moves (.sent hreq hcancel hepoch (hcount hpoll)))
    | collision =>
      have hbroken : core.phy.pollTxState.1.takeIdleAfterBreak.1.Paced :=
        paced_of_idle hpolled hbus
      have hreport : Leads (core, true) (reportCollision
          { core with
            phy := core.phy.pollTxState.1.takeIdleAfterBreak.1
            history := .collided core.loadedSerial :: core.history }) := by
        refine Leads.congr ?_ (reportCollision_wireSide _)
        exact .of_idle hbroken hpolled hforward hcancel (Move.moves (.collide hreq hcancel))
      simp only [reportCollisionOrRestart, restartAfterBreak]
      split
      · cases hpending : core.pending with
        | none => exact hreport
        | some request =>
          have hsame : request = req := by
            rw [hpending] at hheld
            simpa using hheld
          subst hsame
          by_cases hgate : request.restartGate = 0
          · simp only [hgate, if_true]
            exact hreport
          · simp only [hgate, if_false]
            exact .of_idle hbroken hpolled hforward hcancel
              (.tail (Move.moves (.restart hreq hcancel hpending)) (.alike rfl))
      · exact hreport
    | yielded =>
      exact .of_idle hrest hpolled hforward hcancel
        (.tail (Move.moves (.yield hreq hcancel hheld)) (.alike rfl))
    | transmitting => exact absurd hpoll (pollTxState_ne_transmitting hpaced hidle)

theorem reportEnd_leads (h : core.Tied) (level : Bool) {mid : PhyIsrCore}
    (hmid : mid.wireSide = (core.tickPhy level).wireSide) :
    Leads (core.tickPhy level, core.forwardOnAir) (mid.reportEnd core.phy.txBusy) := by
  have hmoves : Moves (core.tickPhy level, core.forwardOnAir) (mid, core.forwardOnAir) :=
    Move.moves (.alike hmid)
  rcases WireSide.mk.inj hmid with
    ⟨(hphy : _ = core.phy.tick level), -, -, (hpending : _ = core.pending), -,
      (hcancel : _ = core.cancelActive), -, (hepoch : _ = core.activeEpoch), -, -,
      (hanswer : _ = core.activeIsAnswer), -, (hloaded : _ = core.loaded), -⟩
  have hpaced : mid.phy.Paced := by
    rw [hphy]
    exact h.paced.tick level
  cases hbusy : core.phy.txBusy with
  | false =>
    have hidle : mid.phy.txBusy = false := by
      rw [hphy]
      exact (h.paced.tick_idle hbusy level).2.1
    rcases h.idle hbusy with ⟨hnoAnswer, hnoCancel⟩
    rw [forwardOnAir_of_idle hbusy] at hmoves ⊢
    exact .of_idle hpaced hidle (hanswer.trans hnoAnswer) (hcancel.trans hnoCancel) hmoves
  | true =>
    cases hafter : mid.phy.txBusy with
    | true =>
      have hair : mid.forwardOnAir = core.forwardOnAir := by
        simp [forwardOnAir, hbusy, hafter, hanswer]
      simp only [reportEnd, hafter, Bool.not_true, Bool.and_false, Bool.false_eq_true, if_false]
      refine .intro ⟨hpaced, ?_, ?_, ?_⟩ hair hmoves
      · rw [hair, hloaded, hepoch, hpending]
        exact h.aired
      · intro hisAnswer
        rw [hanswer] at hisAnswer
        exact ⟨hafter, hloaded.trans (h.answering hisAnswer).2⟩
      · rw [hair, hcancel]
        exact h.cancelling
    | false =>
      simp only [reportEnd, hafter, Bool.not_false, Bool.and_true, if_true]
      refine Leads.after ?_ hmoves
      unfold reportTxCompletion
      dsimp only
      split
      next hisAnswer =>
        rw [hanswer] at hisAnswer
        have hair : core.forwardOnAir = false := by
          simp [forwardOnAir, hisAnswer]
        have hkept : mid.cancelActive = false := by
          rw [hcancel, Bool.eq_false_iff]
          intro hactive
          rw [h.cancelling hactive] at hair
          cases hair
        have hpolled : mid.phy.pollTxState.1.txBusy = false :=
          (pollTxState_txBusy _).trans hafter
        have hbus := hpaced.idle hafter
        rw [<- pollTxState_busState] at hbus
        rw [hair]
        exact .of_idle (paced_of_idle hpolled hbus) hpolled rfl hkept
          (.tail (Move.moves (.answered mid)) (.alike rfl))
      next hforward =>
        rw [Bool.not_eq_true] at hforward
        have hair : core.forwardOnAir := by
          simp [forwardOnAir, hbusy, <- hanswer, hforward]
        rcases h.aired hair with ⟨req, hreq, hid, hheld⟩
        rw [hair]
        refine reportForwardCompletion_leads hpaced hafter hforward (hloaded.trans hreq)
          (hepoch.trans hid) (hpending ▸ hheld) ?_
        rw [hphy] at hafter ⊢
        exact pollTxState_ok h.paced hbusy hafter

/-!
## Captures
-/

theorem routeBackwardCapture_wireSide (core : PhyIsrCore) (ev : RxCompletedEvent) :
    (core.routeBackwardCapture ev).wireSide =
      wireSide { core with
        sessionExchange := 0
        history :=
          (if core.sessionExchange ≠ 0 then
            [.pushed core.sessionExchange none (.rxComplete ev)] else []) ++
            core.history } := by
  unfold routeBackwardCapture
  dsimp only
  split
  · rfl
  · exact pushSnifferCapture_wireSide ..

theorem routeForwardCapture_wireSide (core : PhyIsrCore) (ev : RxCompletedEvent) :
    (core.routeForwardCapture ev).wireSide =
      wireSide { core with
        pending := none
        txQueue := Fifo.empty
        sessionExchange := 0
        history :=
          (if core.sessionExchange ≠ 0 then
            [.pushed core.sessionExchange none
              (.foreignForward ev.preIdleTicks ev.sampleCount)] else []) ++
            ((core.pending.map TxRequest.voided).toList ++ core.history) } := by
  have habort := core.abortBatchTail_wireSide
  simp only [wireSide, WireSide.mk.injEq] at habort
  unfold routeForwardCapture
  rw [pushSnifferCapture_wireSide, habort.2.2.2.2.2.2.2.2.2.1]
  split <;> simp [wireSide, pushSessionEventFor, habort]

theorem drainCompletedRx_leads (h : core.Tied) :
    Leads (core, core.forwardOnAir) core.drainCompletedRx := by
  unfold drainCompletedRx
  split
  · exact ⟨h, .refl⟩
  next phy taken htaken =>
    obtain ⟨hcompleted, rfl⟩ := takeCompletedRxEvent_some htaken
    have hidle : core.phy.txBusy = false := by
      rw [Bool.eq_false_iff]
      intro hbusy
      rw [h.paced.deaf hbusy] at hcompleted
      cases hcompleted
    have hpaced : DaliBitbangPhy.Paced { core.phy with rxState := .empty } :=
      paced_of_idle hidle (h.paced.idle hidle)
    rcases h.idle hidle with ⟨hanswer, hcancel⟩
    rw [forwardOnAir_of_idle hidle]
    split
    · refine Leads.congr ?_ (routeBackwardCapture_wireSide ..)
      exact .of_idle hpaced hidle hanswer hcancel (.tail (Move.moves (.hear core _)) (.alike rfl))
    · refine Leads.congr ?_ (routeForwardCapture_wireSide ..)
      exact .of_idle hpaced hidle hanswer hcancel
        (.tail (Move.moves (.overhear core _)) (.alike rfl))

/-- Behind the arming a tick is the tick of the layer and moves. -/
theorem tick_leads (h : core.Tied) (input : TickInput) :
    Leads (core.armPendingTx.tickPhy input.busIsHigh, core.armPendingTx.forwardOnAir)
      (core.tick input) := by
  have hreport := reportEnd_leads (armPendingTx_arms h).tied input.busIsHigh
    (core.armPendingTx.tickLine_wireSide core.phy.rxState input)
  have hheld := hreport.congr (stepHeldCapture_wireSide _)
  exact (drainCompletedRx_leads hheld.tied).after hheld.moves

/-!
## The rule for a tick
-/

theorem Moves.keeps {kept : Stage -> Prop} {next : Stage} (h : Moves stage next)
    (hmove : forall {one two : Stage}, Move one two -> kept one -> kept two)
    (hkept : kept stage) : kept next := by
  induction h with
  | refl => exact hkept
  | tail _ hlast ih => exact hmove hlast ih

/-- What moves and starts keep, arming keeps. -/
theorem Arms.keeps {kept : Stage -> Prop} {armed : PhyIsrCore} (h : Arms stage armed)
    (hmove : forall {one two : Stage}, Move one two -> kept one -> kept two)
    (hstart : forall {held req}, held.Starts req armed -> kept (held, false) ->
      kept (armed, true)) (hkept : kept stage) : kept (armed, armed.forwardOnAir) := by
  cases h with
  | rests hleads => exact hleads.moves.keeps hmove hkept
  | starts hmoves hstarts =>
    rw [hstarts.onAir]
    exact hstart hstarts (hmoves.keeps hmove hkept)

/-- What moves, starts and the tick of the layer keep, a tick keeps. -/
theorem tick_keeps (kept : Stage -> Prop) (h : core.Tied) (input : TickInput)
    (hmove : forall {one two : Stage}, Move one two -> kept one -> kept two)
    (hstart : forall {held req armed}, Starts held req armed -> kept (held, false) ->
      kept (armed, true))
    (htick : forall {armed : PhyIsrCore}, armed.Tied -> kept (armed, armed.forwardOnAir) ->
      kept (armed.tickPhy input.busIsHigh, armed.forwardOnAir))
    (hkept : kept (core.applyRequestedCancel, core.forwardOnAir)) :
    kept (core.tick input, (core.tick input).forwardOnAir) := by
  have harms := armPendingTx_arms h
  exact (tick_leads h input).moves.keeps hmove (htick harms.tied (harms.keeps hmove hstart hkept))

end PhyIsrCore
end Oxidali.Phy
