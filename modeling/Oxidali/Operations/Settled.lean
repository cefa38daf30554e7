import Oxidali.Operations.Tracker

/-!
# Operations end once

Whatever reaches the tracker, it makes moves of a few kinds: it keeps something for
later, it changes an open operation, it tells that one is running, or it ends one.
What holds of the tables, the counters and the events follows from these moves.
-/

namespace Oxidali.Operations

open Tracker TrackerCounters List AList

/-! ## Moves -/

structure SameOp (op other : TrackedOp) : Prop where
  correlation : other.workflowCorrelationId = op.workflowCorrelationId
  opType : other.opType = op.opType
  key : other.key = op.key

structure Aside (tracker next : Tracker) : Prop where
  active : next.active = tracker.active
  coalesce : next.coalesce = tracker.coalesce
  inFlight : next.counters.inFlight = tracker.counters.inFlight
  published : next.published = tracker.published

inductive Move (tracker next : Tracker) : Prop where
  | aside : Aside tracker next -> Move tracker next
  | adjusts (correlation : Nat) (op changed : TrackedOp) :
      tracker.active.lookup correlation = some op -> SameOp op changed ->
      next.active = tracker.active.insert correlation changed ->
      next.coalesce = tracker.coalesce ->
      next.counters.inFlight = tracker.counters.inFlight ->
      next.published = tracker.published -> Move tracker next
  | runs (correlation : Nat) (op : TrackedOp) (event : StatusChanged) :
      tracker.active.lookup correlation = some op ->
      event.correlation = op.workflowCorrelationId -> event.status.isTerminal = false ->
      next.active = tracker.active -> next.coalesce = tracker.coalesce ->
      next.counters.inFlight = tracker.counters.inFlight ->
      next.published = event :: tracker.published -> Move tracker next
  | ends (correlation : Nat) (op : TrackedOp) (event : StatusChanged) :
      tracker.active.lookup correlation = some op ->
      event.correlation = op.workflowCorrelationId -> event.status.isTerminal = true ->
      next.active = tracker.active.erase correlation ->
      (next.coalesce = tracker.coalesce ∨ exists key,
        tracker.coalesce.lookup key = some correlation
          ∧ next.coalesce = tracker.coalesce.erase key) ->
      next.counters.inFlight = tracker.counters.inFlight - 1 ->
      next.published = event :: tracker.published -> Move tracker next

abbrev Moves : Tracker -> Tracker -> Prop :=
  Relation.ReflTransGen Move

variable {tracker next : Tracker} {clock : Clock} {correlation : Nat} {op : TrackedOp}

theorem Aside.moves (h : Aside tracker next) : Moves tracker next :=
  .single (.aside h)

theorem waiting_moves {pending : Pending} (h : Moves { tracker with pending := pending } next) :
    Moves tracker next := by
  have haside : Aside tracker { tracker with pending := pending } := ⟨rfl, rfl, rfl, rfl⟩
  exact haside.moves.trans h

variable {status : OperationStatus}

theorem inFlight_bump_terminal (counters : TrackerCounters) (h : status.isTerminal) :
    (counters.bump status).inFlight = counters.inFlight - 1 := by
  cases status with
  | accepted | running => cases h
  | _ =>
    simp only [inFlight, terminal, bump]
    bv_omega

theorem inFlight_bump_accepted (counters : TrackerCounters) :
    (counters.bump .accepted).inFlight = counters.inFlight + 1 := by
  simp only [inFlight, terminal, bump]
  bv_omega

theorem ofNat_pred {n : Nat} (h : 0 < n) : BitVec.ofNat 32 (n - 1) = BitVec.ofNat 32 n - 1 := by
  bv_omega

theorem setDetail_moves (detail : OperationDetail) :
    Moves tracker (tracker.setDetail correlation detail) := by
  unfold setDetail
  cases hlookup : tracker.active.lookup correlation with
  | none => exact .refl
  | some op =>
    exact .single (.adjusts correlation op { op with detail := detail } hlookup
      ⟨rfl, rfl, rfl⟩ rfl rfl rfl rfl)

theorem promoteRunning_moves (hlookup : tracker.active.lookup correlation = some op) :
    Moves tracker (tracker.promoteRunning clock correlation op) := by
  unfold promoteRunning
  by_cases hstatus : op.status = .accepted
  · rw [if_pos hstatus]
    simp only
    generalize htold : tracker.publishStatus op .running none
      (ttlRemainingMs op.deadline clock.now) none = told
    have hactive : told.active = tracker.active := by
      rw [<- htold]
      rfl
    have hruns : Move tracker told := by
      subst htold
      exact .runs correlation op _ hlookup rfl rfl rfl rfl rfl rfl
    rw [hactive, hlookup]
    refine .tail (.single hruns) (.adjusts correlation op { op with status := .running }
      ?_ ⟨rfl, rfl, rfl⟩ ?_ rfl rfl rfl)
    · rw [hactive]
      exact hlookup
    · rw [hactive]
  · rw [if_neg hstatus]

variable {event : StatusChanged}

section

variable (hlookup : tracker.active.lookup correlation = some op)
include hlookup

theorem clearActiveEntry_ends {told : Tracker} (hactive : told.active = tracker.active)
    (hcoalesce : told.coalesce = tracker.coalesce)
    (hcounters : told.counters = tracker.counters.bump status)
    (hpublished : told.published = event :: tracker.published)
    (hevent : event.correlation = op.workflowCorrelationId) (hstatus : event.status = status)
    (hterminal : status.isTerminal) : Moves tracker (told.clearActiveEntry correlation op) := by
  refine .single (.ends correlation op event hlookup hevent ?_ ?_ ?_ ?_ hpublished)
  · rw [hstatus]
    exact hterminal
  · change told.active.erase correlation = _
    rw [hactive]
  · change (if told.coalesce.lookup op.key = some correlation then _ else _) = _ ∨ exists key,
      _ ∧ (if told.coalesce.lookup op.key = some correlation then _ else _) = _
    rw [hcoalesce]
    by_cases hkey : tracker.coalesce.lookup op.key = some correlation
    · rw [if_pos hkey]
      exact .inr ⟨op.key, hkey, rfl⟩
    · rw [if_neg hkey]
      exact .inl rfl
  · change told.counters.inFlight = _
    rw [hcounters]
    exact inFlight_bump_terminal _ hterminal

theorem applyTerminal_moves (hterminal : status.isTerminal) (error : Option CompactError) :
    Moves tracker (tracker.applyTerminal clock correlation op status error) :=
  clearActiveEntry_ends hlookup rfl rfl rfl rfl rfl rfl hterminal

theorem emitTerminal_moves (hterminal : status.isTerminal) (code : ErrorCode) :
    Moves tracker ((tracker.emitTerminalWithRetention clock op status code).clearActiveEntry
      correlation op) :=
  clearActiveEntry_ends hlookup rfl rfl rfl rfl rfl rfl hterminal

end

variable {V : Type}

theorem queue_moves (buffer : Buffer V) (value : V) (limit : Nat) :
    Moves tracker (tracker.queue buffer clock correlation value limit) :=
  Aside.moves ⟨rfl, rfl, rfl, rfl⟩

theorem applyOutcome_moves {Body Result : Type} (family : ApplyFamily Body Result)
    (buffer : Buffer Body) (body : Body) :
    Moves tracker (applyOutcome family buffer tracker clock correlation body) := by
  unfold applyOutcome
  cases hlookup : tracker.active.lookup correlation with
  | none =>
    simp only
    split
    · exact .refl
    · exact queue_moves buffer body _
  | some op =>
    have hpromoted : Moves tracker (tracker.promoteRunning clock correlation op) :=
      promoteRunning_moves hlookup
    simp only
    split
    · exact hpromoted
    · exact hpromoted.trans (setDetail_moves _)

variable {step : Tracker -> V -> Tracker}

theorem replay_moves (hstep : forall state item, Moves state (step state item)) (items : List V) :
    Moves tracker (replay step correlation tracker items) := by
  induction items generalizing tracker with
  | nil => exact .refl
  | cons item rest ih =>
    rw [replay]
    split
    · exact (hstep tracker item).trans ih
    · exact hstep tracker item

theorem replayPending_moves (buffer : Buffer V)
    (hstep : forall state item, Moves state (step state item)) :
    Moves tracker (tracker.replayPending buffer correlation step) := by
  exact waiting_moves (replay_moves hstep _)

theorem applyWorkerSignal_moves (signal : WorkerSignal) (background : Bool) :
    Moves tracker (tracker.applyWorkerSignal clock correlation signal background) := by
  unfold applyWorkerSignal
  cases hlookup : tracker.active.lookup correlation with
  | none =>
    simp only
    split
    · exact .refl
    · exact queue_moves signalBuffer signal _
  | some op =>
    simp only
    cases signal.signal with
    | workerStarted => exact promoteRunning_moves hlookup
    | workerSucceeded => exact applyTerminal_moves hlookup rfl none
    | workerFailed => exact applyTerminal_moves hlookup rfl _

theorem failUndelivered_moves : Moves tracker (tracker.failUndelivered clock correlation) := by
  unfold failUndelivered
  cases hlookup : tracker.active.lookup correlation with
  | none => exact .refl
  | some op => exact emitTerminal_moves hlookup rfl _

theorem failOnParkedRejection_moves :
    Moves tracker (tracker.failOnParkedRejection clock correlation) := by
  unfold failOnParkedRejection
  simp only
  have htaken : Moves tracker
      { tracker with rejected := (tracker.rejected.take correlation).1 } :=
    Aside.moves ⟨rfl, rfl, rfl, rfl⟩
  split
  · exact htaken.trans failUndelivered_moves
  · exact htaken

theorem drainRejected_moves : Moves tracker (tracker.drainRejected clock correlation) := by
  unfold drainRejected
  split
  · exact failUndelivered_moves
  · split
    · exact .refl
    · exact Aside.moves ⟨rfl, rfl, rfl, rfl⟩

theorem attachAttributeRead_moves (view : AttributeReadOutcomes) :
    Moves tracker (tracker.attachAttributeRead correlation view) := by
  unfold attachAttributeRead
  cases tracker.active.lookup correlation with
  | none => exact .refl
  | some op =>
    simp only
    split
    · exact setDetail_moves _
    · exact .refl

variable (opType : OperationType)

theorem flushApply_moves : Moves tracker (tracker.flushApply clock correlation opType) := by
  unfold flushApply
  cases opType with
  | groupApply | sceneApply | policyApply =>
    exact replayPending_moves _ fun _ _ => applyOutcome_moves _ _ _
  | attributeRead =>
    simp only
    unfold flushPendingAttributeRead
    cases tracker.pending.attributeRead.lookup correlation with
    | none => exact .refl
    | some entry =>
      exact waiting_moves (attachAttributeRead_moves _)
  | _ => exact .refl

theorem flushPendingCommissioning_moves :
    Moves tracker (tracker.flushPendingCommissioning correlation opType) := by
  unfold flushPendingCommissioning
  cases opType with
  | commissioningIdentify =>
    cases tracker.pending.identify.lookup correlation with
    | none => exact .refl
    | some entry => exact waiting_moves (setDetail_moves _)
  | commissioningAddressChange =>
    cases tracker.pending.addressChange.lookup correlation with
    | none => exact .refl
    | some entry => exact waiting_moves (setDetail_moves _)
  | commissioningReplaceDevice =>
    cases tracker.pending.replaceDevice.lookup correlation with
    | none => exact .refl
    | some entry => exact waiting_moves (setDetail_moves _)
  | _ => exact .refl

theorem flushSignals_moves : Moves tracker (tracker.flushSignals clock correlation) :=
  replayPending_moves _ fun _ _ => applyWorkerSignal_moves _ _

theorem flushBeginBacklog_moves :
    Moves tracker (tracker.flushBeginBacklog clock correlation opType) := by
  exact (((flushApply_moves opType).trans (flushPendingCommissioning_moves opType)).trans
    flushSignals_moves).trans failOnParkedRejection_moves

theorem attachOrBuffer_moves (view : V) (detail : V -> OperationDetail)
    (get : Pending -> PendingMap V) (set : Pending -> PendingMap V -> Pending) :
    Moves tracker (tracker.attachOrBuffer clock correlation view detail get set) := by
  unfold attachOrBuffer
  split
  · exact setDetail_moves _
  · split
    · exact .refl
    · exact Aside.moves ⟨rfl, rfl, rfl, rfl⟩

theorem handleEvent_moves (background : Bool) (event : TrackerEvent) :
    Moves tracker (tracker.handleEvent clock correlation background event) := by
  unfold handleEvent
  cases event with
  | groupProgrammed body | sceneProgrammed body => exact applyOutcome_moves _ _ _
  | attributesWritten body =>
    simp only
    split
    · exact applyOutcome_moves _ _ _
    · exact .refl
  | attributeReadOutcomes view =>
    simp only
    split
    · exact attachAttributeRead_moves view
    · split
      · exact .refl
      · exact Aside.moves ⟨rfl, rfl, rfl, rfl⟩
  | deviceIdentified view | addressingCompleted view => exact attachOrBuffer_moves _ _ _ _
  | haDiscoveryPublished view => exact setDetail_moves _
  | deviceReplaced view => exact attachOrBuffer_moves _ _ _ _
  | workerSignal signal => exact applyWorkerSignal_moves _ _

theorem timeOutOne_moves : Moves tracker (timeOutOne clock tracker correlation) := by
  unfold timeOutOne
  cases hlookup : tracker.active.lookup correlation with
  | none => exact .refl
  | some op => exact emitTerminal_moves hlookup rfl _

theorem tickDeadlines_moves (order : List Nat) :
    Moves tracker (tracker.tickDeadlines clock order) := by
  unfold tickDeadlines
  have hevicted : Moves tracker (tracker.evictExpiredPending clock.now) :=
    Aside.moves ⟨rfl, rfl, rfl, rfl⟩
  refine hevicted.trans ?_
  generalize tracker.evictExpiredPending clock.now = evicted
  induction order generalizing evicted with
  | nil => exact .refl
  | cons correlation rest ih => exact timeOutOne_moves.trans (ih _)

/-! ## What the moves keep -/

/-- `begun` lists the correlations of all operations so far. -/
structure Settled (begun : List Nat) (tracker : Tracker) : Prop where
  counted : tracker.counters.inFlight = BitVec.ofNat 32 tracker.active.keys.length
  own : forall correlation op, tracker.active.lookup correlation = some op ->
    op.workflowCorrelationId = correlation
  activeBegun : forall correlation, correlation ∈ tracker.active -> correlation ∈ begun
  toldBegun : forall event, event ∈ tracker.published -> event.correlation ∈ begun
  ended : forall event, event ∈ tracker.published -> event.status.isTerminal = true ->
    event.correlation ∉ tracker.active
  order : tracker.published.Pairwise fun newer older =>
    older.status.isTerminal = true -> newer.correlation ≠ older.correlation
  keyed : forall correlation op, tracker.active.lookup correlation = some op ->
    op.opType.coalescesPerResource = true ->
    tracker.coalesce.lookup op.key = some correlation

variable {begun : List Nat}

theorem mem_of_lookup (h : tracker.active.lookup correlation = some op) :
    correlation ∈ tracker.active := by
  rw [<- lookup_isSome, h]
  rfl

theorem length_insert_of_mem {active : AList fun _ : Nat => TrackedOp} (h : correlation ∈ active)
    (op : TrackedOp) : (active.insert correlation op).keys.length = active.keys.length := by
  have hpos := length_pos_of_mem h
  rw [keys_insert, length_cons, length_erase_of_mem h]
  exact Nat.succ_pred_eq_of_pos hpos

section

variable (h : Settled begun tracker)
include h

theorem Settled.adjusts {changed : TrackedOp}
    (hlookup : tracker.active.lookup correlation = some op) (hsame : SameOp op changed)
    (hactive : next.active = tracker.active.insert correlation changed)
    (hcoalesce : next.coalesce = tracker.coalesce)
    (hcount : next.counters.inFlight = tracker.counters.inFlight)
    (hpublished : next.published = tracker.published) : Settled begun next := by
  have hmem := mem_of_lookup hlookup
  have hmembers : forall other, other ∈ next.active <-> other ∈ tracker.active := by
    intro other
    rw [hactive, mem_insert]
    constructor
    · intro hother
      rcases hother with heq | hother
      · rw [heq]
        exact hmem
      · exact hother
    · exact .inr
  have hcases : forall other found, next.active.lookup other = some found ->
      exists old, tracker.active.lookup other = some old ∧ SameOp old found := by
    intro other found hfound
    rw [hactive] at hfound
    by_cases hother : other = correlation
    · subst hother
      rw [lookup_insert] at hfound
      cases hfound
      exact ⟨op, hlookup, hsame⟩
    · rw [lookup_insert_ne hother] at hfound
      exact ⟨found, hfound, rfl, rfl, rfl⟩
  constructor
  · rw [hcount, h.counted, hactive, length_insert_of_mem hmem]
  · intro other found hfound
    rcases hcases other found hfound with ⟨old, hold, hsameOld⟩
    rw [hsameOld.correlation]
    exact h.own other old hold
  · exact fun other hother => h.activeBegun other ((hmembers other).mp hother)
  · rw [hpublished]
    exact h.toldBegun
  · rw [hpublished]
    intro event hevent hterminal hother
    exact h.ended event hevent hterminal ((hmembers _).mp hother)
  · rw [hpublished]
    exact h.order
  · intro other found hfound hcoalesces
    rcases hcases other found hfound with ⟨old, hold, hsameOld⟩
    rw [hcoalesce, hsameOld.key]
    apply h.keyed other old hold
    rw [<- hsameOld.opType]
    exact hcoalesces

/-- An event of an open operation, told after all others. -/
theorem Settled.tells (hmem : event.correlation ∈ tracker.active) :
    (forall other, other ∈ event :: tracker.published -> other.correlation ∈ begun)
      ∧ (event :: tracker.published).Pairwise fun newer older =>
        older.status.isTerminal -> newer.correlation ≠ older.correlation := by
  refine ⟨forall_mem_cons.mpr ⟨h.activeBegun _ hmem, h.toldBegun⟩, pairwise_cons.mpr ⟨?_, h.order⟩⟩
  intro older holder hterminal heq
  exact h.ended older holder hterminal (heq ▸ hmem)

section

variable (hlookup : tracker.active.lookup correlation = some op)
  (hevent : event.correlation = op.workflowCorrelationId)
include hlookup hevent

theorem Settled.runs (hopen : event.status.isTerminal = false)
    (hactive : next.active = tracker.active) (hcoalesce : next.coalesce = tracker.coalesce)
    (hcount : next.counters.inFlight = tracker.counters.inFlight)
    (hpublished : next.published = event :: tracker.published) : Settled begun next := by
  have hmem := mem_of_lookup hlookup
  rw [h.own correlation op hlookup] at hevent
  have htold := h.tells (hevent ▸ hmem)
  constructor
  · rw [hcount, h.counted, hactive]
  · rw [hactive]
    exact h.own
  · rw [hactive]
    exact h.activeBegun
  · rw [hpublished]
    exact htold.1
  · rw [hpublished, hactive]
    intro other hother hterminal
    rcases mem_cons.mp hother with heq | hother
    · rw [heq, hopen] at hterminal
      cases hterminal
    · exact h.ended other hother hterminal
  · rw [hpublished]
    exact htold.2
  · rw [hactive, hcoalesce]
    exact h.keyed

theorem Settled.ends (hactive : next.active = tracker.active.erase correlation)
    (hcoalesce : next.coalesce = tracker.coalesce ∨ exists key,
      tracker.coalesce.lookup key = some correlation ∧ next.coalesce = tracker.coalesce.erase key)
    (hcount : next.counters.inFlight = tracker.counters.inFlight - 1)
    (hpublished : next.published = event :: tracker.published) : Settled begun next := by
  have hmem := mem_of_lookup hlookup
  have hpos := length_pos_of_mem (mem_keys.mp hmem)
  have hothers : forall other found, next.active.lookup other = some found ->
      other ≠ correlation ∧ tracker.active.lookup other = some found := by
    intro other found hfound
    rw [hactive] at hfound
    by_cases hother : other = correlation
    · subst hother
      rw [lookup_erase] at hfound
      cases hfound
    · rw [lookup_erase_ne hother] at hfound
      exact ⟨hother, hfound⟩
  rw [h.own correlation op hlookup] at hevent
  have htold := h.tells (hevent ▸ hmem)
  constructor
  · rw [hcount, h.counted, hactive, keys_erase, length_erase_of_mem (mem_keys.mp hmem)]
    exact (ofNat_pred hpos).symm
  · exact fun other found hfound => h.own other found (hothers other found hfound).2
  · rw [hactive]
    exact fun other hother => h.activeBegun other (mem_erase.mp hother).2
  · rw [hpublished]
    exact htold.1
  · rw [hpublished, hactive]
    intro other hother hterminal hopen
    rcases mem_erase.mp hopen with ⟨hne, hopen⟩
    rcases mem_cons.mp hother with heq | hother
    · rw [heq] at hne
      exact hne hevent
    · exact h.ended other hother hterminal hopen
  · rw [hpublished]
    exact htold.2
  · intro other found hfound hcoalesces
    rcases hothers other found hfound with ⟨hne, hfound⟩
    have hkey := h.keyed other found hfound hcoalesces
    rcases hcoalesce with hsame | ⟨key, hold, herased⟩
    · rw [hsame]
      exact hkey
    · rw [herased, lookup_erase_ne]
      · exact hkey
      · intro heq
        rw [heq, hold] at hkey
        exact hne (Option.some.inj hkey).symm

end

theorem Settled.move (hmove : Move tracker next) : Settled begun next := by
  cases hmove with
  | aside haside =>
    constructor
    · rw [haside.inFlight, haside.active]
      exact h.counted
    · rw [haside.active]
      exact h.own
    · rw [haside.active]
      exact h.activeBegun
    · rw [haside.published]
      exact h.toldBegun
    · rw [haside.published, haside.active]
      exact h.ended
    · rw [haside.published]
      exact h.order
    · rw [haside.active, haside.coalesce]
      exact h.keyed
  | adjusts correlation op changed hlookup hsame hactive hcoalesce hcount hpublished =>
    exact h.adjusts hlookup hsame hactive hcoalesce hcount hpublished
  | runs correlation op event hlookup hevent hopen hactive hcoalesce hcount hpublished =>
    exact h.runs hlookup hevent hopen hactive hcoalesce hcount hpublished
  | ends correlation op event hlookup hevent _ hactive hcoalesce hcount hpublished =>
    exact h.ends hlookup hevent hactive hcoalesce hcount hpublished

theorem Settled.moves (hmoves : Moves tracker next) : Settled begun next := by
  induction hmoves with
  | refl => exact h
  | tail _ hmove ih => exact ih.move hmove

end

/-! ## A new operation -/

theorem supersede_settled (clock : Clock) (key : CoalesceKey) (h : Settled begun tracker)
    (hfresh : correlation ∉ begun) :
    Settled begun (tracker.supersedeStaleOperation clock key correlation) ∧ forall other op,
        (tracker.supersedeStaleOperation clock key correlation).active.lookup other = some op ->
        op.opType.coalescesPerResource -> op.key ≠ key := by
  have hkeyed : forall other op, tracker.active.lookup other = some op ->
      op.opType.coalescesPerResource -> op.key = key -> tracker.coalesce.lookup key = some other :=
    fun other op hother hcoalesces heq => heq ▸ h.keyed other op hother hcoalesces
  unfold supersedeStaleOperation
  cases hkey : tracker.coalesce.lookup key with
  | none =>
    refine ⟨h, fun other op hother hcoalesces heq => ?_⟩
    cases hkey.symm.trans (hkeyed other op hother hcoalesces heq)
  | some old =>
    simp only
    by_cases hold : old = correlation
    · rw [if_pos hold]
      refine ⟨h, fun other op hother hcoalesces heq => hfresh ?_⟩
      cases hkey.symm.trans (hkeyed other op hother hcoalesces heq)
      exact hold ▸ h.activeBegun _ (mem_of_lookup hother)
    · rw [if_neg hold]
      cases hlookup : tracker.active.lookup old with
      | none =>
        refine ⟨h, fun other op hother hcoalesces heq => ?_⟩
        cases hkey.symm.trans (hkeyed other op hother hcoalesces heq)
        cases hlookup.symm.trans hother
      | some op =>
        simp only
        have hends : Settled begun { ({ tracker with
            active := tracker.active.erase old
            closed := tracker.closed.note old }).emitTerminalWithRetention clock op
              .cancelled .superseded with
            coalesce := tracker.coalesce.erase key } :=
          h.ends hlookup rfl rfl (.inr ⟨key, hkey, rfl⟩) (inFlight_bump_terminal _ rfl) rfl
        refine ⟨hends, fun other found hother hcoalesces heq => ?_⟩
        have hkeyed := hends.keyed other found hother hcoalesces
        rw [heq] at hkeyed
        rw [lookup_erase] at hkeyed
        cases hkeyed

theorem enter_settled (h : Settled begun tracker) (hfresh : op.workflowCorrelationId ∉ begun)
    (hfree : op.opType.coalescesPerResource -> forall other found,
      tracker.active.lookup other = some found ->
      found.opType.coalescesPerResource -> found.key ≠ op.key) :
    Settled (op.workflowCorrelationId :: begun) (tracker.enter clock op) := by
  have hnew : op.workflowCorrelationId ∉ tracker.active :=
    fun hmem => hfresh (h.activeBegun _ hmem)
  have hcases : forall other found, (tracker.enter clock op).active.lookup other
      = some found -> (other = op.workflowCorrelationId ∧ found = op)
        ∨ tracker.active.lookup other = some found := by
    intro other found hfound
    change (tracker.active.insert op.workflowCorrelationId op).lookup other = some found at hfound
    by_cases hother : other = op.workflowCorrelationId
    · subst hother
      rw [lookup_insert] at hfound
      exact .inl ⟨rfl, (Option.some.inj hfound).symm⟩
    · rw [lookup_insert_ne hother] at hfound
      exact .inr hfound
  constructor
  · change (tracker.counters.bump .accepted).inFlight = BitVec.ofNat 32
      (tracker.active.insert op.workflowCorrelationId op).keys.length
    rw [inFlight_bump_accepted, h.counted, keys_insert, length_cons, erase_of_not_mem hnew]
    exact (BitVec.ofNat_add _ 1).symm
  · intro other found hfound
    rcases hcases other found hfound with ⟨hother, heq⟩ | hold
    · rw [hother, heq]
    · exact h.own other found hold
  · intro other hother
    rcases (mem_insert tracker.active).mp hother with heq | hother
    · rw [heq]
      exact mem_cons_self
    · exact mem_cons_of_mem _ (h.activeBegun other hother)
  · intro event hevent
    rcases mem_cons.mp hevent with heq | hevent
    · rw [heq]
      exact mem_cons_self
    · exact mem_cons_of_mem _ (h.toldBegun event hevent)
  · intro event hevent hterminal hopen
    rcases mem_cons.mp hevent with heq | hevent
    · rw [heq] at hterminal
      cases hterminal
    · rcases (mem_insert tracker.active).mp hopen with heq | hopen
      · exact hfresh (heq ▸ h.toldBegun event hevent)
      · exact h.ended event hevent hterminal hopen
  · refine pairwise_cons.mpr ⟨?_, h.order⟩
    intro older holder _ heq
    apply hfresh
    change op.workflowCorrelationId = older.correlation at heq
    rw [heq]
    exact h.toldBegun older holder
  · intro other found hfound hcoalesces
    change (if op.opType.coalescesPerResource then
      tracker.coalesce.insert op.key op.workflowCorrelationId else tracker.coalesce).lookup
        found.key = some other
    rcases hcases other found hfound with ⟨hother, heq⟩ | hold
    · subst heq
      rw [if_pos hcoalesces, lookup_insert, hother]
    · have hkeyed := h.keyed other found hold hcoalesces
      by_cases hopType : op.opType.coalescesPerResource = true
      · rw [if_pos hopType, lookup_insert_ne (hfree hopType other found hold hcoalesces)]
        exact hkeyed
      · rw [if_neg hopType]
        exact hkeyed

theorem begin_settled (h : Settled begun tracker) (hfresh : correlation ∉ begun) (adapterId : Nat)
    (body : OperationBegin) :
    Settled (correlation :: begun)
      (tracker.handleOperationBegin clock correlation adapterId body) := by
  unfold handleOperationBegin
  simp only
  refine Settled.moves ?_ (flushBeginBacklog_moves _)
  by_cases hcoalesces : (openedOp clock correlation adapterId
      body).opType.coalescesPerResource = true
  · rw [if_pos hcoalesces]
    have hsupersede := supersede_settled clock
      (openedOp clock correlation adapterId body).key h hfresh
    exact enter_settled hsupersede.1 hfresh fun _ => hsupersede.2
  · rw [if_neg hcoalesces]
    exact enter_settled h hfresh fun htrue => absurd htrue hcoalesces

/-! ## A reset -/

/-- A reset that has told the end of the operations in `told`. -/
structure Resetting (begun : List Nat) (start : Tracker) (told : List Nat)
    (tracker : Tracker) : Prop where
  active : tracker.active = start.active
  counted : tracker.counters.inFlight = BitVec.ofNat 32 start.active.keys.length
    - BitVec.ofNat 32 told.length
  toldBegun : forall event, event ∈ tracker.published -> event.correlation ∈ begun
  ended : forall event, event ∈ tracker.published -> event.status.isTerminal = true ->
    event.correlation ∈ start.active -> event.correlation ∈ told
  order : tracker.published.Pairwise fun newer older =>
    older.status.isTerminal = true -> newer.correlation ≠ older.correlation

theorem resetOne_resetting (clock : Clock) {start : Tracker} {told : List Nat}
    (hstart : Settled begun start) (h : Resetting begun start told tracker)
    (hmem : correlation ∈ start.active) (hnew : correlation ∉ told) :
    Resetting begun start (correlation :: told) (resetOne clock tracker correlation) := by
  have hlookup : exists op, start.active.lookup correlation = some op :=
    Option.isSome_iff_exists.mp (lookup_isSome.mpr hmem)
  rcases hlookup with ⟨op, hlookup⟩
  have hown := hstart.own correlation op hlookup
  unfold resetOne
  rw [h.active, hlookup]
  simp only
  refine ⟨h.active, ?_, ?_, ?_, ?_⟩
  · change (tracker.counters.bump .cancelled).inFlight = _
    rw [inFlight_bump_terminal _ rfl, h.counted]
    rw [length_cons]
    bv_omega
  · intro event hevent
    rcases mem_cons.mp hevent with heq | hevent
    · rw [heq]
      rw [hown]
      exact hstart.activeBegun correlation hmem
    · exact h.toldBegun event hevent
  · intro event hevent hterminal hopen
    rcases mem_cons.mp hevent with heq | hevent
    · rw [heq]
      rw [hown]
      exact mem_cons_self
    · exact mem_cons_of_mem _ (h.ended event hevent hterminal hopen)
  · refine pairwise_cons.mpr ⟨?_, h.order⟩
    intro older holder hterminal heq
    change op.workflowCorrelationId = older.correlation at heq
    rw [hown] at heq
    apply hnew
    rw [heq]
    exact h.ended older holder hterminal (heq ▸ hmem)

theorem foldl_resetting (clock : Clock) {start : Tracker} {told order : List Nat}
    (hstart : Settled begun start) (h : Resetting begun start told tracker)
    (hmem : forall correlation, correlation ∈ order -> correlation ∈ start.active)
    (hnodup : order.Nodup) (hnew : forall correlation, correlation ∈ order -> correlation ∉ told) :
    Resetting begun start (order.reverse ++ told) (order.foldl (resetOne clock) tracker) := by
  induction order generalizing tracker told with
  | nil => exact h
  | cons correlation rest ih =>
    rcases nodup_cons.mp hnodup with ⟨hnot, hrest⟩
    have hone := resetOne_resetting clock hstart h
      (hmem correlation mem_cons_self) (hnew correlation mem_cons_self)
    rw [reverse_cons, append_assoc]
    apply ih hone (fun other hother => hmem other (mem_cons_of_mem _ hother)) hrest
    intro other hother htold
    rcases mem_cons.mp htold with heq | htold
    · exact hnot (heq ▸ hother)
    · exact hnew other (mem_cons_of_mem _ hother) htold

theorem reset_settled {order : List Nat} (h : Settled begun tracker)
    (horder : order.Perm tracker.active.keys) :
    Settled begun (tracker.handleRegistryReset clock order) := by
  have hstart : Resetting begun tracker [] tracker := by
    refine ⟨rfl, ?_, h.toldBegun, fun event hevent hterminal hopen =>
      absurd hopen (h.ended event hevent hterminal), h.order⟩
    rw [h.counted]
    exact (BitVec.sub_zero _).symm
  have hdone := foldl_resetting clock h hstart
    (fun correlation hmem => mem_keys.mpr (horder.mem_iff.mp hmem))
    (horder.nodup_iff.mpr tracker.active.keys_nodup)
    nofun
  unfold handleRegistryReset
  refine ⟨?_, (fun _ _ hnone => nomatch hnone), (fun _ hmem => absurd hmem (notMem_empty _)),
    hdone.toldBegun, (fun _ _ _ => notMem_empty _), hdone.order, (fun _ _ hnone => nomatch hnone)⟩
  rw [hdone.counted, append_nil, length_reverse, horder.length_eq]
  exact BitVec.sub_self _

/-! ## Whole runs -/

/-- Tables are listed in any order. -/
def Input.Legal (tracker : Tracker) (clock : Clock) : Input -> Prop
  | .registryReset order => order.Perm tracker.active.keys
  | .tick order => order.Perm ((tracker.evictExpiredPending clock.now).dueCorrelations clock.now)
  | _ => True

inductive Reached : List Nat -> Tracker -> Prop where
  | new : Reached [] new
  | begins {begun : List Nat} {tracker : Tracker} (clock : Clock)
      (correlation adapterId : Nat) (body : OperationBegin) : Reached begun tracker ->
      correlation ∉ begun ->
      Reached (correlation :: begun) (tracker.handle clock (.begin correlation adapterId body))
  | handles {begun : List Nat} {tracker : Tracker} (clock : Clock) (input : Input) :
      Reached begun tracker -> (forall correlation adapterId body,
        input ≠ .begin correlation adapterId body) ->
      Input.Legal tracker clock input -> Reached begun (tracker.handle clock input)

theorem reached_settled (h : Reached begun tracker) : Settled begun tracker := by
  induction h with
  | new => exact ⟨rfl, (fun _ _ hnone => nomatch hnone), (fun _ hmem => absurd hmem
      (notMem_empty _)), (fun _ hnone => nomatch hnone), (fun _ hnone => nomatch hnone),
      List.Pairwise.nil, (fun _ _ hnone => nomatch hnone)⟩
  | begins clock correlation adapterId body _ hfresh ih =>
    exact begin_settled ih hfresh adapterId body
  | handles clock input _ hinput hlegal ih =>
    cases input with
    | begin correlation adapterId body =>
      exact absurd rfl (hinput correlation adapterId body)
    | registryReset order => exact reset_settled ih hlegal
    | event correlation background event =>
      exact ih.moves (handleEvent_moves background event)
    | rejected correlation => exact ih.moves drainRejected_moves
    | tick order => exact ih.moves (tickDeadlines_moves order)

/-- The counters know how many operations are open, every operation is told to have
ended at most once and nothing is told of it afterwards, and no two open operations
share a resource that coalesces. -/
theorem operations_settle (h : Reached begun tracker) :
    tracker.counters.inFlight = BitVec.ofNat 32 tracker.active.keys.length
      ∧ (forall newer event older, tracker.published = newer ++ event :: older ->
        event.status.isTerminal = true ->
        forall later, later ∈ newer -> later.correlation ≠ event.correlation)
      ∧ forall correlation other op found, tracker.active.lookup correlation = some op ->
        tracker.active.lookup other = some found ->
        op.opType.coalescesPerResource = true -> found.key = op.key -> correlation = other := by
  have hsettled := reached_settled h
  refine ⟨hsettled.counted, ?_, ?_⟩
  · intro newer event older hsplit hterminal later hlater
    have horder := hsettled.order
    rw [hsplit] at horder
    exact (pairwise_append.mp horder).2.2 later hlater event mem_cons_self hterminal
  · intro correlation other op found hop hfound hcoalesces hkey
    have hopType : found.opType = op.opType := congrArg CoalesceKey.opType hkey
    have hfirst := hsettled.keyed correlation op hop hcoalesces
    have hsecond := hsettled.keyed other found hfound (hopType ▸ hcoalesces)
    rw [hkey, hfirst] at hsecond
    exact Option.some.inj hsecond

/-- A scan that a second scan supersedes, an apply that fails after its outcome came
early, and a deadline for the rest. -/
def busyInputs : List (Clock × Input) := [
  (⟨0, 1000⟩, .begin 1 0 ⟨.discovery, "discovery-0-1", 60⟩),
  (⟨1, 1001⟩, .event 2 false (.groupProgrammed ⟨.virtualLamp 3, 0, .add, none⟩)),
  (⟨2, 1002⟩, .begin 2 0 ⟨.groupApply, "group-apply-0-2", 500⟩),
  (⟨3, 1003⟩, .begin 3 0 ⟨.discovery, "discovery-0-3", 60⟩),
  (⟨4, 1004⟩, .event 2 false (.workerSignal ⟨.workerFailed, none⟩)),
  (⟨90, 1090⟩, .tick [3])]

def runInputs (tracker : Tracker) (inputs : List (Clock × Input)) : Tracker :=
  inputs.foldl (fun state input => state.handle input.1 input.2) tracker

theorem busyInputs_reached : Reached [3, 2, 1] (runInputs new busyInputs) := by
  have hfirst := Reached.begins ⟨0, 1000⟩ 1 0 ⟨.discovery, "discovery-0-1", 60⟩ .new
    (by decide)
  have hearly := Reached.handles ⟨1, 1001⟩ (.event 2 false (.groupProgrammed ⟨.virtualLamp 3, 0,
    .add, none⟩)) hfirst (fun _ _ _ => nofun) trivial
  have happly := Reached.begins ⟨2, 1002⟩ 2 0 ⟨.groupApply, "group-apply-0-2", 500⟩ hearly
    (by decide)
  have hsecond := Reached.begins ⟨3, 1003⟩ 3 0 ⟨.discovery, "discovery-0-3", 60⟩ happly
    (by decide)
  have hfailed := Reached.handles ⟨4, 1004⟩ (.event 2 false (.workerSignal ⟨.workerFailed,
    none⟩)) hsecond (fun _ _ _ => nofun) trivial
  refine Reached.handles ⟨90, 1090⟩ (.tick [3]) hfailed (fun _ _ _ => nofun) ?_
  change List.Perm _ _
  decide +kernel

theorem busyInputs_settle :
    Reached [3, 2, 1] (runInputs new busyInputs) ∧ (runInputs new busyInputs).counters.inFlight
        = BitVec.ofNat 32 (runInputs new busyInputs).active.keys.length
      ∧ (runInputs new busyInputs).published.map (fun event => (event.correlation, event.status))
        = [(3, .timedOut), (2, .failed), (3, .accepted), (1, .cancelled), (2, .running),
          (2, .accepted), (1, .accepted)] :=
  ⟨busyInputs_reached, (operations_settle busyInputs_reached).1, by decide +kernel⟩

end Oxidali.Operations
