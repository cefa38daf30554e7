import Oxidali.Operations.Pacing

/-!
# What the tracker counts of an apply

The totals of an apply count the first outcome of each cell in its bucket, whatever is
reported of the cell afterwards.
-/

namespace Oxidali.Operations

open Tracker List

variable {Cell Body Result Key : Type}

theorem isSome_hardErrorOf {family : ApplyFamily Body Result} {body : Body} :
    (hardErrorOf (family.error body) family.skip).isSome <-> family.bucketOf body = .failed := by
  unfold hardErrorOf ApplyFamily.bucketOf
  cases family.error body with
  | none => simp
  | some error =>
    by_cases hskip : error.code = family.skip
    · simp [hskip]
    · simp [hskip]

/-! ## Totals that count every cell once -/

/-- How the result of a family is read: its totals, and the cells it has seen. -/
structure Tally (Cell Result Key : Type) where
  key : Cell -> Key
  fresh : Result
  counted : Result -> Nat
  failed : Result -> Nat
  seen : Result -> Key -> Bool

/-- The family counts the outcomes of its cells by their keys. -/
structure Paced.Counts [DecidableEq Key] [Fintype Key] (paced : Paced Cell Body Result)
    (tally : Tally Cell Result Key) : Prop where
  room : Fintype.card Key <= u16Max
  fresh : tally.counted tally.fresh = 0 ∧ tally.failed tally.fresh = 0
    ∧ forall key, tally.seen tally.fresh key = false
  reads : forall result, paced.family.fromDetail (paced.family.toDetail result) = some result
  handles : exists buffer, forall (tracker : Tracker) clock correlation background body,
    tracker.handleEvent clock correlation background (paced.event body)
      = applyOutcome paced.family buffer tracker clock correlation body
  carries : forall body, paced.outcomeIn (paced.event body) = some body
  error : forall cell error, paced.family.error (paced.outcome cell error) = error
  own : forall cell error, paced.isOutcomeOf cell (paced.outcome cell error) = true
  others : forall cell other error,
    paced.isOutcomeOf cell (paced.outcome other error) = true -> tally.key other = tally.key cell
  marks : forall result cell error,
    let counted := paced.family.alreadyCounted result (paced.outcome cell error)
    counted.2 = tally.seen result (tally.key cell) ∧ tally.counted counted.1 = tally.counted result
      ∧ tally.failed counted.1 = tally.failed result
      ∧ forall key, tally.seen counted.1 key
        = (tally.seen result key || decide (key = tally.key cell))
  bumps : forall result body bucket, tally.counted result < u16Max ->
    tally.counted (paced.family.bump result body bucket) = tally.counted result + 1
      ∧ tally.failed (paced.family.bump result body bucket)
        = tally.failed result + (if bucket = .failed then 1 else 0)
      ∧ tally.seen (paced.family.bump result body bucket) = tally.seen result

abbrev Outcome (Cell : Type) := Cell × Option CompactError

def Said.asOutcome : Said Cell -> Option (Outcome Cell)
  | .outcome _ _ cell error => some (cell, error)
  | .other _ _ => none

def outcomes (log : List (Said Cell)) : List (Outcome Cell) :=
  log.filterMap Said.asOutcome

theorem outcomes_append (log more : List (Said Cell)) :
    outcomes (log ++ more) = outcomes log ++ outcomes more :=
  filterMap_append

theorem mem_outcomes {log : List (Said Cell)} {outcome : Outcome Cell} :
    outcome ∈ outcomes log <-> exists clock background,
      Said.outcome clock background outcome.1 outcome.2 ∈ log := by
  constructor
  · intro h
    rcases mem_filterMap.mp h with ⟨item, hitem, hsome⟩
    cases item with
    | outcome clock background cell error =>
      cases hsome
      exact ⟨clock, background, hitem⟩
    | other clock input => cases hsome
  · rintro ⟨clock, background, hitem⟩
    exact mem_filterMap.mpr ⟨_, hitem, rfl⟩

section Counting

variable [DecidableEq Key] (paced : Paced Cell Body Result) (tally : Tally Cell Result Key)

def Paced.record (result : Result) (outcome : Outcome Cell) : Result :=
  let body := paced.outcome outcome.1 outcome.2
  let counted := paced.family.alreadyCounted result body
  if counted.2 then counted.1
  else paced.family.bump counted.1 body (paced.family.bucketOf body)

def Paced.IsHard (outcome : Outcome Cell) : Prop :=
  (hardErrorOf outcome.2 paced.family.skip).isSome = true

/-- The first outcome of the cell with the key. -/
def Tally.firstOf (key : Key) (reported : List (Outcome Cell)) : Option (Outcome Cell) :=
  reported.find? fun outcome => tally.key outcome.1 = key

/-- The result counts the first outcome of every cell that was reported. -/
structure Tallied (reported : List (Outcome Cell)) (result : Result) : Prop where
  seen : forall key, tally.seen result key = true
    <-> exists outcome, outcome ∈ reported ∧ tally.key outcome.1 = key
  counted : tally.counted result = (reported.map fun outcome => tally.key outcome.1).toFinset.card
  failed : 0 < tally.failed result
    <-> exists key outcome, tally.firstOf key reported = some outcome ∧ paced.IsHard outcome

variable {paced tally} {reported : List (Outcome Cell)} {result : Result}

theorem firstOf_append (key : Key) (more : List (Outcome Cell)) :
    tally.firstOf key (reported ++ more)
      = (tally.firstOf key reported).or (tally.firstOf key more) :=
  find?_append

theorem firstOf_none {key : Key} : tally.firstOf key reported = none
    <-> forall outcome, outcome ∈ reported -> tally.key outcome.1 ≠ key := by
  simp [Tally.firstOf]

variable {outcome : Outcome Cell}

theorem firstOf_single {key : Key} :
    tally.firstOf key [outcome] = if tally.key outcome.1 = key then some outcome else none := by
  by_cases hkey : tally.key outcome.1 = key
  · simp [Tally.firstOf, hkey]
  · simp [Tally.firstOf, hkey]

omit [DecidableEq Key] in
theorem reported_append {key : Key} :
    (exists found, found ∈ reported ++ [outcome] ∧ tally.key found.1 = key)
      <-> (exists found, found ∈ reported ∧ tally.key found.1 = key)
        ∨ key = tally.key outcome.1 := by
  simp only [mem_append, mem_singleton, or_and_right, exists_or, exists_eq_left]
  rw [eq_comm (a := key)]

theorem keys_append :
    ((reported ++ [outcome]).map fun outcome => tally.key outcome.1).toFinset
      = insert (tally.key outcome.1)
        (reported.map fun outcome => tally.key outcome.1).toFinset := by
  ext key
  simp

variable [Fintype Key]

section

variable (hcounts : paced.Counts tally) (h : Tallied paced tally reported result)
include hcounts h

variable {outcome : Outcome Cell}

theorem Tallied.again (hseen : tally.seen result (tally.key outcome.1)) :
    Tallied paced tally (reported ++ [outcome]) (paced.record result outcome) := by
  have hmark := hcounts.marks result outcome.1 outcome.2
  have hrecord : paced.record result outcome
      = (paced.family.alreadyCounted result (paced.outcome outcome.1 outcome.2)).1 := by
    unfold Paced.record
    simp only
    rw [hmark.1, hseen, if_pos rfl]
  rcases (h.seen _).mp hseen with ⟨earlier, hearlier, hkey⟩
  have hfirst : forall key, tally.firstOf key (reported ++ [outcome])
      = tally.firstOf key reported := by
    intro key
    rw [firstOf_append, firstOf_single]
    by_cases hsame : tally.key outcome.1 = key
    · cases hfound : tally.firstOf key reported with
      | none => exact absurd (hkey.trans hsame) (firstOf_none.mp hfound _ hearlier)
      | some found => rfl
    · rw [if_neg hsame, Option.or_none]
  rw [hrecord]
  constructor
  · intro key
    rw [hmark.2.2.2 key, Bool.or_eq_true, h.seen, decide_eq_true_eq, reported_append]
  · rw [hmark.2.1, h.counted, keys_append, Finset.insert_eq_of_mem]
    rw [mem_toFinset, <- hkey]
    exact mem_map_of_mem hearlier
  · rw [hmark.2.2.1, h.failed]
    simp only [hfirst]

theorem Tallied.first (hseen : tally.seen result (tally.key outcome.1) = false) :
    Tallied paced tally (reported ++ [outcome]) (paced.record result outcome) := by
  have hmark := hcounts.marks result outcome.1 outcome.2
  have hhard : paced.IsHard outcome
      <-> paced.family.bucketOf (paced.outcome outcome.1 outcome.2) = .failed := by
    rw [<- isSome_hardErrorOf, hcounts.error]
    rfl
  have hrecord : paced.record result outcome = if _ then _ else _ := rfl
  generalize paced.outcome outcome.1 outcome.2 = body at hmark hhard hrecord
  rw [hrecord, hmark.1, hseen, if_neg Bool.false_ne_true]
  have hnew : forall earlier, earlier ∈ reported ->
      tally.key earlier.1 ≠ tally.key outcome.1 := by
    intro earlier hearlier hkey
    have := (h.seen (tally.key outcome.1)).mpr ⟨earlier, hearlier, hkey⟩
    rw [hseen] at this
    exact nomatch this
  have hnotin : tally.key outcome.1
      ∉ (reported.map fun outcome => tally.key outcome.1).toFinset := by
    intro hin
    rcases mem_map.mp (mem_toFinset.mp hin) with ⟨earlier, hearlier, hkey⟩
    exact hnew earlier hearlier hkey
  have hless : tally.counted result < u16Max := by
    rw [h.counted]
    exact lt_of_lt_of_le (Finset.card_lt_univ_of_notMem hnotin) hcounts.room
  have hbump := hcounts.bumps (paced.family.alreadyCounted result body).1 body
    (paced.family.bucketOf body) (by rw [hmark.2.1]; exact hless)
  constructor
  · intro key
    rw [hbump.2.2, hmark.2.2.2 key, Bool.or_eq_true, h.seen, decide_eq_true_eq, reported_append]
  · rw [hbump.1, hmark.2.1, h.counted, keys_append, Finset.card_insert_of_notMem hnotin]
  · have hfirst : tally.firstOf (tally.key outcome.1) reported = none :=
      firstOf_none.mpr hnew
    rw [hbump.2.1, hmark.2.2.1]
    constructor
    · intro hpos
      by_cases hfailed : paced.family.bucketOf body = .failed
      · refine ⟨tally.key outcome.1, outcome, ?_, hhard.mpr hfailed⟩
        rw [firstOf_append, hfirst, firstOf_single, if_pos rfl]
        rfl
      · rw [if_neg hfailed] at hpos
        rcases h.failed.mp hpos with ⟨key, found, hfound, hbad⟩
        exact ⟨key, found, by rw [firstOf_append, hfound]; rfl, hbad⟩
    · rintro ⟨key, found, hfound, hbad⟩
      rw [firstOf_append, firstOf_single] at hfound
      by_cases hsame : tally.key outcome.1 = key
      · subst hsame
        rw [hfirst, if_pos rfl] at hfound
        cases hfound
        rw [if_pos (hhard.mp hbad)]
        exact Nat.succ_pos _
      · rw [if_neg hsame, Option.or_none] at hfound
        exact Nat.lt_of_lt_of_le (h.failed.mpr ⟨key, found, hfound, hbad⟩) (Nat.le_add_right _ _)

theorem Tallied.record :
    Tallied paced tally (reported ++ [outcome]) (paced.record result outcome) := by
  cases hseen : tally.seen result (tally.key outcome.1) with
  | true => exact h.again hcounts hseen
  | false => exact h.first hcounts hseen

end

end Counting

/-! ## What the tracker makes of the log -/

section Hearing

variable (paced : Paced Cell Body Result) (workflow : Nat)

/-- The operation is open and its detail is the result. -/
def Paced.Shows (tracker : Tracker) (result : Result) : Prop :=
  exists op, tracker.active.lookup workflow = some op ∧ op.detail = paced.family.toDetail result

variable {paced workflow} {tracker : Tracker} {result : Result}

theorem promoteRunning_keeps {op : TrackedOp} (clock : Clock)
    (hlookup : tracker.active.lookup workflow = some op) :
    exists slot, (tracker.promoteRunning clock workflow op).active.lookup workflow = some slot
      ∧ slot.detail = op.detail := by
  unfold promoteRunning
  by_cases hstatus : op.status = .accepted
  · rw [if_pos hstatus]
    simp only
    have htold : (tracker.publishStatus op .running none
        (ttlRemainingMs op.deadline clock.now) none).active = tracker.active := rfl
    rw [htold, hlookup]
    exact ⟨_, AList.lookup_insert _, rfl⟩
  · rw [if_neg hstatus]
    exact ⟨op, hlookup, rfl⟩

theorem applyOutcome_records {family : ApplyFamily Body Result} {op : TrackedOp}
    (buffer : Tracker.Buffer Body) (clock : Clock) (body : Body)
    (hlookup : tracker.active.lookup workflow = some op) :
    exists next, (applyOutcome family buffer tracker clock workflow body).active.lookup
        workflow = some next
      ∧ next.detail = family.recordOutcome op.detail body := by
  rcases promoteRunning_keeps clock hlookup with ⟨slot, hslot, hdetail⟩
  simp only [applyOutcome, hlookup, hslot, setDetail]
  exact ⟨_, AList.lookup_insert _, by rw [hdetail]⟩

variable [DecidableEq Key] [Fintype Key] {tally : Tally Cell Result Key}

theorem Paced.Shows.outcome (hcounts : paced.Counts tally) (h : paced.Shows workflow tracker result)
    (clock : Clock) (background : Bool) (outcome : Outcome Cell) :
    paced.Shows workflow
      (paced.hears workflow tracker (.outcome clock background outcome.1 outcome.2))
      (paced.record result outcome) := by
  rcases h with ⟨op, hlookup, hdetail⟩
  rcases hcounts.handles with ⟨buffer, hhandle⟩
  rcases applyOutcome_records buffer clock (paced.outcome outcome.1 outcome.2) hlookup with
    ⟨next, hnext, hrecord⟩
  refine ⟨next, ?_, ?_⟩
  · show (tracker.handleEvent clock workflow background _).active.lookup workflow = some next
    rw [hhandle]
    exact hnext
  · rw [hrecord, hdetail]
    unfold ApplyFamily.recordOutcome Paced.record
    rw [hcounts.reads]
    simp only
    by_cases hseen : (paced.family.alreadyCounted result
        (paced.outcome outcome.1 outcome.2)).2 = true
    · rw [if_pos hseen, if_pos hseen]
    · rw [if_neg hseen, if_neg hseen]

theorem Paced.Shows.signal (h : paced.Shows workflow tracker result) (clock : Clock)
    (background : Bool) (hardError : Option CompactError) :
    exists event, (tracker.handle clock (.event workflow background
        (.workerSignal (terminalSignal hardError)))).published = event :: tracker.published
      ∧ event.status = (if hardError.isSome then .failed else .succeeded)
      ∧ (tracker.handle clock (.event workflow background
        (.workerSignal (terminalSignal hardError)))).active.lookup workflow = none := by
  rcases h with ⟨op, hlookup, _⟩
  cases hardError with
  | none | some error =>
    simp only [handle, handleEvent, applyWorkerSignal, hlookup, terminalSignal]
    exact ⟨_, rfl, rfl, AList.lookup_erase _ _⟩

end Hearing

end Oxidali.Operations
