import Oxidali.Operations.Counting

/-!
# Two verdicts on one apply

The tracker counts the first outcome of each cell.  The orchestrator goes by the first
outcome it reads, and by its own report where it gave up waiting.  The two agree as long
as no cell that was given up is answered before the report.
-/

namespace Oxidali.Operations

open Session List BitVec

variable {Cell Body Result Key : Type}

/-! ## How a session grows -/

section Growing

variable {paced : Paced Cell Body Result} {workflow : Nat} {cells : List Cell}
  {session next later : Session Cell} {cell : Cell} {hardError : Option CompactError}

/-- What a part of the run for the cells adds to a session. -/
structure Grows (paced : Paced Cell Body Result) (workflow : Nat) (cells : List Cell)
    (session later : Session Cell) : Prop where
  log : exists more, later.log = session.log ++ more
    ∧ forall item, item ∈ more -> paced.Arrives workflow (session.asked ++ cells) item
  asked : later.asked ⊆ session.asked ++ cells
  synthesised : session.synthesised ⊆ later.synthesised
  refused : session.refused = true -> later.refused = true
  read : session.read <= session.log.length -> later.read <= later.log.length

theorem Paced.Arrives.mono {asked more : List Cell} {item : Said Cell} (hsub : asked ⊆ more)
    (h : paced.Arrives workflow asked item) : paced.Arrives workflow more item := by
  cases item with
  | outcome clock background cell error => exact hsub h
  | other clock input => exact h

theorem Grows.refl : Grows paced workflow cells session session where
  log := ⟨[], (append_nil _).symm, fun _ h => nomatch h⟩
  asked := subset_append_left _ _
  synthesised := .refl _
  refused := id
  read := id

theorem Grows.trans (h : Grows paced workflow cells session next)
    (hnext : Grows paced workflow cells next later) : Grows paced workflow cells session later where
  log := by
    rcases h.log with ⟨some, hsome, harrive⟩
    rcases hnext.log with ⟨more, hmore, harrives⟩
    refine ⟨some ++ more, by rw [hmore, hsome, List.append_assoc], ?_⟩
    intro item hitem
    rcases mem_append.mp hitem with hin | hin
    · exact harrive item hin
    · exact (harrives item hin).mono (append_subset.mpr ⟨h.asked, subset_append_right _ _⟩)
  asked := fun asked hasked =>
    (append_subset.mpr ⟨h.asked, subset_append_right _ _⟩) (hnext.asked hasked)
  synthesised := List.Subset.trans h.synthesised hnext.synthesised
  refused := hnext.refused ∘ h.refused
  read := hnext.read ∘ h.read

theorem widen {asked more : List Cell} (hsub : cells ⊆ more) : asked ++ cells ⊆ asked ++ more :=
  append_subset.mpr ⟨subset_append_left _ _, List.Subset.trans hsub (subset_append_right _ _)⟩

theorem Grows.mono {more : List Cell} (hsub : cells ⊆ more)
    (h : Grows paced workflow cells session later) : Grows paced workflow more session later where
  log := by
    rcases h.log with ⟨added, hadded, harrive⟩
    refine ⟨added, hadded, ?_⟩
    intro item hitem
    exact (harrive item hitem).mono (widen hsub)
  asked := List.Subset.trans h.asked (widen hsub)
  synthesised := h.synthesised
  refused := h.refused
  read := h.read

end Growing

/-! ## The verdict on a cell -/

section Judging

variable {paced : Paced Cell Body Result}
  {tally : Tally Cell Result Key} {workflow : Nat} {diff cells : List Cell}
  {session next later last : Session Cell} {cell : Cell} {hardError : Option CompactError}

/-- The session holds only what a run over the diff can bring about. -/
structure Kept (paced : Paced Cell Body Result) (workflow : Nat) (diff : List Cell)
    (session : Session Cell) : Prop where
  log : forall item, item ∈ session.log -> paced.Arrives workflow diff item
  asked : session.asked ⊆ diff
  read : session.read <= session.log.length

theorem Kept.start : Kept paced workflow diff (start Cell) :=
  ⟨(fun _ h => nomatch h), nofun, le_refl _⟩

theorem Kept.grows (h : Kept paced workflow diff session) (hsub : cells ⊆ diff)
    (hgrows : Grows paced workflow cells session later) : Kept paced workflow diff later := by
  have hall : session.asked ++ cells ⊆ diff := append_subset.mpr ⟨h.asked, hsub⟩
  constructor
  · intro item hitem
    rcases hgrows.log with ⟨more, hmore, harrive⟩
    rw [hmore] at hitem
    rcases mem_append.mp hitem with hin | hin
    · exact h.log item hin
    · exact (harrive item hin).mono hall
  · exact List.Subset.trans hgrows.asked hall
  · exact hgrows.read h.read

/-- The orchestrator has read no outcome of the cell. -/
def Unheard (tally : Tally Cell Result Key) (cell : Cell) (session : Session Cell) : Prop :=
  forall outcome, outcome ∈ outcomes (session.log.take session.read) ->
    tally.key outcome.1 ≠ tally.key cell

/-- Nobody was asked for the cell, and nothing was reported of it. -/
structure Untouched (tally : Tally Cell Result Key) (cell : Cell) (session : Session Cell) :
    Prop where
  log : forall outcome, outcome ∈ outcomes session.log -> tally.key outcome.1 ≠ tally.key cell
  asked : forall asked, asked ∈ session.asked -> tally.key asked ≠ tally.key cell

/-- Two cells of the diff with one key are one cell. -/
def Tally.Apart (tally : Tally Cell Result Key) (diff : List Cell) : Prop :=
  (diff.map tally.key).Nodup

theorem Tally.Apart.eq {other : Cell} (h : tally.Apart diff) (hcell : cell ∈ diff)
    (hother : other ∈ diff) (hkey : tally.key other = tally.key cell) : other = cell :=
  inj_on_of_nodup_map h hother hcell hkey

theorem Untouched.grows (h : Untouched tally cell session)
    (hgrows : Grows paced workflow cells session later)
    (hcells : forall other, other ∈ cells -> tally.key other ≠ tally.key cell) :
    Untouched tally cell later := by
  have hall : forall other, other ∈ session.asked ++ cells -> tally.key other ≠ tally.key cell := by
    intro other hother
    rcases mem_append.mp hother with hin | hin
    · exact h.asked other hin
    · exact hcells other hin
  constructor
  · intro outcome houtcome
    rcases hgrows.log with ⟨more, hmore, harrive⟩
    rw [hmore, outcomes_append] at houtcome
    rcases mem_append.mp houtcome with hin | hin
    · exact h.log outcome hin
    · rcases mem_outcomes.mp hin with ⟨clock, background, hitem⟩
      exact hall outcome.1 (harrive _ hitem)
  · intro asked hasked
    exact hall asked (hgrows.asked hasked)

theorem Untouched.rest {front : List Cell} {other : Cell} (hapart : tally.Apart (front ++ cells))
    (hother : other ∈ cells) (h : Untouched tally other session)
    (hgrows : Grows paced workflow front session next) : Untouched tally other next := by
  refine h.grows hgrows ?_
  intro one hone
  unfold Tally.Apart at hapart
  rw [map_append] at hapart
  exact (nodup_append.mp hapart).2.2 _ (mem_map_of_mem hone) _ (mem_map_of_mem hother)

theorem Unheard.passes (h : Unheard tally cell session) (hread : session.read <= session.log.length)
    (hpass : paced.Passes workflow session later) : Unheard tally cell later := by
  cases hpass with
  | arrive items harrive =>
    intro outcome houtcome
    have hsame : (session.log ++ items).take session.read = session.log.take session.read :=
      take_append_of_le_length hread
    apply h
    rw [<- hsame]
    exact houtcome

variable [DecidableEq Key]

/-- The first outcome of the cell that the bus has accepted. -/
def Tally.firstIn (tally : Tally Cell Result Key) (cell : Cell) (session : Session Cell) :
    Option (Outcome Cell) :=
  tally.firstOf (tally.key cell) (outcomes session.log)

theorem Grows.firstIn {outcome : Outcome Cell} (h : Grows paced workflow cells session later)
    (hfirst : tally.firstIn cell session = some outcome) :
    tally.firstIn cell later = some outcome := by
  rcases h.log with ⟨more, hmore, _⟩
  unfold Tally.firstIn at *
  rw [hmore, outcomes_append, firstOf_append, hfirst]
  rfl

/-- The cells have an outcome each, and the error says whether a first one is hard. -/
structure Agree (paced : Paced Cell Body Result) (tally : Tally Cell Result Key)
    (cells : List Cell) (hardError : Option CompactError) (session : Session Cell) :
    Prop where
  all : forall cell, cell ∈ cells -> (tally.firstIn cell session).isSome = true
  hard : hardError.isSome = true <-> exists cell outcome, cell ∈ cells
    ∧ tally.firstIn cell session = some outcome ∧ paced.IsHard outcome

theorem Agree.append {more : List Cell} {moreError : Option CompactError}
    (h : Agree paced tally cells hardError session)
    (hmore : Agree paced tally more moreError session) :
    Agree paced tally (cells ++ more) (hardError.or moreError) session := by
  constructor
  · intro cell hcell
    rcases mem_append.mp hcell with hin | hin
    · exact h.all cell hin
    · exact hmore.all cell hin
  · rw [Option.isSome_or, Bool.or_eq_true, h.hard, hmore.hard]
    constructor
    · rintro (⟨cell, outcome, hin, hrest⟩ | ⟨cell, outcome, hin, hrest⟩)
      · exact ⟨cell, outcome, mem_append_left _ hin, hrest⟩
      · exact ⟨cell, outcome, mem_append_right _ hin, hrest⟩
    · rintro ⟨cell, outcome, hin, hrest⟩
      rcases mem_append.mp hin with hin | hin
      · exact .inl ⟨cell, outcome, hin, hrest⟩
      · exact .inr ⟨cell, outcome, hin, hrest⟩

variable [Fintype Key]

section Waiting

variable (hcounts : paced.Counts tally) (hdiff : tally.Apart diff) (hcell : cell ∈ diff)

include hcounts hdiff hcell

variable (hkept : Kept paced workflow diff session) (hunheard : Unheard tally cell session)

include hkept hunheard

end Waiting

end Judging

/-! ## The end of the operation -/

variable {paced : Paced Cell Body Result}

open scoped Lamps

theorem quiet {workflow : Nat} (session : Session Cell) :
    paced.Passes workflow session session := by
  have h : paced.Passes workflow session (session.accepts []) :=
    .arrive session [] (fun _ h => nomatch h)
  unfold accepts at h
  rwa [append_nil] at h

end Oxidali.Operations
