import Mathlib

/-!
# A desk that serves one job at a time

Jobs are accepted, wait, and are served one after another.  A job in service
may go back to the queue, be finished with a result, or be dropped; a job may
be withdrawn while it waits or while it is served.  The history keeps every
event, the newest first, and what a desk may do is read from it.
-/

namespace Oxidali.Dispatch

open List

variable {outcome : Type}

inductive Event (outcome : Type) where
  | accepted (job : Nat)
  | started (job : Nat)
  | worked (job : Nat)
  | finished (job : Nat) (result : outcome)
  | withdrawn (job : Nat)

namespace Event

def job : Event outcome -> Nat
  | accepted job => job
  | started job => job
  | worked job => job
  | finished job _ => job
  | withdrawn job => job

def isFinish (job : Nat) : Event outcome -> Bool
  | finished other _ => other = job
  | _ => false

end Event

def Finished (job : Nat) (history : List (Event outcome)) : Prop :=
  exists result, Event.finished job result ∈ history

def Withdrawn (job : Nat) (history : List (Event outcome)) : Prop :=
  Event.withdrawn job ∈ history

@[simp] theorem finished_nil (job : Nat) : ¬ Finished job ([] : List (Event outcome)) := by
  simp [Finished]

variable {event : Event outcome} {job : Nat}

theorem finished_cons {past : List (Event outcome)} :
    Finished job (event :: past) <-> event.isFinish job ∨ Finished job past := by
  cases event <;> simp [Finished, Event.isFinish, exists_or, eq_comm]

theorem withdrawn_cons {past : List (Event outcome)} :
    Withdrawn job (event :: past) <-> event = .withdrawn job ∨ Withdrawn job past := by
  simp [Withdrawn, eq_comm]

/-!
## What a history may record

A finished job is done with for good; a withdrawn one may still be worked on,
if it was in service, but is neither finished nor started.
-/

def Allowed (past : List (Event outcome)) : Event outcome -> Prop
  | .accepted job => ¬ Finished job past ∧ ¬ Withdrawn job past
  | .started job => ¬ Finished job past ∧ ¬ Withdrawn job past
  | .worked job => ¬ Finished job past
  | .finished job _ => ¬ Finished job past ∧ ¬ Withdrawn job past
  | .withdrawn job => ¬ Finished job past

def Legal : List (Event outcome) -> Prop
  | [] => True
  | event :: past => Allowed past event ∧ Legal past

variable {newer older : List (Event outcome)}

theorem Legal.allowed (h : Legal (newer ++ event :: older)) : Allowed older event := by
  induction newer with
  | nil => exact h.1
  | cons _ _ ih => exact ih h.2

/-- What is recorded after an event was allowed with that event in its past. -/
theorem Legal.allowed_after {later : Event outcome} (h : Legal (newer ++ event :: older))
    (hlater : later ∈ newer) : exists middle, Allowed (middle ++ event :: older) later := by
  rcases append_of_mem hlater with ⟨latest, middle, rfl⟩
  exists middle
  rw [append_assoc] at h
  exact h.allowed

theorem Legal.nothing_after_finished {result : outcome}
    (h : Legal (newer ++ .finished job result :: older)) :
    forall event, event ∈ newer -> event.job ≠ job := by
  intro event hevent hjob
  rcases h.allowed_after hevent with ⟨middle, hallowed⟩
  have hfinished : Finished job (middle ++ .finished job result :: older) :=
    ⟨result, by simp⟩
  cases event <;> simp only [Event.job] at hjob <;> subst hjob <;> simp_all [Allowed]

theorem Legal.after_withdrawn (h : Legal (newer ++ .withdrawn job :: older)) :
    Event.started job ∉ newer ∧ forall result, Event.finished job result ∉ newer := by
  have hwithdrawn : forall middle : List (Event outcome),
      Withdrawn job (middle ++ .withdrawn job :: older) := by
    intro middle
    simp [Withdrawn]
  constructor
  · intro hstarted
    rcases h.allowed_after hstarted with ⟨middle, _, hkept⟩
    exact hkept (hwithdrawn middle)
  · intro result hfinished
    rcases h.allowed_after hfinished with ⟨middle, _, hkept⟩
    exact hkept (hwithdrawn middle)

theorem Legal.finished_at_most_once {history : List (Event outcome)} (h : Legal history)
    (job : Nat) : history.countP (Event.isFinish job) <= 1 := by
  induction history with
  | nil => simp
  | cons event past ih =>
    cases hfinish : event.isFinish job with
    | false => simpa [hfinish] using ih h.2
    | true =>
      have hpast : past.countP (Event.isFinish job) = 0 := by
        rw [countP_eq_zero]
        intro other hother hsame
        have hdone : Finished job past := by
          cases other <;> simp [Event.isFinish] at hsame
          subst hsame
          exact ⟨_, hother⟩
        cases event <;> simp [Event.isFinish] at hfinish
        subst hfinish
        exact h.1.1 hdone
      simp [hfinish, hpast]

/-!
## The desk
-/

structure Desk (outcome : Type) where
  waiting : List Nat
  serving : Option Nat
  /-- The job in service has been withdrawn. -/
  recalled : Bool
  next : Nat
  history : List (Event outcome)

namespace Desk

def empty : Desk outcome :=
  { waiting := [], serving := none, recalled := false, next := 0, history := [] }

inductive Step : Desk outcome -> Desk outcome -> Prop where
  | accept (desk : Desk outcome) {front back : List Nat} (hwaiting : desk.waiting = front ++ back) :
      Step desk
        { desk with
          waiting := front ++ desk.next :: back
          next := desk.next + 1
          history := .accepted desk.next :: desk.history }
  | start (desk : Desk outcome) {job : Nat} {rest : List Nat}
      (hserving : desk.serving = none) (hwaiting : desk.waiting = job :: rest) :
      Step desk
        { desk with
          waiting := rest
          serving := some job
          recalled := false
          history := .started job :: desk.history }
  | work (desk : Desk outcome) {job : Nat} (hserving : desk.serving = some job) :
      Step desk { desk with history := .worked job :: desk.history }
  | putBack (desk : Desk outcome) {job : Nat}
      (hserving : desk.serving = some job) (hkept : desk.recalled = false) :
      Step desk { desk with waiting := job :: desk.waiting, serving := none }
  | finish (desk : Desk outcome) {job : Nat} (result : outcome)
      (hserving : desk.serving = some job) (hkept : desk.recalled = false) :
      Step desk
        { desk with
          serving := none
          history := .finished job result :: desk.history }
  | drop (desk : Desk outcome) :
      Step desk { desk with serving := none, recalled := false }
  | refuse (desk : Desk outcome) {job : Nat} {rest : List Nat}
      (result : outcome) (hwaiting : desk.waiting = job :: rest) :
      Step desk
        { desk with
          waiting := rest
          history := .finished job result :: desk.history }
  | abandon (desk : Desk outcome) {rest : List Nat} (hrest : rest.Sublist desk.waiting) :
      Step desk { desk with waiting := rest }
  | withdraw (desk : Desk outcome) {job : Nat} {front back : List Nat}
      (hwaiting : desk.waiting = front ++ job :: back) :
      Step desk
        { desk with
          waiting := front ++ back
          history := .withdrawn job :: desk.history }
  | takeBack (desk : Desk outcome) {job : Nat} (hserving : desk.serving = some job) :
      Step desk
        { desk with
          recalled := true
          history := .withdrawn job :: desk.history }

def Steps : Desk outcome -> Desk outcome -> Prop := Relation.ReflTransGen Step

def jobs (desk : Desk outcome) : List Nat :=
  desk.serving.toList ++ desk.waiting

structure Sound (desk : Desk outcome) : Prop where
  nodup : desk.jobs.Nodup
  known : forall job, job ∈ desk.jobs -> job < desk.next
  recorded : forall event, event ∈ desk.history -> event.job < desk.next
  unfinished : forall job, job ∈ desk.jobs -> ¬ Finished job desk.history
  kept : forall job, job ∈ desk.waiting -> ¬ Withdrawn job desk.history
  keptServing : desk.recalled = false ->
    forall job, job ∈ desk.serving -> ¬ Withdrawn job desk.history
  legal : Legal desk.history

theorem empty_sound : (empty : Desk outcome).Sound := by
  constructor <;> simp [empty, jobs, Legal]

variable {desk : Desk outcome}

theorem Sound.unused (h : desk.Sound) :
    ¬ Finished desk.next desk.history ∧ ¬ Withdrawn desk.next desk.history := by
  constructor
  · rintro ⟨result, hresult⟩
    exact Nat.lt_irrefl _ (h.recorded _ hresult)
  · intro hwithdrawn
    exact Nat.lt_irrefl _ (h.recorded _ hwithdrawn)

variable {after : Desk outcome}

section

variable (h : desk.Sound)
include h

/-- A desk that keeps a part of its jobs stays sound, wherever it keeps them. -/
theorem Sound.keep (hjobs : after.jobs.Sublist desk.jobs) (hnext : after.next = desk.next)
    (hhistory : after.history = desk.history)
    (hwaiting : forall job, job ∈ after.waiting -> ¬ Withdrawn job desk.history)
    (hserving : after.recalled = false ->
      forall job, job ∈ after.serving -> ¬ Withdrawn job desk.history) : after.Sound := by
  refine ⟨h.nodup.sublist hjobs, ?_, ?_, ?_, ?_, ?_, ?_⟩
  · intro job hmem
    rw [hnext]
    exact h.known job (hjobs.subset hmem)
  · rw [hnext, hhistory]
    exact h.recorded
  · intro job hmem
    rw [hhistory]
    exact h.unfinished job (hjobs.subset hmem)
  · rwa [hhistory]
  · rwa [hhistory]
  · rw [hhistory]
    exact h.legal

/-- An event that was allowed may be recorded if it ends none of the jobs. -/
theorem Sound.record (hallowed : Allowed desk.history event) (hjob : event.job < desk.next)
    (hfinish : forall job, job ∈ desk.jobs -> event.isFinish job = false)
    (hwaiting : forall job, job ∈ desk.waiting -> event ≠ .withdrawn job)
    (hserving : desk.recalled = false -> forall job, job ∈ desk.serving -> event ≠ .withdrawn job) :
    Sound { desk with history := event :: desk.history } := by
  refine ⟨h.nodup, h.known, ?_, ?_, ?_, ?_, hallowed, h.legal⟩
  · intro other hother
    rcases mem_cons.mp hother with rfl | hother
    · exact hjob
    · exact h.recorded other hother
  · intro job hmem
    rw [finished_cons, hfinish job hmem]
    simpa using h.unfinished job hmem
  · intro job hmem
    rw [withdrawn_cons]
    exact not_or.mpr ⟨hwaiting job hmem, h.kept job hmem⟩
  · intro hrecalled job hmem
    rw [withdrawn_cons]
    exact not_or.mpr ⟨hserving hrecalled job hmem, h.keptServing hrecalled job hmem⟩

theorem Sound.serving_unfinished (hserving : desk.serving = some job) :
    job < desk.next ∧ ¬ Finished job desk.history := by
  have hmem : job ∈ desk.jobs := by simp [jobs, hserving]
  exact ⟨h.known job hmem, h.unfinished job hmem⟩

theorem Sound.waiting_unfinished (hwaiting : job ∈ desk.waiting) :
    job < desk.next ∧ ¬ Finished job desk.history := by
  have hmem : job ∈ desk.jobs := by simp [jobs, hwaiting]
  exact ⟨h.known job hmem, h.unfinished job hmem⟩

theorem Sound.serving_apart (hserving : desk.serving = some job) :
    forall other, other ∈ desk.waiting -> job ≠ other := by
  rintro other hother rfl
  have hnodup := h.nodup
  simp [jobs, hserving, hother] at hnodup

theorem Sound.abandon {rest : List Nat} (hrest : rest.Sublist desk.waiting) :
    Sound { desk with waiting := rest } :=
  h.keep ((List.Sublist.refl _).append hrest) rfl rfl
    (fun job hmem => h.kept job (hrest.subset hmem)) h.keptServing

/-- A job that leaves the line is none of those that the desk still has. -/
theorem Sound.without {front back : List Nat} (hwaiting : desk.waiting = front ++ job :: back) :
    Sound { desk with waiting := front ++ back }
      ∧ forall other, other ∈ desk.serving.toList ++ (front ++ back) -> job ≠ other := by
  constructor
  · apply h.abandon
    rw [hwaiting]
    exact (sublist_cons_self _ _).append_left _
  · have hperm : desk.jobs.Perm (job :: (desk.serving.toList ++ (front ++ back))) := by
      rw [jobs, hwaiting, <- append_assoc, <- append_assoc]
      exact perm_middle
    rintro other hother rfl
    exact (nodup_cons.mp (hperm.nodup_iff.mp h.nodup)).1 hother

theorem Sound.accept {front back : List Nat} (hwaiting : desk.waiting = front ++ back) :
    Sound
      { desk with
        waiting := front ++ desk.next :: back
        next := desk.next + 1
        history := .accepted desk.next :: desk.history } := by
  have hnew : forall job, job ∈ desk.serving.toList ++
      (front ++ desk.next :: back) -> job = desk.next ∨ job ∈ desk.jobs := by
    intro job hmem
    simp only [jobs, hwaiting, mem_append, mem_cons] at hmem ⊢
    tauto
  have hperm : (desk.serving.toList ++ (front ++ desk.next :: back)).Perm
      (desk.next :: desk.jobs) := by
    rw [jobs, hwaiting, <- append_assoc, <- append_assoc]
    exact perm_middle
  have hfresh : desk.next ∉ desk.jobs := by
    intro hmem
    exact Nat.lt_irrefl _ (h.known _ hmem)
  constructor
  · exact hperm.nodup_iff.mpr (nodup_cons.mpr ⟨hfresh, h.nodup⟩)
  · intro job hmem
    rcases hnew job hmem with rfl | hold
    · exact Nat.lt_succ_self _
    · exact Nat.lt_succ_of_lt (h.known job hold)
  · intro event hevent
    rcases mem_cons.mp hevent with rfl | hold
    · exact Nat.lt_succ_self _
    · exact Nat.lt_succ_of_lt (h.recorded event hold)
  · intro job hmem
    rw [finished_cons]
    rcases hnew job hmem with rfl | hold
    · simpa [Event.isFinish] using h.unused.1
    · simpa [Event.isFinish] using h.unfinished job hold
  · intro job hmem
    rw [withdrawn_cons]
    simp only [mem_append, mem_cons] at hmem
    by_cases hjob : job = desk.next
    · subst hjob
      simpa using h.unused.2
    · have hold : job ∈ desk.waiting := by
        rw [hwaiting, mem_append]
        tauto
      simpa using h.kept job hold
  · intro hrecalled job hmem
    rw [withdrawn_cons]
    simpa using h.keptServing hrecalled job hmem
  · exact ⟨h.unused, h.legal⟩

theorem Sound.step (hstep : Step desk after) : after.Sound := by
  cases hstep with
  | accept hwaiting => exact h.accept hwaiting
  | @start job rest hserving hwaiting =>
    have hjob : job ∈ desk.waiting := by simp [hwaiting]
    have hopen := h.waiting_unfinished hjob
    have hmoved : Sound
        { desk with waiting := rest, serving := some job, recalled := false } := by
      refine h.keep ?_ rfl rfl ?_ ?_
      · simp [jobs, hserving, hwaiting]
      · intro other hother
        exact h.kept other (by simp_all)
      · rintro _ other ⟨⟩
        exact h.kept job hjob
    exact hmoved.record ⟨hopen.2, h.kept job hjob⟩ hopen.1 (by simp [Event.isFinish])
      (by simp) (by simp)
  | @work job hserving =>
    have hopen := h.serving_unfinished hserving
    exact h.record hopen.2 hopen.1 (by simp [Event.isFinish]) (by simp) (by simp)
  | @putBack job hserving hkept =>
    refine h.keep ?_ rfl rfl ?_ ?_
    · simp [jobs, hserving]
    · intro other hother
      rcases mem_cons.mp hother with rfl | hold
      · exact h.keptServing hkept other hserving
      · exact h.kept other hold
    · simp
  | @finish job result hserving hkept =>
    have hopen := h.serving_unfinished hserving
    have hrest : Sound { desk with serving := none } :=
      h.keep (sublist_append_right _ _) rfl rfl h.kept (by simp)
    refine hrest.record ⟨hopen.2, h.keptServing hkept job hserving⟩ hopen.1 ?_ (by simp) (by simp)
    intro other hother
    simpa [Event.isFinish] using h.serving_apart hserving other hother
  | drop => exact h.keep (sublist_append_right _ _) rfl rfl h.kept (by simp)
  | @refuse job rest result hwaiting =>
    have hjob : job ∈ desk.waiting := by simp [hwaiting]
    have hopen := h.waiting_unfinished hjob
    have hrest := h.without (show desk.waiting = [] ++ job :: rest from hwaiting)
    refine hrest.1.record ⟨hopen.2, h.kept job hjob⟩ hopen.1 ?_ (by simp) (by simp)
    intro other hother
    simpa [Event.isFinish] using hrest.2 other hother
  | abandon hrest => exact h.abandon hrest
  | @withdraw job front back hwaiting =>
    have hjob : job ∈ desk.waiting := by simp [hwaiting]
    have hopen := h.waiting_unfinished hjob
    have hrest := h.without hwaiting
    refine hrest.1.record hopen.2 hopen.1 (by simp [Event.isFinish]) ?_ ?_
    · intro other hother
      simpa using hrest.2 other (mem_append_right _ hother)
    · intro _ other hother
      simpa using hrest.2 other (mem_append_left _ (Option.mem_toList.mpr hother))
  | @takeBack job hserving =>
    have hopen := h.serving_unfinished hserving
    have hrecalled : Sound { desk with recalled := true } :=
      h.keep (.refl _) rfl rfl h.kept (by simp)
    refine hrecalled.record hopen.2 hopen.1 (by simp [Event.isFinish]) ?_ (by simp)
    intro other hother
    simpa using h.serving_apart hserving other hother

theorem Sound.steps (hsteps : Steps desk after) : after.Sound := by
  induction hsteps with
  | refl => exact h
  | tail _ hstep ih => exact ih.step hstep

end

/-!
## Runs of steps
-/

theorem Steps.refl (desk : Desk outcome) : Steps desk desk :=
  Relation.ReflTransGen.refl

theorem Step.steps (h : Step desk after) : Steps desk after :=
  Relation.ReflTransGen.single h

theorem Steps.trans {middle : Desk outcome} (h : Steps desk middle)
    (hafter : Steps middle after) : Steps desk after :=
  Relation.ReflTransGen.trans h hafter

theorem steps_withdraw (jobs : List Nat) (desk : Desk outcome) {rest : List Nat}
    (hwaiting : desk.waiting = jobs ++ rest) :
    Steps desk
      { desk with
        waiting := rest
        history := (jobs.map Event.withdrawn).reverse ++ desk.history } := by
  induction jobs generalizing desk with
  | nil =>
    rw [nil_append] at hwaiting
    rw [<- hwaiting]
    exact Steps.refl desk
  | cons job jobs ih =>
    have hfirst : Step desk
        { desk with
          waiting := [] ++ (jobs ++ rest)
          history := .withdrawn job :: desk.history } :=
      Step.withdraw desk hwaiting
    simpa using hfirst.steps.trans (ih _ rfl)

end Desk
end Oxidali.Dispatch
