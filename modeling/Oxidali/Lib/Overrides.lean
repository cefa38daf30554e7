import Mathlib

/-!
# Updates that overwrite

A state is a value for each of its parts.  An override writes some of the parts and
leaves the others, so an override whose parts are all written again later, whatever
comes in between, may as well be left out.
-/

namespace Oxidali.Overrides

open List

variable {part : Type} {value : part -> Type}

/-- The parts an update writes, with what it writes there. -/
abbrev Override (value : part -> Type) := (slot : part) -> Option (value slot)

def overwrite (state : (slot : part) -> value slot) (update : Override value) :
    (slot : part) -> value slot :=
  fun slot => (update slot).getD (state slot)

def applyAll (updates : List (Override value)) (state : (slot : part) -> value slot) :
    (slot : part) -> value slot :=
  updates.foldl overwrite state

@[simp] theorem applyAll_cons (update : Override value) (updates : List (Override value))
    (state : (slot : part) -> value slot) :
    applyAll (update :: updates) state = applyAll updates (overwrite state update) := rfl

theorem applyAll_append (before after : List (Override value))
    (state : (slot : part) -> value slot) :
    applyAll (before ++ after) state = applyAll after (applyAll before state) :=
  foldl_append

/-- Updates do not move what one part is written from into another part. -/
theorem applyAll_congr_at (updates : List (Override value)) {slot : part}
    {state other : (slot : part) -> value slot} (h : state slot = other slot) :
    applyAll updates state slot = applyAll updates other slot := by
  induction updates generalizing state other with
  | nil => exact h
  | cons update updates ih =>
    apply ih
    simp only [overwrite, h]

variable {updates : List (Override value)}

theorem applyAll_untouched {slot : part} {state : (slot : part) -> value slot}
    (huntouched : forall update, update ∈ updates -> update slot = none) :
    applyAll updates state slot = state slot := by
  induction updates generalizing state with
  | nil => rfl
  | cons update updates ih =>
    rw [applyAll_cons, ih fun later hlater =>
      huntouched later (mem_cons_of_mem update hlater)]
    simp [overwrite, huntouched update mem_cons_self]

/-- A part that is written no longer depends on the state before. -/
theorem applyAll_written {slot : part} {state other : (slot : part) -> value slot}
    {update : Override value} (hmem : update ∈ updates) (hwrites : (update slot).isSome) :
    applyAll updates state slot = applyAll updates other slot := by
  induction updates generalizing state other with
  | nil => cases hmem
  | cons first updates ih =>
    rcases mem_cons.1 hmem with heq | hlater
    · rw [applyAll_cons, applyAll_cons]
      apply applyAll_congr_at
      obtain ⟨written, hwritten⟩ := Option.isSome_iff_exists.1 hwrites
      simp [overwrite, <- heq, hwritten]
    · exact ih hlater

/-- The later updates write every part the earlier ones write. -/
def Covers (later earlier : List (Override value)) : Prop :=
  forall update, update ∈ earlier -> forall slot : part, (update slot).isSome = true ->
    exists again, again ∈ later ∧ (again slot).isSome = true

theorem applyAll_absorb {earlier later : List (Override value)} (hcovers : Covers later earlier)
    (between : List (Override value)) (state : (slot : part) -> value slot) :
    applyAll (earlier ++ (between ++ later)) state = applyAll (between ++ later) state := by
  funext slot
  rw [applyAll_append earlier, applyAll_append between, applyAll_append between]
  rcases Classical.em (exists update, update ∈ earlier ∧ (update slot).isSome = true) with
    hwritten | huntouched
  · obtain ⟨update, hmem, hwrites⟩ := hwritten
    obtain ⟨again, hagain, hwritesAgain⟩ := hcovers update hmem slot hwrites
    exact applyAll_written hagain hwritesAgain
  · apply applyAll_congr_at
    apply applyAll_congr_at
    apply applyAll_untouched
    intro update hmem
    rcases hupdate : update slot with _ | written
    · rfl
    · exact absurd ⟨update, hmem, by rw [hupdate]; rfl⟩ huntouched

/-- What a fold leaves out because the last item restates it changes nothing, if each
such item may be left out on its own. -/
theorem foldl_filter_restated {state item : Type} {act : state -> item -> state}
    (valid : state -> List item -> Prop) (last : item) (restated : item -> Bool)
    (hrest : forall current first rest,
      valid current (first :: rest) -> valid (act current first) rest)
    (hskip : forall current first rest, valid current (first :: rest) -> valid current rest)
    (habsorb : forall current first rest,
      valid current (first :: (rest ++ [last])) -> restated first ->
        (first :: (rest ++ [last])).foldl act current = (rest ++ [last]).foldl act current)
    (held : List item) (current : state) (hvalid : valid current (held ++ [last])) :
    ((held.filter fun earlier => !restated earlier) ++ [last]).foldl act current =
      (held ++ [last]).foldl act current := by
  induction held generalizing current with
  | nil => rfl
  | cons first held ih =>
    cases hrestated : restated first with
    | false =>
      rw [filter_cons_of_pos (by simp [hrestated]), cons_append,
        foldl_cons, cons_append, foldl_cons]
      exact ih (act current first) (hrest current first _ hvalid)
    | true =>
      rw [filter_cons_of_neg (by simp [hrestated]), ih current (hskip current first _ hvalid),
        cons_append, habsorb current first held hvalid hrestated]

end Oxidali.Overrides
