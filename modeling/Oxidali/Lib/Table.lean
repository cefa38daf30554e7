import Mathlib

/-!
# Tables

A table maps keys to records that may be missing.  Rows are put into it one after the
other; what a row leaves depends on the record it finds.  A fold over rows or other items
reaches a goal if one of them reaches it from a state that is ready and every one keeps
what has been reached.
-/

namespace Oxidali.Table

open List

variable {row id item key record : Type} [DecidableEq key]
variable {place : row -> key} {value : row -> Option record -> record}

def put (place : row -> key) (value : row -> Option record -> record) (rows : List row)
    (table : key -> Option record) : key -> Option record :=
  rows.foldl (fun table row =>
    Function.update table (place row) (some (value row (table (place row))))) table

theorem put_cons (first : row) (rest : List row) (table : key -> Option record) :
    put place value (first :: rest) table
      = put place value rest (Function.update table (place first)
        (some (value first (table (place first))))) :=
  rfl

variable {rows : List row}

theorem put_elsewhere {spot : key} (h : forall entry, entry ∈ rows -> place entry ≠ spot)
    (table : key -> Option record) : put place value rows table spot = table spot := by
  induction rows generalizing table with
  | nil => rfl
  | cons first rest ih =>
    rw [put_cons, ih fun entry hentry => h entry (mem_cons_of_mem _ hentry)]
    exact Function.update_of_ne (h first mem_cons_self).symm _ _

theorem put_beside {owner number : Type} [DecidableEq owner] [DecidableEq number]
    {place : row -> number} {mine other : owner} (hother : other ≠ mine) (spot : number)
    (table : owner × number -> Option record) :
    put (fun entry => (mine, place entry)) value rows table (other, spot) = table (other, spot) :=
  put_elsewhere (fun _ _ heq => hother (congrArg Prod.fst heq).symm) table

theorem put_row (hdistinct : (rows.map place).Nodup) {entry : row} (hentry : entry ∈ rows)
    (table : key -> Option record) :
    put place value rows table (place entry) = some (value entry (table (place entry))) := by
  induction rows generalizing table with
  | nil => cases hentry
  | cons first rest ih =>
    rw [map_cons, nodup_cons] at hdistinct
    rw [put_cons]
    rcases mem_cons.mp hentry with heq | hrest
    · subst heq
      have helsewhere : forall other, other ∈ rest -> place other ≠ place entry := by
        intro other hother heq
        exact hdistinct.1 (heq ▸ mem_map_of_mem hother)
      rw [put_elsewhere helsewhere, Function.update_self]
    · have hother : place entry ≠ place first := by
        intro heq
        exact hdistinct.1 (heq ▸ mem_map_of_mem hrest)
      rw [ih hdistinct.2 hrest, Function.update_of_ne hother]

/-! ## The rows of a table -/

variable (ids : List id)

def rowsOf (read : id -> Option item) : List (id × item) :=
  ids.filterMap fun number => (read number).map fun entry => (number, entry)

theorem mem_rowsOf {ids : List id} {read : id -> Option item} {number : id} {entry : item} :
    (number, entry) ∈ rowsOf ids read <-> number ∈ ids ∧ read number = some entry := by
  unfold rowsOf
  rw [mem_filterMap]
  constructor
  · intro h
    rcases h with ⟨other, hother, hentry⟩
    rcases Option.map_eq_some_iff.mp hentry with ⟨found, hfound, heq⟩
    cases heq
    exact ⟨hother, hfound⟩
  · intro h
    refine ⟨number, h.1, ?_⟩
    rw [h.2]
    rfl

theorem any_rowsOf_none [DecidableEq id] (ids : List id) (read : id -> Option item) {number : id}
    (h : read number = none) : ((rowsOf ids read).any fun entry => entry.1 = number) = false := by
  rw [any_eq_false]
  intro entry hentry heq
  have hfound := (mem_rowsOf.mp hentry).2
  rw [of_decide_eq_true heq, h] at hfound
  cases hfound

theorem rowsOf_some (read : id -> item) :
    rowsOf ids (fun number => some (read number))
      = ids.map fun number => (number, read number) := by
  exact congrFun filterMap_eq_map ids

theorem rowsOf_ids (read : id -> Option item) : ((rowsOf ids read).map Prod.fst).Sublist ids := by
  induction ids with
  | nil => exact List.Sublist.slnil
  | cons first rest ih =>
    unfold rowsOf at ih ⊢
    rw [filterMap_cons]
    cases hread : read first with
    | none => exact ih.cons first
    | some entry => exact ih.cons_cons first

theorem put_rowsOf {ids : List id} (hids : ids.Nodup) (read : id -> Option item) {place : id -> key}
    (hplace : Function.Injective place) (value : id × item -> Option record -> record)
    (table : key -> Option record) {number : id} (hnumber : number ∈ ids) :
    put (fun entry => place entry.1) value (rowsOf ids read) table (place number)
      = match read number with
        | some entry => some (value (number, entry) (table (place number)))
        | none => table (place number) := by
  cases hread : read number with
  | some entry =>
    have hdistinct : ((rowsOf ids read).map fun entry => place entry.1).Nodup := by
      have hfirst : (((rowsOf ids read).map Prod.fst).map place).Nodup :=
        ((rowsOf_ids ids read).nodup hids).map hplace
      rwa [List.map_map] at hfirst
    exact put_row hdistinct (mem_rowsOf.mpr ⟨hnumber, hread⟩) table
  | none =>
    apply put_elsewhere
    intro entry hentry heq
    have hfound := (mem_rowsOf.mp hentry).2
    rw [hplace heq, hread] at hfound
    cases hfound

/-! ## Folds that reach a goal -/

theorem foldl_reaches {state item : Type} {step : state -> item -> state}
    (ready done : state -> Prop) {own : item} (items : List item)
    (hready : forall current other, other ∈ items -> ready current -> ready (step current other))
    (hdone : forall current other, other ∈ items -> own ≠ other -> ready current ->
      done current -> done (step current other))
    (hown : forall current, ready current -> done (step current own)) (hmem : own ∈ items)
    {current : state} (h : ready current) : done (items.foldl step current) := by
  induction items generalizing current with
  | nil => cases hmem
  | cons first rest ih =>
    rw [foldl_cons]
    have hfirst := hready current first mem_cons_self h
    by_cases hrest : own ∈ rest
    · exact ih (fun _ other hother => hready _ other (mem_cons_of_mem _ hother))
        (fun _ other hother => hdone _ other (mem_cons_of_mem _ hother)) hrest hfirst
    · cases (mem_cons.mp hmem).resolve_right hrest
      refine (foldlRecOn (motive := fun reached => ready reached ∧ done reached) rest step
        ⟨hfirst, hown current h⟩ fun reached hreached other hother => ?_).2
      have hlater := mem_cons_of_mem own hother
      exact ⟨hready reached other hlater hreached.1,
        hdone reached other hlater (fun heq => hrest (heq ▸ hother)) hreached.1 hreached.2⟩

end Oxidali.Table
