import Mathlib

/-!
# Since

A history keeps its newest event first.  `Since start keep` holds of it when
some past of it satisfies `start` and every event recorded after that past
satisfies `keep`.
-/

namespace Oxidali

variable {event : Type}

def Since (start : List event -> Prop) (keep : event -> Prop) (history : List event) : Prop :=
  exists newer past, history = newer ++ past ∧ start past ∧
    forall entry, entry ∈ newer -> keep entry

namespace Since

variable {start : List event -> Prop} {keep : event -> Prop} {history : List event}

theorem intro (h : start history) : Since start keep history :=
  ⟨[], history, rfl, h, by simp⟩

theorem cons {entry : event} (hentry : keep entry) (h : Since start keep history) :
    Since start keep (entry :: history) := by
  rcases h with ⟨newer, past, rfl, hstart, hkeep⟩
  refine ⟨entry :: newer, past, rfl, hstart, ?_⟩
  intro other hother
  rcases List.mem_cons.mp hother with rfl | hold
  · exact hentry
  · exact hkeep other hold

theorem append {entries : List event} (hentries : forall entry, entry ∈ entries -> keep entry)
    (h : Since start keep history) : Since start keep (entries ++ history) := by
  induction entries with
  | nil => exact h
  | cons entry rest ih =>
    refine cons (hentries entry (List.mem_cons_self ..)) (ih ?_)
    intro other hother
    exact hentries other (List.mem_cons_of_mem _ hother)

end Since
end Oxidali
