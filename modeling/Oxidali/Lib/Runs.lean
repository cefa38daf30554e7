import Mathlib

/-!
# Runs of one value in a stream

A counter that one value raises and every other value clears is the length of the
run the stream ends in.
-/

namespace Oxidali.Runs

open List

variable {α : Type} [DecidableEq α] (value : α) (stream : List α)

/-- The counter after one more value. -/
def runAfter (run : Nat) (next : α) : Nat :=
  if next = value then run + 1 else 0

/-- The length of the run of a value that a stream ends in. -/
def runLength : Nat :=
  stream.foldl (runAfter value) 0

@[simp] theorem runLength_nil : runLength value [] = 0 := rfl

@[simp] theorem runLength_concat (next : α) :
    runLength value (stream ++ [next]) = runAfter value (runLength value stream) next := by
  rw [runLength, foldl_append]
  rfl

/-- A stream ends in so many equal values when its last run is that long. -/
theorem replicate_suffix_iff (count : Nat) :
    replicate count value <:+ stream <-> count <= runLength value stream := by
  induction stream using reverseRecOn generalizing count with
  | nil => simp [suffix_nil]
  | append_singleton stream next ih =>
    rw [runLength_concat, runAfter]
    cases count with
    | zero => simp
    | succ count =>
      rw [replicate_succ']
      constructor
      · rintro ⟨before, hsplit⟩
        rw [<- append_assoc] at hsplit
        rcases append_inj' hsplit rfl with ⟨hrest, hlast⟩
        rw [if_pos (singleton_inj.mp hlast).symm]
        exact Nat.succ_le_succ ((ih count).mp ⟨before, hrest⟩)
      · intro hrun
        by_cases hnext : next = value
        · rw [if_pos hnext] at hrun
          rcases (ih count).mpr (Nat.le_of_succ_le_succ hrun) with
            ⟨before, hrest⟩
          exact ⟨before, by rw [<- append_assoc, hrest, hnext]⟩
        · rw [if_neg hnext] at hrun
          exact absurd hrun (Nat.not_succ_le_zero count)

theorem runLength_le_length : runLength value stream <= stream.length := by
  have hsuffix := (replicate_suffix_iff value stream _).mpr (Nat.le_refl _)
  simpa using hsuffix.length_le

/-- The longest run of a stream grows at its end only. -/
theorem replicate_infix_concat {value : α} {stream : List α} {next : α} {count : Nat}
    (h : replicate count value <:+: stream ++ [next]) :
    replicate count value <:+: stream ∨ count <= runLength value (stream ++ [next]) := by
  rcases infix_concat_iff.mp h with hend | hinside
  · exact .inr ((replicate_suffix_iff _ _ _).mp hend)
  · exact .inl hinside

end Oxidali.Runs
