import Mathlib

/-!
# Answers and transport errors

What an exchange on the line returns to the application controller.
-/

namespace Oxidali.Dali

open List

inductive DaliResponse where
  | answer (value : Nat)
  | noAnswer
  | violation
deriving DecidableEq

namespace DaliResponse

def value : DaliResponse -> Option Nat
  | answer value => some value
  | noAnswer => none
  | violation => none

def isYes : DaliResponse -> Bool
  | answer _ => true
  | violation => true
  | noAnswer => false

theorem isYes_iff (response : DaliResponse) : response.isYes = true <-> response ≠ noAnswer := by
  cases response <;> simp [isYes]

end DaliResponse

/-! ## Answers of several units -/

section Replies

variable {index : Type} {replies : index -> Option Nat} {response : DaliResponse}

/-- What the controller may read when the units on the line answer as `replies`
says: silence when none does, the byte of a unit that answers alone, and some
signal when several do. -/
structure Replied (replies : index -> Option Nat) (response : DaliResponse) :
    Prop where
  silent : response = .noAnswer <-> forall i, replies i = none
  alone : forall i byte, replies i = some byte ->
    (forall j, j ≠ i -> replies j = none) -> response = .answer byte

theorem Replied.isYes_iff (h : Replied replies response) :
    response.isYes = true <-> exists i byte, replies i = some byte := by
  rw [DaliResponse.isYes_iff, ne_eq, h.silent, not_forall]
  simp only [<- ne_eq, Option.ne_none_iff_exists']

/-- Silence, the byte of the only unit that answers, or an overlap. -/
def overlap {n : Nat} (replies : Fin n -> Option Nat) : DaliResponse :=
  match (finRange n).find? fun i => replies i ≠ none with
  | none => .noAnswer
  | some i =>
    if forall j, j ≠ i -> replies j = none then .answer ((replies i).getD 0)
    else .violation

theorem overlap_replied {n : Nat} (replies : Fin n -> Option Nat) :
    Replied replies (overlap replies) := by
  unfold overlap
  cases hfind : (finRange n).find? fun i => replies i ≠ none with
  | none =>
    have hsilent : forall i, replies i = none := by
      intro i
      have hi := find?_eq_none.mp hfind i (mem_finRange i)
      simpa using hi
    refine ⟨by simp [hsilent], ?_⟩
    intro i byte hbyte
    rw [hsilent i] at hbyte
    cases hbyte
  | some i =>
    have hi : replies i ≠ none := by
      simpa using find?_some hfind
    constructor
    · constructor
      · intro h
        dsimp only at h
        split at h <;> cases h
      · intro h
        exact absurd (h i) hi
    · intro j byte hbyte halone
      have hij : i = j := by
        by_contra hne
        exact hi (halone i hne)
      subst hij
      dsimp only
      rw [if_pos halone, hbyte, Option.getD_some]

end Replies

/-! ## Errors -/

inductive HoldCause where
  | passive
  | quiescent

def HoldCause.message : HoldCause -> String
  | passive => "controller_passive"
  | quiescent => "controller_quiescent"

inductive FrameError where
  | backwardTimeout
  | backwardNack
  | collision
  | busBusy
  | transportError
  | preempted
  | held (cause : HoldCause)

inductive Frame24Fault where
  | unsupported
  | contended
  | preempted
  | held (cause : HoldCause)

end Oxidali.Dali
