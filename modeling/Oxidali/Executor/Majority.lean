import Oxidali.Executor.Helpers

/-!
# Confirming contended reads

A scalar that was read while something else was on the line is read again until
the samples agree.
-/

namespace Oxidali.Executor

structure ContentConfirmPolicy where
  enabled : Bool
  maxSamples : Nat

def ContentConfirmPolicy.effectiveMaxSamples (policy : ContentConfirmPolicy) : Nat :=
  if policy.maxSamples < 2 then 2 else policy.maxSamples

section Majority

variable {T : Type} [DecidableEq T]

def tally (counts : List (T × Nat)) (value : T) : List (T × Nat) :=
  if counts.any fun entry => entry.1 = value then
    counts.map fun entry =>
      if entry.1 = value then (entry.1, min (entry.2 + 1) 255) else entry
  else counts ++ [(value, 1)]

def majorityOptional (samples : List (Option T)) : Option (Option T) :=
  let counts := (samples.filterMap id).foldl tally []
  let noneCount := min (samples.filter Option.isNone).length 255
  let bestCount := (counts.map Prod.snd).foldl max 0
  let best := counts.filter fun entry => entry.2 = bestCount
  let winner := if 2 <= bestCount ∧ ¬ 1 < best.length then best.head? else none
  match winner with
  | some (value, count) =>
    if noneCount < count then some (some value)
    else if count = noneCount ∧ 2 <= noneCount then none
    else if noneCount < 2 then some (some value)
    else if bestCount < noneCount then some none
    else none
  | none => if 2 <= noneCount ∧ bestCount < noneCount then some none else none

variable {C : Type}

/-- The further samples; `left` of them may still be taken. -/
def confirmSamples (readOnce : Exec C (Option T × Bool)) :
    Nat -> List (Option T) -> Exec C (Option T)
  | 0, _ => return none
  | left + 1, samples => do
      let (sample, _) <- readOnce
      let samples := samples ++ [sample]
      match majorityOptional samples with
      | some confirmed => return confirmed
      | none => confirmSamples readOnce left samples

def confirmObservedQuery (policy : ContentConfirmPolicy)
    (readOnce : Exec C (Option T × Bool)) : Exec C (Option T) := do
  let (first, contended) <- readOnce
  if !policy.enabled || !contended then
    return first
  else
    confirmSamples readOnce (policy.effectiveMaxSamples - 1) [first]

end Majority
end Oxidali.Executor
