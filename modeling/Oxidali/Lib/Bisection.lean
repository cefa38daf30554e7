import Oxidali.Lib.Hoare

/-!
# Bisection with a probe

A search for the least number that a monotone question is answered yes at, when
the question is put to a state by a program that may fail.
-/

namespace Oxidali.Hoare

variable {state error seen : Type}

/-- The loop `while low < high`; `fuel` bounds the number of its rounds. -/
def bisect (probe : Nat -> ExceptT error (StateM state) Bool) :
    Nat -> Nat -> Nat -> ExceptT error (StateM state) Nat
  | 0, low, _ => return low
  | fuel + 1, low, high =>
    if low < high then do
      let mid := low + (high - low) / 2
      if <- probe mid then
        bisect probe fuel low mid
      else
        bisect probe fuel (mid + 1) high
    else return low

/-- If every probe below the upper bound uses up one round of `inv` and tells whether
`least` has been reached, and the rounds suffice to halve the interval to a point, then
the loop returns `least`. -/
theorem bisect_effect (view : state -> seen) (inv : Nat -> seen -> Prop) (fail : seen -> Prop)
    (least bound : Nat) {probe : Nat -> ExceptT error (StateM state) Bool}
    (hprobe : forall left b mid, inv (left + 1) b -> mid < bound -> Effect view b (probe mid)
        (fun yes b' => inv left b' ∧ (yes = true <-> least <= mid)) fail) (rounds : Nat) :
    forall (fuel low high : Nat) (b : seen), rounds <= fuel -> inv rounds b ->
      low <= least -> least <= high -> high <= bound -> high - low < 2 ^ rounds ->
      Effect view b (bisect probe fuel low high)
        (fun found b' => (exists left, inv left b') ∧ found = least) fail := by
  have hdone : forall fuel low high b left, ¬ low < high -> inv left b -> low = least ->
      Effect view b (bisect probe fuel low high)
        (fun found b' => (exists left, inv left b') ∧ found = least) fail := by
    intro fuel low high b left hout hinv hlow
    cases fuel with
    | zero => exact Effect.pure ⟨⟨left, hinv⟩, hlow⟩
    | succ fuel =>
      unfold bisect
      rw [if_neg hout]
      exact Effect.pure ⟨⟨left, hinv⟩, hlow⟩
  induction rounds with
  | zero =>
    intro fuel low high b _ hinv hlow hhigh _ hrounds
    exact hdone fuel low high b 0 (by omega) hinv (by omega)
  | succ rounds ih =>
    intro fuel low high b hfuel hinv hlow hhigh hbound hrounds
    by_cases hlt : low < high
    · rcases Nat.exists_eq_succ_of_ne_zero (by omega : fuel ≠ 0) with ⟨rest, rfl⟩
      have hrest := Nat.le_of_succ_le_succ hfuel
      rw [Nat.pow_succ, Nat.mul_comm] at hrounds
      unfold bisect
      rw [if_pos hlt]
      refine Effect.bind (hprobe rounds b _ hinv (by omega)) ?_
      intro yes b' hyes
      rcases hyes with ⟨hinv', htells⟩
      cases yes with
      | true =>
        have hreached := htells.mp rfl
        exact ih rest _ _ b' hrest hinv' hlow hreached (by omega) (by omega)
      | false =>
        have hbeyond : ¬ least <= low + (high - low) / 2 := by
          intro hle
          exact absurd (htells.mpr hle) (by simp)
        exact ih rest _ _ b' hrest hinv' (by omega) hhigh hbound (by omega)
    · exact hdone fuel low high b (rounds + 1) hlt hinv (by omega)

end Oxidali.Hoare
