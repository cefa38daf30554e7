import Oxidali.Rules.Exec

/-!
# What the steps of a rule are

Without the cap and the nesting limits a rule expands to one list of steps,
given by recursion on its actions.  For a rule whose actions can be counted the
flattener computes that list, and its weight, the number of steps it can ever
run, is the count.
-/

namespace Oxidali.Rules

open List

/-! ## Weight -/

mutual

/-- The steps that a step can make the engine run, itself included. -/
def FlatStep.weight : FlatStep -> Nat
  | .afterSched _ body => 1 + weights body
  | _ => 1

def weights : List FlatStep -> Nat
  | [] => 0
  | step :: rest => step.weight + weights rest

end

mutual

/-- No failed expansion in it. -/
def FlatStep.Sound : FlatStep -> Prop
  | .afterSched _ body => AllSound body
  | .fail => False
  | _ => True

def AllSound : List FlatStep -> Prop
  | [] => True
  | step :: rest => step.Sound ∧ AllSound rest

end

@[simp] theorem weights_nil : weights [] = 0 := by
  simp [weights]

variable (step : FlatStep)

@[simp] theorem weights_cons (rest : List FlatStep) :
    weights (step :: rest) = step.weight + weights rest := by
  simp [weights]

@[simp] theorem allSound_nil : AllSound [] := by
  simp [AllSound]

@[simp] theorem allSound_cons (rest : List FlatStep) :
    AllSound (step :: rest) <-> step.Sound ∧ AllSound rest := by
  simp [AllSound]

theorem weights_append (first second : List FlatStep) :
    weights (first ++ second) = weights first + weights second := by
  induction first with
  | nil => simp
  | cons step rest ih =>
    rw [cons_append, weights_cons, weights_cons, ih, Nat.add_assoc]

theorem allSound_append {first second : List FlatStep} :
    AllSound (first ++ second) <-> AllSound first ∧ AllSound second := by
  induction first with
  | nil => simp
  | cons step rest ih => simp [ih, and_assoc]

theorem weight_pos : 1 <= step.weight := by
  cases step with
  | afterSched delayMs body =>
    exact Nat.le_add_right 1 _
  | _ => exact Nat.le_refl 1

theorem length_le_weights (steps : List FlatStep) : steps.length <= weights steps := by
  induction steps with
  | nil => exact Nat.zero_le _
  | cons step rest ih =>
    rw [length_cons, weights_cons, Nat.add_comm]
    exact Nat.add_le_add (weight_pos step) ih

/-- `count` times the steps of the body. -/
def copies (count : Nat) (body : List FlatStep) : List FlatStep :=
  (replicate count body).flatten

theorem copies_succ (count : Nat) (body : List FlatStep) :
    copies (count + 1) body = body ++ copies count body := by
  simp [copies, replicate_succ]

theorem weights_copies (count : Nat) (body : List FlatStep) :
    weights (copies count body) = weights body * count := by
  induction count with
  | zero => simp [copies]
  | succ count ih =>
    rw [copies_succ, weights_append, ih, Nat.mul_succ, Nat.add_comm]

theorem allSound_copies {count : Nat} {body : List FlatStep} (h : AllSound body) :
    AllSound (copies count body) := by
  induction count with
  | zero => simp [copies]
  | succ count ih =>
    rw [copies_succ, allSound_append]
    exact ⟨h, ih⟩

/-! ## Expansion -/

section Expanding

-- the steps of a called block
variable (called : String -> List FlatStep)

mutual

def expandAction : Action -> List FlatStep
  | .prim action => [.prim action]
  | .wait durationMs => [.wait durationMs]
  | .after delayMs actions => [.afterSched delayMs (expandActions actions)]
  | .call block => called block
  | .repeat_ count actions => copies count (expandActions actions)
  | .conditional condition thenActions elseActions =>
    .branch condition (expandActions thenActions).length (expandActions elseActions).length
      :: (expandActions thenActions ++ expandActions elseActions)

def expandActions : List Action -> List FlatStep
  | [] => []
  | action :: rest => expandAction action ++ expandActions rest

end
end Expanding

def expandCall (blocks : List DefBlock) : Nat -> String -> List FlatStep
  | left, block =>
    match blocks.find? fun candidate => candidate.name = block with
    | none => [.fail]
    | some found =>
      match left with
      | 0 => [.fail]
      | left + 1 => expandActions (expandCall blocks left) found.actions

def Ctx.flags (ctx : Ctx) : FlattenCtx where
  inRepeat := ctx.inRepeat
  inConditional := ctx.inConditional
  inAfter := ctx.inAfter

/-- A count that succeeds fixes what the flattener appends: steps of that weight
without a failure. -/
def Expands (counted : Except ModelError Nat) (flatten : List FlatStep -> List FlatStep)
    (steps : List FlatStep) : Prop :=
  forall count, counted = .ok count -> weights steps = count ∧ AllSound steps
      ∧ forall out, out.length + count < flattenStepCap -> flatten out = out ++ steps

theorem repeatBody_eq (body : List FlatStep) (count : Nat) :
    forall out, out.length + weights body * count < flattenStepCap ->
      repeatBody body count out = out ++ copies count body := by
  induction count with
  | zero =>
    intro out _
    simp [repeatBody, copies]
  | succ count ih =>
    intro out hroom
    have hlength := length_le_weights body
    rw [Nat.mul_succ] at hroom
    have hfits : ¬ flattenStepCap < out.length + body.length := by omega
    rw [repeatBody, if_neg hfits, ih (out ++ body) (by
      rw [length_append]
      omega), copies_succ, append_assoc]

theorem except_bind_ok {ε α β : Type} {x : Except ε α} {f : α -> Except ε β} {r : β}
    (h : (x >>= f) = .ok r) : exists a, x = .ok a ∧ f a = .ok r := by
  cases x with
  | error e => cases h
  | ok a => exact ⟨a, rfl, h⟩

theorem except_guard_ok {ε α : Type} {bad : Prop} [Decidable bad] {e : ε} {x : Except ε α} {r : α}
    (h : (if bad then .error e else x) = .ok r) : ¬ bad ∧ x = .ok r := by
  by_cases hbad : bad
  · rw [if_pos hbad] at h
    cases h
  · exact ⟨hbad, (if_neg hbad).symm.trans h⟩

theorem branch_closed {flattenThen flattenElse : List FlatStep -> List FlatStep}
    {condition : Condition} {out thenSteps elseSteps : List FlatStep}
    (hthen : flattenThen (out ++ [.branch condition 0 0])
      = out ++ [.branch condition 0 0] ++ thenSteps)
    (helse : flattenElse (out ++ [.branch condition 0 0] ++ thenSteps)
      = out ++ [.branch condition 0 0] ++ thenSteps ++ elseSteps) :
    let thenOut := flattenThen (out ++ [.branch condition 0 0])
    let thenLen := thenOut.length - out.length - 1
    let elseOut := flattenElse thenOut
    let elseLen := elseOut.length - out.length - 1 - thenLen
    elseOut.set out.length (.branch condition thenLen elseLen)
      = out ++ .branch condition thenSteps.length elseSteps.length :: (thenSteps ++ elseSteps) := by
  have hthenLen : (out ++ [FlatStep.branch condition 0 0] ++ thenSteps).length
      - out.length - 1 = thenSteps.length := by
    simp only [length_append, length_singleton]
    omega
  have helseLen : (out ++ [FlatStep.branch condition 0 0] ++ thenSteps
      ++ elseSteps).length - out.length - 1 - thenSteps.length = elseSteps.length := by
    simp only [length_append, length_singleton]
    omega
  simp only [hthen, helse, hthenLen, helseLen]
  simp

section Flattened

variable {counted : Ctx -> String -> Except ModelError Nat}
  {flattened : FlattenCtx -> String -> List FlatStep -> List FlatStep}
  {expanded : String -> List FlatStep}

mutual

theorem expandAction_expands
    (hcall : forall ctx block, Expands (counted ctx block) (flattened ctx.flags block)
      (expanded block)) (ctx : Ctx) (action : Action) :
    Expands (countAction counted ctx action)
      (flattenAction flattened ctx.flags action) (expandAction expanded action) := by
  cases action with
  | prim action | wait durationMs =>
    rintro count ⟨⟩
    simp [expandAction, flattenAction, FlatStep.weight, FlatStep.Sound]
  | call block =>
    intro count hcount
    rw [countAction] at hcount
    simpa [expandAction, flattenAction] using hcall ctx block count hcount
  | after delayMs actions =>
    intro count hcount
    rw [countAction] at hcount
    rcases except_guard_ok hcount with ⟨hnested, hcount⟩
    rcases except_bind_ok hcount with ⟨inner, hinner, hsum⟩
    cases hsum
    rcases expandActions_expands hcall { ctx with inAfter := true } actions inner
      hinner with ⟨hweight, hsound, hflat⟩
    refine ⟨?_, ?_, ?_⟩
    · simp [expandAction, FlatStep.weight, hweight]
    · simpa [expandAction, FlatStep.Sound] using hsound
    · intro out hroom
      have hbody := hflat [] (by
        rw [length_nil]
        omega)
      rw [nil_append] at hbody
      change (if ctx.inAfter = true then _ else _) = _
      rw [if_neg hnested, expandAction, <- hbody]
      rfl
  | repeat_ times actions =>
    intro count hcount
    rw [countAction] at hcount
    rcases except_guard_ok hcount with ⟨hnested, hcount⟩
    rcases except_guard_ok hcount with ⟨hrange, hcount⟩
    rcases except_bind_ok hcount with ⟨inner, hinner, hproduct⟩
    cases hproduct
    rcases expandActions_expands hcall { ctx with inRepeat := true } actions
      inner hinner with ⟨hweight, hsound, hflat⟩
    refine ⟨?_, ?_, ?_⟩
    · rw [expandAction, weights_copies, hweight]
    · rw [expandAction]
      exact allSound_copies hsound
    · intro out hroom
      have hinnerLe : inner <= inner * times := by
        refine Nat.le_mul_of_pos_right inner ?_
        omega
      have hbody := hflat [] (by
        rw [length_nil]
        omega)
      rw [nil_append] at hbody
      change (if ctx.inRepeat = true ∨ times = 0 ∨ maxRepeat < times then _
        else repeatBody (flattenList flattened
          ({ ctx with inRepeat := true } : Ctx).flags actions []) times out) = _
      rw [if_neg (not_or.mpr ⟨hnested, hrange⟩), hbody, expandAction]
      exact repeatBody_eq _ times out (by rwa [hweight])
  | conditional condition thenActions elseActions =>
    intro count hcount
    rw [countAction] at hcount
    rcases except_guard_ok hcount with ⟨hnested, hcount⟩
    rcases except_bind_ok hcount with ⟨thenCount, hthen, hrest⟩
    rcases except_bind_ok hrest with ⟨elseCount, helse, hsum⟩
    cases hsum
    rcases expandActions_expands hcall { ctx with inConditional := true }
      thenActions thenCount hthen with ⟨hthenWeight, hthenSound, hthenFlat⟩
    rcases expandActions_expands hcall { ctx with inConditional := true }
      elseActions elseCount helse with ⟨helseWeight, helseSound, helseFlat⟩
    have hthenLength := length_le_weights (expandActions expanded thenActions)
    refine ⟨?_, ?_, ?_⟩
    · simp [expandAction, FlatStep.weight, weights_append, hthenWeight, helseWeight, Nat.add_assoc]
    · simpa [expandAction, FlatStep.Sound, allSound_append] using ⟨hthenSound, helseSound⟩
    · intro out hroom
      have hopened := hthenFlat (out ++ [.branch condition 0 0]) (by
        rw [length_append, length_singleton]
        omega)
      have hclosed := helseFlat (out ++ [.branch condition 0 0]
          ++ expandActions expanded thenActions) (by
        rw [length_append, length_append, length_singleton]
        omega)
      change (if ctx.inConditional = true then _ else _) = _
      rw [if_neg hnested]
      exact branch_closed hopened hclosed

theorem expandActions_expands
    (hcall : forall ctx block, Expands (counted ctx block) (flattened ctx.flags block)
      (expanded block)) (ctx : Ctx) (actions : List Action) :
    Expands (countActions counted ctx actions)
      (flattenList flattened ctx.flags actions) (expandActions expanded actions) := by
  cases actions with
  | nil =>
    rintro count ⟨⟩
    simp [expandActions, flattenList]
  | cons action rest =>
    intro total hcount
    rw [countActions] at hcount
    rcases except_bind_ok hcount with ⟨count, haction, hothers⟩
    rcases except_bind_ok hothers with ⟨others, hrest, hsum⟩
    cases hsum
    rcases expandAction_expands hcall ctx action count haction with
      ⟨hweight, hsound, hflat⟩
    rcases expandActions_expands hcall ctx rest others hrest with
      ⟨hrestWeight, hrestSound, hrestFlat⟩
    refine ⟨?_, ?_, ?_⟩
    · rw [expandActions, weights_append, hweight, hrestWeight]
    · rw [expandActions, allSound_append]
      exact ⟨hsound, hrestSound⟩
    · intro out hroom
      have hlength := length_le_weights (expandAction expanded action)
      have hbelow : ¬ flattenStepCap <= out.length := by omega
      rw [flattenList, if_neg hbelow, hflat out (by omega),
        hrestFlat _ (by
          rw [length_append]
          omega), expandActions, append_assoc]

end
end Flattened

/-! ## Rules of a valid set -/

theorem expandCall_expands (blocks : List DefBlock) (left : Nat) :
    forall ctx block, Expands (countCall blocks left ctx block)
      (flattenCall blocks left ctx.flags block) (expandCall blocks left block) := by
  induction left with
  | zero =>
    intro ctx block count hcount
    cases hcount
  | succ left ih =>
    intro ctx block count hcount
    rw [countCall] at hcount
    cases hfound : blocks.find? fun candidate => candidate.name = block with
    | none =>
      rw [hfound] at hcount
      cases hcount
    | some found =>
      rw [hfound] at hcount
      simpa [expandCall, flattenCall, hfound] using
        expandActions_expands ih ctx found.actions count hcount

theorem forM_ok {α : Type} {check : α -> Except ModelError Unit} {items : List α}
    (h : items.forM check = .ok ()) {item : α} (hitem : item ∈ items) : check item = .ok () := by
  induction items with
  | nil => cases hitem
  | cons first rest ih =>
    rcases except_bind_ok h with ⟨_, hfirst, hrest⟩
    rcases mem_cons.mp hitem with rfl | hmem
    · exact hfirst
    · exact ih hrest hmem

theorem require_ok {ok : Bool} {error : ModelError} (h : require ok error = .ok ()) : ok := by
  cases ok with
  | true => rfl
  | false => cases h

section

variable {set : RuleSet} {rule : Rule} (hvalid : validate set = .ok ()) (hrule : rule ∈ set.rules)
include hvalid hrule

theorem validate_count :
    exists count, expandedActionCount rule set.blocks = .ok count ∧
      count <= maxActionsExpanded := by
  iterate 7 rcases except_bind_ok hvalid with ⟨_, _, hvalid⟩
  have hchecked := forM_ok hvalid hrule
  rcases except_bind_ok hchecked with ⟨_, _, hchecked⟩
  rcases except_bind_ok hchecked with ⟨_, _, hchecked⟩
  rcases except_bind_ok hchecked with ⟨count, hcount, hbound⟩
  exact ⟨count, hcount, of_decide_eq_true (require_ok hbound)⟩

/-- The steps of a rule of a valid set. -/
theorem flattenRule_eq :
    flattenRule rule.actions set.blocks
        = expandActions (expandCall set.blocks maxBlockCallDepth) rule.actions
      ∧ AllSound (flattenRule rule.actions set.blocks)
      ∧ weights (flattenRule rule.actions set.blocks) <= maxActionsExpanded := by
  rcases validate_count hvalid hrule with ⟨count, hcount, hbound⟩
  rcases expandActions_expands (expandCall_expands set.blocks maxBlockCallDepth)
    { rule := rule.name } rule.actions count hcount with ⟨hweight, hsound, hflat⟩
  have hsteps : flattenRule rule.actions set.blocks
      = expandActions (expandCall set.blocks maxBlockCallDepth) rule.actions := by
    refine hflat [] ?_
    have hcap : maxActionsExpanded < flattenStepCap := by decide
    rw [length_nil, Nat.zero_add]
    exact Nat.lt_of_le_of_lt hbound hcap
  rw [hsteps]
  exact ⟨rfl, hsound, hweight ▸ hbound⟩

end

end Oxidali.Rules
