import Oxidali.Rules.Expand
import Oxidali.Rules.Moves

/-!
# The budget of a valid rule

The steps of a rule of a valid set weigh no more than the budget an activation
starts with.  A turn spends one unit and takes at least one off the weight of
what is left, and what a continuation takes with it is part of that weight, so
no run of the rule and of its continuations is cut short.
-/

namespace Oxidali.Rules

open List

/-- A queue that the budget can run. -/
structure Affordable (budget : Nat) (steps : List FlatStep) : Prop where
  sound : AllSound steps
  weight : weights steps <= budget

/-- A continuation that can run all of its steps. -/
def Funded (cont : Continuation) : Prop :=
  Affordable cont.budgetLeft cont.steps

/-- The marks are those of a run that did not use up its budget. -/
def NoneSpent (marks : List Mark) : Prop :=
  forall rule, Mark.budgetSpent rule ∉ marks

/-- From `before` to `after` no budget is used up, what is scheduled is funded,
and if room is missing it is missing in the table. -/
structure Within (rule : String) (before after : ExecState × RunOutput) : Prop where
  journal : exists marks, after.1.journal = marks ++ before.1.journal ∧ NoneSpent marks
    ∧ (after.2.partial_ = some .effectBudget ->
        before.2.partial_ = some .effectBudget ∨ .tableFull rule ∈ marks)
  pending : forall cont, cont ∈ after.1.vol.continuations ->
    cont ∈ before.1.vol.continuations ∨ Funded cont

theorem NoneSpent.append {first second : List Mark} (hfirst : NoneSpent first)
    (hsecond : NoneSpent second) : NoneSpent (first ++ second) := by
  intro rule hmem
  rcases mem_append.mp hmem with h | h
  · exact hfirst rule h
  · exact hsecond rule h

theorem noneSpent_nil : NoneSpent [] := by
  intro rule hmem
  cases hmem

theorem noneSpent_single {mark : Mark} (h : forall rule, mark ≠ .budgetSpent rule) :
    NoneSpent [mark] := by
  intro rule hmem
  exact h rule (mem_singleton.mp hmem).symm

namespace Within

theorem refl (rule : String) (run : ExecState × RunOutput) : Within rule run run :=
  ⟨⟨[], rfl, noneSpent_nil, .inl⟩, fun _ hcont => .inl hcont⟩

theorem trans {rule : String} {first second third : ExecState × RunOutput}
    (h : Within rule first second) (h' : Within rule second third) : Within rule first third := by
  rcases h.journal with ⟨marks, hjournal, hspent, hbudget⟩
  rcases h'.journal with ⟨marks', hjournal', hspent', hbudget'⟩
  constructor
  · refine ⟨marks' ++ marks, ?_, hspent'.append hspent, ?_⟩
    · rw [hjournal', hjournal, append_assoc]
    · intro hout
      rcases hbudget' hout with hsecond | hmark
      · rcases hbudget hsecond with hfirst | hmark
        · exact .inl hfirst
        · exact .inr (mem_append_right _ hmark)
      · exact .inr (mem_append_left _ hmark)
  · intro cont hcont
    rcases h'.pending cont hcont with hsecond | hfunded
    · exact h.pending cont hsecond
    · exact .inr hfunded

end Within

/-! ## One turn -/

theorem notePartial_effectBudget {out : RunOutput}
    (h : (out.notePartial .conditionUnevaluable).partial_ = some .effectBudget) :
    out.partial_ = some .effectBudget := by
  unfold RunOutput.notePartial at h
  cases hout : out.partial_ with
  | none => rw [hout] at h; cases h
  | some reason => rw [hout] at h; exact hout ▸ h

theorem primTurn_within (rule : String) {before after : ExecState × RunOutput}
    (h : PrimTurn before.1 after.1)
    (hout : after.2.partial_ = some .effectBudget ->
      before.2.partial_ = some .effectBudget) : Within rule before after := by
  rcases h with h | ⟨idx, other, h⟩
  · refine ⟨⟨[], h.journal, noneSpent_nil, fun hp => .inl (hout hp)⟩, ?_⟩
    intro cont hcont
    exact .inl (h.continuations ▸ hcont)
  · refine ⟨⟨[.disabled other], h.journal, ?_, fun hp => .inl (hout hp)⟩, ?_⟩
    · exact noneSpent_single fun _ => Mark.noConfusion
    · intro cont hcont
      rw [h.continuations] at hcont
      exact .inl (mem_filter.mp hcont).1

variable (env : ExecEnv)

theorem runPrim_within (job : Job) (action : Primitive) (run : ExecState × RunOutput) :
    Within job.rule run (runPrim env job action run) := by
  apply primTurn_within job.rule (runPrim_primTurn env job action run)
  unfold runPrim
  dsimp only
  cases (executePrim env job action run.1).1 with
  | none => exact notePartial_effectBudget
  | some effect =>
    cases effect with
    | none | some effect => exact id

theorem branchUnevaluable_within (rule : String) (run : ExecState × RunOutput) :
    Within rule run (branchUnevaluable run) :=
  primTurn_within rule (.inl ⟨rfl, rfl, rfl, rfl⟩) notePartial_effectBudget

variable {steps : List FlatStep}

theorem scheduleContinuation_within (job : Job) {budgetLeft : Nat} (delayMs : Nat)
    (run : ExecState × RunOutput) (hsteps : Affordable budgetLeft steps) :
    Within job.rule run (scheduleContinuation env job budgetLeft delayMs steps run) := by
  unfold scheduleContinuation
  dsimp only
  split
  · refine ⟨⟨[.tableFull job.rule], rfl, ?_, ?_⟩, fun _ hcont => .inl hcont⟩
    · exact noneSpent_single fun _ => Mark.noConfusion
    · intro _
      exact .inr (mem_singleton_self _)
  · refine ⟨⟨[.scheduled job.rule _], rfl, ?_, .inl⟩, ?_⟩
    · exact noneSpent_single fun _ => Mark.noConfusion
    · intro cont hcont
      rcases mem_append.mp hcont with hold | hnew
      · exact .inl hold
      · rw [mem_singleton.mp hnew]
        exact .inr hsteps

/-! ## A run -/

namespace Affordable

variable {budget : Nat}

theorem rest {step : FlatStep} (h : Affordable (budget + 1) (step :: steps)) :
    Affordable budget steps := by
  have hweight := h.weight
  rw [weights_cons] at hweight
  exact ⟨((allSound_cons step steps).mp h.sound).2, by
    have := weight_pos step
    omega⟩

theorem body {delayMs : Nat} {inner : List FlatStep}
    (h : Affordable (budget + 1) (.afterSched delayMs inner :: steps)) :
    Affordable budget (steps ++ inner) := by
  have hweight := h.weight
  have hsound := (allSound_cons _ steps).mp h.sound
  rw [weights_cons, FlatStep.weight] at hweight
  constructor
  · exact allSound_append.mpr ⟨hsound.2, hsound.1⟩
  · rw [weights_append]
    omega

theorem right {first second : List FlatStep} (h : Affordable budget (first ++ second)) :
    Affordable budget second := by
  have hweight := h.weight
  rw [weights_append] at hweight
  exact ⟨(allSound_append.mp h.sound).2, Nat.le_trans (Nat.le_add_left _ _) hweight⟩

theorem without {first second third : List FlatStep}
    (h : Affordable budget (first ++ (second ++ third))) : Affordable budget (first ++ third) := by
  have hweight := h.weight
  have hsound := h.sound
  simp only [weights_append, allSound_append] at hweight hsound
  constructor
  · exact allSound_append.mpr ⟨hsound.1, hsound.2.2⟩
  · rw [weights_append]
    omega

end Affordable

theorem runSteps_within (job : Job) (budget : Nat) :
    forall steps run, Affordable budget steps ->
      Within job.rule run (runSteps env job budget steps run) := by
  induction budget with
  | zero =>
    intro steps run h
    cases steps with
    | nil => exact Within.refl job.rule run
    | cons step rest =>
      have hweight := h.weight
      rw [weights_cons] at hweight
      have := weight_pos step
      omega
  | succ budget ih =>
    intro steps run h
    cases steps with
    | nil => exact Within.refl job.rule run
    | cons step rest =>
      cases step with
      | prim action =>
        exact (runPrim_within env job action run).trans (ih rest _ h.rest)
      | wait ms =>
        rw [runSteps]
        split
        · exact ih rest run h.rest
        · exact scheduleContinuation_within env job ms run h.rest
      | branch condition thenLen elseLen =>
        have hparts : Affordable budget (rest.take thenLen
            ++ ((rest.drop thenLen).take elseLen ++ (rest.drop thenLen).drop elseLen)) := by
          rw [take_append_drop, take_append_drop]
          exact h.rest
        rw [runSteps]
        cases conditionIn env job run.1 condition with
        | none =>
          exact (branchUnevaluable_within job.rule run).trans (ih _ _ hparts.right.right)
        | some verdict =>
          cases verdict with
          | true => exact ih _ run hparts.without
          | false => exact ih _ run hparts.right
      | afterSched delayMs body =>
        have hbody := h.body
        rw [runSteps]
        split
        · exact ih _ run hbody
        · exact (scheduleContinuation_within env job delayMs run
            hbody.right).trans (ih rest _ h.rest)
      | fail => exact absurd h.sound (by simp [FlatStep.Sound])

/-! ## Activations and resumptions -/

/-- From `before` to `after` no run used up its budget, and an outcome that misses
room is one of a run that found the table full. -/
def Uncut (before after : Handled) : Prop :=
  exists marks, after.1.journal = marks ++ before.1.journal ∧ NoneSpent marks
    ∧ forall outcome, outcome ∈ after.2 -> outcome ∈ before.2
        ∨ (outcome.partial_ = some .effectBudget -> .tableFull outcome.rule ∈ marks)

def OnlyFunded (before after : Handled) : Prop :=
  forall cont, cont ∈ after.1.vol.continuations -> cont ∈ before.1.vol.continuations ∨ Funded cont

theorem finishWet_marks (out : RunOutput) (depth : Nat) (dry : Bool) (state : ExecState) :
    (finishWet env out depth dry state).vol.continuations = state.vol.continuations
      ∧ exists marks, (finishWet env out depth dry state).journal
          = marks ++ state.journal ∧ NoneSpent marks := by
  unfold finishWet
  split
  · exact ⟨rfl, [], rfl, noneSpent_nil⟩
  · generalize out.effects = effects
    induction effects generalizing state with
    | nil => exact ⟨rfl, [], rfl, noneSpent_nil⟩
    | cons effect rest ih =>
      rcases ih (recordEffectChain effect depth env.world.nowMs state) with
        ⟨hcontinuations, marks, hjournal, hspent⟩
      constructor
      · exact hcontinuations.trans (recordEffectChain_kept _ _ _ _).1
      · refine ⟨marks ++ [.emitted effect depth env.world.nowMs], ?_, ?_⟩
        · rw [append_assoc]
          exact hjournal
        · exact hspent.append (noneSpent_single fun _ => Mark.noConfusion)

/-- A run of affordable steps, together with the marks set before it. -/
theorem finished_uncut (job : Job) {budget : Nat} (hsteps : Affordable budget steps)
    {started : ExecState} {handled : Handled} {before : List Mark}
    (hcontinuations : started.vol.continuations = handled.1.vol.continuations)
    (hstarted : started.journal = before ++ handled.1.journal) (hbefore : NoneSpent before)
    (depth : Nat) (dry : Bool) {outcome : ActivationOutcome}
    (hrule : outcome.rule = job.rule) (hout : outcome.partial_
      = (runSteps env job budget steps (started, {})).2.partial_) :
    let run := runSteps env job budget steps (started, {})
    let after := (finishWet env run.2 depth dry run.1, handled.2 ++ [outcome])
    Uncut handled after ∧ OnlyFunded handled after := by
  intro run after
  have hwithin := runSteps_within env job budget steps (started, {}) hsteps
  rcases hwithin.journal with ⟨marks, hjournal, hspent, hbudget⟩
  rcases finishWet_marks env run.2 depth dry run.1 with
    ⟨hkept, emitted, hemitted, hemittedSpent⟩
  constructor
  · refine ⟨emitted ++ (marks ++ before), ?_, ?_, ?_⟩
    · simp only [after, run, hemitted, hjournal, hstarted, append_assoc]
    · exact hemittedSpent.append (hspent.append hbefore)
    · intro other hother
      rcases mem_append.mp hother with hold | hnew
      · exact .inl hold
      · right
        intro heffectBudget
        rw [mem_singleton.mp hnew] at heffectBudget ⊢
        rcases hbudget (hout ▸ heffectBudget) with hnone | hmark
        · cases hnone
        · rw [hrule]
          exact mem_append_right _ (mem_append_left _ hmark)
  · intro cont hcont
    rw [hkept] at hcont
    rcases hwithin.pending cont hcont with hold | hfunded
    · exact .inl (hcontinuations ▸ hold)
    · exact .inr hfunded

/-- Nothing ran: at most a mark that is not about the budget is set, and at most
a refusal is reported. -/
theorem refused_uncut {handled after : Handled} (marks : List Mark)
    (hjournal : after.1.journal = marks ++ handled.1.journal) (hmarks : NoneSpent marks)
    (hcontinuations : after.1.vol.continuations = handled.1.vol.continuations)
    (houtcomes : forall outcome, outcome ∈ after.2 ->
      outcome ∈ handled.2 ∨ outcome.partial_ ≠ some .effectBudget) :
    Uncut handled after ∧ OnlyFunded handled after := by
  constructor
  · refine ⟨marks, hjournal, hmarks, ?_⟩
    intro outcome houtcome
    rcases houtcomes outcome houtcome with hold | hother
    · exact .inl hold
    · exact .inr fun h => absurd h hother
  · intro cont hcont
    exact .inl (hcontinuations ▸ hcont)

theorem refusal_outcomes (handled : Handled) (rule : String) (mode : Mode) (kind : TriggerKind)
    {reason : PartialReason} (hreason : reason ≠ .effectBudget) :
    forall outcome, outcome ∈ handled.2 ++ [refusal rule mode kind reason] ->
      outcome ∈ handled.2 ∨ outcome.partial_ ≠ some .effectBudget := by
  intro outcome houtcome
  rcases mem_append.mp houtcome with hold | hnew
  · exact .inl hold
  · right
    rw [mem_singleton.mp hnew]
    intro h
    exact hreason (Option.some.inj h)

theorem activate_uncut {rule : Rule}
    (hrule : Affordable maxActionsExpanded (flattenRule rule.actions env.rules.blocks))
    (kind : TriggerKind) (ctx : EventCtx) (depth : Nat) (mode : Mode) (handled : Handled) :
    Uncut handled (activate env rule kind ctx depth mode handled)
      ∧ OnlyFunded handled (activate env rule kind ctx depth mode handled) := by
  have hmark : NoneSpent [Mark.evaluated rule.name depth] :=
    noneSpent_single fun _ => Mark.noConfusion
  unfold activate
  dsimp only
  split
  · exact refused_uncut [] rfl noneSpent_nil rfl fun _ h => .inl h
  · split
    · exact refused_uncut [.evaluated rule.name depth] rfl hmark rfl
        (refusal_outcomes handled rule.name mode kind (by decide))
    · split
      · unfold execute
        refine finished_uncut env _ hrule ?_ ?_ hmark depth _ rfl rfl
        · split <;> rfl
        · split <;> rfl
      · exact refused_uncut [.evaluated rule.name depth] rfl hmark rfl fun _ h => .inl h
      · exact refused_uncut [.evaluated rule.name depth] rfl hmark rfl
          (refusal_outcomes handled rule.name mode kind (by decide))

theorem resume_uncut {cont : Continuation} (hcont : Funded cont) (handled : Handled) :
    Uncut handled (resume env cont handled) ∧ OnlyFunded handled (resume env cont handled) := by
  have hmark : NoneSpent [Mark.fired cont.rule cont.seq] :=
    noneSpent_single fun _ => Mark.noConfusion
  unfold resume
  exact finished_uncut env _ hcont (by rfl) (by rfl) hmark cont.depth false rfl rfl

/-! ## All that a rule schedules -/

/-- The continuations that activations of the rule schedule, and those that they
schedule when they are resumed, in any world and from any state. -/
inductive ScheduledBy (set : RuleSet) (rule : Rule) : Continuation -> Prop where
  | activation (world : WorldSnapshot) (kind : TriggerKind) (ctx : EventCtx)
      (depth : Nat) (mode : Mode) (handled : Handled) {cont : Continuation}
      (hcont : cont ∈ (activate { world := world, rules := set } rule kind ctx depth
        mode handled).1.vol.continuations)
      (hnew : cont ∉ handled.1.vol.continuations) : ScheduledBy set rule cont
  | resumption (env : ExecEnv) {parent : Continuation}
      (hparent : ScheduledBy set rule parent) (handled : Handled) {cont : Continuation}
      (hcont : cont ∈ (resume env parent handled).1.vol.continuations)
      (hnew : cont ∉ handled.1.vol.continuations) : ScheduledBy set rule cont

section

variable {set : RuleSet} {rule : Rule} (hvalid : validate set = .ok ()) (hrule : rule ∈ set.rules)
include hvalid hrule

theorem validate_affordable :
    Affordable maxActionsExpanded (flattenRule rule.actions set.blocks) := by
  rcases flattenRule_eq hvalid hrule with ⟨_, hsound, hweight⟩
  exact ⟨hsound, hweight⟩

theorem scheduledBy_funded {cont : Continuation} (h : ScheduledBy set rule cont) : Funded cont := by
  induction h with
  | activation world kind ctx depth mode handled hcont hnew =>
    have honly := (activate_uncut { world := world, rules := set }
      (validate_affordable hvalid hrule) kind ctx depth mode handled).2
    exact (honly _ hcont).resolve_left hnew
  | resumption env hparent handled hcont hnew ih =>
    exact ((resume_uncut env ih handled).2 _ hcont).resolve_left hnew

end

/-- A rule of a valid set is expanded without failure, and no activation of it
and no continuation of it uses up its budget. -/
theorem rule_never_cut_short {set : RuleSet} {rule : Rule} (hvalid : validate set = .ok ())
    (hrule : rule ∈ set.rules) :
    AllSound (flattenRule rule.actions set.blocks)
      ∧ (forall world kind ctx depth mode handled, Uncut handled
          (activate { world := world, rules := set } rule kind ctx depth mode handled))
      ∧ forall cont, ScheduledBy set rule cont ->
          forall env handled, Uncut handled (resume env cont handled) := by
  have haffordable := validate_affordable hvalid hrule
  refine ⟨haffordable.sound, ?_, ?_⟩
  · intro world kind ctx depth mode handled
    exact (activate_uncut { world := world, rules := set } haffordable kind ctx depth
      mode handled).1
  · intro cont hcont env handled
    exact (resume_uncut env (scheduledBy_funded hvalid hrule hcont) handled).1

def nightRule : Rule where
  name := "night"
  enabled := true
  cooldownMs := 0
  holdHcl := true
  triggers := [.httpTrigger]
  conditions := []
  actions := [
    .conditional (.sunIs false) [.repeat_ 3 [.call "dim"]] [],
    .after 60000 [.prim (.light { op := .off, target := .broadcast 1, holdHcl := none })]]

def nightLight : RuleSet where
  langId := 1
  blocks := [{
    name := "dim"
    actions := [.prim (.light {
      op := .dim (-10)
      target := .broadcast 1
      holdHcl := none }), .wait 1000] }]
  rules := [nightRule]

theorem nightRule_never_cut_short :
    (exists cont, ScheduledBy nightLight nightRule cont)
      ∧ AllSound (flattenRule nightRule.actions nightLight.blocks)
      ∧ forall cont, ScheduledBy nightLight nightRule cont ->
          forall env handled, Uncut handled (resume env cont handled) := by
  have hvalid : validate nightLight = .ok () := rfl
  have hrule : nightRule ∈ nightLight.rules := mem_singleton.mpr rfl
  have h := rule_never_cut_short hvalid hrule
  refine ⟨?_, h.1, h.2.2⟩
  exact ⟨_, ScheduledBy.activation { nowMs := 0 } .httpTrigger {} 0 .manual
    ((Engine.new 0).state, []) (mem_singleton.mpr rfl) not_mem_nil⟩

end Oxidali.Rules
