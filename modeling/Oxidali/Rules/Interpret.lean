import Oxidali.Rules.Budget

/-!
# The meaning of the actions of a rule

A statement is an action whose calls are replaced by the blocks they name.
Statements are interpreted by recursion on their structure: in sequence, a
repetition as often as it says, one side of a conditional, a wait giving up with
what is left, a deferred body left for later.  The queue of steps that the
engine runs does what the interpretation does.
-/

namespace Oxidali.Rules

open List

inductive Stmt where
  | prim (action : Primitive)
  | wait (durationMs : Nat)
  | after (delayMs : Nat) (body : List Stmt)
  | repeat_ (count : Nat) (body : List Stmt)
  | conditional (condition : Condition) (thenBody elseBody : List Stmt)

/-! ## Replacing the calls -/

section Inlining

-- the statements of a called block
variable (called : String -> List Stmt)

mutual

def inlineAction : Action -> List Stmt
  | .prim action => [.prim action]
  | .wait durationMs => [.wait durationMs]
  | .after delayMs actions => [.after delayMs (inlineActions actions)]
  | .call block => called block
  | .repeat_ count actions => [.repeat_ count (inlineActions actions)]
  | .conditional condition thenActions elseActions =>
    [.conditional condition (inlineActions thenActions) (inlineActions elseActions)]

def inlineActions : List Action -> List Stmt
  | [] => []
  | action :: rest => inlineAction action ++ inlineActions rest

end
end Inlining

def inlineCall (blocks : List DefBlock) : Nat -> String -> List Stmt
  | 0, _ => []
  | left + 1, block =>
    match blocks.find? fun candidate => candidate.name = block with
    | none => []
    | some found => inlineActions (inlineCall blocks left) found.actions

/-! ## The steps of statements -/

mutual

def Stmt.steps : Stmt -> List FlatStep
  | .prim action => [.prim action]
  | .wait durationMs => [.wait durationMs]
  | .after delayMs body => [.afterSched delayMs (stepsOf body)]
  | .repeat_ count body => copies count (stepsOf body)
  | .conditional condition thenBody elseBody =>
    .branch condition (stepsOf thenBody).length (stepsOf elseBody).length
      :: (stepsOf thenBody ++ stepsOf elseBody)

def stepsOf : List Stmt -> List FlatStep
  | [] => []
  | stmt :: rest => stmt.steps ++ stepsOf rest

end

theorem stepsOf_append (first second : List Stmt) :
    stepsOf (first ++ second) = stepsOf first ++ stepsOf second := by
  induction first with
  | nil => simp [stepsOf]
  | cons stmt rest ih => simp [stepsOf, ih]

theorem stepsOf_singleton (stmt : Stmt) : stepsOf [stmt] = stmt.steps := by
  simp [stepsOf]

theorem allSound_of_copies {count : Nat} {body : List FlatStep}
    (h : AllSound (copies (count + 1) body)) : AllSound body := by
  rw [copies_succ, allSound_append] at h
  exact h.1

/-- The statements of the called blocks have the steps of the blocks. -/
def CallSteps (expanded : String -> List FlatStep) (called : String -> List Stmt) : Prop :=
  forall block, AllSound (expanded block) -> stepsOf (called block) = expanded block

section Inlined

variable {expanded : String -> List FlatStep} {called : String -> List Stmt}

mutual

theorem inlineAction_steps (hcall : CallSteps expanded called) :
    forall action, AllSound (expandAction expanded action) ->
      stepsOf (inlineAction called action) = expandAction expanded action
  | .prim action, _ | .wait durationMs, _ =>
    by simp [inlineAction, expandAction, stepsOf, Stmt.steps]
  | .after delayMs actions, hsound => by
      rw [expandAction, allSound_cons, FlatStep.Sound] at hsound
      rw [inlineAction, stepsOf_singleton, Stmt.steps, expandAction,
        inlineActions_steps hcall actions hsound.1]
  | .call block, hsound => by
      rw [expandAction] at hsound
      rw [inlineAction, expandAction]
      exact hcall block hsound
  | .repeat_ 0 actions, _ => by
      simp [inlineAction, expandAction, stepsOf, Stmt.steps, copies]
  | .repeat_ (count + 1) actions, hsound => by
      rw [expandAction] at hsound
      rw [inlineAction, stepsOf_singleton, Stmt.steps, expandAction,
        inlineActions_steps hcall actions (allSound_of_copies hsound)]
  | .conditional condition thenActions elseActions, hsound => by
      rw [expandAction, allSound_cons, allSound_append] at hsound
      rw [inlineAction, stepsOf_singleton, Stmt.steps, expandAction,
        inlineActions_steps hcall thenActions hsound.2.1,
        inlineActions_steps hcall elseActions hsound.2.2]

theorem inlineActions_steps (hcall : CallSteps expanded called) :
    forall actions, AllSound (expandActions expanded actions) ->
      stepsOf (inlineActions called actions) = expandActions expanded actions
  | [], _ => by simp [inlineActions, expandActions, stepsOf]
  | action :: rest, hsound => by
      rw [expandActions, allSound_append] at hsound
      rw [inlineActions, stepsOf_append, expandActions, inlineAction_steps hcall action hsound.1,
        inlineActions_steps hcall rest hsound.2]

end
end Inlined

theorem inlineCall_steps (blocks : List DefBlock) (left : Nat) :
    CallSteps (expandCall blocks left) (inlineCall blocks left) := by
  induction left with
  | zero =>
    intro block hsound
    unfold expandCall at hsound
    split at hsound
    · simp [FlatStep.Sound] at hsound
    · simp [FlatStep.Sound] at hsound
  | succ left ih =>
    intro block hsound
    unfold expandCall at hsound ⊢
    unfold inlineCall
    cases hfound : blocks.find? fun candidate => candidate.name = block with
    | none =>
      rw [hfound] at hsound
      simp [FlatStep.Sound] at hsound
    | some found =>
      rw [hfound] at hsound
      exact inlineActions_steps ih found.actions hsound

def ruleStmts (actions : List Action) (blocks : List DefBlock) : List Stmt :=
  inlineActions (inlineCall blocks maxBlockCallDepth) actions

theorem ruleStmts_steps {set : RuleSet} {rule : Rule} (hvalid : validate set = .ok ())
    (hrule : rule ∈ set.rules) :
    stepsOf (ruleStmts rule.actions set.blocks) = flattenRule rule.actions set.blocks := by
  rcases flattenRule_eq hvalid hrule with ⟨hsteps, hsound, _⟩
  rw [hsteps] at hsound ⊢
  exact inlineActions_steps (inlineCall_steps set.blocks maxBlockCallDepth) rule.actions hsound

/-! ## Interpretation -/

/-- Where the interpretation of a rule stands.  `later` is what a dry run does
once the rest is done; a run that is not dry schedules it instead. -/
structure Interp where
  budget : Nat
  run : ExecState × RunOutput
  later : List Stmt := []

inductive Flow where
  | done (state : Interp)
  | suspended (state : Interp) (delayMs : Nat) (rest : List Stmt)

/-- `next` follows, with `rest` to do in case there is no getting to it. -/
def Flow.andThen (flow : Flow) (rest : List Stmt) (next : Interp -> Flow) : Flow :=
  match flow with
  | .done state => next state
  | .suspended state delayMs inner => .suspended state delayMs (inner ++ rest)

/-- One unit of the budget for an action that is carried out. -/
def Interp.spend (state : Interp) (run : ExecState × RunOutput) : Interp :=
  { state with budget := state.budget - 1, run := run }

theorem spend_later (state : Interp) (run : ExecState × RunOutput) :
    (state.spend run).later = state.later :=
  rfl

def execTimes (body : List Stmt) (once : Interp -> Flow) : Nat -> Interp -> Flow
  | 0, state => .done state
  | count + 1, state =>
    (once state).andThen [.repeat_ count body] (execTimes body once count)

section Interpretation

variable (env : ExecEnv) (job : Job)

mutual

def execStmt : Stmt -> Interp -> Flow
  | .prim action, state => .done (state.spend (runPrim env job action state.run))
  | .wait durationMs, state =>
    if job.dry then .done (state.spend state.run)
    else .suspended (state.spend state.run) durationMs []
  | .after delayMs body, state =>
    if job.dry then .done { state.spend state.run with later := state.later ++ body }
    else
      .done (state.spend (scheduleContinuation env job (state.budget - 1) delayMs
        (stepsOf body) state.run))
  | .repeat_ count body, state =>
    execTimes body (fun state => execStmts body state) count state
  | .conditional condition thenBody elseBody, state =>
    match conditionIn env job state.run.1 condition with
    | some true => execStmts thenBody (state.spend state.run)
    | some false => execStmts elseBody (state.spend state.run)
    | none => .done (state.spend (branchUnevaluable state.run))

def execStmts : List Stmt -> Interp -> Flow
  | [], state => .done state
  | stmt :: rest, state =>
    (execStmt stmt state).andThen rest fun state => execStmts rest state

end

/-- Interprets the statements, then what they left for later, and so on; a wait
schedules what is left. -/
def interpret : Nat -> List Stmt -> Nat -> ExecState × RunOutput -> ExecState × RunOutput
  | 0, _, _, run => run
  | rounds + 1, stmts, budget, run =>
    match execStmts env job stmts { budget := budget, run := run } with
    | .done state => interpret rounds state.later state.budget state.run
    | .suspended state delayMs rest =>
      scheduleContinuation env job state.budget delayMs (stepsOf rest) state.run

/-! ## The queue does what the interpretation does -/

/-- What is left to do after `flow`, with the steps `tail` to come. -/
def settled (tail : List FlatStep) : Flow -> ExecState × RunOutput
  | .done state => runSteps env job state.budget (tail ++ stepsOf state.later) state.run
  | .suspended state delayMs rest =>
    scheduleContinuation env job state.budget delayMs
      (stepsOf rest ++ (tail ++ stepsOf state.later)) state.run

/-- The budget still covers what is to come, and only a dry run leaves anything
for later, at the price of one unit at least. -/
def Carries (before : Interp) (tail : List FlatStep) : Flow -> Prop
  | .done state => Affordable state.budget (tail ++ stepsOf state.later)
      ∧ state.budget <= before.budget
      ∧ (state.later = before.later ∨ job.dry = true ∧ state.budget < before.budget)
  | .suspended state _ _ => state.later = before.later ∧ job.dry = false

/-- Running `code` and then anything else is interpreting and then the rest. -/
def Simulates (code : List FlatStep) (exec : Interp -> Flow) : Prop :=
  forall state tail, Affordable state.budget (code ++ (tail ++ stepsOf state.later)) ->
    runSteps env job state.budget (code ++ (tail ++ stepsOf state.later)) state.run
        = settled env job tail (exec state)
      ∧ Carries job state tail (exec state)

variable {env : ExecEnv} {job : Job}

theorem simulates_nil : Simulates env job [] Flow.done := by
  intro state tail h
  exact ⟨rfl, h, Nat.le_refl _, .inl rfl⟩

theorem Carries.trans {before middle : Interp} {first tail : List FlatStep} {flow : Flow}
    (h : Carries job before first (.done middle))
    (h' : Carries job middle tail flow) : Carries job before tail flow := by
  rcases h with ⟨_, hbudget, hlater⟩
  cases flow with
  | done state =>
    rcases h' with ⟨hafford, hbudget', hlater'⟩
    refine ⟨hafford, Nat.le_trans hbudget' hbudget, ?_⟩
    rcases hlater' with hsame | ⟨hdry, hless⟩
    · rcases hlater with hsame' | ⟨hdry, hless⟩
      · exact .inl (hsame.trans hsame')
      · exact .inr ⟨hdry, Nat.lt_of_le_of_lt hbudget' hless⟩
    · exact .inr ⟨hdry, Nat.lt_of_lt_of_le hless hbudget⟩
  | suspended state delayMs rest =>
    rcases h' with ⟨hsame, hwet⟩
    rcases hlater with hsame' | ⟨hdry, _⟩
    · exact ⟨hsame.trans hsame', hwet⟩
    · rw [hwet] at hdry
      cases hdry

theorem Simulates.andThen {first : List FlatStep} {exec next : Interp -> Flow} {rest : List Stmt}
    (h : Simulates env job first exec) (hnext : Simulates env job (stepsOf rest) next) :
    Simulates env job (first ++ stepsOf rest) (fun state => (exec state).andThen rest next) := by
  intro state tail hafford
  have hassoc : first ++ stepsOf rest ++ (tail ++ stepsOf state.later)
      = first ++ ((stepsOf rest ++ tail) ++ stepsOf state.later) := by
    simp only [append_assoc]
  rw [hassoc] at hafford ⊢
  rcases h state (stepsOf rest ++ tail) hafford with ⟨hrun, hcarries⟩
  rw [hrun]
  change settled env job (stepsOf rest ++ tail) (exec state)
      = settled env job tail ((exec state).andThen rest next)
    ∧ Carries job state tail ((exec state).andThen rest next)
  generalize exec state = flow at hcarries ⊢
  cases flow with
  | done middle =>
    have hmiddle := hcarries.1
    rw [append_assoc] at hmiddle
    rcases hnext middle tail hmiddle with ⟨hrun', hcarries'⟩
    constructor
    · rw [settled, append_assoc, hrun']
      rfl
    · exact hcarries.trans hcarries'
  | suspended middle delayMs inner =>
    constructor
    · simp only [settled, Flow.andThen, stepsOf_append, append_assoc]
    · exact hcarries

theorem simulates_times {body : List Stmt} {once : Interp -> Flow}
    (h : Simulates env job (stepsOf body) once) (count : Nat) :
    Simulates env job (copies count (stepsOf body)) (execTimes body once count) := by
  induction count with
  | zero => exact simulates_nil
  | succ count ih =>
    have hrest : stepsOf [.repeat_ count body] = copies count (stepsOf body) := by
      rw [stepsOf_singleton, Stmt.steps]
    rw [copies_succ, <- hrest]
    rw [<- hrest] at ih
    exact h.andThen ih

theorem Affordable.pos {budget : Nat} {step : FlatStep} {steps : List FlatStep}
    (h : Affordable budget (step :: steps)) : exists left, budget = left + 1 := by
  cases budget with
  | zero =>
    have hweight := h.weight
    rw [weights_cons] at hweight
    have := weight_pos step
    omega
  | succ left => exact ⟨left, rfl⟩

theorem simulates_turn (step : FlatStep)
    (act : Nat -> ExecState × RunOutput -> ExecState × RunOutput)
    (h : forall left rest run, runSteps env job (left + 1) (step :: rest) run
        = runSteps env job left rest (act left run)) :
    Simulates env job [step]
      (fun state => .done (state.spend (act (state.budget - 1) state.run))) := by
  intro state tail hafford
  rcases hafford.pos with ⟨left, hleft⟩
  rw [singleton_append] at hafford ⊢
  rw [hleft] at hafford ⊢
  constructor
  · rw [h]
    simp only [settled, Interp.spend, hleft, Nat.add_sub_cancel]
  · refine ⟨?_, ?_, .inl rfl⟩
    · simpa only [Interp.spend, hleft, Nat.add_sub_cancel] using hafford.rest
    · exact Nat.sub_le _ _

theorem simulates_wait (ms : Nat) : Simulates env job [.wait ms] (execStmt env job (.wait ms)) := by
  by_cases hdry : job.dry = true
  · have hturn : forall left rest run, runSteps env job (left + 1) (.wait ms :: rest) run
        = runSteps env job left rest run := by
      intro left rest run
      rw [runSteps, if_pos hdry]
    simpa only [execStmt, if_pos hdry] using simulates_turn (.wait ms) (fun _ run => run) hturn
  · intro state tail hafford
    rcases hafford.pos with ⟨left, hleft⟩
    rw [execStmt, if_neg hdry, singleton_append, hleft]
    constructor
    · rw [runSteps, if_neg hdry]
      simp [settled, Interp.spend, hleft, stepsOf]
    · exact ⟨rfl, Bool.eq_false_iff.mpr hdry⟩

theorem simulates_after (delayMs : Nat) (body : List Stmt) :
    Simulates env job [.afterSched delayMs (stepsOf body)]
      (execStmt env job (.after delayMs body)) := by
  by_cases hdry : job.dry = true
  · intro state tail hafford
    rcases hafford.pos with ⟨left, hleft⟩
    rw [singleton_append] at hafford ⊢
    rw [hleft] at hafford ⊢
    have hbody := hafford.body
    rw [execStmt, if_pos hdry, runSteps, if_pos hdry]
    rw [append_assoc, <- stepsOf_append] at hbody ⊢
    constructor
    · simp only [settled, Interp.spend, hleft, Nat.add_sub_cancel]
    · refine ⟨?_, ?_, .inr ⟨hdry, ?_⟩⟩
      · simpa only [Interp.spend, hleft, Nat.add_sub_cancel] using hbody
      · exact Nat.sub_le _ _
      · simp only [Interp.spend, hleft, Nat.add_sub_cancel]
        exact Nat.lt_succ_self left
  · have hturn : forall left rest run,
        runSteps env job (left + 1) (.afterSched delayMs (stepsOf body) :: rest) run
          = runSteps env job left rest
              (scheduleContinuation env job left delayMs (stepsOf body) run) := by
      intro left rest run
      rw [runSteps, if_neg hdry]
    simpa only [execStmt, if_neg hdry] using simulates_turn _ _ hturn

theorem simulates_conditional (condition : Condition) {thenBody elseBody : List Stmt}
    (hthen : Simulates env job (stepsOf thenBody) (execStmts env job thenBody))
    (helse : Simulates env job (stepsOf elseBody) (execStmts env job elseBody)) :
    Simulates env job (Stmt.conditional condition thenBody elseBody).steps
      (execStmt env job (.conditional condition thenBody elseBody)) := by
  intro state tail hafford
  rw [Stmt.steps, cons_append] at hafford ⊢
  rcases hafford.pos with ⟨left, hleft⟩
  rw [hleft] at hafford ⊢
  have hrest := hafford.rest
  rw [append_assoc] at hrest
  have hspent : forall run, (state.spend run).budget = left := by
    intro run
    simp only [Interp.spend, hleft, Nat.add_sub_cancel]
  have hstep : Carries job state (stepsOf thenBody ++ (stepsOf elseBody ++ tail))
      (.done (state.spend state.run)) := by
    refine ⟨?_, Nat.sub_le _ _, .inl rfl⟩
    simpa only [hspent, spend_later, append_assoc] using hrest
  rw [runSteps, execStmt, append_assoc, take_left, drop_left, take_left, drop_left]
  cases conditionIn env job state.run.1 condition with
  | none =>
    refine ⟨?_, ?_, Nat.sub_le _ _, .inl rfl⟩
    · simp only [settled, hspent]
      rfl
    · rw [hspent]
      exact hrest.right.right
  | some verdict =>
    cases verdict with
    | true =>
      have hbranch := hthen (state.spend state.run) tail
      rw [hspent] at hbranch
      rcases hbranch hrest.without with ⟨hrun, hcarries⟩
      exact ⟨hrun, hstep.trans hcarries⟩
    | false =>
      have hbranch := helse (state.spend state.run) tail
      rw [hspent] at hbranch
      rcases hbranch hrest.right with ⟨hrun, hcarries⟩
      exact ⟨hrun, hstep.trans hcarries⟩

mutual

theorem execStmt_simulates : forall stmt, Simulates env job stmt.steps (execStmt env job stmt)
  | .prim action => by
      rw [Stmt.steps]
      simpa only [execStmt] using simulates_turn (.prim action)
        (fun _ run => runPrim env job action run) (fun _ _ _ => by rw [runSteps])
  | .wait ms => by
      rw [Stmt.steps]
      exact simulates_wait ms
  | .after delayMs body => by
      rw [Stmt.steps]
      exact simulates_after delayMs body
  | .repeat_ count body => by
      rw [Stmt.steps]
      simpa only [execStmt] using simulates_times (execStmts_simulates body) count
  | .conditional condition thenBody elseBody =>
    simulates_conditional condition (execStmts_simulates thenBody) (execStmts_simulates elseBody)

theorem execStmts_simulates : forall stmts, Simulates env job (stepsOf stmts)
    (execStmts env job stmts)
  | [] => by
      simpa only [stepsOf, execStmts] using simulates_nil
  | stmt :: rest => by
      rw [stepsOf]
      simpa only [execStmts] using (execStmt_simulates stmt).andThen (execStmts_simulates rest)

end

theorem interpret_nil (rounds budget : Nat) (run : ExecState × RunOutput) :
    interpret env job rounds [] budget run = run := by
  induction rounds with
  | zero => rfl
  | succ rounds ih => simpa only [interpret, execStmts] using ih

theorem runSteps_nil (budget : Nat) (run : ExecState × RunOutput) :
    runSteps env job budget [] run = run := by
  cases budget with
  | zero | succ budget => rfl

theorem interpret_eq (rounds : Nat) :
    forall stmts budget run, Affordable budget (stepsOf stmts) -> budget < rounds ->
      runSteps env job budget (stepsOf stmts) run = interpret env job rounds stmts budget run := by
  induction rounds with
  | zero =>
    intro stmts budget run _ hrounds
    cases hrounds
  | succ rounds ih =>
    intro stmts budget run hafford hrounds
    have hnothing : stepsOf stmts ++ ([] ++ stepsOf []) = stepsOf stmts := by
      rw [stepsOf, append_nil, append_nil]
    have hsim : Simulates env job (stepsOf stmts) (execStmts env job stmts) :=
      execStmts_simulates stmts
    have hstart := hsim { budget := budget, run := run } []
    rw [hnothing] at hstart
    rcases hstart hafford with ⟨hrun, hcarries⟩
    rw [hrun, interpret]
    generalize execStmts env job stmts { budget := budget, run := run } = flow at hcarries ⊢
    cases flow with
    | done state =>
      rcases hcarries with ⟨hlater, _, hless⟩
      simp only [settled, nil_append] at hlater ⊢
      rcases hless with hsame | ⟨_, hless⟩
      · have hempty : state.later = [] := hsame
        rw [hempty, interpret_nil, stepsOf, runSteps_nil]
      · exact ih state.later state.budget state.run hlater
          (Nat.lt_of_lt_of_le hless (Nat.le_of_lt_succ hrounds))
    | suspended state delayMs rest =>
      have hempty : state.later = [] := hcarries.1
      rw [settled, hempty, stepsOf, append_nil, append_nil]

end Interpretation

/-- The steps of a rule of a valid set do what its actions say, from any state and
in any world; so do the steps of whatever is left of them later. -/
theorem flattenRule_interprets {set : RuleSet} {rule : Rule} (hvalid : validate set = .ok ())
    (hrule : rule ∈ set.rules) :
    (forall env job run,
        runSteps env job budgetForActivation (flattenRule rule.actions set.blocks) run
          = interpret env job (budgetForActivation + 1)
              (ruleStmts rule.actions set.blocks) budgetForActivation run)
      ∧ forall env job budget rest run, Affordable budget (stepsOf rest) ->
          runSteps env job budget (stepsOf rest) run
            = interpret env job (budget + 1) rest budget run := by
  constructor
  · intro env job run
    have hafford := validate_affordable hvalid hrule
    rw [<- ruleStmts_steps hvalid hrule] at hafford ⊢
    exact interpret_eq (budgetForActivation + 1) _ budgetForActivation run hafford
      (Nat.lt_succ_self _)
  · intro env job budget rest run hafford
    exact interpret_eq (budget + 1) rest budget run hafford (Nat.lt_succ_self _)

def midnight : ExecEnv where
  world := {
    nowMs := 0
    wall := some { minutesOfDay := 0, weekday := 0 }
    sun := some { sunriseMin := 360, sunsetMin := 1080 } }
  rules := nightLight

def nightJob : Job where
  rule := "night"
  triggerKind := .httpTrigger
  depth := 0
  dry := false
  holdHcl := true
  ctx := {}

/-- The first wait suspends the other two rounds and the deferred body. -/
theorem nightRule_interprets :
    let run := interpret midnight nightJob (budgetForActivation + 1)
      (ruleStmts nightRule.actions nightLight.blocks) budgetForActivation ((Engine.new 0).state, {})
    runSteps midnight nightJob budgetForActivation
        (flattenRule nightRule.actions nightLight.blocks) ((Engine.new 0).state, {}) = run
      ∧ run.2.effects = [.light (.broadcast 1) (.dim (-10)) true]
      ∧ run.1.vol.continuations.map (fun cont => (cont.dueMs, cont.steps.length))
          = [(1000, 5)] := by
  have hvalid : validate nightLight = .ok () := rfl
  have hrule : nightRule ∈ nightLight.rules := mem_singleton.mpr rfl
  have hsame := (flattenRule_interprets hvalid hrule).1 midnight nightJob
    ((Engine.new 0).state, {})
  exact ⟨hsame, by decide +kernel, by decide +kernel⟩

end Oxidali.Rules
