import Oxidali.Rules.Eval

/-!
# Running the actions of a rule

The actions of a rule are expanded into one list of steps, and the steps are run
from a queue: a branch takes the steps of one side out of it, a wait suspends
what is left of it.
-/

namespace Oxidali.Rules

/-! ## Expanding the actions -/

def flattenStepCap : Nat := 256

structure FlattenCtx where
  inRepeat : Bool := false
  inConditional : Bool := false
  inAfter : Bool := false

/-- `count` times the body, as long as the cap allows. -/
def repeatBody (body : List FlatStep) : Nat -> List FlatStep -> List FlatStep
  | 0, out => out
  | count + 1, out =>
    if flattenStepCap < out.length + body.length then out ++ [.fail]
    else repeatBody body count (out ++ body)

section Flattening

-- `called` expands a call behind what has been expanded so far
variable (called : FlattenCtx -> String -> List FlatStep -> List FlatStep)

mutual

def flattenAction (ctx : FlattenCtx) : Action -> List FlatStep -> List FlatStep
  | .prim action, out => out ++ [.prim action]
  | .wait durationMs, out => out ++ [.wait durationMs]
  | .after delayMs actions, out =>
    if ctx.inAfter then out ++ [.fail]
    else
      out ++ [.afterSched delayMs (flattenList { ctx with inAfter := true } actions [])]
  | .call block, out => called ctx block out
  | .repeat_ count actions, out =>
    if ctx.inRepeat ∨ count = 0 ∨ maxRepeat < count then out ++ [.fail]
    else repeatBody (flattenList { ctx with inRepeat := true } actions []) count out
  | .conditional condition thenActions elseActions, out =>
    if ctx.inConditional then out ++ [.fail]
    else
      -- the lengths of the two sides are filled in behind them
      let nested := { ctx with inConditional := true }
      let opened := out ++ [.branch condition 0 0]
      let thenOut := flattenList nested thenActions opened
      let thenLen := thenOut.length - out.length - 1
      let elseOut := flattenList nested elseActions thenOut
      let elseLen := elseOut.length - out.length - 1 - thenLen
      elseOut.set out.length (.branch condition thenLen elseLen)

def flattenList (ctx : FlattenCtx) : List Action -> List FlatStep -> List FlatStep
  | [], out => out
  | action :: rest, out =>
    if flattenStepCap <= out.length then out ++ [.fail]
    else flattenList ctx rest (flattenAction ctx action out)

end
end Flattening

/-- `left` is what the call depth still allows. -/
def flattenCall (blocks : List DefBlock) :
    Nat -> FlattenCtx -> String -> List FlatStep -> List FlatStep
  | left, ctx, block, out =>
    match blocks.find? fun candidate => candidate.name = block with
    | none => out ++ [.fail]
    | some found =>
      match left with
      | 0 => out ++ [.fail]
      | left + 1 => flattenList (flattenCall blocks left) ctx found.actions out

def flattenRule (actions : List Action) (blocks : List DefBlock) : List FlatStep :=
  flattenList (flattenCall blocks maxBlockCallDepth) {} actions []

/-! ## Effects -/

inductive LightVerb where
  | on (level : Option Nat)
  | off
  | level (level : Nat)
  | dim (delta : Int)
  | cct (kelvin : Nat)
  | cctRelative (deltaK : Int)
  | xy (x1e4 y1e4 : Nat)
  | rgb (r g b : Nat)
  | lastActive
  | stopFade
  | recallMax
  | recallMin
  | dimUp
  | dimDown
deriving DecidableEq

inductive Effect where
  | light (target : LightTarget) (verb : LightVerb) (holdHcl : Bool)
  | sceneRecall (scene : Nat) (target : Option LightTarget) (holdHcl : Bool)
  | sceneApply (scene : Nat) (holdHcl : Bool)
  | hclResume (target : LightTarget)
  | hclHold (target : LightTarget)
  | hclSchedule (schedule : String) (enabled : Bool)
  | inputFeedback (input : InputRef) (on : Bool)
  | panelSelect (adapterId group selected : Nat)
  | cancelHold (input : InputRef)
  | catchMovement (input : InputRef)
  | mqttPublish (topic payload : String) (retain : Bool)
  | log (text : String)
deriving DecidableEq

inductive PartialReason where
  | conditionUnevaluable
  | effectBudget
  | chainDepth
deriving DecidableEq

/-! ## The state of a run -/

/-- What a run did, for statements about runs: the engine does not read it. -/
inductive Mark where
  | scheduled (rule : String) (seq : Nat)
  | fired (rule : String) (seq : Nat)
  | disabled (rule : String)
  | budgetSpent (rule : String)
  | tableFull (rule : String)
  | evaluated (rule : String) (depth : Nat)
  | emitted (effect : Effect) (depth atMs : Nat)
deriving DecidableEq

structure ExecState where
  enabled : List Bool
  vol : Volatile
  counters : EngineCounters
  /-- Newest first. -/
  journal : List Mark
  /-- The rules that the last input found due by the wall clock, newest first; the engine
  does not read it either. -/
  found : List (Nat × TriggerKind) := []

structure ExecEnv where
  world : WorldSnapshot
  rules : RuleSet

structure Job where
  rule : String
  triggerKind : TriggerKind
  depth : Nat
  dry : Bool
  holdHcl : Bool
  ctx : EventCtx

def ExecState.note (state : ExecState) (mark : Mark) : ExecState :=
  { state with journal := mark :: state.journal }

def ExecState.find (state : ExecState) (idx : Nat) (kind : TriggerKind) : ExecState :=
  { state with found := (idx, kind) :: state.found }

def ExecState.actionFailed (state : ExecState) : ExecState :=
  { state with counters := { state.counters with
    actionsFailed := bump state.counters.actionsFailed } }

variable (env : ExecEnv)

def evalEnv (ctx : EventCtx) (state : ExecState) : EvalEnv where
  world := env.world
  vol := state.vol
  rules := env.rules
  enabled := state.enabled
  ctx := ctx

def valueIn (job : Job) (state : ExecState) (expr : ValueExpr) : EvalResult Int :=
  (evalEnv env job.ctx state).evalValue expr

def conditionIn (job : Job) (state : ExecState) (condition : Condition) : EvalResult Bool :=
  (evalEnv env job.ctx state).evalCondition condition

/-! ## Primitive actions

`none` is an action that could not be evaluated. -/

def clampLevel (value : Int) : Nat :=
  (max 0 (min value maxLevel)).toNat

def clampKelvin (value : Int) : Nat :=
  (max 0 (min value 65535)).toNat

section Verbs

variable (env : ExecEnv) (job : Job) (state : ExecState)

def optLevel : Option ValueExpr -> EvalResult (Option Nat)
  | none => some none
  | some expr => (valueIn env job state expr).map fun value => some (clampLevel value)

def currentlyOn : LightTarget -> EvalResult Bool
  | .lamp lamp => (env.world.lamp lamp).map LampState.isOn
  | .group group => (env.world.group group).map GroupState.anyOn
  | .broadcast adapterId => some (env.world.anyLampOn adapterId)

def toggleVerb (level : Option ValueExpr) (target : LightTarget) : EvalResult LightVerb := do
  if <- currentlyOn env target then return .off
  else return .on (<- optLevel env job state level)

def levelVerb (spec : LevelSpec) (target : LightTarget) : EvalResult LightVerb :=
  match spec, target with
  | .absolute expr, _ =>
    (valueIn env job state expr).map fun value => .level (clampLevel value)
  | .relative delta, .lamp lamp => do
      let level <- (<- env.world.lamp lamp).level
      return .level (clampLevel (level + delta))
  | .relative _, _ => none

def cctVerb (spec : CctSpec) (target : LightTarget) : EvalResult LightVerb :=
  match spec, target with
  | .absolute expr, _ =>
    (valueIn env job state expr).map fun value => .cct (clampKelvin value)
  | .relative deltaK, .lamp lamp =>
    match (env.world.lamp lamp).bind LampState.cctKelvin with
    | some kelvin => some (.cct (clampKelvin (kelvin + deltaK)))
    | none => some (.cctRelative deltaK)
  | .relative _, _ => none

def lightVerb (target : LightTarget) : LightOp -> EvalResult LightVerb
  | .on level => (optLevel env job state level).map .on
  | .off => some .off
  | .toggle level => toggleVerb env job state level target
  | .level level => levelVerb env job state level target
  | .dim delta => some (.dim delta)
  | .dimHold .up => some .dimUp
  | .dimHold .down => some .dimDown
  | .cct cct => cctVerb env job state cct target
  | .xy x y => some (.xy x y)
  | .rgb r g b => some (.rgb r g b)
  | .lastActive => some .lastActive
  | .stopFade => some .stopFade
  | .recallMax => some .recallMax
  | .recallMin => some .recallMin

def primLight (light : LightAction) : EvalResult Effect :=
  (lightVerb env job state light.target light.op).map fun verb =>
    .light light.target verb (light.holdHcl.getD job.holdHcl)

def sceneNumber (expr : ValueExpr) : EvalResult Nat := do
  let value <- valueIn env job state expr
  if 0 <= value ∧ value <= maxScene then return value.toNat else none

def primInput : InputAction -> EvalResult Effect
  | .feedbackOn input => some (.inputFeedback input true)
  | .feedbackOff input => some (.inputFeedback input false)
  | .panelSelect adapterId group selected => do
      let value <- valueIn env job state selected
      if 0 <= value ∧ value <= maxInstanceGroup then
        return .panelSelect adapterId group value.toNat
      else none
  | .cancelHold input => some (.cancelHold input)
  | .catchMovement input => some (.catchMovement input)

def primHcl : HclAction -> Effect
  | .resume target => .hclResume target
  | .hold target => .hclHold target
  | .enable schedule => .hclSchedule schedule true
  | .disable schedule => .hclSchedule schedule false

end Verbs

section Primitives

variable (env : ExecEnv) (job : Job)

def cycleEffect (scenes : List Nat) (state : ExecState) : EvalResult Effect × ExecState :=
  if scenes.isEmpty then (none, state)
  else
    let pos := (lookup state.vol.cyclePos job.rule).getD 0 % scenes.length
    let effect := Effect.sceneRecall (scenes.getD pos 0) none job.holdHcl
    if job.dry then (some effect, state)
    else
      (some effect, { state with vol := { state.vol with
        cyclePos := insert state.vol.cyclePos job.rule ((pos + 1) % scenes.length) } })

def primScene (scene : SceneAction) (state : ExecState) : EvalResult Effect × ExecState :=
  match scene with
  | .recall_ scene target =>
    ((sceneNumber env job state scene).map fun number =>
      .sceneRecall number target job.holdHcl, state)
  | .apply scene =>
    ((sceneNumber env job state scene).map fun number =>
      .sceneApply number job.holdHcl, state)
  | .cycle scenes => cycleEffect job scenes state

variable (name : String)

def armTimer (durationMs : Nat) (state : ExecState) : EvalResult Unit × ExecState :=
  if job.dry then (some (), state)
  else if maxTimers <= state.vol.timers.length then (none, state)
  else
    (some (), { state with vol := { state.vol with
      timers := state.vol.timers
        ++ [{ name := name, dueMs := laterMs env.world.nowMs durationMs }] } })

def cancelTimer (state : ExecState) : ExecState :=
  if job.dry then state else { state with vol := state.vol.cancelTimer name }

def primTimer (timer : TimerAction) (state : ExecState) : EvalResult Unit × ExecState :=
  match timer with
  | .start timer durationMs =>
    if (state.vol.timer timer).isSome then (some (), state)
    else armTimer env job timer durationMs state
  | .restart timer durationMs =>
    armTimer env job timer durationMs (cancelTimer job timer state)
  | .cancel timer => (some (), cancelTimer job timer state)

def varSet (value : VarValue) (state : ExecState) : EvalResult Unit × ExecState :=
  let tooLong := match value with
    | .text text => decide (maxVarTextBytes < text.utf8ByteSize)
    | .int _ => false
  if tooLong then (none, state)
  else if job.dry then (some (), state)
  else if (lookup state.vol.vars name).isNone ∧ maxVars <= state.vol.vars.length then
    (none, state)
  else
    (some (), { state with vol := { state.vol with
      vars := insert state.vol.vars name value } })

def varAdd (delta : ValueExpr) (state : ExecState) : EvalResult Unit × ExecState :=
  match valueIn env job state delta, lookup state.vol.vars name with
  | none, _ => (none, state)
  | some _, some (.text _) => (none, state)
  | some step, some (.int value) =>
    varSet job name (.int (EvalEnv.saturatingAdd value step)) state
  | some step, none => varSet job name (.int step) state

/-- Disabling a rule drops what it has pending. -/
def flipRuleBit (idx : Nat) (rule : String) (value : Bool) (state : ExecState) : ExecState :=
  let enabled := state.enabled.set idx value
  if value then { state with enabled := enabled }
  else
    let kept := state.vol.continuations.filter fun cont => cont.rule ≠ rule
    let dropped := saturating state.counters.continuationsDropped
      (state.vol.continuations.length - kept.length)
    { state with
      enabled := enabled
      vol := { state.vol with continuations := kept }
      counters := { state.counters with continuationsDropped := dropped }
      journal := .disabled rule :: state.journal }

def setRuleBit (rule : String) (value : Bool) (state : ExecState) : EvalResult Unit × ExecState :=
  match env.rules.rules.findIdx? fun candidate => candidate.name = rule with
  | none => (none, state)
  | some idx =>
    if job.dry then (some (), state) else (some (), flipRuleBit idx rule value state)

def silent (out : EvalResult Unit × ExecState) : EvalResult (Option Effect) × ExecState :=
  (out.1.map fun _ => none, out.2)

def primState (action : StateAction) (state : ExecState) : EvalResult (Option Effect) × ExecState :=
  match action with
  | .varSet name value => silent (varSet job name value state)
  | .varAdd name delta => silent (varAdd env job name delta state)
  | .ruleEnable rule => silent (setRuleBit env job rule true state)
  | .ruleDisable rule => silent (setRuleBit env job rule false state)
  | .mqttPublish topic payload retain =>
    (some (some (.mqttPublish topic payload retain)), state)
  | .log text => (some (some (.log text)), state)
  | .statCount name =>
    (some none, if job.dry then state else { state with vol := state.vol.countStat name })

def executePrim (action : Primitive) (state : ExecState) : EvalResult (Option Effect) × ExecState :=
  match action with
  | .light light => ((primLight env job state light).map some, state)
  | .scene scene =>
    let out := primScene env job scene state
    (out.1.map some, out.2)
  | .hcl hcl => (some (some (primHcl hcl)), state)
  | .input input => ((primInput env job state input).map some, state)
  | .timer timer => silent (primTimer env job timer state)
  | .state action => primState env job action state

end Primitives

/-! ## Running the steps -/

structure RunOutput where
  effects : List Effect := []
  partial_ : Option PartialReason := none
deriving DecidableEq

/-- Only the first reason is kept. -/
def RunOutput.notePartial (out : RunOutput) (reason : PartialReason) : RunOutput :=
  match out.partial_ with
  | none => { out with partial_ := some reason }
  | some _ => out

def runPrim (env : ExecEnv) (job : Job) (action : Primitive)
    (run : ExecState × RunOutput) : ExecState × RunOutput :=
  let executed := executePrim env job action run.1
  match executed.1 with
  | some (some effect) =>
    (executed.2, { run.2 with effects := run.2.effects ++ [effect] })
  | some none => (executed.2, run.2)
  | none => (executed.2.actionFailed, run.2.notePartial .conditionUnevaluable)

def scheduleContinuation (env : ExecEnv) (job : Job) (budgetLeft delayMs : Nat)
    (steps : List FlatStep) (run : ExecState × RunOutput) : ExecState × RunOutput :=
  let state := run.1
  if maxPendingContinuations <= state.vol.continuations.length then
    let counters := { state.counters with
      continuationsDropped := bump state.counters.continuationsDropped }
    ({ state with
        counters := counters
        journal := .tableFull job.rule :: state.journal },
      run.2.notePartial .effectBudget)
  else
    let seq := state.vol.seq + 1
    let cont : Continuation := {
      seq := seq
      dueMs := laterMs env.world.nowMs delayMs
      rule := job.rule
      triggerKind := job.triggerKind
      depth := job.depth
      budgetLeft := budgetLeft
      ctx := job.ctx
      steps := steps }
    let counters := { state.counters with
      continuationsScheduled := bump state.counters.continuationsScheduled }
    ({ state with
        vol := { state.vol with
          seq := seq
          continuations := state.vol.continuations ++ [cont] }
        counters := counters
        journal := .scheduled job.rule seq :: state.journal }, run.2)

/-- The condition could not be evaluated: neither side runs. -/
def branchUnevaluable (run : ExecState × RunOutput) : ExecState × RunOutput :=
  (run.1.actionFailed, run.2.notePartial .conditionUnevaluable)

/-- Runs the queue of steps.  Every turn of the loop spends one unit of the
budget, so the loop is a recursion on it. -/
def runSteps (env : ExecEnv) (job : Job) :
    Nat -> List FlatStep -> ExecState × RunOutput -> ExecState × RunOutput
  | _, [], run => run
  | 0, _ :: _, run =>
    (run.1.note (.budgetSpent job.rule), run.2.notePartial .effectBudget)
  | budgetLeft + 1, step :: steps, run =>
    match step with
    | .prim action => runSteps env job budgetLeft steps (runPrim env job action run)
    | .wait ms =>
      if job.dry then runSteps env job budgetLeft steps run
      else scheduleContinuation env job budgetLeft ms steps run
    | .branch condition thenLen elseLen =>
      let thenRegion := steps.take thenLen
      let elseRegion := (steps.drop thenLen).take elseLen
      let rest := (steps.drop thenLen).drop elseLen
      match conditionIn env job run.1 condition with
      | some true => runSteps env job budgetLeft (thenRegion ++ rest) run
      | some false => runSteps env job budgetLeft (elseRegion ++ rest) run
      | none => runSteps env job budgetLeft rest (branchUnevaluable run)
    | .afterSched delayMs body =>
      if job.dry then runSteps env job budgetLeft (steps ++ body) run
      else
        runSteps env job budgetLeft steps (scheduleContinuation env job budgetLeft delayMs body run)
    | .fail => runSteps env job budgetLeft steps (branchUnevaluable run)

end Oxidali.Rules
