import Oxidali.Rules.Matching

/-!
# The rule engine

An input activates the rules whose triggers match it, in the order of their
names; a tick resumes what is due and fires timers, periods and schedules.
-/

namespace Oxidali.Rules

structure ActivationOutcome where
  rule : String
  dry : Bool
  effects : List Effect
  partial_ : Option PartialReason
  triggerKind : TriggerKind

/-- The state of a run with the outcomes so far. -/
abbrev Handled := ExecState × List ActivationOutcome

/-! ## Sorting -/

section Sorting

variable {α : Type} (isAfter : α -> α -> Bool)

/-- `item` in front of the elements that are after it. -/
def insertSorted (item : α) : List α -> List α
  | [] => [item]
  | other :: rest =>
    if isAfter other item then item :: other :: rest
    else other :: insertSorted item rest

def insertionSortBy (items : List α) : List α :=
  items.foldl (fun sorted item => insertSorted isAfter item sorted) []

theorem insertSorted_perm (item : α) (items : List α) :
    (insertSorted isAfter item items).Perm (item :: items) := by
  induction items with
  | nil => exact .refl _
  | cons head rest ih =>
    simp only [insertSorted]
    split
    · exact .refl _
    · exact (ih.cons head).trans (.swap item head rest)

theorem insertionSortBy_perm (items : List α) : (insertionSortBy isAfter items).Perm items := by
  have hfold : forall sorted, (items.foldl
      (fun sorted item => insertSorted isAfter item sorted) sorted).Perm (sorted ++ items) := by
    induction items with
    | nil => exact fun sorted => by simp
    | cons item rest ih =>
      intro sorted
      refine (ih _).trans (((insertSorted_perm isAfter item sorted).append_right rest).trans ?_)
      exact List.perm_middle.symm
  exact hfold []

theorem insertionSortBy_mem {other : α} {items : List α} :
    other ∈ insertionSortBy isAfter items <-> other ∈ items :=
  (insertionSortBy_perm isAfter items).mem_iff

end Sorting

/-! ## Activating a rule -/

inductive Mode where
  | auto
  | manual
  | dry
deriving DecidableEq

def effectChainKeys : Effect -> List ChainKey
  | .light target _ _ => targetChainKeys target
  | .sceneRecall scene target _ =>
    .scene scene :: (target.map targetChainKeys).getD []
  | .sceneApply scene _ => [.scene scene]
  | .hclResume target => [.hcl target]
  | .hclHold target => [.hcl target]
  | .mqttPublish topic _ _ => [.brokerTopic topic]
  | _ => []

/-- Remembers what the effect may cause. -/
def recordEffectChain (effect : Effect) (depth nowMs : Nat) (state : ExecState) : ExecState :=
  { state with
    vol := (effectChainKeys effect).foldl (fun vol key => vol.recordChain key depth nowMs) state.vol
    journal := .emitted effect depth nowMs :: state.journal }

variable (env : ExecEnv) (input : EngineInput) (handled : Handled)

def finishWet (out : RunOutput) (depth : Nat) (dry : Bool) (state : ExecState) : ExecState :=
  if dry then state
  else
    let recorded := out.effects.foldl
      (fun state effect => recordEffectChain effect depth env.world.nowMs state) state
    let counters := { recorded.counters with
      effectsEmitted :=
        saturating recorded.counters.effectsEmitted out.effects.length
      partialOutcomes :=
        if out.partial_.isSome then bump recorded.counters.partialOutcomes
        else recorded.counters.partialOutcomes }
    { recorded with counters := counters }

def inCooldown (rule : Rule) (state : ExecState) : Bool :=
  rule.cooldownMs ≠ 0 &&
    match lookup state.vol.lastActivationMs rule.name with
    | some at_ => env.world.nowMs - at_ < rule.cooldownMs
    | none => false

/-- All of the conditions; the first that fails or cannot be evaluated decides. -/
def conditionsHold (env : EvalEnv) : List Condition -> EvalResult Bool
  | [] => some true
  | condition :: rest =>
    match env.evalCondition condition with
    | none => none
    | some false => some false
    | some true => conditionsHold env rest

def budgetForActivation : Nat := maxActionsExpanded

def execute (rule : Rule) (kind : TriggerKind) (ctx : EventCtx) (depth : Nat) (mode : Mode)
    (state : ExecState) : ActivationOutcome × ExecState :=
  let dry : Bool := mode = .dry
  let job : Job := {
    rule := rule.name
    triggerKind := kind
    depth := depth
    dry := dry
    holdHcl := rule.holdHcl
    ctx := ctx }
  let started :=
    if dry then
      { state with counters := { state.counters with
        activationsDry := bump state.counters.activationsDry } }
    else
      { state with
        counters := { state.counters with
          activationsTotal := bump state.counters.activationsTotal }
        vol := { state.vol with
          lastActivationMs :=
            insert state.vol.lastActivationMs rule.name env.world.nowMs } }
  let run := runSteps env job budgetForActivation
    (flattenRule rule.actions env.rules.blocks) (started, {})
  ({ rule := rule.name
     dry := dry
     effects := run.2.effects
     partial_ := run.2.partial_
     triggerKind := kind }, finishWet env run.2 depth dry run.1)

def refusal (rule : String) (mode : Mode) (kind : TriggerKind)
    (reason : PartialReason) : ActivationOutcome where
  rule := rule
  dry := mode = .dry
  effects := []
  partial_ := some reason
  triggerKind := kind

def activate (rule : Rule) (kind : TriggerKind) (ctx : EventCtx) (depth : Nat) (mode : Mode)
    (handled : Handled) : Handled :=
  let state := handled.1
  if mode = .auto ∧ inCooldown env rule state then
    ({ state with counters := { state.counters with
      suppressedCooldown := bump state.counters.suppressedCooldown } }, handled.2)
  else
    let state := state.note (.evaluated rule.name depth)
    if maxChainDepth < depth then
      ({ state with counters := { state.counters with
        chainDepthExceeded := bump state.counters.chainDepthExceeded } },
        handled.2 ++ [refusal rule.name mode kind .chainDepth])
    else
      match conditionsHold (evalEnv env ctx state) rule.conditions with
      | some true =>
        let (outcome, next) := execute env rule kind ctx depth mode state
        (next, handled.2 ++ [outcome])
      | some false =>
        ({ state with counters := { state.counters with
          conditionsRejected := bump state.counters.conditionsRejected } }, handled.2)
      | none =>
        let counters := if mode = .dry then state.counters
          else { state.counters with
            partialOutcomes := bump state.counters.partialOutcomes }
        ({ state with counters := counters },
          handled.2 ++ [refusal rule.name mode kind .conditionUnevaluable])

/-! ## Inputs from outside -/

def nameOrder (rules : RuleSet) : List Nat :=
  insertionSortBy (fun a b =>
    decide (((rules.rules[b]?).elim "" Rule.name) < ((rules.rules[a]?).elim "" Rule.name)))
    (List.range rules.rules.length)

variable (state : ExecState)

def isEnabled (idx : Nat) : Bool :=
  (state.enabled[idx]?).getD false

def maintainEdgeCache : ExecState :=
  match input with
  | .inputEvent event =>
    match event.shortAddress, event.instanceNumber with
    | some short, some inst =>
      if !lightValueKind event.kind then state
      else
        let key := (event.adapterId, short, inst)
        let lightEdge :=
          if event.value = inputValueMask10bit then remove state.vol.lightEdge key
          else insert state.vol.lightEdge key event.value
        { state with vol := { state.vol with lightEdge := lightEdge } }
    | _, _ => state
  | _ => state

/-- One rule against an input. -/
def offer (depth idx : Nat) (handled : Handled) : Handled :=
  match env.rules.rules[idx]? with
  | none => handled
  | some rule =>
    match ruleMatches rule input handled.1.vol with
    | none => handled
    | some kind =>
      if isEnabled handled.1 idx then
        activate env rule kind (eventCtx input) depth .auto handled
      else
        ({ handled.1 with counters := { handled.1.counters with
          suppressedDisabled := bump handled.1.counters.suppressedDisabled } },
          handled.2)

def onExternal : Handled :=
  let depth := inputChainDepth env handled.1.vol input
  let offered := (nameOrder env.rules).foldl
    (fun handled idx => offer env input depth idx handled) handled
  (maintainEdgeCache input offered.1, offered.2)

def runRule (name : String) (dry : Bool) (handled : Handled) : Handled :=
  match env.rules.rules.findIdx? fun rule => rule.name = name with
  | none => handled
  | some idx =>
    match env.rules.rules[idx]? with
    | none => handled
    | some rule =>
      if !dry && !isEnabled handled.1 idx then
        ({ handled.1 with counters := { handled.1.counters with
          suppressedDisabled := bump handled.1.counters.suppressedDisabled } },
          handled.2)
      else
        activate env rule .httpTrigger {} 0 (if dry then .dry else .manual) handled

/-! ## Ticks -/

def ruleHoldHcl (rules : RuleSet) (name : String) : Bool :=
  match rules.rule name with
  | none => true
  | some rule => rule.holdHcl

def resume (cont : Continuation) (handled : Handled) : Handled :=
  let state := handled.1
  let fired := { state with
    counters := { state.counters with
      continuationsFired := bump state.counters.continuationsFired }
    journal := .fired cont.rule cont.seq :: state.journal }
  let job : Job := {
    rule := cont.rule
    triggerKind := cont.triggerKind
    depth := cont.depth
    dry := false
    holdHcl := ruleHoldHcl env.rules cont.rule
    ctx := cont.ctx }
  let run := runSteps env job cont.budgetLeft cont.steps (fired, {})
  (finishWet env run.2 cont.depth false run.1,
    handled.2 ++ [{
      rule := cont.rule
      dry := false
      effects := run.2.effects
      partial_ := run.2.partial_
      triggerKind := cont.triggerKind }])

def resumedLater (a b : Continuation) : Bool :=
  b.dueMs < a.dueMs || (b.dueMs = a.dueMs && b.seq < a.seq)

/-- What is due leaves the table first and is then resumed in order. -/
def fireContinuations : Handled :=
  let state := handled.1
  let isDue := fun (cont : Continuation) => decide (cont.dueMs <= env.world.nowMs)
  let due := insertionSortBy resumedLater (state.vol.continuations.filter isDue)
  let taken := { state with vol := { state.vol with
    continuations := state.vol.continuations.filter fun cont => !isDue cont } }
  due.foldl (fun handled cont => resume env cont handled) (taken, handled.2)

def fireOneTimer (name : String) (handled : Handled) : Handled :=
  (nameOrder env.rules).foldl (fun handled idx =>
    match env.rules.rules[idx]? with
    | none => handled
    | some rule =>
      if isEnabled handled.1 idx ∧ .timerFires name ∈ rule.triggers then
        activate env rule .timerFires {} 0 .auto handled
      else handled) handled

def timerLater (a b : NamedTimer) : Bool :=
  b.dueMs < a.dueMs || (b.dueMs = a.dueMs && decide (b.name < a.name))

def fireTimers : Handled :=
  let state := handled.1
  let isDue := fun (timer : NamedTimer) => decide (timer.dueMs <= env.world.nowMs)
  let due := insertionSortBy timerLater (state.vol.timers.filter isDue)
  let taken := { state with vol := { state.vol with
    timers := state.vol.timers.filter fun timer => !isDue timer } }
  due.foldl (fun handled timer => fireOneTimer env timer.name handled) (taken, handled.2)

def fireEvery : Handled :=
  let state := handled.1
  let isDue := fun (slot : EverySlot) => decide (slot.dueMs <= env.world.nowMs)
  let due := (state.vol.every.filter isDue).map EverySlot.rule
  let moved := { state with vol := { state.vol with
    every := state.vol.every.map fun slot =>
      if isDue slot then { slot with dueMs := laterMs env.world.nowMs slot.periodMs }
      else slot } }
  due.foldl (fun handled name =>
    match env.rules.rules.findIdx? fun rule => rule.name = name with
    | none => handled
    | some idx =>
      match env.rules.rules[idx]? with
      | none => handled
      | some rule =>
        if isEnabled handled.1 idx then activate env rule .every {} 0 .auto handled
        else handled) (moved, handled.2)

def weekMinutes : Nat := 7 * 24 * 60

def wallCatchupCapMin : Nat := 60

def weekMin (wall : WallTime) : Nat :=
  wall.weekday * 24 * 60 + wall.minutesOfDay

def cyclicDist (start finish : Nat) : Nat :=
  (finish + weekMinutes - start) % weekMinutes

def inWindow (base window target : Nat) : Bool :=
  1 <= cyclicDist base target ∧ cyclicDist base target <= window

def isWallTrigger : Trigger -> Bool
  | .atTime _ _ => true
  | .atSolar _ _ => true
  | _ => false

def hasWallTriggers : Bool :=
  (List.range env.rules.rules.length).any fun idx => isEnabled state idx
    && (env.rules.rules[idx]?).any fun rule => rule.triggers.any isWallTrigger

/-- The kind of the first trigger that is due, and whether a solar trigger before
it could not be resolved. -/
def dueWallKind (env : ExecEnv) (base window : Nat) :
    List Trigger -> Bool -> Option TriggerKind × Bool
  | [], unsynced => (none, unsynced)
  | .atTime time days :: rest, unsynced =>
    if (List.range 7).any fun day => days.contains day
        && inWindow base window (day * 24 * 60 + (time.hour * 60 + time.minute)) then
      (some .atTime, unsynced)
    else dueWallKind env base window rest unsynced
  | .atSolar event offsetMs :: rest, unsynced =>
    match env.world.sun with
    | none => dueWallKind env base window rest true
    | some sun =>
      if (List.range 7).any fun day =>
          inWindow base window (day * 24 * 60 + solarMinute sun event offsetMs) then
        (some .atSolar, unsynced)
      else dueWallKind env base window rest unsynced
  | _ :: rest, unsynced => dueWallKind env base window rest unsynced

def timeUnsynced : ExecState :=
  { state with counters := { state.counters with
    ticksTimeUnsynced := bump state.counters.ticksTimeUnsynced } }

/-- The schedules come to a rule. -/
def wallTurn (base window : Nat) (acc : Handled × Bool) (idx : Nat) : Handled × Bool :=
  match env.rules.rules[idx]? with
  | none => acc
  | some rule =>
    if isEnabled acc.1.1 idx then
      match dueWallKind env base window rule.triggers acc.2 with
      | (some kind, unsynced) =>
        (activate env rule kind {} 0 .auto (acc.1.1.find idx kind, acc.1.2), unsynced)
      | (none, unsynced) => (acc.1, unsynced)
    else acc

def fireDueWallRules (base window : Nat) (handled : Handled) : Handled :=
  let fired := (nameOrder env.rules).foldl (wallTurn env base window) (handled, false)
  if fired.2 then (timeUnsynced fired.1.1, fired.1.2) else fired.1

def fireWallSchedules : Handled :=
  match env.world.wall with
  | none =>
    let state := if hasWallTriggers env handled.1 then timeUnsynced handled.1 else handled.1
    ({ state with vol := { state.vol with prevWeekMin := none } }, handled.2)
  | some wall =>
    let nowMin := weekMin wall
    let prev := handled.1.vol.prevWeekMin
    let moved := ({ handled.1 with
      vol := { handled.1.vol with prevWeekMin := some nowMin } }, handled.2)
    match prev with
    | none => moved
    | some prev =>
      let window := min (cyclicDist prev nowMin) wallCatchupCapMin
      if !hasWallTriggers env moved.1 || window = 0 then moved
      else fireDueWallRules env ((nowMin + weekMinutes - window) % weekMinutes) window moved

def serviceTick : Handled :=
  fireWallSchedules env (fireEvery env (fireTimers env (fireContinuations env handled)))

/-! ## The engine -/

structure Engine where
  rules : Option RuleSet
  state : ExecState
  nowMs : Nat

namespace Engine

def new (nowMs : Nat) : Engine where
  rules := none
  state := { enabled := [], vol := {}, counters := {}, journal := [] }
  nowMs := nowMs

def rebuildEvery (vol : Volatile) (rules : RuleSet) (nowMs : Nat) : List EverySlot :=
  let slots := rules.rules.flatMap fun rule =>
    (rule.triggers.zipIdx).filterMap fun entry =>
      match entry.1 with
      | .every periodMs =>
        let kept := vol.every.find? fun slot => slot.rule = rule.name
          ∧ slot.triggerIdx = entry.2 ∧ slot.periodMs = periodMs
        some { rule := rule.name
               triggerIdx := entry.2
               periodMs := periodMs
               dueMs := (kept.map EverySlot.dueMs).getD (laterMs nowMs periodMs) }
      | _ => none
  insertionSortBy (fun a b => decide (b.rule < a.rule)
    || (b.rule = a.rule && b.triggerIdx < a.triggerIdx)) slots

variable (engine : Engine)

def setRules (set : Option RuleSet) (nowMs : Nat) : Engine :=
  let next := set.getD (.empty 0)
  let state := engine.state
  let kept := ({ state.vol with continuations := [] }.retainRuleNames
    fun name => next.rules.any fun rule => rule.name = name).keepStats (statNames next)
  { rules := set
    nowMs := nowMs
    state := {
      enabled := next.rules.map Rule.enabled
      vol := { kept with every := rebuildEvery kept next nowMs }
      counters := { state.counters with
        continuationsDropped := saturating state.counters.continuationsDropped
          state.vol.continuations.length }
      journal := state.journal } }

def setRuleEnabled (name : String) (on : Bool) : Engine × Bool :=
  match engine.rules.bind fun set =>
    set.rules.findIdx? fun rule => rule.name = name with
  | none => (engine, false)
  | some idx => ({ engine with state := flipRuleBit idx name on engine.state }, true)

def dispatch : Handled :=
  match input with
  | .tick => serviceTick env handled
  | .runRule name dry => runRule env name dry handled
  | other => onExternal env other handled

abbrev pruned (nowMs : Nat) : ExecState :=
  { engine.state with vol := engine.state.vol.pruneChain nowMs, found := [] }

def handle (input : EngineInput) (world : WorldSnapshot) : Engine × List ActivationOutcome :=
  let state := engine.pruned world.nowMs
  match engine.rules with
  | none => ({ engine with state := state, nowMs := world.nowMs }, [])
  | some rules =>
    let handled := dispatch { world := world, rules := rules } input (state, [])
    ({ engine with state := handled.1, nowMs := world.nowMs }, handled.2)

end Engine

/-! ## Runs -/

/-- What the owner of an engine calls. -/
inductive EngineCall where
  | handle (input : EngineInput) (world : WorldSnapshot)
  | setRules (set : Option RuleSet) (nowMs : Nat)
  | setRuleEnabled (name : String) (on : Bool)

namespace Engine

def after (engine : Engine) : EngineCall -> Engine
  | .handle input world => (engine.handle input world).1
  | .setRules set nowMs => engine.setRules set nowMs
  | .setRuleEnabled name on => (engine.setRuleEnabled name on).1

def afterAll (engine : Engine) (calls : List EngineCall) : Engine :=
  calls.foldl after engine

end Engine
end Oxidali.Rules
