import Oxidali.Rules.Model

/-!
# Limits of a rule set

A document is accepted when its counts, names, references and payloads are in
bounds and every rule expands to a bounded number of actions.
-/

namespace Oxidali.Rules

def maxRules : Nat := 64
def maxBlocks : Nat := 16
def minTriggersPerRule : Nat := 1
def maxTriggersPerRule : Nat := 4
def maxConditionsPerRule : Nat := 4
def minActionsPerRule : Nat := 1
def maxActionsPerRule : Nat := 8
def maxActionsExpanded : Nat := 32
def maxBlockCallDepth : Nat := 2
def maxRepeat : Nat := 8
def maxNameBytes : Nat := 48
def maxVarTextBytes : Nat := 16
def maxMqttTopicBytes : Nat := 48
def maxMqttPayloadBytes : Nat := 48
def maxMqttTriggerTopics : Nat := 8
def maxScheduleIdBytes : Nat := 32
def minEveryPeriodMs : Nat := 1000
def maxSceneCycleEntries : Nat := 16
def maxScene : Nat := 15
def maxLevel : Nat := 254
def maxInstanceGroup : Nat := 31
def maxStatNames : Nat := 16

inductive ModelError where
  | tooManyRules (count : Nat)
  | tooManyBlocks (count : Nat)
  | duplicateRuleName (name : String)
  | duplicateBlockName (name : String)
  | nameTooLong (name : String)
  | noTriggers (rule : String)
  | tooManyTriggers (rule : String) (count : Nat)
  | tooManyConditions (rule : String) (count : Nat)
  | noActions (owner : String)
  | tooManyActions (rule : String) (count : Nat)
  | tooManyBlockActions (block : String) (count : Nat)
  | unresolvedBlock (block : String) (referencedBy : List String)
  | unknownRuleReference (rule referencedBy : String)
  | callDepthExceeded (rule block : String)
  | nestedRepeat (rule : String)
  | nestedConditional (rule : String)
  | nestedAfter (rule : String)
  | expandedActionsExceeded (rule : String) (count : Nat)
  | repeatCountOutOfRange (rule : String) (count : Nat)
  | everyPeriodTooShort (rule : String) (periodMs : Nat)
  | varTextTooLong (rule text : String)
  | mqttTopicTooLong (rule : String) (bytes : Nat)
  | mqttPayloadTooLong (rule : String) (bytes : Nat)
  | mqttTopicNotExact (rule topic : String)
  | tooManyMqttTopics (rule : String) (count : Nat)
  | scheduleIdTooLong (rule : String) (bytes : Nat)
  | sceneCycleTooLong (rule : String) (count : Nat)
  | sceneOutOfRange (rule : String) (scene : Nat)
  | tooManyStatNames (owner : String) (count : Nat)
  | statNameNotPrintable (owner name : String)
  | statNameTooLong (owner : String) (bytes : Nat)

/-! ## How many actions a rule expands to -/

structure Ctx where
  rule : String
  inRepeat : Bool := false
  inConditional : Bool := false
  inAfter : Bool := false

section Counting

-- `called` says what a call expands to
variable (called : Ctx -> String -> Except ModelError Nat)

mutual

def countAction (ctx : Ctx) : Action -> Except ModelError Nat
  | .prim _ => .ok 1
  | .wait _ => .ok 1
  | .call block => called ctx block
  | .repeat_ count actions =>
    if ctx.inRepeat then .error (.nestedRepeat ctx.rule)
    else if count = 0 ∨ maxRepeat < count then
      .error (.repeatCountOutOfRange ctx.rule count)
    else do
      let inner <- countActions { ctx with inRepeat := true } actions
      return inner * count
  | .conditional _ thenActions elseActions =>
    if ctx.inConditional then .error (.nestedConditional ctx.rule)
    else do
      let nested := { ctx with inConditional := true }
      let thenCount <- countActions nested thenActions
      let elseCount <- countActions nested elseActions
      return 1 + thenCount + elseCount
  | .after _ actions =>
    if ctx.inAfter then .error (.nestedAfter ctx.rule)
    else do
      let inner <- countActions { ctx with inAfter := true } actions
      return 1 + inner

def countActions (ctx : Ctx) : List Action -> Except ModelError Nat
  | [] => .ok 0
  | action :: rest => do
      let count <- countAction ctx action
      let others <- countActions ctx rest
      return count + others

end
end Counting

/-- `left` is what the call depth still allows. -/
def countCall (blocks : List DefBlock) : Nat -> Ctx -> String -> Except ModelError Nat
  | 0, ctx, block => .error (.callDepthExceeded ctx.rule block)
  | left + 1, ctx, block =>
    match blocks.find? fun candidate => candidate.name = block with
    | none => .error (.unresolvedBlock block [ctx.rule])
    | some found => countActions (countCall blocks left) ctx found.actions

def expandedActionCount (rule : Rule) (blocks : List DefBlock) : Except ModelError Nat :=
  countActions (countCall blocks maxBlockCallDepth) { rule := rule.name } rule.actions

/-! ## Walking through nested actions -/

mutual

def Action.nested : Action -> List Action
  | .after delayMs actions => .after delayMs actions :: nestedList actions
  | .repeat_ count actions => .repeat_ count actions :: nestedList actions
  | .conditional condition thenActions elseActions =>
    .conditional condition thenActions elseActions
      :: (nestedList thenActions ++ nestedList elseActions)
  | action => [action]

/-- `visit_nested`: every action with the ones inside it, in order. -/
def nestedList : List Action -> List Action
  | [] => []
  | action :: rest => action.nested ++ nestedList rest

end

variable (set : RuleSet) (owner : String) (actions : List Action)

def calledBlocks : List String :=
  (nestedList actions).filterMap fun action =>
    match action with
    | .call block => some block
    | _ => none

def referencedRules : List String :=
  (nestedList actions).filterMap fun action =>
    match action with
    | .prim (.state (.ruleEnable rule)) => some rule
    | .prim (.state (.ruleDisable rule)) => some rule
    | _ => none

def countedStats : List String :=
  (nestedList actions).filterMap fun action =>
    match action with
    | .prim (.state (.statCount name)) => some name
    | _ => none

/-- The name and the actions of every rule and block. -/
def owners : List (String × List Action) :=
  set.rules.map (fun rule => (rule.name, rule.actions))
    ++ set.blocks.map fun block => (block.name, block.actions)

def statNamesWithOwners : List (String × String) :=
  (owners set).foldl (fun names owner =>
    (countedStats owner.2).foldl (fun names name =>
      if names.any fun known => known.1 = name then names
      else names ++ [(name, owner.1)]) names) []

def statNames : List String :=
  (statNamesWithOwners set).map Prod.fst

/-! ## The checks -/

def require (ok : Bool) (error : ModelError) : Except ModelError Unit :=
  if ok then .ok () else .error error

def checkDocumentCounts : Except ModelError Unit := do
  require (set.rules.length <= maxRules) (.tooManyRules set.rules.length)
  require (set.blocks.length <= maxBlocks) (.tooManyBlocks set.blocks.length)

/-- Names in bounds, none seen before. -/
def checkNames (duplicate : String -> ModelError) (seen : List String) :
    List String -> Except ModelError Unit
  | [] => .ok ()
  | name :: rest => do
      require (name.utf8ByteSize <= maxNameBytes) (.nameTooLong name)
      require (!seen.contains name) (duplicate name)
      checkNames duplicate (seen ++ [name]) rest

def checkUniqueNames : Except ModelError Unit := do
  checkNames .duplicateRuleName [] (set.rules.map Rule.name)
  checkNames .duplicateBlockName [] (set.blocks.map DefBlock.name)

def checkBlockReferences : Except ModelError Unit :=
  let missing := (owners set).flatMap fun owner =>
    ((calledBlocks owner.2).filter fun block => (set.block block).isNone).map
      fun block => (block, owner.1)
  match missing with
  | [] => .ok ()
  | (block, _) :: _ =>
    .error (.unresolvedBlock block
      ((missing.filter fun entry => entry.1 = block).map Prod.snd).eraseDups)

def requireRule (target : String) : Except ModelError Unit :=
  require (set.rule target).isSome (.unknownRuleReference target owner)

def checkConditionRuleRef : Condition -> Except ModelError Unit
  | .ruleEnabled rule => requireRule set owner rule
  | .lastFiredOlderThan rule _ => requireRule set owner rule
  | _ => .ok ()

def checkRuleReferences : Except ModelError Unit := do
  set.rules.forM fun rule => do
    rule.triggers.forM fun trigger =>
      match trigger with
      | .ruleFails target => requireRule set rule.name target
      | _ => .ok ()
    rule.conditions.forM (checkConditionRuleRef set rule.name)
    (referencedRules rule.actions).forM (requireRule set rule.name)
  set.blocks.forM fun block =>
    (referencedRules block.actions).forM (requireRule set block.name)

def distinctMqttTopics (triggers : List Trigger) : List String :=
  (triggers.filterMap Trigger.mqttTopic).eraseDups

def checkMqttTopicCount : Except ModelError Unit :=
  (List.range set.rules.length).forM fun index =>
    let count := (distinctMqttTopics ((set.rules.take (index + 1)).flatMap Rule.triggers)).length
    require (count <= maxMqttTriggerTopics)
      (.tooManyMqttTopics ((set.rules[index]?).elim "" Rule.name) count)

def isControl (c : Char) : Bool :=
  c.toNat < 0x20 || (0x7F <= c.toNat && c.toNat <= 0x9F)

def refusedInMqttTopic (c : Char) : Bool :=
  c = '+' || c = '#' || isControl c
    || (0xFDD0 <= c.toNat && c.toNat <= 0xFDEF) || 0xFFFE <= c.toNat % 0x10000

def mqttTopicIsExact (topic : String) : Bool :=
  topic ≠ "" && !topic.toList.any refusedInMqttTopic

def checkMqttTopic (topic : String) : Except ModelError Unit := do
  require (mqttTopicIsExact topic) (.mqttTopicNotExact owner topic)
  require (topic.utf8ByteSize <= maxMqttTopicBytes) (.mqttTopicTooLong owner topic.utf8ByteSize)

def checkMqttPayload (payload : String) : Except ModelError Unit :=
  require (payload.utf8ByteSize <= maxMqttPayloadBytes)
    (.mqttPayloadTooLong owner payload.utf8ByteSize)

def checkStatNames : Except ModelError Unit := do
  let names := statNamesWithOwners set
  names.forM fun entry => do
    require (!entry.1.toList.any isControl) (.statNameNotPrintable entry.2 entry.1)
    require (entry.1.utf8ByteSize <= maxNameBytes) (.statNameTooLong entry.2 entry.1.utf8ByteSize)
  match names[maxStatNames]? with
  | some entry => .error (.tooManyStatNames entry.2 names.length)
  | none => .ok ()

def checkConditionPayload : Condition -> Except ModelError Unit
  | .varCompare _ _ (.text text) =>
    require (text.utf8ByteSize <= maxVarTextBytes) (.varTextTooLong owner text)
  | _ => .ok ()

def checkLiteralScene : ValueExpr -> Except ModelError Unit
  | .literal value =>
    require (0 <= value && value <= maxScene) (.sceneOutOfRange owner (min (max value 0) 255).toNat)
  | _ => .ok ()

def checkScenePayload : SceneAction -> Except ModelError Unit
  | .recall_ scene _ => checkLiteralScene owner scene
  | .apply scene => checkLiteralScene owner scene
  | .cycle scenes => do
      require (scenes.length <= maxSceneCycleEntries) (.sceneCycleTooLong owner scenes.length)
      match scenes.find? fun scene => maxScene < scene with
      | some scene => .error (.sceneOutOfRange owner scene)
      | none => .ok ()

def checkStatePayload : StateAction -> Except ModelError Unit
  | .varSet _ (.text text) =>
    require (text.utf8ByteSize <= maxVarTextBytes) (.varTextTooLong owner text)
  | .mqttPublish topic payload _ => do
      checkMqttTopic owner topic
      checkMqttPayload owner payload
  | _ => .ok ()

def checkPrimitivePayload : Primitive -> Except ModelError Unit
  | .scene scene => checkScenePayload owner scene
  | .state state => checkStatePayload owner state
  | .hcl (.enable schedule) =>
    require (schedule.utf8ByteSize <= maxScheduleIdBytes)
      (.scheduleIdTooLong owner schedule.utf8ByteSize)
  | .hcl (.disable schedule) =>
    require (schedule.utf8ByteSize <= maxScheduleIdBytes)
      (.scheduleIdTooLong owner schedule.utf8ByteSize)
  | _ => .ok ()

/-- The payload of an action and of the ones inside it. -/
def checkActionPayloads : Except ModelError Unit :=
  (nestedList actions).forM fun action =>
    match action with
    | .prim primitive => checkPrimitivePayload owner primitive
    | .conditional condition _ _ => checkConditionPayload owner condition
    | _ => .ok ()

def checkBlockShape (block : DefBlock) : Except ModelError Unit := do
  require (!block.actions.isEmpty) (.noActions block.name)
  require (block.actions.length <= maxActionsExpanded)
    (.tooManyBlockActions block.name block.actions.length)
  checkActionPayloads block.name block.actions

def checkTrigger (rule : String) : Trigger -> Except ModelError Unit
  | .every periodMs =>
    require (minEveryPeriodMs <= periodMs) (.everyPeriodTooShort rule periodMs)
  | .mqttMessage topic payload => do
      checkMqttTopic rule topic
      match payload with
      | some literal => checkMqttPayload rule literal
      | none => .ok ()
  | _ => .ok ()

def checkRuleShape (rule : Rule) : Except ModelError Unit := do
  require (minTriggersPerRule <= rule.triggers.length) (.noTriggers rule.name)
  require (rule.triggers.length <= maxTriggersPerRule)
    (.tooManyTriggers rule.name rule.triggers.length)
  require (rule.conditions.length <= maxConditionsPerRule)
    (.tooManyConditions rule.name rule.conditions.length)
  require (minActionsPerRule <= rule.actions.length) (.noActions rule.name)
  require (rule.actions.length <= maxActionsPerRule) (.tooManyActions rule.name rule.actions.length)
  rule.triggers.forM (checkTrigger rule.name)

def checkRulePayloads (rule : Rule) : Except ModelError Unit := do
  rule.conditions.forM (checkConditionPayload rule.name)
  checkActionPayloads rule.name rule.actions

def checkRule (blocks : List DefBlock) (rule : Rule) : Except ModelError Unit := do
  checkRuleShape rule
  checkRulePayloads rule
  let count <- expandedActionCount rule blocks
  require (count <= maxActionsExpanded) (.expandedActionsExceeded rule.name count)

def validate : Except ModelError Unit := do
  checkDocumentCounts set
  checkUniqueNames set
  checkBlockReferences set
  checkRuleReferences set
  checkMqttTopicCount set
  checkStatNames set
  set.blocks.forM checkBlockShape
  set.rules.forM (checkRule set.blocks)

end Oxidali.Rules
