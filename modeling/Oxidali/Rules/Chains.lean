import Oxidali.Rules.Moves

/-!
# Chains of causes

An effect is remembered under keys, an input looks up keys, and a rule that the
input activates is one deeper than the effects it finds.  An effect on a group or
on a whole adapter is found by every lamp and group of the adapter; an effect on a
lamp is found by that lamp only, and a scene without a target by no lamp at all.
-/

namespace Oxidali.Rules

open Engine List

/-! ## What an effect can change -/

section Causes

-- whether the lamp is a member of the group of the adapter
variable (member : Nat -> Nat -> Nat -> Prop)

def TargetHas (lamp : LampRef) : LightTarget -> Prop
  | .lamp target => lamp = target
  | .group group =>
    lamp.adapterId = group.adapterId ∧ member group.adapterId group.id lamp.id
  | .broadcast adapterId => lamp.adapterId = adapterId

/-- A light effect or a scene can change the lamp. -/
def CanChange (lamp : LampRef) : Effect -> Prop
  | .light target _ _ => TargetHas member lamp target
  | .sceneRecall _ (some target) _ => TargetHas member lamp target
  | .sceneRecall _ none _ => True
  | .sceneApply _ _ => True
  | _ => False

/-- The input may be the echo of the effect. -/
def MayCause (effect : Effect) : EngineInput -> Prop
  | .lampChanged change => CanChange member ⟨change.adapterId, change.lampId⟩ effect
  | .groupChanged change => exists lampId, member change.adapterId change.groupId lampId
        ∧ CanChange member ⟨change.adapterId, lampId⟩ effect
  | _ => False

end Causes

def effectTarget : Effect -> Option LightTarget
  | .light target _ _ => some target
  | .sceneRecall _ target _ => target
  | _ => none

/-- The effect has a target, and if that is a lamp the input is about a lamp. -/
def Traced (effect : Effect) (input : EngineInput) : Prop :=
  match effectTarget effect with
  | none => False
  | some (.lamp _) => exists change, input = .lampChanged change
  | some _ => True

variable {target : LightTarget} {member : Nat -> Nat -> Nat -> Prop} {rule : String}

theorem targetChainKeys_shared {lamp : LampRef} (h : TargetHas member lamp target) :
    exists key, key ∈ targetChainKeys target ∧ key ∈ lampChainKeys lamp.adapterId lamp.id := by
  cases target with
  | lamp target =>
    cases h
    exact ⟨.lamp lamp.adapterId lamp.id, mem_cons_self .., mem_cons_self ..⟩
  | group group =>
    refine ⟨.adapterWide group.adapterId, by simp [targetChainKeys], ?_⟩
    simp [lampChainKeys, h.1]
  | broadcast adapterId =>
    cases h
    exact ⟨.adapterWide lamp.adapterId, by simp [targetChainKeys], by simp [lampChainKeys]⟩

variable {effect : Effect}

theorem effectChainKeys_target {key : ChainKey} (h : effectTarget effect = some target)
    (hkey : key ∈ targetChainKeys target) : key ∈ effectChainKeys effect := by
  cases effect with
  | light other verb hold =>
    cases h
    exact hkey
  | sceneRecall scene other hold =>
    cases h
    exact mem_cons_of_mem _ hkey
  | _ => cases h

theorem canChange_target {lamp : LampRef} (htarget : effectTarget effect = some target)
    (h : CanChange member lamp effect) : TargetHas member lamp target := by
  cases effect with
  | light other verb hold | sceneRecall scene other hold =>
    cases htarget
    exact h
  | _ => cases htarget

variable {input : EngineInput}

theorem Traced.shared (h : Traced effect input) (hcause : MayCause member effect input) :
    exists key, key ∈ effectChainKeys effect ∧ key ∈ inputChainKeys input := by
  unfold Traced at h
  cases htarget : effectTarget effect with
  | none =>
    rw [htarget] at h
    exact h.elim
  | some target =>
    rw [htarget] at h
    cases input with
    | lampChanged change =>
      rcases targetChainKeys_shared (canChange_target htarget hcause) with
        ⟨key, heffect, hinput⟩
      exact ⟨key, effectChainKeys_target htarget heffect, hinput⟩
    | groupChanged change =>
      rcases hcause with ⟨lampId, _, hchange⟩
      have hhas := canChange_target htarget hchange
      refine ⟨.adapterWide change.adapterId,
        effectChainKeys_target htarget ?_, by simp [inputChainKeys, groupChainKeys]⟩
      cases target with
      | lamp lamp =>
        rcases h with ⟨other, hother⟩
        cases hother
      | group group => simp [targetChainKeys, hhas.1.symm]
      | broadcast adapterId =>
        cases hhas
        simp [targetChainKeys]
    | _ => exact hcause.elim

/-! ## Remembered effects -/

/-- Every emitted effect of the last window is remembered under all of its keys. -/
def Remembers (nowMs : Nat) (state : ExecState) : Prop :=
  forall effect depth atMs, .emitted effect depth atMs ∈ state.journal ->
    atMs <= nowMs ∧ depth <= maxChainDepth
      ∧ (nowMs - atMs <= chainWindowMs -> forall key, key ∈ effectChainKeys effect ->
          { key := key, depth := depth, atMs := atMs } ∈ state.vol.chain)

variable {before after : ExecState} {nowMs : Nat}

theorem Remembers.keep (h : Remembers nowMs before) (hchain : after.vol.chain = before.vol.chain)
    (hjournal : forall effect depth atMs, .emitted effect depth atMs ∈ after.journal ->
      .emitted effect depth atMs ∈ before.journal) : Remembers nowMs after := by
  intro effect depth atMs hmem
  rw [hchain]
  exact h effect depth atMs (hjournal effect depth atMs hmem)

theorem recordChain_chain (keys : List ChainKey) (depth nowMs : Nat) :
    forall vol : Volatile, (keys.foldl (fun vol key => vol.recordChain key depth nowMs) vol).chain
        = vol.chain ++ keys.map fun key =>
            { key := key, depth := depth, atMs := nowMs } := by
  induction keys with
  | nil => simp
  | cons key rest ih =>
    intro vol
    rw [foldl_cons, ih]
    simp [Volatile.recordChain]

variable {depth : Nat}

theorem Remembers.emit {state : ExecState} (h : Remembers nowMs state)
    (hdepth : depth <= maxChainDepth) (effect : Effect) :
    Remembers nowMs (recordEffectChain effect depth nowMs state) := by
  have hchain : (recordEffectChain effect depth nowMs state).vol.chain
      = state.vol.chain ++ (effectChainKeys effect).map fun key =>
          { key := key, depth := depth, atMs := nowMs } :=
    recordChain_chain (effectChainKeys effect) depth nowMs state.vol
  intro other otherDepth atMs hmem
  rw [hchain]
  rcases mem_cons.mp hmem with heq | hold
  · rcases Mark.emitted.inj heq with ⟨rfl, rfl, rfl⟩
    refine ⟨Nat.le_refl _, hdepth, ?_⟩
    intro _ key hkey
    exact mem_append_right _ (mem_map_of_mem hkey)
  · rcases h other otherDepth atMs hold with ⟨hat, hbound, hkeys⟩
    refine ⟨hat, hbound, ?_⟩
    intro hwindow key hkey
    exact mem_append_left _ (hkeys hwindow key hkey)

theorem Turn.remembers (h : Turn rule depth before after) (hbefore : Remembers nowMs before) :
    Remembers nowMs after := by
  cases h with
  | quiet hsame =>
    exact hbefore.keep hsame.chain fun _ _ _ hmem => hsame.journal ▸ hmem
  | disable idx other hsame =>
    refine hbefore.keep hsame.chain fun _ _ _ hmem => ?_
    rw [hsame.journal] at hmem
    exact (mem_cons.mp hmem).resolve_left Mark.noConfusion
  | schedule cont hrule hdepth hseq hcontinuations hnext hchain hjournal =>
    refine hbefore.keep hchain fun _ _ _ hmem => ?_
    rw [hjournal] at hmem
    exact (mem_cons.mp hmem).resolve_left Mark.noConfusion
  | stop mark hmark hcontinuations hseq hchain hjournal =>
    refine hbefore.keep hchain fun _ _ _ hmem => ?_
    rw [hjournal] at hmem
    refine (mem_cons.mp hmem).resolve_left ?_
    rcases hmark with rfl | rfl
    · exact Mark.noConfusion
    · exact Mark.noConfusion

theorem Moves.remembers (h : Moves nowMs depth before after)
    (hbefore : Remembers nowMs before) : Remembers nowMs after := by
  induction h with
  | refl => exact hbefore
  | tail _ hmove ih =>
    cases hmove with
    | quiet hsame => exact ih.keep hsame.chain fun _ _ _ hmem => hsame.journal ▸ hmem
    | evaluate rule hsame =>
      refine ih.keep hsame.chain fun _ _ _ hmem => ?_
      rw [hsame.journal] at hmem
      exact (mem_cons.mp hmem).resolve_left Mark.noConfusion
    | turn rule hdepth hturn => exact hturn.remembers ih
    | emit effect hdepth => exact ih.emit hdepth effect

theorem fireContinuations_remembers (env : ExecEnv) {handled : Handled}
    (h : Remembers env.world.nowMs handled.1) (hshallow : Shallow handled.1) :
    Remembers env.world.nowMs (fireContinuations env handled).1 := by
  apply fireContinuations_keeps hshallow
  · intro cont handled hdepth hbefore
    rcases resume_moves env hdepth handled with ⟨fired, hfired, hmoves⟩
    refine Moves.remembers hmoves (hbefore.keep hfired.chain fun _ _ _ hmem => ?_)
    rw [hfired.journal] at hmem
    exact (mem_cons.mp hmem).resolve_left Mark.noConfusion
  · exact h.keep rfl fun _ _ _ hmem => hmem

/-! ## The depth of an input -/

theorem le_foldl_max {values : List Nat} {value : Nat} (h : value ∈ values) :
    value <= values.foldl max 0 := by
  have hfold : forall (values : List Nat) (start : Nat), start <= values.foldl max start
        ∧ forall value, value ∈ values -> value <= values.foldl max start := by
    intro values
    induction values with
    | nil => exact fun start => ⟨Nat.le_refl start, nofun⟩
    | cons first rest ih =>
      intro start
      rcases ih (max start first) with ⟨hstart, hrest⟩
      refine ⟨Nat.le_trans (Nat.le_max_left _ _) hstart, ?_⟩
      intro value hmem
      rcases mem_cons.mp hmem with rfl | hlater
      · exact Nat.le_trans (Nat.le_max_right _ _) hstart
      · exact hrest value hlater
  exact (hfold values 0).2 value h

theorem chainDepthFor_entry {vol : Volatile} {keys : List ChainKey} {entry : ChainEntry}
    (hentry : entry ∈ vol.chain) (hwindow : nowMs - entry.atMs <= chainWindowMs)
    (hkey : entry.key ∈ keys) : entry.depth + 1 <= vol.chainDepthFor keys nowMs := by
  apply le_foldl_max
  apply mem_map_of_mem (f := fun entry : ChainEntry => entry.depth + 1)
  rw [mem_filter, mem_filter]
  exact ⟨⟨hentry, decide_eq_true hwindow⟩, contains_iff_mem.mpr hkey⟩

/-- The rules evaluated from `before` to `after` are evaluated at `depth`. -/
def EvaluatedAt (depth : Nat) (before after : ExecState) : Prop :=
  exists marks, after.journal = marks ++ before.journal
    ∧ forall rule other, .evaluated rule other ∈ marks -> other = depth

theorem EvaluatedAt.trans {first second third : ExecState} (h : EvaluatedAt depth first second)
    (h' : EvaluatedAt depth second third) : EvaluatedAt depth first third := by
  rcases h with ⟨marks, hjournal, hmarks⟩
  rcases h' with ⟨marks', hjournal', hmarks'⟩
  refine ⟨marks' ++ marks, by rw [hjournal', hjournal, append_assoc], ?_⟩
  intro rule other hmem
  rcases mem_append.mp hmem with hnew | hold
  · exact hmarks' rule other hnew
  · exact hmarks rule other hold

theorem evaluatedAt_nothing (h : after.journal = before.journal) : EvaluatedAt depth before after :=
  ⟨[], h, nofun⟩

theorem evaluatedAt_mark {mark : Mark} (h : after.journal = mark :: before.journal)
    (hmark : forall rule other, mark = .evaluated rule other -> other = depth) :
    EvaluatedAt depth before after := by
  refine ⟨[mark], h, ?_⟩
  intro rule other hmem
  exact hmark rule other (mem_singleton.mp hmem).symm

theorem Turn.evaluatedAt (h : Turn rule depth before after) : EvaluatedAt depth before after := by
  cases h with
  | quiet hsame => exact evaluatedAt_nothing hsame.journal
  | disable idx other hsame =>
    exact evaluatedAt_mark hsame.journal fun _ _ heq => Mark.noConfusion heq
  | schedule cont hrule hdepth hseq hcontinuations hnext hchain hjournal =>
    exact evaluatedAt_mark hjournal fun _ _ heq => Mark.noConfusion heq
  | stop mark hmark hcontinuations hseq hchain hjournal =>
    apply evaluatedAt_mark hjournal
    rcases hmark with rfl | rfl
    · exact fun _ _ heq => Mark.noConfusion heq
    · exact fun _ _ heq => Mark.noConfusion heq

theorem Moves.evaluatedAt (h : Moves nowMs depth before after) :
    EvaluatedAt depth before after := by
  induction h with
  | refl => exact evaluatedAt_nothing rfl
  | tail _ hmove ih =>
    apply ih.trans
    cases hmove with
    | quiet hsame => exact evaluatedAt_nothing hsame.journal
    | evaluate rule hsame =>
      exact evaluatedAt_mark hsame.journal fun _ _ heq =>
        (Mark.evaluated.inj heq).2.symm
    | turn rule hdepth hturn => exact hturn.evaluatedAt
    | emit effect hdepth =>
      exact evaluatedAt_mark rfl fun _ _ heq => Mark.noConfusion heq

/-! ## Whole runs -/

/-- What the engine still knows of its effects at its time. -/
structure Tracked (engine : Engine) : Prop where
  remembers : Remembers engine.nowMs engine.state
  shallow : Shallow engine.state

/-- The clock does not go back. -/
def Timely : Engine -> List EngineCall -> Prop
  | _, [] => True
  | engine, call :: rest =>
    (match call with
      | .handle _ world => engine.nowMs <= world.nowMs
      | .setRules _ nowMs => engine.nowMs <= nowMs
      | .setRuleEnabled _ _ => True)
    ∧ Timely (engine.after call) rest

theorem Remembers.later {earlier : Nat} (h : Remembers earlier before) (hle : earlier <= nowMs)
    (hjournal : after.journal = before.journal)
    (hchain : forall entry, entry ∈ before.vol.chain ->
      nowMs - entry.atMs <= chainWindowMs -> entry ∈ after.vol.chain) : Remembers nowMs after := by
  intro effect depth atMs hmem
  rw [hjournal] at hmem
  rcases h effect depth atMs hmem with ⟨hat, hbound, hkeys⟩
  refine ⟨Nat.le_trans hat hle, hbound, ?_⟩
  intro hwindow key hkey
  have hearlier : earlier - atMs <= chainWindowMs :=
    Nat.le_trans (Nat.sub_le_sub_right hle atMs) hwindow
  exact hchain _ (hkeys hearlier key hkey) hwindow

variable {engine : Engine} {world : WorldSnapshot}

theorem pruned_remembers (h : Tracked engine) (hle : engine.nowMs <= world.nowMs) :
    Remembers world.nowMs (engine.pruned world.nowMs) := by
  refine Remembers.later h.remembers hle (by rfl) ?_
  intro entry hentry hwindow
  exact mem_filter.mpr ⟨hentry, decide_eq_true hwindow⟩

theorem handle_tracked (h : Tracked engine) (hle : engine.nowMs <= world.nowMs) :
    Tracked (engine.handle input world).1 := by
  have hpruned := pruned_remembers h hle
  have hshallow : Shallow (engine.pruned world.nowMs) := h.shallow
  have hnow : (engine.handle input world).1.nowMs = world.nowMs := by
    unfold handle
    cases engine.rules <;> rfl
  constructor
  · rw [hnow]
    exact handle_keeps hpruned Moves.remembers
      fun _ _ _ => fireContinuations_remembers _ hpruned hshallow
  · exact handle_keeps hshallow Moves.shallow fun _ _ _ => fireContinuations_shallow _ hshallow

theorem setRuleEnabled_tracked {name : String} {on : Bool} (h : Tracked engine) :
    Tracked (engine.setRuleEnabled name on).1 := by
  unfold setRuleEnabled
  split
  · exact h
  · rename_i idx _
    have hturn := (flipRuleBit_primTurn idx name on engine.state).turn name 0
    exact ⟨hturn.remembers h.remembers, hturn.shallow (Nat.zero_le _) h.shallow⟩

theorem run_tracked (calls : List EngineCall) :
    forall engine, Tracked engine -> Timely engine calls -> Tracked (engine.afterAll calls) := by
  induction calls with
  | nil => exact fun _ h _ => h
  | cons call rest ih =>
    intro engine h htimely
    refine ih _ ?_ htimely.2
    cases call with
    | handle input world => exact handle_tracked h htimely.1
    | setRules set nowMs =>
      constructor
      · exact h.remembers.later htimely.1 rfl fun _ hentry _ => hentry
      · exact nofun
    | setRuleEnabled name on => exact setRuleEnabled_tracked h

/-! ## Echoes -/

/-- `input`, handled at the time of `world`, comes within the window of the effect
that may have caused it. -/
structure Echo (member : Nat -> Nat -> Nat -> Prop) (engine : Engine) (effect : Effect)
    (atMs : Nat) (input : EngineInput) (world : WorldSnapshot) : Prop where
  cause : MayCause member effect input
  traced : Traced effect input
  notBack : engine.nowMs <= world.nowMs
  window : world.nowMs - atMs <= chainWindowMs

theorem MayCause.not_tick (h : MayCause member effect input) : input ≠ .tick := by
  intro htick
  subst htick
  exact h

theorem handle_evaluatedAt (engine : Engine) (world : WorldSnapshot) (hinput : input ≠ .tick) :
    EvaluatedAt ((engine.state.vol.pruneChain world.nowMs).chainDepthFor
        (inputChainKeys input) world.nowMs)
      engine.state (engine.handle input world).1.state := by
  unfold handle
  cases engine.rules with
  | none => exact evaluatedAt_nothing rfl
  | some rules =>
    have hmoves := dispatch_moves { world := world, rules := rules } hinput
      (engine.pruned world.nowMs, [])
    have hevaluated := Moves.evaluatedAt hmoves
    exact hevaluated

theorem Echo.deeper {atMs : Nat} (h : Echo member engine effect atMs input world)
    (htracked : Tracked engine) (hemitted : .emitted effect depth atMs ∈ engine.state.journal)
    {other : Nat} (hevaluated : .evaluated rule other
      ∈ marksSince engine.state (engine.handle input world).1.state) : depth + 1 <= other := by
  have hpruned := pruned_remembers htracked h.notBack
  rcases handle_evaluatedAt engine world h.cause.not_tick with ⟨marks, hjournal, hmarks⟩
  rw [marksSince_eq hjournal] at hevaluated
  rw [hmarks rule other hevaluated]
  rcases h.traced.shared h.cause with ⟨key, hkey, hinput⟩
  exact chainDepthFor_entry ((hpruned effect depth atMs hemitted).2.2 h.window key hkey)
    h.window hinput

/-- A loop of `count` activations in a run of the engine: each but the first is
activated by an echo of an effect of the one before, and the last one, at `depth`,
has emitted `effect`. -/
inductive Loop (member : Nat -> Nat -> Nat -> Prop) :
    Nat -> Engine -> Effect -> Nat -> Nat -> Prop where
  | first {nowMs : Nat} {calls : List EngineCall}
      (htimely : Timely (new nowMs) calls) {effect : Effect} {depth atMs : Nat}
      (hemitted : .emitted effect depth atMs ∈ ((new nowMs).afterAll calls).state.journal) :
      Loop member 1 ((new nowMs).afterAll calls) effect depth atMs
  | wait {count : Nat} {engine : Engine} {effect : Effect} {depth atMs : Nat}
      (h : Loop member count engine effect depth atMs) {calls : List EngineCall}
      (htimely : Timely engine calls)
      (hemitted : .emitted effect depth atMs ∈ (engine.afterAll calls).state.journal) :
      Loop member count (engine.afterAll calls) effect depth atMs
  | next {count : Nat} {engine : Engine} {effect : Effect} {depth atMs : Nat}
      (h : Loop member count engine effect depth atMs)
      (hemitted : .emitted effect depth atMs ∈ engine.state.journal)
      {input : EngineInput} {world : WorldSnapshot}
      (hecho : Echo member engine effect atMs input world) {rule : String} {other : Nat}
      (hevaluated : .evaluated rule other
        ∈ marksSince engine.state (engine.handle input world).1.state)
      {calls : List EngineCall} (htimely : Timely (engine.handle input world).1 calls)
      {effect' : Effect} {atMs' : Nat}
      (hemitted' : .emitted effect' other atMs'
        ∈ ((engine.handle input world).1.afterAll calls).state.journal) :
      Loop member (count + 1) ((engine.handle input world).1.afterAll calls) effect' other atMs'

theorem new_tracked (nowMs : Nat) : Tracked (new nowMs) :=
  ⟨nofun, nofun⟩

theorem Loop.tracked {count atMs : Nat} (h : Loop member count engine effect depth atMs) :
    Tracked engine ∧ .emitted effect depth atMs ∈ engine.state.journal ∧ count <= depth + 1 := by
  induction h with
  | first htimely hemitted =>
    exact ⟨run_tracked _ _ (new_tracked _) htimely, hemitted, Nat.le_add_left 1 _⟩
  | wait _ htimely hemitted ih =>
    exact ⟨run_tracked _ _ ih.1 htimely, hemitted, ih.2.2⟩
  | next _ hemitted hecho hevaluated htimely hemitted' ih =>
    have hdeeper := hecho.deeper ih.1 hemitted hevaluated
    refine ⟨run_tracked _ _ (handle_tracked ih.1 hecho.notBack) htimely, hemitted', ?_⟩
    exact Nat.succ_le_succ (Nat.le_trans ih.2.2 hdeeper)

def echoSet (target : LightTarget) : RuleSet where
  langId := 1
  blocks := []
  rules := [{
    name := "echo"
    enabled := true
    cooldownMs := 0
    holdHcl := true
    triggers := [.groupBecomes { adapterId := 1, id := 2 } .anyOn]
    conditions := []
    actions := [.prim (.light { op := .on none, target := target, holdHcl := none })] }]

def groupLit : EngineInput :=
  .groupChanged { adapterId := 1, groupId := 2, anyOn := true, wasAnyOn := false }

/-- The group lights up `count` times, every 100 ms. -/
def echoRun (target : LightTarget) (count : Nat) : List EngineCall :=
  .setRules (some (echoSet target)) 0
    :: (range count).map fun i => .handle groupLit { nowMs := i * 100 }

def lampSeven (adapterId groupId lampId : Nat) : Prop :=
  adapterId = 1 ∧ groupId = 2 ∧ lampId = 7

/-- An effect on the lamp is not found by the group it is in: the echo is handled at
depth 0 again, and eight activations follow each other within the window. -/
theorem lamp_echo_not_deeper :
    let target := LightTarget.lamp { adapterId := 1, id := 7 }
    let effect := Effect.light target (.on none) true
    let engine := (new 0).afterAll (echoRun target 1)
    validate (echoSet target) = .ok () ∧ .emitted effect 0 0 ∈ engine.state.journal
      ∧ MayCause lampSeven effect groupLit
      ∧ .evaluated "echo" 0
          ∈ marksSince engine.state (engine.handle groupLit { nowMs := 100 }).1.state
      ∧ (range 8).all (fun i => ((new 0).afterAll (echoRun target 8)).state
          |>.journal.contains (.emitted effect 0 (i * 100))) = true := by
  refine ⟨rfl, ?_, ?_, ?_, ?_⟩
  · decide +kernel
  · exact ⟨7, ⟨rfl, rfl, rfl⟩, rfl⟩
  · decide +kernel
  · decide +kernel

/-- In a run with a clock that does not go back, the echo of a traced effect is
handled deeper than the effect, and no loop of such echoes is longer than the
depth allows. -/
theorem traced_echo_deeper (member : Nat -> Nat -> Nat -> Prop) (nowMs : Nat)
    (calls : List EngineCall) (htimely : Timely (new nowMs) calls) :
    let engine := (new nowMs).afterAll calls
    (forall effect depth atMs, .emitted effect depth atMs ∈ engine.state.journal ->
        forall input world, Echo member engine effect atMs input world ->
          forall rule other, .evaluated rule other
              ∈ marksSince engine.state (engine.handle input world).1.state ->
            depth + 1 <= other)
      ∧ forall count effect depth atMs, Loop member count engine effect depth atMs ->
          count <= maxChainDepth + 1 := by
  intro engine
  have htracked : Tracked engine := run_tracked calls _ (new_tracked nowMs) htimely
  constructor
  · intro effect depth atMs hemitted input world hecho rule other hevaluated
    exact hecho.deeper htracked hemitted hevaluated
  · intro count effect depth atMs hloop
    rcases hloop.tracked with ⟨_, hemitted, hcount⟩
    have hbound := (htracked.remembers effect depth atMs hemitted).2.1
    exact Nat.le_trans hcount (Nat.succ_le_succ hbound)

theorem group_echo_deeper :
    let target := LightTarget.group { adapterId := 1, id := 2 }
    let engine := (new 0).afterAll (echoRun target 2)
    .emitted (.light target (.on none) true) 1 100 ∈ engine.state.journal
      ∧ forall rule other, .evaluated rule other
          ∈ marksSince engine.state (engine.handle groupLit { nowMs := 200 }).1.state ->
        2 <= other := by
  intro target engine
  have htimely : Timely (new 0) (echoRun target 2) := by
    refine ⟨?_, ?_, ?_, trivial⟩
    all_goals decide +kernel
  have hemitted : .emitted (.light target (.on none) true) 1 100
      ∈ engine.state.journal := by
    decide +kernel
  refine ⟨hemitted, ?_⟩
  have hecho : Echo lampSeven engine (.light target (.on none) true) 100 groupLit
      { nowMs := 200 } := by
    refine ⟨⟨7, ⟨rfl, rfl, rfl⟩, rfl, rfl, rfl, rfl⟩, trivial, ?_, ?_⟩
    all_goals decide +kernel
  exact (traced_echo_deeper lampSeven 0 (echoRun target 2) htimely).1 _ 1 100 hemitted
    groupLit { nowMs := 200 } hecho

end Oxidali.Rules
