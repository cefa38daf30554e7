import Oxidali.Rules.Engine
import Oxidali.Rules.Turns

/-!
# What the engine does with an input

Handling an input is a sequence of moves: a rule is evaluated at the depth of the
input, a run takes a turn, an effect is emitted and remembered.  Resuming a
continuation is a sequence of moves too, at the depth it was scheduled with.
-/

namespace Oxidali.Rules

open List

inductive Move (nowMs depth : Nat) (before : ExecState) : ExecState -> Prop where
  | quiet {after : ExecState} (h : Untouched before after) : Move nowMs depth before after
  | evaluate {after : ExecState} (rule : String)
      (h : Untouched (before.note (.evaluated rule depth)) after) :
      Move nowMs depth before after
  | turn {after : ExecState} (rule : String) (hdepth : depth <= maxChainDepth)
      (h : Turn rule depth before after) : Move nowMs depth before after
  | emit (effect : Effect) (hdepth : depth <= maxChainDepth) :
      Move nowMs depth before (recordEffectChain effect depth nowMs before)

abbrev Moves (nowMs depth : Nat) : ExecState -> ExecState -> Prop :=
  Relation.ReflTransGen (Move nowMs depth)

variable {before after : ExecState} {depth nowMs : Nat}

theorem moves_quiet (h : Untouched before after) : Moves nowMs depth before after :=
  .single (Move.quiet h)

variable {handled : Handled} {rule : String}

theorem Turns.moves (h : Turns rule depth before after) (hdepth : depth <= maxChainDepth) :
    Moves nowMs depth before after :=
  Relation.ReflTransGen.mono (fun _ _ hturn => Move.turn rule hdepth hturn) before after h

theorem moves_foldl {α β : Type} {items : List α} {f : β -> α -> β} (state : β -> ExecState)
    (h : forall acc item, item ∈ items -> Moves nowMs depth (state acc) (state (f acc item))) :
    forall acc, Moves nowMs depth (state acc) (state (items.foldl f acc)) := by
  induction items with
  | nil => exact fun _ => .refl
  | cons item rest ih =>
    intro acc
    have hfirst := h acc item (mem_cons_self ..)
    exact hfirst.trans (ih (fun acc other hother =>
      h acc other (mem_cons_of_mem item hother)) (f acc item))

/-! ## The journal and the table -/

/-- The journal of `before` is the older part of that of `after`. -/
def Grows (before after : ExecState) : Prop :=
  exists marks, after.journal = marks ++ before.journal

theorem Grows.trans {first second third : ExecState} (h : Grows first second)
    (h' : Grows second third) : Grows first third := by
  rcases h with ⟨marks, hmarks⟩
  rcases h' with ⟨marks', hmarks'⟩
  exact ⟨marks' ++ marks, by rw [hmarks', hmarks, append_assoc]⟩

theorem Turn.grows (h : Turn rule depth before after) : Grows before after := by
  cases h with
  | quiet hsame => exact ⟨[], hsame.journal⟩
  | disable idx other hsame => exact ⟨[.disabled other], hsame.journal⟩
  | schedule cont hrule hdepth hseq hcontinuations hnext hchain hjournal =>
    exact ⟨[.scheduled rule cont.seq], hjournal⟩
  | stop mark hmark hcontinuations hseq hchain hjournal => exact ⟨[mark], hjournal⟩

theorem Move.grows (h : Move nowMs depth before after) : Grows before after := by
  cases h with
  | quiet hsame => exact ⟨[], hsame.journal⟩
  | evaluate rule hsame => exact ⟨[.evaluated rule depth], hsame.journal⟩
  | turn rule hdepth hturn => exact hturn.grows
  | emit effect hdepth => exact ⟨[.emitted effect depth nowMs], rfl⟩

theorem Moves.grows (h : Moves nowMs depth before after) : Grows before after := by
  induction h with
  | refl => exact ⟨[], rfl⟩
  | tail _ hmove ih => exact ih.trans hmove.grows

def marksSince (before after : ExecState) : List Mark :=
  after.journal.take (after.journal.length - before.journal.length)

theorem marksSince_eq {marks : List Mark} (h : after.journal = marks ++ before.journal) :
    marksSince before after = marks := by
  rw [marksSince, h, length_append, Nat.add_sub_cancel, take_left]

/-- Nothing is pending at a depth that an activation cannot have. -/
def Shallow (state : ExecState) : Prop :=
  forall cont, cont ∈ state.vol.continuations -> cont.depth <= maxChainDepth

theorem Shallow.shrink (h : Shallow before)
    (hcontinuations : forall cont, cont ∈ after.vol.continuations ->
      cont ∈ before.vol.continuations) : Shallow after :=
  fun cont hcont => h cont (hcontinuations cont hcont)

theorem Turn.shallow (h : Turn rule depth before after) (hdepth : depth <= maxChainDepth)
    (hbefore : Shallow before) : Shallow after := by
  cases h with
  | quiet hsame => exact hbefore.shrink fun _ hcont => hsame.continuations ▸ hcont
  | disable idx other hsame =>
    apply hbefore.shrink
    intro cont hcont
    rw [hsame.continuations] at hcont
    exact (mem_filter.mp hcont).1
  | schedule cont hrule hcont hseq hcontinuations hnext hchain hjournal =>
    intro other hother
    rw [hcontinuations] at hother
    rcases mem_append.mp hother with hold | hnew
    · exact hbefore other hold
    · rw [mem_singleton.mp hnew, hcont]
      exact hdepth
  | stop mark hmark hcontinuations hseq hchain hjournal =>
    exact hbefore.shrink fun _ hcont => hcontinuations ▸ hcont

/-! ## Activations and resumptions -/

theorem recordEffectChain_vol (effect : Effect) (depth nowMs : Nat) (state : ExecState) :
    exists chain, (recordEffectChain effect depth nowMs state).vol
      = { state.vol with chain := chain } := by
  unfold recordEffectChain
  generalize state.vol = vol
  induction effectChainKeys effect generalizing vol with
  | nil => exact ⟨vol.chain, rfl⟩
  | cons key rest ih => exact ih (vol.recordChain key depth nowMs)

theorem recordEffectChain_kept (effect : Effect) (depth nowMs : Nat) (state : ExecState) :
    (recordEffectChain effect depth nowMs state).vol.continuations = state.vol.continuations
      ∧ (recordEffectChain effect depth nowMs state).vol.seq = state.vol.seq := by
  rcases recordEffectChain_vol effect depth nowMs state with ⟨chain, hvol⟩
  rw [hvol]
  exact ⟨rfl, rfl⟩

theorem Move.shallow (h : Move nowMs depth before after) (hbefore : Shallow before) :
    Shallow after := by
  cases h with
  | quiet hsame => exact hbefore.shrink fun _ hcont => hsame.continuations ▸ hcont
  | evaluate rule hsame =>
    exact hbefore.shrink fun _ hcont => hsame.continuations ▸ hcont
  | turn rule hdepth hturn => exact hturn.shallow hdepth hbefore
  | emit effect hdepth =>
    exact hbefore.shrink fun _ hcont =>
      (recordEffectChain_kept effect depth nowMs before).1 ▸ hcont

theorem Moves.shallow (h : Moves nowMs depth before after) (hbefore : Shallow before) :
    Shallow after := by
  induction h with
  | refl => exact hbefore
  | tail _ hmove ih => exact hmove.shallow ih

variable (env : ExecEnv)

theorem finishWet_moves (out : RunOutput) (dry : Bool) (hdepth : depth <= maxChainDepth)
    (state : ExecState) :
    Moves env.world.nowMs depth state (finishWet env out depth dry state) := by
  unfold finishWet
  split
  · exact .refl
  · have hemitted : forall (effects : List Effect) (state : ExecState),
        Moves env.world.nowMs depth state (effects.foldl (fun state effect =>
          recordEffectChain effect depth env.world.nowMs state) state) := by
      intro effects
      induction effects with
      | nil => exact fun _ => .refl
      | cons effect rest ih =>
        intro state
        exact .head (Move.emit effect hdepth) (ih _)
    exact (hemitted out.effects state).trans (moves_quiet ⟨rfl, rfl, rfl, rfl⟩)

theorem run_moves {job : Job} (hjob : job.depth = depth) (hdepth : depth <= maxChainDepth)
    (budget : Nat) (steps : List FlatStep) (dry : Bool) (run : ExecState × RunOutput) :
    let ran := runSteps env job budget steps run
    Moves env.world.nowMs depth run.1 (finishWet env ran.2 depth dry ran.1) := by
  subst hjob
  exact ((runSteps_turns env job budget steps run).moves hdepth).trans
    (finishWet_moves env _ dry hdepth _)

theorem execute_moves (rule : Rule) (kind : TriggerKind) (ctx : EventCtx) (mode : Mode)
    (hdepth : depth <= maxChainDepth) (state : ExecState) :
    Moves env.world.nowMs depth state (execute env rule kind ctx depth mode state).2 := by
  unfold execute
  refine .trans (moves_quiet ?_) (run_moves env (by rfl) hdepth budgetForActivation _ _ (_, {}))
  split
  · exact ⟨rfl, rfl, rfl, rfl⟩
  · exact ⟨rfl, rfl, rfl, rfl⟩

theorem activate_moves (rule : Rule) (kind : TriggerKind) (ctx : EventCtx) (depth : Nat)
    (mode : Mode) (handled : Handled) :
    Moves env.world.nowMs depth handled.1 (activate env rule kind ctx depth mode handled).1 := by
  unfold activate
  dsimp only
  split
  · exact moves_quiet ⟨rfl, rfl, rfl, rfl⟩
  · split
    · exact .single (Move.evaluate rule.name ⟨rfl, rfl, rfl, rfl⟩)
    · rename_i hdepth
      split
      · exact .head (Move.evaluate rule.name (.refl _))
          (execute_moves env rule kind ctx mode (Nat.le_of_not_lt hdepth) _)
      · exact .single (Move.evaluate rule.name ⟨rfl, rfl, rfl, rfl⟩)
      · exact .single (Move.evaluate rule.name ⟨rfl, rfl, rfl, rfl⟩)

variable {cont : Continuation}

theorem resume_moves (hdepth : cont.depth <= maxChainDepth) (handled : Handled) :
    exists fired, Untouched (handled.1.note (.fired cont.rule cont.seq)) fired
      ∧ Moves env.world.nowMs cont.depth fired (resume env cont handled).1 := by
  refine ⟨_, ?_, run_moves env (by rfl) hdepth cont.budgetLeft cont.steps false (_, {})⟩
  exact ⟨rfl, rfl, rfl, rfl⟩

theorem resume_grows (hdepth : cont.depth <= maxChainDepth) (handled : Handled) :
    Grows handled.1 (resume env cont handled).1 := by
  rcases resume_moves env hdepth handled with ⟨fired, hfired, hmoves⟩
  exact .trans ⟨[.fired cont.rule cont.seq], hfired.journal⟩ (Moves.grows hmoves)

/-! ## What is due -/

def dueBatch (env : ExecEnv) (state : ExecState) : List Continuation :=
  insertionSortBy resumedLater
    (state.vol.continuations.filter fun cont => decide (cont.dueMs <= env.world.nowMs))

def withoutDue (env : ExecEnv) (state : ExecState) : ExecState :=
  { state with vol := { state.vol with
    continuations := state.vol.continuations.filter fun cont =>
      !decide (cont.dueMs <= env.world.nowMs) } }

theorem fireContinuations_keeps {env : ExecEnv} {P : ExecState -> Prop}
    (hshallow : Shallow handled.1)
    (hresume : forall cont handled, cont.depth <= maxChainDepth -> P handled.1 ->
      P (resume env cont handled).1) (htaken : P (withoutDue env handled.1)) :
    P (fireContinuations env handled).1 := by
  have hbatch : forall (batch : List Continuation) (handled : Handled),
      (forall cont, cont ∈ batch -> cont.depth <= maxChainDepth) -> P handled.1 ->
      P (batch.foldl (fun handled cont => resume env cont handled) handled).1 := by
    intro batch
    induction batch with
    | nil => exact fun _ _ h => h
    | cons cont rest ih =>
      intro handled hdepth h
      exact ih _ (fun other hother => hdepth other (mem_cons_of_mem _ hother))
        (hresume cont handled (hdepth cont (mem_cons_self ..)) h)
  refine hbatch (dueBatch env handled.1) (withoutDue env handled.1, handled.2) ?_ htaken
  intro cont hcont
  exact hshallow cont (mem_filter.mp ((insertionSortBy_mem resumedLater).mp hcont)).1

theorem fireContinuations_shallow (h : Shallow handled.1) :
    Shallow (fireContinuations env handled).1 := by
  apply fireContinuations_keeps h
  · intro cont handled hdepth hbefore
    rcases resume_moves env hdepth handled with ⟨fired, hfired, hmoves⟩
    exact Moves.shallow hmoves (hbefore.shrink fun _ hcont => hfired.continuations ▸ hcont)
  · exact h.shrink fun _ hcont => (mem_filter.mp hcont).1

/-! ## Inputs -/

variable (input : EngineInput)

theorem offer_moves (depth idx : Nat) (handled : Handled) :
    Moves env.world.nowMs depth handled.1 (offer env input depth idx handled).1 := by
  unfold offer
  split
  · exact .refl
  · split
    · exact .refl
    · split
      · exact activate_moves env _ _ _ depth .auto handled
      · exact moves_quiet ⟨rfl, rfl, rfl, rfl⟩

theorem maintainEdgeCache_untouched (state : ExecState) :
    Untouched state (maintainEdgeCache input state) := by
  unfold maintainEdgeCache
  split
  · split
    · split
      · exact .refl state
      · exact ⟨rfl, rfl, rfl, rfl⟩
    · exact .refl state
  · exact .refl state

theorem onExternal_moves (handled : Handled) :
    Moves env.world.nowMs (inputChainDepth env handled.1.vol input) handled.1
      (onExternal env input handled).1 := by
  -- the depth is that of the input before any rule has run
  generalize hdepth : inputChainDepth env handled.1.vol input = depth
  have hoffered := moves_foldl Prod.fst (fun handled idx (_ : idx ∈ nameOrder env.rules) =>
    offer_moves env input depth idx handled) handled
  rw [onExternal, hdepth]
  exact hoffered.trans (moves_quiet (maintainEdgeCache_untouched input _))

theorem runRule_moves (name : String) (dry : Bool) (handled : Handled) :
    Moves env.world.nowMs 0 handled.1 (runRule env name dry handled).1 := by
  unfold runRule
  split
  · exact .refl
  · split
    · exact .refl
    · split
      · exact moves_quiet ⟨rfl, rfl, rfl, rfl⟩
      · exact activate_moves env _ _ _ 0 _ handled

theorem fireOneTimer_moves (name : String) (handled : Handled) :
    Moves env.world.nowMs 0 handled.1 (fireOneTimer env name handled).1 := by
  apply moves_foldl Prod.fst
  intro handled idx _
  split
  · exact .refl
  · split
    · exact activate_moves env _ _ _ 0 .auto handled
    · exact .refl

theorem fireTimers_moves (handled : Handled) :
    Moves env.world.nowMs 0 handled.1 (fireTimers env handled).1 := by
  refine .trans (moves_quiet ?_)
    (moves_foldl Prod.fst (fun handled timer _ => fireOneTimer_moves env timer.name handled) _)
  exact ⟨rfl, rfl, rfl, rfl⟩

theorem fireEvery_moves (handled : Handled) :
    Moves env.world.nowMs 0 handled.1 (fireEvery env handled).1 := by
  refine .trans (moves_quiet ?_) (moves_foldl Prod.fst ?_ _)
  · exact ⟨rfl, rfl, rfl, rfl⟩
  · intro handled name _
    split
    · exact .refl
    · split
      · exact .refl
      · split
        · exact activate_moves env _ _ _ 0 .auto handled
        · exact .refl

theorem wallTurn_moves (base window : Nat) (acc : Handled × Bool) (idx : Nat) :
    Moves env.world.nowMs 0 acc.1.1 (wallTurn env base window acc idx).1.1 := by
  unfold wallTurn
  cases env.rules.rules[idx]? with
  | none => exact .refl
  | some rule =>
    dsimp only
    split
    · rcases dueWallKind env base window rule.triggers acc.2 with ⟨kind, unsynced⟩
      cases kind with
      | none => exact .refl
      | some kind =>
        refine .trans (b := acc.1.1.find idx kind) (moves_quiet ⟨rfl, rfl, rfl, rfl⟩) ?_
        exact activate_moves env rule kind {} 0 .auto (acc.1.1.find idx kind, acc.1.2)
    · exact .refl

theorem fireDueWallRules_moves (base window : Nat) (handled : Handled) :
    Moves env.world.nowMs 0 handled.1 (fireDueWallRules env base window handled).1 := by
  have hrules := moves_foldl (fun (acc : Handled × Bool) => acc.1.1)
    (fun acc idx (_ : idx ∈ nameOrder env.rules) =>
      wallTurn_moves env base window acc idx) (handled, false)
  unfold fireDueWallRules
  dsimp only
  split
  · exact hrules.trans (moves_quiet (⟨rfl, rfl, rfl, rfl⟩))
  · exact hrules

theorem fireWallSchedules_moves (handled : Handled) :
    Moves env.world.nowMs 0 handled.1 (fireWallSchedules env handled).1 := by
  unfold fireWallSchedules
  split
  · apply moves_quiet
    split
    · exact ⟨rfl, rfl, rfl, rfl⟩
    · exact ⟨rfl, rfl, rfl, rfl⟩
  · dsimp only
    split
    · exact moves_quiet ⟨rfl, rfl, rfl, rfl⟩
    · split
      · exact moves_quiet ⟨rfl, rfl, rfl, rfl⟩
      · refine .trans (moves_quiet ?_) (fireDueWallRules_moves env _ _ _)
        exact ⟨rfl, rfl, rfl, rfl⟩

/-- What a tick does after the continuations that are due. -/
theorem serviceTick_moves (handled : Handled) :
    Moves env.world.nowMs 0 (fireContinuations env handled).1 (serviceTick env handled).1 :=
  ((fireTimers_moves env _).trans (fireEvery_moves env _)).trans (fireWallSchedules_moves env _)

theorem chainDepthFor_nil (vol : Volatile) (nowMs : Nat) : vol.chainDepthFor [] nowMs = 0 := by
  have hnone : forall entries : List ChainEntry,
      entries.filter (fun entry => ([] : List ChainKey).contains entry.key) = [] := by
    intro entries
    simp
  rw [Volatile.chainDepthFor, hnone]
  rfl

theorem dispatch_moves {input : EngineInput} (h : input ≠ .tick) (handled : Handled) :
    Moves env.world.nowMs (inputChainDepth env handled.1.vol input) handled.1
      (Engine.dispatch env input handled).1 := by
  cases input with
  | tick => exact absurd rfl h
  | runRule name dry =>
    rw [inputChainDepth, inputChainKeys, chainDepthFor_nil]
    · exact runRule_moves env name dry handled
    all_goals simp
  | _ => exact onExternal_moves env _ handled

theorem handle_rules (engine : Engine) (input : EngineInput) (world : WorldSnapshot) :
    (engine.handle input world).1.rules = engine.rules := by
  unfold Engine.handle
  split <;> rfl

/-- What moves keep, and the continuations of a tick, is kept by any input. -/
theorem handle_keeps {P : ExecState -> Prop} {engine : Engine} {input : EngineInput}
    {world : WorldSnapshot} (hpruned : P (engine.pruned world.nowMs))
    (hmoves : forall {depth before after}, Moves world.nowMs depth before after -> P before ->
      P after)
    (hbatch : input = .tick -> forall rules, engine.rules = some rules ->
      P (fireContinuations { world := world, rules := rules } (engine.pruned world.nowMs, [])).1) :
    P (engine.handle input world).1.state := by
  unfold Engine.handle
  cases hrules : engine.rules with
  | none => exact hpruned
  | some rules =>
    by_cases hinput : input = .tick
    · have hfired := hbatch hinput rules hrules
      subst hinput
      exact hmoves (serviceTick_moves { world := world, rules := rules } _) hfired
    · exact hmoves (dispatch_moves { world := world, rules := rules } hinput
        (engine.pruned world.nowMs, [])) hpruned

end Oxidali.Rules
