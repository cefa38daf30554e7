import Oxidali.Rules.Engine
import Oxidali.Rules.Turns

/-!
# Dry runs

A dry run walks the steps of a rule, takes no time in its waits and leaves the state as
it is: all it moves are counters.
-/

namespace Oxidali.Rules

/-- The state up to the counters and the journal. -/
structure Looked (before after : ExecState) : Prop where
  enabled : after.enabled = before.enabled
  vol : after.vol = before.vol

theorem PrimStep.dry {before after : ExecState} (h : PrimStep true before after) :
    after = before := by
  cases h with
  | same => rfl
  | write hwet | flip hwet => exact absurd rfl hwet

variable {job : Job} (env : ExecEnv)

theorem runPrim_dry (hdry : job.dry = true) (action : Primitive)
    (run : ExecState × RunOutput) : Looked run.1 (runPrim env job action run).1 := by
  have hstep := executePrim_step env job run.1 action
  rw [hdry] at hstep
  have hprim := hstep.dry
  have hlooked := And.intro (congrArg ExecState.enabled hprim) (congrArg ExecState.vol hprim)
  unfold runPrim
  dsimp only
  split
  · exact ⟨hlooked.1, hlooked.2⟩
  · exact ⟨hlooked.1, hlooked.2⟩
  · exact ⟨hlooked.1, hlooked.2⟩

theorem runSteps_dry (hdry : job.dry = true) (budget : Nat) (steps : List FlatStep)
    (run : ExecState × RunOutput) : Looked run.1 (runSteps env job budget steps run).1 := by
  refine runSteps_keeps env (P := Looked run.1) ?_ ?_ ?_ ?_ budget steps run ⟨rfl, rfl⟩
  · intro action run h
    have hprim := runPrim_dry env hdry action run
    exact ⟨hprim.enabled.trans h.enabled, hprim.vol.trans h.vol⟩
  · intro hwet
    rw [hdry] at hwet
    cases hwet
  · exact fun _ h => ⟨h.enabled, h.vol⟩
  · exact fun _ h => ⟨h.enabled, h.vol⟩

theorem execute_dry (rule : Rule) (kind : TriggerKind) (ctx : EventCtx) (depth : Nat)
    (state : ExecState) : Looked state (execute env rule kind ctx depth .dry state).2 := by
  have hrun : forall job : Job, job.dry = true -> forall started, Looked started
      (runSteps env job budgetForActivation (flattenRule rule.actions env.rules.blocks)
        (started, {})).1 :=
    fun _ hdry started => runSteps_dry env hdry _ _ (started, {})
  exact ⟨(hrun _ rfl _).enabled, (hrun _ rfl _).vol⟩

theorem activate_dry (rule : Rule) (kind : TriggerKind) (ctx : EventCtx) (depth : Nat)
    (handled : Handled) : Looked handled.1 (activate env rule kind ctx depth .dry handled).1 := by
  unfold activate
  dsimp only
  split
  · exact ⟨rfl, rfl⟩
  · split
    · exact ⟨rfl, rfl⟩
    · split
      · have hrun := execute_dry env rule kind ctx depth
          (handled.1.note (.evaluated rule.name depth))
        exact ⟨hrun.enabled, hrun.vol⟩
      · exact ⟨rfl, rfl⟩
      · exact ⟨rfl, rfl⟩

theorem runRule_dry (name : String) (handled : Handled) :
    Looked handled.1 (runRule env name true handled).1 := by
  unfold runRule
  split
  · exact ⟨rfl, rfl⟩
  · split
    · exact ⟨rfl, rfl⟩
    · rw [if_neg (by simp)]
      exact activate_dry env _ _ _ _ handled

/-- Besides the counters and the time of the call, a dry run changes nothing but the
causes that are too old to matter. -/
theorem dry_run_changes_nothing (engine : Engine) (name : String) (world : WorldSnapshot) :
    let after := (engine.handle (.runRule name true) world).1
    after.rules = engine.rules ∧ after.state.enabled = engine.state.enabled
      ∧ after.state.vol = { engine.state.vol with
          chain := engine.state.vol.chain.filter fun entry =>
            world.nowMs - entry.atMs <= chainWindowMs } := by
  unfold Engine.handle
  cases engine.rules with
  | none => exact ⟨rfl, rfl, rfl⟩
  | some rules =>
    have hlooked := runRule_dry { world := world, rules := rules } name
      (engine.pruned world.nowMs, [])
    exact ⟨rfl, hlooked.enabled, hlooked.vol⟩

end Oxidali.Rules
