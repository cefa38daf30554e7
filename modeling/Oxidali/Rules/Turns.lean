import Oxidali.Rules.Exec

/-!
# What a turn of a run does to the state

A turn leaves the pending continuations, the remembered causes and the journal
alone, disables a rule, schedules a continuation, or stops for want of room.
-/

namespace Oxidali.Rules

/-- The state up to what only conditions and counters see. -/
structure Untouched (before after : ExecState) : Prop where
  continuations : after.vol.continuations = before.vol.continuations
  seq : after.vol.seq = before.vol.seq
  chain : after.vol.chain = before.vol.chain
  journal : after.journal = before.journal

theorem Untouched.refl (state : ExecState) : Untouched state state :=
  ⟨rfl, rfl, rfl, rfl⟩

inductive Turn (rule : String) (depth : Nat) (before : ExecState) :
    ExecState -> Prop where
  | quiet {after : ExecState} (h : Untouched before after) : Turn rule depth before after
  | disable {after : ExecState} (idx : Nat) (other : String)
      (h : Untouched (flipRuleBit idx other false before) after) :
      Turn rule depth before after
  | schedule {after : ExecState} (cont : Continuation) (hrule : cont.rule = rule)
      (hdepth : cont.depth = depth)
      (hseq : cont.seq = before.vol.seq + 1)
      (hcontinuations :
        after.vol.continuations = before.vol.continuations ++ [cont])
      (hnext : after.vol.seq = cont.seq)
      (hchain : after.vol.chain = before.vol.chain)
      (hjournal : after.journal = .scheduled rule cont.seq :: before.journal) :
      Turn rule depth before after
  | stop {after : ExecState} (mark : Mark)
      (hmark : mark = .tableFull rule ∨ mark = .budgetSpent rule)
      (hcontinuations : after.vol.continuations = before.vol.continuations)
      (hseq : after.vol.seq = before.vol.seq)
      (hchain : after.vol.chain = before.vol.chain)
      (hjournal : after.journal = mark :: before.journal) : Turn rule depth before after

abbrev Turns (rule : String) (depth : Nat) : ExecState -> ExecState -> Prop :=
  Relation.ReflTransGen (Turn rule depth)

/-! ## Primitive actions -/

/-- A primitive action leaves the table alone or disables a rule. -/
def PrimTurn (before after : ExecState) : Prop :=
  Untouched before after ∨ exists idx rule, Untouched (flipRuleBit idx rule false before) after

variable {before after : ExecState}

theorem PrimTurn.actionFailed (h : PrimTurn before after) : PrimTurn before after.actionFailed := by
  rcases h with h | ⟨idx, rule, h⟩
  · exact .inl ⟨h.continuations, h.seq, h.chain, h.journal⟩
  · exact .inr ⟨idx, rule, h.continuations, h.seq, h.chain, h.journal⟩

theorem PrimTurn.turn (h : PrimTurn before after) (rule : String) (depth : Nat) :
    Turn rule depth before after := by
  rcases h with h | ⟨idx, other, h⟩
  · exact Turn.quiet h
  · exact Turn.disable idx other h

theorem flipRuleBit_primTurn (idx : Nat) (rule : String) (value : Bool)
    (state : ExecState) : PrimTurn state (flipRuleBit idx rule value state) := by
  cases value with
  | true => exact .inl ⟨rfl, rfl, rfl, rfl⟩
  | false => exact .inr ⟨idx, rule, .refl _⟩

/-- All that a primitive action can do to the state, and it does it in a wet run only. -/
inductive PrimStep (dry : Bool) (before : ExecState) : ExecState -> Prop where
  | same : PrimStep dry before before
  | write (hwet : ¬ dry = true) (cyclePos stats : List (String × Nat))
      (vars : List (String × VarValue)) (timers : List NamedTimer) :
      PrimStep dry before { before with vol := { before.vol with
        cyclePos := cyclePos, stats := stats, vars := vars, timers := timers } }
  | flip (hwet : ¬ dry = true) (idx : Nat) (rule : String) (value : Bool) :
      PrimStep dry before (flipRuleBit idx rule value before)

theorem PrimStep.primTurn {dry : Bool} (h : PrimStep dry before after) : PrimTurn before after := by
  cases h with
  | same => exact .inl (.refl before)
  | write hwet cyclePos stats vars timers => exact .inl ⟨rfl, rfl, rfl, rfl⟩
  | flip hwet idx rule value => exact flipRuleBit_primTurn idx rule value before

variable (env : ExecEnv) (job : Job) (state : ExecState)

theorem cycleEffect_step (scenes : List Nat) :
    PrimStep job.dry state (cycleEffect job scenes state).2 := by
  unfold cycleEffect
  split
  · exact .same
  · dsimp only
    split
    · exact .same
    · exact .write ‹_› _ _ _ _

theorem primTimer_step (timer : TimerAction) :
    PrimStep job.dry state (primTimer env job timer state).2 := by
  cases timer with
  | start timer durationMs =>
    simp only [primTimer, armTimer]
    split_ifs
    · exact .same
    · exact .same
    · exact .same
    · exact .write ‹_› _ _ _ _
  | restart timer durationMs =>
    simp only [primTimer, armTimer, cancelTimer]
    split_ifs
    · exact .same
    · exact .write ‹_› _ _ _ _
    · exact .write ‹_› _ _ _ _
  | cancel timer =>
    simp only [primTimer, cancelTimer]
    split_ifs
    · exact .same
    · exact .write ‹_› _ _ _ _

theorem varSet_step (name : String) (value : VarValue) :
    PrimStep job.dry state (varSet job name value state).2 := by
  unfold varSet
  dsimp only
  split_ifs
  · exact .same
  · exact .same
  · exact .same
  · exact .write ‹_› _ _ _ _

theorem setRuleBit_step (rule : String) (value : Bool) :
    PrimStep job.dry state (setRuleBit env job rule value state).2 := by
  unfold setRuleBit
  split
  · exact .same
  · split_ifs
    · exact .same
    · exact .flip ‹_› _ _ _

theorem primState_step (action : StateAction) :
    PrimStep job.dry state (primState env job action state).2 := by
  cases action with
  | varSet name value => exact varSet_step job state name value
  | varAdd name delta =>
    change PrimStep job.dry state (varAdd env job name delta state).2
    unfold varAdd
    split
    · exact .same
    · exact .same
    · exact varSet_step job state name _
    · exact varSet_step job state name _
  | ruleEnable rule => exact setRuleBit_step env job state rule true
  | ruleDisable rule => exact setRuleBit_step env job state rule false
  | mqttPublish topic payload retain | log text => exact .same
  | statCount name =>
    simp only [primState, Volatile.countStat]
    split_ifs
    · exact .same
    · split
      · exact .write ‹_› _ _ _ _
      · exact .same

theorem executePrim_step (action : Primitive) :
    PrimStep job.dry state (executePrim env job action state).2 := by
  cases action with
  | light light | hcl hcl | input input => exact .same
  | scene scene =>
    cases scene with
    | recall_ scene target | apply scene => exact .same
    | cycle scenes => exact cycleEffect_step job state scenes
  | timer timer => exact primTimer_step env job state timer
  | state action => exact primState_step env job state action

/-! ## The other turns -/

theorem runPrim_primTurn (job : Job) (action : Primitive) (run : ExecState × RunOutput) :
    PrimTurn run.1 (runPrim env job action run).1 := by
  have hprim := (executePrim_step env job run.1 action).primTurn
  unfold runPrim
  dsimp only
  cases (executePrim env job action run.1).1 with
  | none => exact hprim.actionFailed
  | some effect =>
    cases effect with
    | none | some effect => exact hprim

theorem scheduleContinuation_turn (job : Job) (budgetLeft delayMs : Nat) (steps : List FlatStep)
    (run : ExecState × RunOutput) :
    Turn job.rule job.depth run.1
      (scheduleContinuation env job budgetLeft delayMs steps run).1 := by
  unfold scheduleContinuation
  dsimp only
  split
  · exact Turn.stop (.tableFull job.rule) (.inl rfl) rfl rfl rfl rfl
  · exact Turn.schedule _ rfl rfl rfl rfl rfl rfl rfl

theorem runSteps_keeps {job : Job} {P : ExecState -> Prop}
    (hprim : forall action run, P run.1 -> P (runPrim env job action run).1)
    (hschedule : job.dry = false -> forall budgetLeft delayMs steps run, P run.1 ->
      P (scheduleContinuation env job budgetLeft delayMs steps run).1)
    (hfail : forall run, P run.1 -> P (branchUnevaluable run).1)
    (hspent : forall state, P state -> P (state.note (.budgetSpent job.rule))) (budget : Nat) :
    forall steps run, P run.1 -> P (runSteps env job budget steps run).1 := by
  induction budget with
  | zero =>
    intro steps run h
    cases steps with
    | nil => exact h
    | cons step rest => exact hspent run.1 h
  | succ budget ih =>
    intro steps run h
    cases steps with
    | nil => exact h
    | cons step rest =>
      cases step with
      | prim action => exact ih rest _ (hprim action run h)
      | wait ms =>
        rw [runSteps]
        split
        · exact ih rest run h
        · exact hschedule (eq_false_of_ne_true ‹_›) budget ms rest run h
      | branch condition thenLen elseLen =>
        rw [runSteps]
        cases conditionIn env job run.1 condition with
        | none => exact ih _ _ (hfail run h)
        | some verdict =>
          cases verdict with
          | true | false => exact ih _ run h
      | afterSched delayMs body =>
        rw [runSteps]
        split
        · exact ih _ run h
        · exact ih rest _ (hschedule (eq_false_of_ne_true ‹_›) budget delayMs body run h)
      | fail => exact ih rest _ (hfail run h)

theorem runSteps_turns (job : Job) (budget : Nat) (steps : List FlatStep)
    (run : ExecState × RunOutput) :
    Turns job.rule job.depth run.1 (runSteps env job budget steps run).1 := by
  refine runSteps_keeps env (P := Turns job.rule job.depth run.1) ?_ ?_ ?_ ?_ budget steps run .refl
  · intro action run h
    exact h.tail ((runPrim_primTurn env job action run).turn job.rule job.depth)
  · intro _ budgetLeft delayMs steps run h
    exact h.tail (scheduleContinuation_turn env job budgetLeft delayMs steps run)
  · intro run h
    exact h.tail (Turn.quiet ⟨rfl, rfl, rfl, rfl⟩)
  · intro state h
    exact h.tail (Turn.stop (.budgetSpent job.rule) (.inr rfl) rfl rfl rfl rfl)

end Oxidali.Rules
