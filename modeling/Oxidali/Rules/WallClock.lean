import Oxidali.Rules.Moves

/-!
# Schedules by the wall clock

A tick looks at the minutes of the week behind the previous tick, an hour at most.  A
clock that goes on by at most an hour from tick to tick is looked at without a gap and
without an overlap.  A clock that is set back reads as one that is almost a week ahead,
and the hour before the new time is looked at again.
-/

namespace Oxidali.Rules

open List Option Engine

/-! ## Before the schedules -/

/-- The minute of the previous tick stays, and no rule is found due. -/
def Still (before after : ExecState) : Prop :=
  after.vol.prevWeekMin = before.vol.prevWeekMin ∧ after.found = before.found

theorem Still.trans {before mid after : ExecState} (h : Still before mid) (h' : Still mid after) :
    Still before after :=
  ⟨h'.1.trans h.1, h'.2.trans h.2⟩

theorem still_foldl {α β : Type} {items : List α} {f : β -> α -> β} (state : β -> ExecState)
    (h : forall acc item, Still (state acc) (state (f acc item))) (acc : β) :
    Still (state acc) (state (items.foldl f acc)) :=
  foldlRecOn items f (motive := fun reached => Still (state acc) (state reached)) ⟨rfl, rfl⟩
    fun reached hreached item _ => hreached.trans (h reached item)

theorem PrimStep.still {dry : Bool} {before after : ExecState} (h : PrimStep dry before after) :
    Still before after := by
  cases h with
  | same | write hwet cyclePos stats vars timers => exact ⟨rfl, rfl⟩
  | flip hwet idx rule value => cases value <;> exact ⟨rfl, rfl⟩

section Before

variable (env : ExecEnv)

theorem runSteps_still (job : Job) (budget : Nat) (steps : List FlatStep)
    (run : ExecState × RunOutput) : Still run.1 (runSteps env job budget steps run).1 := by
  refine runSteps_keeps env (P := Still run.1) ?_ ?_ ?_ ?_ budget steps run ⟨rfl, rfl⟩
  · intro action run h
    have hprim := h.trans (executePrim_step env job run.1 action).still
    unfold runPrim
    dsimp only
    split <;> exact hprim
  · intro _ budgetLeft delayMs steps run h
    unfold scheduleContinuation
    dsimp only
    split <;> exact h
  · exact fun _ h => h
  · exact fun _ h => h

theorem finishWet_still (out : RunOutput) (depth : Nat) (dry : Bool) (state : ExecState) :
    Still state (finishWet env out depth dry state) := by
  unfold finishWet
  split
  · exact ⟨rfl, rfl⟩
  · refine still_foldl id (fun state effect => ?_) state
    rcases recordEffectChain_vol effect depth env.world.nowMs state with ⟨chain, hvol⟩
    have hprev := congrArg Volatile.prevWeekMin hvol
    exact ⟨hprev, rfl⟩

theorem activate_still (rule : Rule) (kind : TriggerKind) (ctx : EventCtx) (depth : Nat)
    (mode : Mode) (handled : Handled) :
    Still handled.1 (activate env rule kind ctx depth mode handled).1 := by
  unfold activate
  dsimp only
  split
  · exact ⟨rfl, rfl⟩
  · split
    · exact ⟨rfl, rfl⟩
    · split
      · refine .trans ?_ ((runSteps_still env _ _ _ _).trans (finishWet_still env _ _ _ _))
        dsimp only
        split <;> exact ⟨rfl, rfl⟩
      · exact ⟨rfl, rfl⟩
      · exact ⟨rfl, rfl⟩

variable (handled : Handled)

/-- A tick before it comes to the schedules. -/
def beforeSchedules : Handled :=
  fireEvery env (fireTimers env (fireContinuations env handled))

theorem beforeSchedules_still : Still handled.1 (beforeSchedules env handled).1 := by
  have hcontinuations : Still handled.1 (fireContinuations env handled).1 := by
    refine .trans ⟨rfl, rfl⟩ (still_foldl Prod.fst (fun handled cont => ?_) _)
    exact (runSteps_still env _ _ _ _).trans (finishWet_still env _ _ _ _)
  have htimers : forall handled : Handled, Still handled.1 (fireTimers env handled).1 := by
    intro handled
    refine .trans ⟨rfl, rfl⟩ (still_foldl Prod.fst (fun handled timer => ?_) _)
    refine still_foldl Prod.fst (fun handled idx => ?_) handled
    split
    · exact ⟨rfl, rfl⟩
    · split
      · exact activate_still env _ _ _ _ _ _
      · exact ⟨rfl, rfl⟩
  refine (hcontinuations.trans (htimers _)).trans
    (.trans ⟨rfl, rfl⟩ (still_foldl Prod.fst (fun handled name => ?_) _))
  split
  · exact ⟨rfl, rfl⟩
  · split
    · exact ⟨rfl, rfl⟩
    · split
      · exact activate_still env _ _ _ _ _ _
      · exact ⟨rfl, rfl⟩

end Before

/-! ## The minutes of a trigger -/

/-- Minute `minute`, counted on from some Monday, is one of the trigger's. -/
def Trigger.Occurs (world : WorldSnapshot) (minute : Nat) : Trigger -> Prop
  | .atTime time days => exists day, day < 7 ∧ days.contains day
    ∧ minute % weekMinutes = (day * 24 * 60 + (time.hour * 60 + time.minute)) % weekMinutes
  | .atSolar event offsetMs => exists sun day, world.sun = some sun ∧ day < 7
    ∧ minute % weekMinutes = (day * 24 * 60 + solarMinute sun event offsetMs) % weekMinutes
  | _ => False

def Trigger.wallKind : Trigger -> Option TriggerKind
  | .atTime _ _ => some .atTime
  | .atSolar _ _ => some .atSolar
  | _ => none

/-- One of the minutes after `start` and up to `finish` is one of the trigger's. -/
def Trigger.Due (world : WorldSnapshot) (start finish : Nat) (trigger : Trigger) : Prop :=
  exists minute, start < minute ∧ minute <= finish ∧ trigger.Occurs world minute

/-- The first of the triggers that are due has kind `kind`. -/
def FirstDue (world : WorldSnapshot) (start finish : Nat) (kind : TriggerKind) :
    List Trigger -> Prop
  | [] => False
  | trigger :: rest => trigger.Due world start finish ∧ trigger.wallKind = some kind
    ∨ ¬trigger.Due world start finish ∧ FirstDue world start finish kind rest

theorem inWindow_iff {window : Nat} (hwindow : window <= wallCatchupCapMin) (start target : Nat) :
    inWindow (start % weekMinutes) window target
      <-> exists minute, start < minute ∧ minute <= start + window
        ∧ minute % weekMinutes = target % weekMinutes := by
  unfold inWindow
  rw [decide_eq_true_iff]
  simp only [cyclicDist, weekMinutes, wallCatchupCapMin] at hwindow ⊢
  constructor
  · intro h
    refine ⟨start + (target + 7 * 24 * 60 - start % (7 * 24 * 60)) % (7 * 24 * 60), ?_⟩
    omega
  · rintro ⟨minute, h⟩
    omega

theorem anyDay_iff {window : Nat} (hwindow : window <= wallCatchupCapMin) (start ofDay : Nat)
    (on : Nat -> Bool) :
    ((range 7).any fun day => on day
      && inWindow (start % weekMinutes) window (day * 24 * 60 + ofDay))
      <-> exists minute, start < minute ∧ minute <= start + window ∧ exists day, day < 7 ∧ on day
        ∧ minute % weekMinutes = (day * 24 * 60 + ofDay) % weekMinutes := by
  simp only [List.any_eq_true, mem_range, Bool.and_eq_true, inWindow_iff hwindow]
  constructor
  · rintro ⟨day, hday, hon, minute, hafter, hupTo, hminute⟩
    exact ⟨minute, hafter, hupTo, day, hday, hon, hminute⟩
  · rintro ⟨minute, hafter, hupTo, day, hday, hon, hminute⟩
    exact ⟨day, hday, hon, minute, hafter, hupTo, hminute⟩

theorem dueWallKind_iff (env : ExecEnv) {window : Nat} (hwindow : window <= wallCatchupCapMin)
    (start : Nat) (kind : TriggerKind) (triggers : List Trigger) (unsynced : Bool) :
    (dueWallKind env (start % weekMinutes) window triggers unsynced).1 = some kind
      <-> FirstDue env.world start (start + window) kind triggers := by
  induction triggers generalizing unsynced with
  | nil => exact iff_of_false nofun id
  | cons trigger rest ih =>
    have hskip (hnot : ¬trigger.Due env.world start (start + window)) (unsynced : Bool) :=
      (ih unsynced).trans (show FirstDue env.world start (start + window) kind rest
        <-> FirstDue env.world start (start + window) kind (trigger :: rest) by
          simp [FirstDue, hnot])
    cases trigger with
    | atTime time days =>
      have hdue := anyDay_iff hwindow start (time.hour * 60 + time.minute) days.contains
      unfold dueWallKind
      split
      · next hyes => simp [FirstDue, Trigger.Due, Trigger.Occurs, hdue.mp hyes, Trigger.wallKind]
      · next hno => exact hskip (fun h => hno (hdue.mpr h)) unsynced
    | atSolar event offsetMs =>
      unfold dueWallKind
      cases hsun : env.world.sun with
      | none => exact hskip (by simp [Trigger.Due, Trigger.Occurs, hsun]) true
      | some sun =>
        have hdue := (anyDay_iff hwindow start (solarMinute sun event offsetMs) fun _ => true).trans
          (show _ <-> (Trigger.atSolar event offsetMs).Due env.world start (start + window) by
            simp [Trigger.Due, Trigger.Occurs, hsun])
        dsimp only
        split
        · next hyes => simp [FirstDue, hdue.mp hyes, Trigger.wallKind]
        · next hno => exact hskip (fun h => hno (hdue.mpr h)) unsynced
    | _ => exact hskip (fun ⟨_, _, _, h⟩ => h) unsynced

theorem firstDue_iff (world : WorldSnapshot) (start finish : Nat) (triggers : List Trigger) :
    (exists kind, FirstDue world start finish kind triggers)
      <-> exists trigger, trigger ∈ triggers ∧ trigger.Due world start finish := by
  induction triggers with
  | nil => simp [FirstDue]
  | cons trigger rest ih =>
    simp only [FirstDue, exists_or, exists_and_left, ih, mem_cons, or_and_right,
      exists_eq_left]
    by_cases hdue : trigger.Due world start finish
    · have hkind : exists kind, trigger.wallKind = some kind := by
        rcases hdue with ⟨minute, _, _, hoccurs⟩
        cases trigger with
        | atTime | atSolar => exact ⟨_, rfl⟩
        | _ => exact hoccurs.elim
      simp [hdue, hkind]
    · simp [hdue]

/-- Nothing is due in no minutes, and nothing without a schedule. -/
theorem dueWallKind_none (env : ExecEnv) (start : Nat) {window : Nat}
    (hwindow : window <= wallCatchupCapMin) {triggers : List Trigger}
    (h : window = 0 ∨ triggers.any isWallTrigger = false) (unsynced : Bool) :
    (dueWallKind env (start % weekMinutes) window triggers unsynced).1 = none := by
  refine eq_none_iff_forall_ne_some.mpr fun kind hkind => ?_
  rcases (firstDue_iff _ _ _ _).mp ⟨kind, (dueWallKind_iff env hwindow start kind _ _).mp hkind⟩
    with ⟨trigger, hmem, minute, hafter, hupTo, hoccurs⟩
  rcases h with rfl | hnone
  · omega
  · have := List.any_eq_false.mp hnone trigger hmem
    cases trigger with
    | atTime | atSolar => exact this rfl
    | _ => exact hoccurs

/-! ## The turns of the rules -/

section Turns

variable (env : ExecEnv) (base window : Nat)

/-- What the schedules find when they come to a rule. -/
def turnFinds (acc : Handled × Bool) (idx : Nat) : Option TriggerKind :=
  (env.rules.rules[idx]?).bind fun rule =>
    if isEnabled acc.1.1 idx then (dueWallKind env base window rule.triggers acc.2).1 else none

theorem wallTurn_cases (acc : Handled × Bool) (idx : Nat) :
    (turnFinds env base window acc idx = none ∧ (wallTurn env base window acc idx).1 = acc.1)
    ∨ exists rule kind, env.rules.rules[idx]? = some rule
      ∧ turnFinds env base window acc idx = some kind
      ∧ (wallTurn env base window acc idx).1
        = activate env rule kind {} 0 .auto (acc.1.1.find idx kind, acc.1.2) := by
  unfold turnFinds wallTurn
  cases env.rules.rules[idx]? with
  | none => exact .inl ⟨rfl, rfl⟩
  | some rule =>
    dsimp only [Option.bind]
    split
    · rcases dueWallKind env base window rule.triggers acc.2 with ⟨_ | kind, unsynced⟩
      · exact .inl ⟨rfl, rfl⟩
      · exact .inr ⟨rule, kind, rfl, rfl, rfl⟩
    · exact .inl ⟨rfl, rfl⟩

/-- The schedules after the turns of some rules. -/
def turns (order : List Nat) (acc : Handled × Bool) : Handled × Bool :=
  order.foldl (wallTurn env base window) acc

theorem turns_split (front back : List Nat) (idx : Nat) (acc : Handled × Bool) :
    turns env base window (front ++ idx :: back) acc = turns env base window back
      (wallTurn env base window (turns env base window front acc) idx) :=
  foldl_append

theorem turns_quiet (hbase : base % weekMinutes = base) (hwindow : window <= wallCatchupCapMin)
    {handled : Handled} (hnone : window = 0 ∨ hasWallTriggers env handled.1 = false)
    (order : List Nat) (unsynced : Bool) :
    (turns env base window order (handled, unsynced)).1 = handled := by
  refine foldlRecOn order _
    (motive := fun reached : Handled × Bool => reached.1 = handled) rfl ?_
  intro reached hreached idx _
  rcases wallTurn_cases env base window reached idx with ⟨_, hsame⟩ | ⟨rule, kind, hrule, hfinds, _⟩
  · rw [hsame, hreached]
  · simp only [turnFinds, hrule, bind_some, ite_none_right_eq_some, hreached] at hfinds
    rcases hfinds with ⟨henabled, hdue⟩
    have hquiet : window = 0 ∨ rule.triggers.any isWallTrigger = false := by
      refine hnone.imp_right fun hnone => ?_
      simp only [hasWallTriggers, List.any_eq_false, mem_range, Bool.and_eq_true,
        not_and] at hnone
      simpa [hrule] using hnone idx (List.getElem?_eq_some_iff.mp hrule).1 henabled
    have hnothing := dueWallKind_none env base hwindow hquiet reached.2
    rw [hbase] at hnothing
    cases hnothing.symm.trans hdue

theorem activate_outcomes (rule : Rule) (kind : TriggerKind) (handled : Handled) :
    handled.2 <+: (activate env rule kind {} 0 .auto handled).2 := by
  unfold activate
  dsimp only
  split
  · exact prefix_rfl
  · split
    · exact prefix_append _ _
    · split
      · exact prefix_append _ _
      · exact prefix_rfl
      · exact prefix_append _ _

/-- Outcomes and findings are added to what is there, a finding when it is the rule's turn. -/
structure Turned (order : List Nat) (before after : Handled) : Prop where
  prevWeekMin : after.1.vol.prevWeekMin = before.1.vol.prevWeekMin
  outcomes : before.2 <+: after.2
  found : exists marks, after.1.found = marks ++ before.1.found
    ∧ (marks.map Prod.fst).Sublist order.reverse

theorem turns_turned (order : List Nat) (acc : Handled × Bool) :
    Turned order acc.1 (turns env base window order acc).1 := by
  induction order generalizing acc with
  | nil => exact ⟨rfl, prefix_rfl, [], rfl, .slnil⟩
  | cons idx rest ih =>
    have hrest := ih (wallTurn env base window acc idx)
    rcases hrest.found with ⟨marks, hfound, hmarks⟩
    rcases wallTurn_cases env base window acc idx with ⟨_, hsame⟩ | ⟨rule, kind, _, _, hturn⟩
    · rw [hsame] at hrest hfound
      refine ⟨hrest.prevWeekMin, hrest.outcomes, marks, hfound, ?_⟩
      simpa using hmarks.trans (sublist_append_left _ _)
    · rw [hturn] at hrest hfound
      have hstill := activate_still env rule kind {} 0 .auto (acc.1.1.find idx kind, acc.1.2)
      have houtcomes := activate_outcomes env rule kind (acc.1.1.find idx kind, acc.1.2)
      refine ⟨hrest.prevWeekMin.trans hstill.1, houtcomes.trans hrest.outcomes,
        marks ++ [(idx, kind)], ?_, ?_⟩
      · rw [hstill.2, ExecState.find] at hfound
        exact hfound.trans (by simp)
      · simpa using hmarks.append_right [idx]

theorem Turned.mem_found {order : List Nat} {before after : Handled}
    (h : Turned order before after) {idx : Nat} (hother : idx ∉ order) {kind : TriggerKind} :
    (idx, kind) ∈ after.1.found <-> (idx, kind) ∈ before.1.found := by
  rcases h.found with ⟨marks, hfound, hmarks⟩
  have hnot : (idx, kind) ∉ marks := fun hmem =>
    hother (mem_reverse.mp (hmarks.subset (mem_map_of_mem hmem)))
  rw [hfound, mem_append, or_iff_right hnot]

theorem mem_turns_found {front back : List Nat} {idx : Nat}
    (hdistinct : (front ++ idx :: back).Nodup) {acc : Handled × Bool}
    (hnone : acc.1.1.found = []) {kind : TriggerKind} :
    (idx, kind) ∈ (turns env base window (front ++ idx :: back) acc).1.1.found
      <-> turnFinds env base window (turns env base window front acc) idx = some kind := by
  simp only [nodup_append, nodup_cons] at hdistinct
  have hfront : idx ∉ front := fun hmem => hdistinct.2.2 idx hmem idx mem_cons_self rfl
  have hearly : (idx, kind) ∉ (turns env base window front acc).1.1.found := by
    rw [(turns_turned env base window front acc).mem_found hfront, hnone]
    exact not_mem_nil
  rw [turns_split, (turns_turned env base window back _).mem_found hdistinct.2.1.1]
  rcases wallTurn_cases env base window (turns env base window front acc) idx with
    ⟨hfinds, hsame⟩ | ⟨rule, found, _, hfinds, hturn⟩
  · simp [hsame, hfinds, hearly]
  · rw [hturn, (activate_still env rule found {} 0 .auto _).2]
    simp [ExecState.find, hearly, hfinds, eq_comm]

/-- An unconditional rule that is found due has an outcome. -/
theorem wallTurn_outcome {acc : Handled × Bool} {idx : Nat} {rule : Rule} {kind : TriggerKind}
    (hrule : env.rules.rules[idx]? = some rule)
    (hfinds : turnFinds env base window acc idx = some kind)
    (hcooldown : rule.cooldownMs = 0) (hconditions : rule.conditions = []) :
    exists outcome, outcome ∈ (wallTurn env base window acc idx).1.2
      ∧ outcome.rule = rule.name ∧ outcome.triggerKind = kind := by
  rcases wallTurn_cases env base window acc idx with
    ⟨hnone, _⟩ | ⟨found, other, hthis, hfound, hturn⟩
  · cases hnone.symm.trans hfinds
  · cases hthis.symm.trans hrule
    cases hfound.symm.trans hfinds
    rw [hturn]
    simp [activate, inCooldown, hcooldown, hconditions, conditionsHold, execute, maxChainDepth]

end Turns

/-! ## A tick -/

/-- Where the minutes a tick looks at begin, and how many they are. -/
def scannedMinutes (prev : Option Nat) (wall : Option WallTime) : Nat × Nat :=
  match wall, prev with
  | some wall, some prev =>
    let window := min (cyclicDist prev (weekMin wall)) wallCatchupCapMin
    ((weekMin wall + weekMinutes - window) % weekMinutes, window)
  | _, _ => (0, 0)

section Tick

variable (env : ExecEnv) (before : Handled)

/-- The schedules after the turns of some rules. -/
def wallTurns (order : List Nat) : Handled × Bool :=
  let scanned := scannedMinutes before.1.vol.prevWeekMin env.world.wall
  turns env scanned.1 scanned.2 order (({ before.1 with
    vol := { before.1.vol with prevWeekMin := env.world.wall.map weekMin } }, before.2), false)

/-- The rules that come before a rule. -/
def rulesBefore (rules : RuleSet) (idx : Nat) : List Nat :=
  (nameOrder rules).takeWhile (· ≠ idx)

theorem nameOrder_nodup (rules : RuleSet) : (nameOrder rules).Nodup :=
  (insertionSortBy_perm _ _).nodup_iff.mpr nodup_range

theorem nameOrder_split {rules : RuleSet} {idx : Nat} {rule : Rule}
    (hrule : rules.rules[idx]? = some rule) :
    exists back, nameOrder rules = rulesBefore rules idx ++ idx :: back := by
  have hmem : idx ∈ nameOrder rules :=
    (insertionSortBy_mem _).mpr (mem_range.mpr (List.getElem?_eq_some_iff.mp hrule).1)
  rcases eq_append_cons_of_mem hmem with ⟨front, back, hsplit, hfront⟩
  have hall : forall other, other ∈ front -> decide (other ≠ idx) = true := by
    rintro other hother
    exact decide_eq_true fun heq => hfront (heq ▸ hother)
  refine ⟨back, ?_⟩
  rw [rulesBefore, hsplit, takeWhile_append_of_pos hall]
  simp

/-- The schedules are the turns of the rules, up to the counters. -/
theorem fireWallSchedules_turns :
    let turned := (wallTurns env before (nameOrder env.rules)).1
    exists counters, fireWallSchedules env before
      = ({ turned.1 with counters := counters }, turned.2) := by
  unfold fireWallSchedules wallTurns scannedMinutes
  cases env.world.wall with
  | none =>
    dsimp only
    rw [turns_quiet env 0 0 rfl (Nat.zero_le _) (.inl rfl)]
    split <;> exact ⟨_, rfl⟩
  | some wall =>
    cases before.1.vol.prevWeekMin with
    | none =>
      dsimp only
      rw [turns_quiet env 0 0 rfl (Nat.zero_le _) (.inl rfl)]
      exact ⟨_, rfl⟩
    | some prev =>
      dsimp only
      split
      · next hnone =>
        rw [turns_quiet env _ _ (Nat.mod_mod _ _) (Nat.min_le_right _ _)]
        · exact ⟨_, rfl⟩
        · simpa [or_comm] using hnone
      · unfold fireDueWallRules
        dsimp only
        split <;> exact ⟨_, rfl⟩

end Tick

namespace Engine

variable (engine : Engine) (rules : RuleSet) (world : WorldSnapshot)

/-- A tick when it comes to the schedules. -/
def atSchedules : Handled :=
  beforeSchedules ⟨world, rules⟩ (engine.pruned world.nowMs, [])

/-- A tick when it comes to a rule. -/
def atTurn (idx : Nat) : ExecState :=
  (wallTurns ⟨world, rules⟩ (engine.atSchedules rules world) (rulesBefore rules idx)).1.1

theorem atSchedules_still :
    let before := (engine.atSchedules rules world).1
    before.vol.prevWeekMin = engine.state.vol.prevWeekMin ∧ before.found = [] :=
  beforeSchedules_still ⟨world, rules⟩ (engine.pruned world.nowMs, [])

variable {engine rules} (hrules : engine.rules = some rules)

include hrules

theorem handle_tick :
    let turned := (wallTurns ⟨world, rules⟩ (engine.atSchedules rules world) (nameOrder rules)).1
    exists counters, (engine.handle .tick world).1.state = { turned.1 with counters := counters }
      ∧ (engine.handle .tick world).2 = turned.2 := by
  rcases fireWallSchedules_turns ⟨world, rules⟩ (engine.atSchedules rules world) with
    ⟨counters, hfired⟩
  refine ⟨counters, Prod.mk.inj (.trans ?_ hfired)⟩
  simp only [handle, hrules, dispatch, serviceTick, atSchedules, beforeSchedules]

theorem handle_tick_prevWeekMin :
    (engine.handle .tick world).1.state.vol.prevWeekMin = world.wall.map weekMin := by
  rcases handle_tick world hrules with ⟨counters, hstate, _⟩
  rw [hstate]
  exact (turns_turned _ _ _ _ _).prevWeekMin

/-- No rule is found twice. -/
theorem found_once : ((engine.handle .tick world).1.state.found.map Prod.fst).Nodup := by
  rcases handle_tick world hrules with ⟨counters, hstate, _⟩
  rcases (turns_turned ⟨world, rules⟩ _ _ (nameOrder rules) _).found with ⟨marks, hfound, hmarks⟩
  rw [hstate]
  refine (hfound.trans ?_) ▸ hmarks.nodup (nodup_reverse.mpr (nameOrder_nodup rules))
  exact (congrArg _ (atSchedules_still engine rules world).2).trans (append_nil marks)

theorem mem_found_turn {idx : Nat} {rule : Rule} (hrule : rules.rules[idx]? = some rule)
    {kind : TriggerKind} : (idx, kind) ∈ (engine.handle .tick world).1.state.found
      <-> let scanned := scannedMinutes engine.state.vol.prevWeekMin world.wall
        turnFinds ⟨world, rules⟩ scanned.1 scanned.2 (wallTurns ⟨world, rules⟩
          (engine.atSchedules rules world) (rulesBefore rules idx)) idx = some kind := by
  rcases handle_tick world hrules with ⟨counters, hstate, _⟩
  rcases nameOrder_split hrule with ⟨back, hsplit⟩
  have hstill := atSchedules_still engine rules world
  rw [hstate, hsplit, <- hstill.1]
  refine mem_turns_found _ _ _ (hsplit ▸ nameOrder_nodup rules) ?_
  exact hstill.2

theorem mem_found {start window : Nat} (hscanned : scannedMinutes engine.state.vol.prevWeekMin
    world.wall = (start % weekMinutes, window)) (hwindow : window <= wallCatchupCapMin)
    {idx : Nat} {kind : TriggerKind} : (idx, kind) ∈ (engine.handle .tick world).1.state.found
      <-> exists rule, rules.rules[idx]? = some rule ∧ isEnabled (engine.atTurn rules world idx) idx
        ∧ FirstDue world start (start + window) kind rule.triggers := by
  cases hrule : rules.rules[idx]? with
  | none =>
    rcases handle_tick world hrules with ⟨counters, hstate, _⟩
    have hnone : idx ∉ nameOrder rules := fun hmem => Nat.not_lt.mpr
      (List.getElem?_eq_none_iff.mp hrule) (mem_range.mp ((insertionSortBy_mem _).mp hmem))
    rw [hstate]
    refine ((turns_turned ⟨world, rules⟩ _ _ _ _).mem_found hnone).trans ?_
    rw [show _ = [] from (atSchedules_still engine rules world).2]
    simp
  | some rule =>
    rw [mem_found_turn world hrules hrule, hscanned]
    simp [turnFinds, hrule, dueWallKind_iff ⟨world, rules⟩ hwindow, atTurn]

theorem found_outcome {idx : Nat} {rule : Rule} {kind : TriggerKind}
    (hrule : rules.rules[idx]? = some rule)
    (hfound : (idx, kind) ∈ (engine.handle .tick world).1.state.found)
    (hcooldown : rule.cooldownMs = 0) (hconditions : rule.conditions = []) :
    exists outcome, outcome ∈ (engine.handle .tick world).2
      ∧ outcome.rule = rule.name ∧ outcome.triggerKind = kind := by
  rcases handle_tick world hrules with ⟨counters, _, houtcomes⟩
  rcases nameOrder_split hrule with ⟨back, hsplit⟩
  rw [mem_found_turn world hrules hrule, <- (atSchedules_still engine rules world).1] at hfound
  rcases wallTurn_outcome _ _ _ hrule hfound hcooldown hconditions with ⟨outcome, hmem, hsame⟩
  rw [houtcomes, hsplit, wallTurns, turns_split]
  exact ⟨outcome, (turns_turned _ _ _ back _).outcomes.subset hmem, hsame⟩

end Engine

/-! ## A clock that goes on -/

theorem scanned_onward {start finish : Nat} (hon : start <= finish)
    (hcap : finish <= start + wallCatchupCapMin) :
    let window := min (cyclicDist (start % weekMinutes) (finish % weekMinutes)) wallCatchupCapMin
    (finish % weekMinutes + weekMinutes - window) % weekMinutes = start % weekMinutes
      ∧ window = finish - start := by
  simp only [cyclicDist, weekMinutes, wallCatchupCapMin] at hcap ⊢
  omega

/-- The engine before tick `count`. -/
def Engine.afterTicks (engine : Engine) (worlds : Nat -> WorldSnapshot) : Nat -> Engine
  | 0 => engine
  | count + 1 => ((afterTicks engine worlds count).handle .tick (worlds count)).1

theorem afterTicks_rules (engine : Engine) (worlds : Nat -> WorldSnapshot) (count : Nat) :
    (engine.afterTicks worlds count).rules = engine.rules := by
  induction count with
  | zero => rfl
  | succ count ih => exact (handle_rules _ _ _).trans ih

/-- The advance of tick `i + 1` has passed over `minute`. -/
def Passes (clock : Nat -> Nat) (i minute : Nat) : Prop :=
  clock i < minute ∧ minute <= clock (i + 1)

theorem passed_by_one {clock : Nat -> Nat} (hon : forall i, clock i <= clock (i + 1)) {minute : Nat}
    (hafter : clock 0 < minute) {count : Nat} (hupTo : minute <= clock count) :
    exists i, i < count ∧ Passes clock i minute
      ∧ forall other, Passes clock other minute -> other = i := by
  have hmono := monotone_nat_of_le_succ hon
  have hmem : minute ∈ Set.Ioc (clock 0) (clock count) := ⟨hafter, hupTo⟩
  rw [<- hmono.biUnion_Ico_Ioc_map_succ] at hmem
  rcases Set.mem_iUnion₂.mp hmem with ⟨i, hi, hpasses⟩
  refine ⟨i, hi.2, hpasses, fun other hother => ?_⟩
  by_contra hne
  exact Set.disjoint_left.mp (hmono.pairwise_disjoint_on_Ioc_succ hne) hother hpasses

/-- A clock of the minutes since some Monday, read at every tick, that goes on by at most
an hour from tick to tick. -/
structure GoesOn (clock : Nat -> Nat) (worlds : Nat -> WorldSnapshot) : Prop where
  reads : forall i, exists wall, (worlds i).wall = some wall ∧ weekMin wall = clock i % weekMinutes
  onward : forall i, clock i <= clock (i + 1)
  capped : forall i, clock (i + 1) <= clock i + wallCatchupCapMin

/-- A tick finds an enabled rule due, and runs it, when its advance has passed over a minute
of one of the rule's triggers, and not otherwise.  Each minute of a trigger is passed over by
one tick. -/
theorem at_time_served_once (engine : Engine) {rules : RuleSet} (hrules : engine.rules = some rules)
    {idx : Nat} {rule : Rule} (hrule : rules.rules[idx]? = some rule)
    {worlds : Nat -> WorldSnapshot} {clock : Nat -> Nat} (hclock : GoesOn clock worlds)
    {count : Nat} (henabled : forall i, i < count -> isEnabled
      ((engine.afterTicks worlds (i + 1)).atTurn rules (worlds (i + 1)) idx) idx) :
    let ticked := fun i => (engine.afterTicks worlds (i + 1)).handle .tick (worlds (i + 1))
    let finds := fun i kind => (idx, kind) ∈ (ticked i).1.state.found
    (forall i, i < count -> ((ticked i).1.state.found.map Prod.fst).Nodup
      ∧ (forall kind, finds i kind
        <-> FirstDue (worlds (i + 1)) (clock i) (clock (i + 1)) kind rule.triggers)
      ∧ ((exists kind, finds i kind) <-> exists trigger, trigger ∈ rule.triggers
        ∧ trigger.Due (worlds (i + 1)) (clock i) (clock (i + 1)))
      ∧ (rule.cooldownMs = 0 -> rule.conditions = [] -> forall kind, finds i kind ->
        exists outcome, outcome ∈ (ticked i).2 ∧ outcome.rule = rule.name
          ∧ outcome.triggerKind = kind))
    ∧ forall time days, .atTime time days ∈ rule.triggers -> forall minute,
      clock 0 < minute -> minute <= clock count ->
      (Trigger.atTime time days).Occurs (worlds 0) minute ->
      exists i, i < count ∧ (exists kind, finds i kind) ∧ Passes clock i minute
        ∧ forall other, Passes clock other minute -> other = i := by
  have hscanned : forall i, scannedMinutes (engine.afterTicks worlds (i + 1)).state.vol.prevWeekMin
      (worlds (i + 1)).wall = (clock i % weekMinutes, clock (i + 1) - clock i) := by
    intro i
    rcases hclock.reads i with ⟨earlier, hfirst, hearlier⟩
    rcases hclock.reads (i + 1) with ⟨later, hsecond, hlater⟩
    have honward := scanned_onward (hclock.onward i) (hclock.capped i)
    unfold afterTicks
    rw [handle_tick_prevWeekMin (worlds i) ((afterTicks_rules engine worlds i).trans hrules),
      hfirst, hsecond]
    dsimp only [scannedMinutes, Option.map]
    rw [hearlier, hlater, honward.1, honward.2]
  have hsome : forall i, (engine.afterTicks worlds (i + 1)).rules = some rules :=
    fun i => (afterTicks_rules engine worlds (i + 1)).trans hrules
  have hfinds : forall i kind, i < count -> ((idx, kind)
      ∈ ((engine.afterTicks worlds (i + 1)).handle .tick (worlds (i + 1))).1.state.found
        <-> FirstDue (worlds (i + 1)) (clock i) (clock (i + 1)) kind rule.triggers) := by
    intro i kind hi
    rw [mem_found _ (hsome i) (hscanned i) (Nat.sub_le_iff_le_add'.mpr (hclock.capped i)),
      Nat.add_sub_cancel' (hclock.onward i)]
    simp [hrule, henabled i hi]
  intro ticked finds
  have hfound : forall i, i < count -> ((exists kind, finds i kind)
      <-> exists trigger, trigger ∈ rule.triggers
        ∧ trigger.Due (worlds (i + 1)) (clock i) (clock (i + 1))) := by
    intro i hi
    exact (exists_congr fun kind => hfinds i kind hi).trans (firstDue_iff _ _ _ _)
  constructor
  · intro i hi
    refine ⟨found_once _ (hsome i), fun kind => hfinds i kind hi, hfound i hi, ?_⟩
    intro hcooldown hconditions kind hkind
    exact found_outcome _ (hsome i) hrule hkind hcooldown hconditions
  · intro time days hmem minute hafter hupTo hoccurs
    rcases passed_by_one hclock.onward hafter hupTo with ⟨i, hi, hpasses, honly⟩
    exact ⟨i, hi, (hfound i hi).mpr ⟨_, hmem, minute, hpasses.1, hpasses.2, hoccurs⟩, hpasses,
      honly⟩

def halfPastTen : Trigger := .atTime ⟨10, 30⟩ ⟨0b1111111⟩

def halfPastTenRules : RuleSet where
  langId := 0
  blocks := []
  rules := [{ name := "morning"
              enabled := true
              cooldownMs := 0
              holdHcl := false
              triggers := [halfPastTen]
              conditions := []
              actions := [] }]

def mondayAt (nowMs hour : Nat) : WorldSnapshot where
  nowMs := nowMs
  wall := some ⟨hour * 60, 0⟩

def halfHours (count : Nat) : WorldSnapshot where
  nowMs := 0
  wall := some ⟨(600 + 30 * count) % (24 * 60), (600 + 30 * count) / (24 * 60) % 7⟩

theorem halfHours_goesOn : GoesOn (fun i => 600 + 30 * i) halfHours where
  reads i := by
    refine ⟨_, rfl, ?_⟩
    simp only [weekMin, weekMinutes]
    omega
  onward i := by omega
  capped i := by
    simp only [wallCatchupCapMin]
    omega

def halfPastTenEngine : Engine := (new 0).setRules (some halfPastTenRules) 0

theorem half_past_ten_served : exists i, i < 2 ∧ Passes (fun i => 600 + 30 * i) i 630
    ∧ exists outcome, outcome ∈ ((halfPastTenEngine.afterTicks halfHours (i + 1)).handle .tick
      (halfHours (i + 1))).2 ∧ outcome.rule = "morning" := by
  rcases at_time_served_once halfPastTenEngine rfl (show halfPastTenRules.rules[0]? = _ from rfl)
    halfHours_goesOn (show forall i, i < 2 -> _ by decide) with ⟨hticks, hserved⟩
  rcases hserved ⟨10, 30⟩ ⟨0b1111111⟩ mem_cons_self 630 (by decide) (by decide)
    ⟨0, by decide, by decide, rfl⟩ with ⟨i, hi, ⟨kind, hkind⟩, hpasses, _⟩
  rcases (hticks i hi).2.2.2 rfl rfl kind hkind with ⟨outcome, hmem, hrule, _⟩
  exact ⟨i, hi, hpasses, outcome, hmem, hrule⟩

/-! ## A clock that is set back -/

theorem scanned_back {now back : Nat} (hnow : now < weekMinutes) (hsome : 1 <= back)
    (hback : back <= 24 * 60) :
    let window := min (cyclicDist ((now + back) % weekMinutes) now) wallCatchupCapMin
    (now + weekMinutes - window) % weekMinutes
        = (now + weekMinutes - wallCatchupCapMin) % weekMinutes
      ∧ window = wallCatchupCapMin := by
  simp only [cyclicDist, weekMinutes, wallCatchupCapMin] at hnow ⊢
  omega

/-- A tick after the clock has been set back finds no time of the day due when the first
trigger of each enabled rule with a minute in the hour up to the new time, if there is one,
is not a time of the day. -/
theorem set_back_finds_last_hour (engine : Engine) {first second : WorldSnapshot}
    {earlier later : WallTime} (hfirst : first.wall = some earlier)
    (hsecond : second.wall = some later) (hlater : weekMin later < weekMinutes) {back : Nat}
    (hsome : 1 <= back) (hback : back <= 24 * 60)
    (hearlier : weekMin earlier = (weekMin later + back) % weekMinutes) :
    let ticked := (engine.handle .tick first).1
    (forall idx, (idx, .atTime) ∉ (ticked.handle .tick second).1.state.found)
      <-> forall rules idx rule, engine.rules = some rules -> rules.rules[idx]? = some rule ->
        isEnabled (ticked.atTurn rules second idx) idx ->
        ¬FirstDue second (weekMin later + weekMinutes - wallCatchupCapMin)
          (weekMin later + weekMinutes) .atTime rule.triggers := by
  have hticked := handle_rules engine .tick first
  cases hrules : engine.rules with
  | none => simp [handle, hrules]
  | some rules =>
    have hback := scanned_back hlater hsome hback
    have hcap : wallCatchupCapMin <= weekMin later + weekMinutes := by
      simp only [wallCatchupCapMin, weekMinutes]
      omega
    have hscanned : scannedMinutes (engine.handle .tick first).1.state.vol.prevWeekMin second.wall
        = ((weekMin later + weekMinutes - wallCatchupCapMin) % weekMinutes,
          wallCatchupCapMin) := by
      rw [handle_tick_prevWeekMin first hrules, hfirst, hsecond]
      dsimp only [scannedMinutes, Option.map]
      rw [hearlier, hback.1, hback.2]
    simp only [mem_found second (hticked.trans hrules) hscanned (Nat.le_refl _),
      Nat.sub_add_cancel hcap]
    constructor
    · rintro hnone rules idx rule ⟨⟩ hrule henabled hlast
      exact hnone idx ⟨rule, hrule, henabled, hlast⟩
    · rintro hnone idx ⟨rule, hrule, henabled, hlast⟩
      exact hnone rules idx rule rfl hrule henabled hlast

/-- The clock is set back from noon to eleven, and the rule of half past ten runs. -/
theorem set_back_runs_again :
    let ticked := halfPastTenEngine.handle .tick (mondayAt 0 12)
    let again := ticked.1.handle .tick (mondayAt 1000 11)
    again.1.state.found = [(0, .atTime)] ∧ (again.2.map fun outcome =>
      (outcome.rule, outcome.triggerKind)) = [("morning", .atTime)] := by
  decide

/-- Set back from one o'clock to noon, the clock leaves half past ten alone. -/
theorem set_back_at_noon :
    let ticked := (halfPastTenEngine.handle .tick (mondayAt 0 13)).1
    forall idx, (idx, .atTime) ∉ (ticked.handle .tick (mondayAt 1000 12)).1.state.found := by
  refine (set_back_finds_last_hour halfPastTenEngine rfl rfl (by decide) (show 1 <= 60 by decide)
    (by decide) (by decide)).mpr ?_
  rintro rules idx rule ⟨⟩ hrule _
  have hmem := mem_of_getElem? hrule
  rcases mem_singleton.mp hmem with rfl
  rintro (⟨⟨minute, hafter, hupTo, day, hday, _, hminute⟩, _⟩ | ⟨_, ⟨⟩⟩)
  simp only [weekMin, weekMinutes, wallCatchupCapMin] at hafter hupTo hminute
  omega

end Oxidali.Rules
