import Oxidali.Rules.Moves

/-!
# When the engine wants to be woken

The deadline is the earliest time in the tables, or the next look at the wall clock.  A
tick before it finds nothing due, and a tick at it takes out what is due.  A tick without
a rule set takes out nothing, and a named timer outlives the rules it was started by.
-/

namespace Oxidali.Rules

open List

def wallPollMs : Nat := 1000

def wallTriggersExist (rules : RuleSet) (enabled : List Bool) : Bool :=
  (range rules.rules.length).any fun idx => (enabled[idx]?).getD false
    && (rules.rules[idx]?).any fun rule => rule.triggers.any isWallTrigger

def consider (next : Option Nat) (candidate : Nat) : Option Nat :=
  some (next.elim candidate fun cur => min cur candidate)

def nextDeadline (vol : Volatile) (rules : Option RuleSet) (enabled : List Bool)
    (nowMs : Nat) : Option Nat :=
  let next := (vol.continuations.map Continuation.dueMs).foldl consider none
  let next := (vol.timers.map NamedTimer.dueMs).foldl consider next
  let next := (vol.every.map EverySlot.dueMs).foldl consider next
  if rules.any fun rules => wallTriggersExist rules enabled then
    consider next (laterMs nowMs wallPollMs)
  else next

def Engine.nextDeadlineMs (engine : Engine) : Option Nat :=
  nextDeadline engine.state.vol engine.rules engine.state.enabled engine.nowMs

/-- Nothing, or a time later than `t`. -/
def LaterThan (t : Nat) (next : Option Nat) : Prop :=
  forall deadline, next = some deadline -> t < deadline

variable {t : Nat} {item : Type}

theorem considered_min (times : List Nat) : times.foldl consider none = times.min? := by
  have hfold : forall (times : List Nat) first,
      times.foldl consider (some first) = some (times.foldl min first) := by
    intro times
    induction times with
    | nil => exact fun _ => rfl
    | cons time rest ih => exact fun first => ih (min first time)
  cases times with
  | nil => rfl
  | cons first rest => exact hfold rest first

/-- All the times that the deadline is the earliest of. -/
def Engine.dueTimes (engine : Engine) : List Nat :=
  engine.state.vol.continuations.map Continuation.dueMs
    ++ engine.state.vol.timers.map NamedTimer.dueMs ++ engine.state.vol.every.map EverySlot.dueMs
    ++ if engine.rules.any fun rules => wallTriggersExist rules engine.state.enabled then
        [laterMs engine.nowMs wallPollMs] else []

theorem nextDeadlineMs_min (engine : Engine) : engine.nextDeadlineMs = engine.dueTimes.min? := by
  rw [<- considered_min, Engine.dueTimes, foldl_append, foldl_append, foldl_append]
  unfold Engine.nextDeadlineMs nextDeadline
  dsimp only
  split
  · rfl
  · rfl

theorem LaterThan.all {times : List Nat} (h : LaterThan t times.min?) :
    forall time, time ∈ times -> t < time := by
  intro time htime
  cases hmin : times.min? with
  | none => cases min?_eq_none_iff.mp hmin ▸ htime
  | some first => exact Nat.lt_of_lt_of_le (h first hmin) ((min?_eq_some_iff.mp hmin).2 time htime)

/-- Everything in the tables is due later than `t`. -/
structure NothingDue (t : Nat) (vol : Volatile) : Prop where
  continuations : forall cont, cont ∈ vol.continuations -> t < cont.dueMs
  timers : forall timer, timer ∈ vol.timers -> t < timer.dueMs
  every : forall slot, slot ∈ vol.every -> t < slot.dueMs

theorem nothingDue_before {engine : Engine}
    (h : LaterThan t engine.nextDeadlineMs) : NothingDue t engine.state.vol := by
  rw [nextDeadlineMs_min] at h
  have hall := h.all
  simp only [Engine.dueTimes, forall_mem_append, forall_mem_map] at hall
  exact ⟨hall.1.1.1, hall.1.1.2, hall.1.2⟩

variable {due : item -> Nat} {items : List item}

theorem none_due (h : forall item, item ∈ items -> t < due item) :
    items.filter (fun item => decide (due item <= t)) = []
      ∧ items.filter (fun item => !decide (due item <= t)) = items := by
  constructor
  · rw [filter_eq_nil_iff]
    intro item hitem
    simpa using h item hitem
  · rw [filter_eq_self]
    intro item hitem
    simpa using h item hitem

variable (env : ExecEnv)

theorem serviceTick_nothingDue {handled : Handled} (h : NothingDue env.world.nowMs handled.1.vol) :
    serviceTick env handled = fireWallSchedules env handled := by
  have hcontinuations : fireContinuations env handled = handled := by
    simp only [fireContinuations, none_due h.continuations]
    rfl
  have htimers : fireTimers env handled = handled := by
    simp only [fireTimers, none_due h.timers]
    rfl
  have hevery : fireEvery env handled = handled := by
    have hkept : handled.1.vol.every.map (fun slot =>
        if decide (slot.dueMs <= env.world.nowMs) then
          { slot with dueMs := laterMs env.world.nowMs slot.periodMs }
        else slot) = handled.1.vol.every := by
      refine (map_congr_left fun slot hslot => if_neg ?_).trans (map_id' _)
      simpa using h.every slot hslot
    simp only [fireEvery, none_due h.every, hkept]
    rfl
  rw [serviceTick, hcontinuations, htimers, hevery]

/-! ## What a tick takes out -/

def dueTimers (state : ExecState) : List NamedTimer :=
  insertionSortBy timerLater
    (state.vol.timers.filter fun timer => decide (timer.dueMs <= env.world.nowMs))

def withoutDueTimers (state : ExecState) : ExecState :=
  { state with vol := { state.vol with
    timers := state.vol.timers.filter fun timer =>
      !decide (timer.dueMs <= env.world.nowMs) } }

theorem due_gone {one : item} (hdue : due one = t) :
    one ∉ items.filter fun item => !decide (due item <= t) := by
  intro hkept
  simpa [hdue] using (mem_filter.mp hkept).2

namespace Engine

variable (engine : Engine) (world : WorldSnapshot)

/-- The state from which a tick resumes the continuations that are due. -/
def resumesFrom : ExecState :=
  engine.rules.elim (engine.pruned world.nowMs) fun rules =>
    withoutDue ⟨world, rules⟩ (engine.pruned world.nowMs)

def resumed : Handled :=
  engine.rules.elim (engine.resumesFrom world, []) fun rules =>
    (dueBatch ⟨world, rules⟩ (engine.pruned world.nowMs)).foldl
      (fun handled cont => resume ⟨world, rules⟩ cont handled) (engine.resumesFrom world, [])

/-- The state from which a tick fires the timers that are due. -/
def firesFrom : ExecState :=
  engine.rules.elim (engine.resumed world).1 fun rules =>
    withoutDueTimers ⟨world, rules⟩ (engine.resumed world).1

/-- A tick by its phases. -/
def ticked : Handled :=
  engine.rules.elim (engine.firesFrom world, []) fun rules =>
    fireWallSchedules ⟨world, rules⟩ (fireEvery ⟨world, rules⟩
      ((dueTimers ⟨world, rules⟩ (engine.resumed world).1).foldl
        (fun handled timer => fireOneTimer ⟨world, rules⟩ timer.name handled)
        (engine.firesFrom world, (engine.resumed world).2)))

/-- The schedules of a tick that has done nothing before them. -/
def schedules : Handled :=
  engine.rules.elim (engine.pruned world.nowMs, []) fun rules =>
    fireWallSchedules ⟨world, rules⟩ (engine.pruned world.nowMs, [])

variable {engine world}

theorem ticked_some {rules : RuleSet} (hrules : engine.rules = some rules) :
    engine.ticked world = serviceTick ⟨world, rules⟩ (engine.pruned world.nowMs, []) := by
  simp only [ticked, firesFrom, resumed, resumesFrom, hrules, Option.elim_some]
  rfl

theorem ticked_none (hrules : engine.rules = none) :
    engine.ticked world = (engine.pruned world.nowMs, []) := by
  simp only [ticked, firesFrom, resumed, resumesFrom, hrules, Option.elim_none]

theorem handle_ticked :
    ((engine.handle .tick world).1.state, (engine.handle .tick world).2) = engine.ticked world := by
  unfold handle
  cases hrules : engine.rules with
  | none =>
    rw [ticked_none hrules]
  | some rules =>
    rw [ticked_some hrules]
    rfl

variable (engine world)

/-- A tick before the deadline comes to the schedules with nothing done.  What is due at
the deadline is taken out of its table before it is run. -/
structure DeadlineKept : Prop where
  early : LaterThan world.nowMs engine.nextDeadlineMs ->
    engine.ticked world = engine.schedules world
  resumed : engine.nextDeadlineMs = some world.nowMs ->
    forall cont, cont ∈ engine.state.vol.continuations -> cont.dueMs = world.nowMs ->
      cont ∉ (engine.resumesFrom world).vol.continuations
  fired : engine.nextDeadlineMs = some world.nowMs ->
    forall timer, timer ∈ engine.state.vol.timers -> timer.dueMs = world.nowMs ->
      timer ∉ (engine.firesFrom world).vol.timers

/-- Without rules only named timers are waited for. -/
def Bare : Prop :=
  engine.rules = none -> engine.state.vol.continuations = [] ∧ engine.state.vol.every = []

theorem bare_afterAll (nowMs : Nat) (calls : List EngineCall) :
    ((new nowMs).afterAll calls).Bare := by
  refine foldlRecOn (motive := Bare) calls _ (fun _ => ⟨rfl, rfl⟩) ?_
  intro engine h call _
  cases call with
  | setRules set nowMs =>
    rintro rfl
    exact ⟨rfl, rfl⟩
  | setRuleEnabled name on =>
    unfold Bare after setRuleEnabled
    dsimp only
    cases hrules : engine.rules with
    | none => exact fun _ => h hrules
    | some rules =>
      split
      · exact fun hnone => absurd (hrules.symm.trans hnone) (by simp)
      · exact nofun
  | handle input world =>
    intro hnone
    have hrules := (handle_rules engine input world).symm.trans hnone
    simp only [after, handle, hrules]
    exact h hrules

variable {engine world}

theorem earlier_timer {timer : NamedTimer} (hdeadline : engine.nextDeadlineMs = some t)
    (htimer : timer ∈ engine.state.vol.timers) : t <= timer.dueMs := by
  rw [nextDeadlineMs_min, min?_eq_some_iff] at hdeadline
  apply hdeadline.2
  simp only [dueTimes, mem_append, mem_map]
  exact .inl (.inl (.inr ⟨timer, htimer, rfl⟩))

theorem deadline_of_timers (h : engine.Bare) (hrules : engine.rules = none) {timer : NamedTimer}
    (htimer : timer ∈ engine.state.vol.timers)
    (hfirst : forall other, other ∈ engine.state.vol.timers -> timer.dueMs <= other.dueMs) :
    engine.nextDeadlineMs = some timer.dueMs := by
  have hempty := h hrules
  rw [nextDeadlineMs_min, dueTimes, hempty.1, hempty.2, hrules, min?_eq_some_iff]
  simpa using ⟨⟨timer, htimer, rfl⟩, hfirst⟩

/-- Every tick keeps the deadline, except that without a rule set it leaves the timers
where they are. -/
theorem tick_at_deadline (nowMs : Nat) (calls : List EngineCall) (world : WorldSnapshot) :
    let engine := (new nowMs).afterAll calls
    ((engine.handle .tick world).1.state, (engine.handle .tick world).2) = engine.ticked world
      ∧ (engine.DeadlineKept world <-> engine.rules.isSome
        ∨ forall timer, timer ∈ engine.state.vol.timers -> timer.dueMs = world.nowMs ->
          exists other, other ∈ engine.state.vol.timers ∧ other.dueMs < world.nowMs) := by
  intro engine
  have hbare : engine.Bare := bare_afterAll nowMs calls
  refine ⟨handle_ticked, ?_, ?_⟩
  · intro h
    cases hrules : engine.rules with
    | some rules => exact .inl rfl
    | none =>
      refine .inr fun timer htimer hdue => ?_
      by_contra hnone
      have hdeadline := deadline_of_timers hbare hrules htimer fun other hother =>
        Nat.le_of_not_lt fun hless => hnone ⟨other, hother, hdue ▸ hless⟩
      refine h.fired (hdue ▸ hdeadline) timer htimer hdue ?_
      simp only [firesFrom, Engine.resumed, resumesFrom, hrules, Option.elim_none]
      exact htimer
  · intro h
    cases hrules : engine.rules with
    | none =>
      refine ⟨fun _ => ?_, fun _ cont hcont => ?_, fun hdeadline timer htimer hdue => ?_⟩
      · rw [ticked_none hrules, schedules, hrules, Option.elim_none]
      · rw [(hbare hrules).1] at hcont
        cases hcont
      · rw [hrules] at h
        rcases h.resolve_left (by simp) timer htimer hdue with ⟨other, hother, hless⟩
        exact absurd (earlier_timer hdeadline hother) (Nat.not_le.mpr hless)
    | some rules =>
      refine ⟨fun hlater => ?_, fun _ cont _ hdue => ?_, fun _ timer _ hdue => ?_⟩
      · have hnothing := nothingDue_before hlater
        rw [ticked_some hrules, schedules, hrules, Option.elim_some]
        exact serviceTick_nothingDue ⟨world, rules⟩
          ⟨hnothing.continuations, hnothing.timers, hnothing.every⟩
      · rw [resumesFrom, hrules]
        exact due_gone hdue
      · rw [firesFrom, hrules]
        exact due_gone hdue

end Engine

def offLater : RuleSet where
  langId := 0
  blocks := []
  rules := [{ name := "stairs"
              enabled := true
              cooldownMs := 0
              holdHcl := false
              triggers := [.httpTrigger]
              conditions := []
              actions := [.prim (.timer (.start "off" 1000))] }]

def stairsStarted : Engine :=
  (Engine.new 0).afterAll [.setRules (some offLater) 0,
    .handle (.runRule "stairs" false) { nowMs := 0 }]

theorem stairs_timer_due :
    ⟨"off", 1000⟩ ∈ stairsStarted.state.vol.timers
      ∧ ⟨"off", 1000⟩ ∉ (stairsStarted.firesFrom { nowMs := 1000 }).vol.timers :=
  ⟨by decide +kernel, ((Engine.tick_at_deadline 0 [.setRules (some offLater) 0,
    .handle (.runRule "stairs" false) { nowMs := 0 }] { nowMs := 1000 }).2.mpr (.inl rfl)).fired
      (by decide +kernel) ⟨"off", 1000⟩ (by decide +kernel) rfl⟩

/-- A rule has started a timer and is gone with its set: the tick at the deadline leaves
the timer where it is, and the deadline with it. -/
theorem timer_outlives_rules :
    let engine := stairsStarted.setRules none 500
    let ticked := (engine.handle .tick { nowMs := 1000 }).1
    engine.nextDeadlineMs = some 1000 ∧ ⟨"off", 1000⟩ ∈ engine.state.vol.timers
      ∧ ⟨"off", 1000⟩ ∈ ticked.state.vol.timers ∧ ticked.nextDeadlineMs = some 1000 := by
  decide +kernel

end Oxidali.Rules
