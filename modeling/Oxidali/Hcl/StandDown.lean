import Oxidali.Hcl.Scheduler

/-!
# Suspended targets stay untouched

A command that a tick publishes stems from one schedule.  While the tick runs, a target
that is suspended for that schedule has to be stood down.  A hold always does it; a
commit does not where another schedule on the same target is spared.
-/

namespace Oxidali.Hcl

open OverrideLedger List

/-! ## The ledger -/

namespace OverrideLedger

variable {ledger : OverrideLedger} {schedule : String} {target : TargetKey}

theorem isSuspended_suspend {other : String} {key : TargetKey} {atMinutes : Nat} {cause : Causes}
    (h : (ledger.suspend other key atMinutes cause).isSuspended schedule target) :
    (schedule = other ∧ target = key) ∨ ledger.isSuspended schedule target := by
  simp only [isSuspended, suspend] at h
  by_cases hsame : schedule = other ∧ target = key
  · exact .inl hsame
  · rw [if_neg hsame] at h
    exact .inr h

theorem isSuspended_clearSchedule {cleared : String}
    (h : (ledger.clearSchedule cleared).isSuspended schedule target) :
    ledger.isSuspended schedule target := by
  simp only [isSuspended, clearSchedule] at h
  by_cases hsame : schedule = cleared
  · rw [if_pos hsame] at h
    cases h
  · rw [if_neg hsame] at h
    exact h

theorem isSuspended_resume {adapterId : Nat} {removal : Causes}
    (h : (ledger.resume adapterId removal).isSuspended schedule target) :
    ledger.isSuspended schedule target := by
  simp only [isSuspended, resume] at h
  unfold isSuspended
  cases hflag : ledger.suspended schedule target with
  | none =>
    rw [hflag] at h
    cases h
  | some flag => rfl

theorem isSuspended_rollOverTo {yearDay : Nat} {rolled : OverrideLedger}
    (hroll : ledger.rollOverTo yearDay = some rolled) :
    rolled.isSuspended schedule target = false := by
  unfold rollOverTo at hroll
  by_cases hforward : ledger.rolledForward yearDay = true
  · rw [if_pos hforward] at hroll
    cases hroll
    rfl
  · rw [if_neg hforward] at hroll
    cases hroll

end OverrideLedger

/-! ## Where commands come from -/

variable {entries : List DesiredEntry} {entry other : DesiredEntry}

theorem mem_offer (h : other ∈ offer entry entries) : other = entry ∨ other ∈ entries := by
  induction entries with
  | nil => exact .inl (mem_singleton.mp h)
  | cons seen rest ih =>
    unfold offer at h
    by_cases hkey : seen.key = entry.key
    · rw [if_pos hkey] at h
      rcases mem_cons.mp h with heq | hrest
      · exact .inl heq
      · exact .inr (mem_cons_of_mem _ hrest)
    · rw [if_neg hkey] at h
      rcases mem_cons.mp h with heq | hrest
      · exact .inr (heq ▸ mem_cons_self)
      · rcases ih hrest with heq | hold
        · exact .inl heq
        · exact .inr (mem_cons_of_mem _ hold)

theorem mem_coalesce (h : other ∈ coalesce entries) : other ∈ entries := by
  refine foldlRecOn (motive := fun seen : List DesiredEntry => other ∈ seen -> other ∈ entries)
    _ _ ?_ ?_ h
  · exact nofun
  · intro seen hseen entry hentry hoffer
    rcases mem_offer hoffer with heq | hold
    · exact heq ▸ hentry
    · exact hseen hold

variable {command : PlannedCommand}

theorem commandsFor_key (h : command ∈ commandsFor entry) : command.key = entry.key := by
  have hcolour : forall only, only ∈ (entry.state.colorTemperatureKelvin.map fun color =>
      PlannedCommand.targetState entry.key (colorOnlySetpoint color)).toList ->
      only.key = entry.key := by
    intro only honly
    rcases Option.map_eq_some_iff.mp (Option.mem_toList.mp honly) with ⟨color, _, heq⟩
    rw [<- heq]
    rfl
  unfold commandsFor at h
  split at h
  · rw [mem_singleton.mp h]
    rfl
  · rcases mem_append.mp h with honly | hrecall
    · exact hcolour command honly
    · rw [mem_singleton.mp hrecall]
      rfl
  · exact hcolour command h
  · exact hcolour command h

theorem mem_plan (h : command ∈ (plan entries).commands) :
    exists entry, entry ∈ entries ∧ command.key = entry.key := by
  refine foldlRecOn (motive := fun tickPlan : TickPlan => command ∈ tickPlan.commands ->
    exists entry, entry ∈ entries ∧ command.key = entry.key) _ _ ?_ ?_ h
  · exact nofun
  · intro tickPlan hplanned entry hentry hone
    unfold planOne at hone
    simp only at hone
    split at hone
    · exact hplanned hone
    · rcases mem_append.mp hone with hold | hunit
      · exact hplanned hold
      · exact ⟨entry, (mem_filter.mp hentry).1, commandsFor_key hunit⟩

namespace Scheduler

variable {worker next : Scheduler} {reading : Reading} {civil : LocalCivilTime}
variable {curve : ScheduleView -> LocalCivilTime -> Option DesiredState}

/-- An entry of the plan comes from a schedule that is not suspended on its target. -/
theorem mem_desiredEntries {schedules : List ScheduleView}
    (h : entry ∈ desiredEntries curve worker schedules civil) :
    exists view, schedules[entry.schedule]? = some view
      ∧ worker.overrides.isSuspended view.scheduleId entry.key = false := by
  rcases mem_flatMap.mp h with ⟨⟨view, index⟩, hitem, hentry⟩
  have hview := mk_mem_zipIdx_iff_getElem?.mp hitem
  split at hentry
  · split at hentry
    · cases hentry
    · rcases mem_map.mp hentry with ⟨key, hkey, heq⟩
      have hfree := (mem_filter.mp hkey).2
      subst heq
      exact ⟨view, hview, by simpa using hfree⟩
  · cases hentry

/-! ## Targets that have stood down -/

/-- In a tick with these sources, a suspended source has stood down. -/
def Guarded (sources : List (TargetKey × String)) (worker : Scheduler) : Prop :=
  exists tick, worker.tick = some tick ∧ tick.sources = sources
    ∧ forall target schedule, (target, schedule) ∈ sources ->
      worker.overrides.isSuspended schedule target = true -> target ∈ tick.stoodDown

variable {sources : List (TargetKey × String)}

theorem Guarded.fewer (h : Guarded sources worker) (htick : next.tick = worker.tick)
    (hfewer : forall schedule target, next.overrides.isSuspended schedule target ->
      worker.overrides.isSuspended schedule target) : Guarded sources next := by
  rcases h with ⟨tick, hworker, hsources, hdown⟩
  refine ⟨tick, htick.trans hworker, hsources, ?_⟩
  intro target schedule hmem hsuspended
  exact hdown target schedule hmem (hfewer schedule target hsuspended)

theorem rollOverLedger_tick (yearDay : Nat) :
    (worker.rollOverLedger yearDay).tick = worker.tick := by
  unfold rollOverLedger
  split <;> rfl

theorem rollOverLedger_sent (yearDay : Nat) :
    (worker.rollOverLedger yearDay).sent = worker.sent := by
  unfold rollOverLedger
  split <;> rfl

variable {target : TargetKey} {schedule : String}

theorem rollOverLedger_suspended {yearDay : Nat}
    (h : (worker.rollOverLedger yearDay).overrides.isSuspended schedule target) :
    worker.overrides.isSuspended schedule target := by
  unfold rollOverLedger at h
  cases hroll : worker.overrides.rollOverTo yearDay with
  | none =>
    rw [hroll] at h
    exact h
  | some rolled =>
    rw [hroll] at h
    simp only [isSuspended_rollOverTo hroll] at h
    cases h

theorem Guarded.rollOverLedger (h : Guarded sources worker) (yearDay : Nat) :
    Guarded sources (worker.rollOverLedger yearDay) :=
  h.fewer (rollOverLedger_tick yearDay) fun _ _ => rollOverLedger_suspended

variable (targets : List TargetKey)

theorem standDownAll_tick :
    (worker.standDownAll targets).tick = worker.tick.map fun tick =>
      { tick with stoodDown := tick.stoodDown ++ targets } := by
  induction targets generalizing worker with
  | nil =>
    change worker.tick = _
    cases worker.tick with
    | none => rfl
    | some tick => simp
  | cons target rest ih =>
    change ((worker.standDown target).standDownAll rest).tick = _
    rw [ih]
    change (worker.tick.map _).map _ = _
    cases worker.tick with
    | none => rfl
    | some tick => simp

theorem standDownAll_overrides : (worker.standDownAll targets).overrides = worker.overrides :=
  foldlRecOn (motive := (Scheduler.overrides · = _)) targets _ rfl fun _ h _ _ => h

theorem standDownAll_sent : (worker.standDownAll targets).sent = worker.sent :=
  foldlRecOn (motive := (Scheduler.sent · = _)) targets _ rfl fun _ h _ _ => h

variable {atMinutes : Nat} {cause : Causes}

theorem suspendHits_tick (hits : List (String × TargetKey)) :
    (worker.suspendHits atMinutes cause hits).tick = worker.tick :=
  foldlRecOn (motive := (Scheduler.tick · = _)) hits _ rfl fun _ h _ _ => h

theorem suspendHits_sent (hits : List (String × TargetKey)) :
    (worker.suspendHits atMinutes cause hits).sent = worker.sent :=
  foldlRecOn (motive := (Scheduler.sent · = _)) hits _ rfl fun _ h _ _ => h

theorem suspendHits_suspended {hits : List (String × TargetKey)}
    (h : (worker.suspendHits atMinutes cause hits).overrides.isSuspended schedule target) :
    (schedule, target) ∈ hits ∨ worker.overrides.isSuspended schedule target := by
  induction hits generalizing worker with
  | nil => exact .inr h
  | cons found rest ih =>
    rcases ih h with hrest | hfound
    · exact .inl (mem_cons_of_mem _ hrest)
    · rcases isSuspended_suspend hfound with ⟨hschedule, htarget⟩ | hold
      · rw [hschedule, htarget]
        exact .inl mem_cons_self
      · exact .inr hold

section

variable (h : Guarded sources worker)
include h

theorem Guarded.takeOver {hits : List (String × TargetKey)}
    {targets : List TargetKey} (hhits : forall schedule target, (schedule, target) ∈ hits ->
      (target, schedule) ∈ sources -> target ∈ targets) :
    Guarded sources ((worker.suspendHits atMinutes cause hits).standDownAll targets) := by
  rcases h with ⟨tick, hworker, hsources, hdown⟩
  refine ⟨{ tick with stoodDown := tick.stoodDown ++ targets }, ?_, hsources, ?_⟩
  · rw [standDownAll_tick, suspendHits_tick, hworker]
    rfl
  · intro target schedule hmem hsuspended
    rw [standDownAll_overrides] at hsuspended
    rcases suspendHits_suspended hsuspended with hhit | hold
    · exact mem_append_right _ (hhits schedule target hhit hmem)
    · exact mem_append_left _ (hdown target schedule hmem hold)

theorem Guarded.holdTarget (atMinutes : Nat) (cause : Causes) (covered : String × TargetKey) :
    Guarded sources (worker.holdTarget atMinutes cause covered) := by
  rcases h with ⟨tick, hworker, hsources, hdown⟩
  refine ⟨{ tick with stoodDown := tick.stoodDown ++ [covered.2] }, ?_, hsources, ?_⟩
  · change worker.tick.map _ = _
    rw [hworker]
    rfl
  · intro target schedule hmem hsuspended
    rcases isSuspended_suspend hsuspended with ⟨_, htarget⟩ | hold
    · rw [htarget]
      exact mem_append_right _ mem_cons_self
    · exact mem_append_left _ (hdown target schedule hmem hold)

theorem Guarded.holdTargets (atMinutes : Nat) (cause : Causes)
    (covered : List (String × TargetKey)) :
    Guarded sources (covered.foldl (fun state found =>
      state.holdTarget atMinutes cause found) worker) :=
  foldlRecOn covered _ h fun _ hheld found _ => hheld.holdTarget atMinutes cause found

theorem Guarded.editDuringTick (edited : String) (current : List ScheduleView) :
    Guarded sources (worker.editDuringTick edited current) := by
  unfold Scheduler.editDuringTick
  simp only
  split
  · exact h
  · rcases h with ⟨tick, hworker, hsources, hdown⟩
    rw [hworker]
    exact ⟨_, rfl, hsources, hdown⟩

end

/-! ## Divided commits -/

/-- A commit that takes a target from the schedule the tick has planned it for, and
leaves another schedule on the same target. -/
def Divided (worker : Scheduler) (reading : Reading) : Frame -> Prop
  | .runtimeStateChanged commit => exists civil, reading.civil = some civil
      ∧ exists schedule target,
        (schedule, target) ∈ (worker.rollOverLedger civil.yearDay).hit reading civil commit
          ∧ (exists other, (other, target)
            ∈ (worker.rollOverLedger civil.yearDay).spared reading civil commit)
          ∧ exists tick, worker.tick = some tick ∧ (target, schedule) ∈ tick.sources
  | _ => False

theorem Guarded.suspendHitTargets {commit : RuntimeCommit} (h : Guarded sources worker)
    (hundivided : ¬ Divided worker reading (.runtimeStateChanged commit)) :
    Guarded sources (worker.suspendHitTargets reading commit) := by
  unfold Scheduler.suspendHitTargets
  split
  · cases hcivil : reading.civil with
    | none => exact h
    | some civil =>
      simp only
      apply (h.rollOverLedger civil.yearDay).takeOver
      intro schedule target hhit hmem
      refine mem_filter.mpr ⟨mem_map_of_mem hhit, decide_eq_true ?_⟩
      intro hspared
      rcases mem_map.mp hspared with ⟨⟨other, key⟩, hother, heq⟩
      subst heq
      rcases h with ⟨tick, hworker, hsources, _⟩
      exact hundivided ⟨civil, hcivil, schedule, key, hhit, ⟨other, hother⟩, tick, hworker,
        hsources ▸ hmem⟩
  · exact h

theorem Guarded.applyFrame {frame : Frame} (h : Guarded sources worker)
    (hundivided : ¬ Divided worker reading frame) :
    Guarded sources (worker.applyFrame reading frame) := by
  cases frame with
  | overrideClear scheduleId =>
    exact h.fewer rfl fun _ _ => isSuspended_clearSchedule
  | overrideHold adapterId target =>
    change Guarded sources (worker.handleOverrideHold reading adapterId target)
    unfold handleOverrideHold
    cases reading.civil with
    | none => exact h
    | some civil => exact (h.rollOverLedger civil.yearDay).holdTargets _ _ _
  | overrideResume adapterId target =>
    exact h.fewer rfl fun _ _ => isSuspended_resume
  | scheduleChanged scheduleId removed =>
    change Guarded sources (worker.applyScheduleChange reading scheduleId removed)
    unfold applyScheduleChange
    have hsome : worker.tick.isSome := by
      rcases h with ⟨tick, hworker, _⟩
      rw [hworker]
      rfl
    simp only
    have hedited := h.editDuringTick scheduleId reading.sortedSchedules
    split
    · exact hedited.fewer rfl fun _ _ => isSuspended_clearSchedule
    · exact hedited
  | runtimeStateChanged commit => exact h.suspendHitTargets hundivided
  | ignored => exact h

/-! ## Frames send nothing -/

theorem holdTargets_sent (atMinutes : Nat) (cause : Causes) (covered : List (String × TargetKey)) :
    (covered.foldl (fun state found => state.holdTarget atMinutes cause found) worker).sent
      = worker.sent :=
  foldlRecOn (motive := (Scheduler.sent · = _)) covered _ rfl fun _ h _ _ => h

theorem suspendHitTargets_sent (commit : RuntimeCommit) :
    (worker.suspendHitTargets reading commit).sent = worker.sent := by
  unfold suspendHitTargets
  split
  · cases reading.civil with
    | none => rfl
    | some civil =>
      simp only
      rw [standDownAll_sent, suspendHits_sent, rollOverLedger_sent]
  · rfl

theorem applyScheduleChange_sent (scheduleId : String) (removed : Bool) :
    (worker.applyScheduleChange reading scheduleId removed).sent = worker.sent := by
  have hedit : forall current, (worker.editDuringTick scheduleId current).sent = worker.sent := by
    intro current
    unfold editDuringTick
    simp only
    split <;> rfl
  have hforget : forall current, (worker.forgetEdited current).sent = worker.sent := by
    intro current
    unfold forgetEdited
    split <;> rfl
  unfold applyScheduleChange
  simp only
  split
  · split
    · exact hedit _
    · exact hforget _
  · split
    · exact hedit _
    · exact hforget _

theorem applyFrame_sent (frame : Frame) : (worker.applyFrame reading frame).sent = worker.sent := by
  cases frame with
  | overrideClear scheduleId => rfl
  | overrideHold adapterId target =>
    change (worker.handleOverrideHold reading adapterId target).sent = _
    unfold handleOverrideHold
    cases reading.civil with
    | none => rfl
    | some civil => exact (holdTargets_sent _ _ _).trans (rollOverLedger_sent _)
  | overrideResume adapterId target => rfl
  | scheduleChanged scheduleId removed => exact applyScheduleChange_sent scheduleId removed
  | runtimeStateChanged commit => exact suspendHitTargets_sent commit
  | ignored => rfl

/-! ## A whole tick -/

/-- The command has a schedule, and that schedule was not suspended on its target. -/
def Obeyed (sent : Sent) : Prop :=
  (exists schedule, (sent.command.key, schedule) ∈ sent.sources)
    ∧ forall schedule, (sent.command.key, schedule) ∈ sent.sources ->
      sent.overrides.isSuspended schedule sent.command.key = false

/-- No frame that is served is divided. -/
def Undivided : Scheduler -> List (Reading × Frame) -> Prop
  | _, [] => True
  | worker, item :: rest => ¬ Divided worker item.1 item.2
      ∧ Undivided (worker.applyFrame item.1 item.2) rest

/-- No frame that is served while the commands are published is divided. -/
def PublishesUndivided (answers : Nat -> Answer) : Nat -> List PlannedCommand -> Scheduler -> Prop
  | _, [], _ => True
  | index, command :: rest, worker =>
    let skipped := worker.skipsInTick command.key
    if skipped.2 then PublishesUndivided answers (index + 1) rest skipped.1
    else
      match answers index with
      | .refused => True
      | .answered served _ => Undivided (skipped.1.publishOne command) served
          ∧ PublishesUndivided answers (index + 1) rest
            ((skipped.1.publishOne command).serveInbox served)

theorem serveInbox_sent (served : List (Reading × Frame)) :
    (worker.serveInbox served).sent = worker.sent := by
  induction served generalizing worker with
  | nil => rfl
  | cons item rest ih => exact ih.trans (applyFrame_sent item.2)

theorem Guarded.serveInbox {served : List (Reading × Frame)} (h : Guarded sources worker)
    (hundivided : Undivided worker served) : Guarded sources (worker.serveInbox served) := by
  induction served generalizing worker with
  | nil => exact h
  | cons item rest ih => exact ih (h.applyFrame hundivided.1) hundivided.2

theorem Guarded.skipsInTick (h : Guarded sources worker) (target : TargetKey) :
    Guarded sources (worker.skipsInTick target).1 := by
  rcases h with ⟨tick, hworker, hsources, hdown⟩
  unfold Scheduler.skipsInTick
  rw [hworker]
  exact ⟨_, rfl, hsources, hdown⟩

theorem skipsInTick_sent (target : TargetKey) :
    (worker.skipsInTick target).1.sent = worker.sent := by
  unfold skipsInTick
  split <;> rfl

theorem skipsInTick_overrides (target : TargetKey) :
    (worker.skipsInTick target).1.overrides = worker.overrides := by
  unfold skipsInTick
  split <;> rfl

section

variable (h : Guarded sources worker)
include h

theorem Guarded.not_suspended (hskips : ¬ (worker.skipsInTick target).2)
    (hmem : (target, schedule) ∈ sources) :
    worker.overrides.isSuspended schedule target = false := by
  rcases h with ⟨tick, hworker, _, hdown⟩
  rw [Bool.eq_false_iff]
  intro hsuspended
  apply hskips
  unfold Scheduler.skipsInTick
  rw [hworker]
  have hcontains := hdown target schedule hmem hsuspended
  simp [hcontains]

theorem Guarded.publishOne (command : PlannedCommand) :
    Guarded sources (worker.publishOne command) := by
  rcases h with ⟨tick, hworker, hsources, hdown⟩
  refine ⟨{ tick with published := tick.published ++ [command.key] }, ?_, hsources, hdown⟩
  change worker.tick.map _ = _
  rw [hworker]
  rfl

theorem Guarded.sources_eq : worker.tick.elim [] TickScope.sources = sources := by
  rcases h with ⟨tick, hworker, hsources, _⟩
  rw [hworker]
  exact hsources

end

theorem publishPlan_obeyed {answers : Nat -> Answer} {index : Nat} {commands : List PlannedCommand}
    {outcomes : PublishOutcomes} (h : Guarded sources worker)
    (hplanned : forall command, command ∈ commands ->
      exists schedule, (command.key, schedule) ∈ sources)
    (hsent : forall sent, sent ∈ worker.sent -> Obeyed sent)
    (hundivided : PublishesUndivided answers index commands worker) :
    forall sent, sent ∈ (publishPlan answers index commands worker outcomes).1.sent ->
      Obeyed sent := by
  induction commands generalizing index worker outcomes with
  | nil => exact hsent
  | cons command rest ih =>
    have hrest : forall other, other ∈ rest -> exists schedule, (other.key, schedule) ∈ sources :=
      fun other hother => hplanned other (mem_cons_of_mem _ hother)
    have hguarded := h.skipsInTick command.key
    have hskipsSent : (worker.skipsInTick command.key).1.sent = worker.sent :=
      skipsInTick_sent command.key
    unfold publishPlan
    unfold PublishesUndivided at hundivided
    by_cases hskips : (worker.skipsInTick command.key).2 = true
    · rw [if_pos hskips] at hundivided ⊢
      exact ih hguarded hrest (hskipsSent ▸ hsent) hundivided
    · rw [if_neg hskips] at hundivided ⊢
      cases hanswer : answers index with
      | refused =>
        simp only
        rw [hskipsSent]
        exact hsent
      | answered served confirmed =>
        rw [hanswer] at hundivided
        refine ih ((hguarded.publishOne command).serveInbox hundivided.1) hrest ?_ hundivided.2
        rw [serveInbox_sent]
        intro sent hmem
        rcases mem_cons.mp hmem with heq | hold
        · subst heq
          constructor
          · rw [hguarded.sources_eq]
            exact hplanned command mem_cons_self
          · intro schedule hsource
            rw [hguarded.sources_eq] at hsource
            rw [skipsInTick_overrides]
            exact h.not_suspended hskips hsource
        · exact hsent sent (hskipsSent ▸ hold)

theorem mem_sources {schedules : List ScheduleView} {fresh : List DesiredEntry} :
    (target, schedule) ∈ (TickScope.planned schedules fresh).sources <->
      exists entry, entry ∈ fresh ∧ exists view, schedules[entry.schedule]? = some view
        ∧ entry.key = target ∧ view.scheduleId = schedule := by
  unfold TickScope.planned
  simp only [mem_filterMap, Option.map_eq_some_iff, Prod.mk.injEq]

theorem mem_fresh (h : entry ∈ (planTick curve worker reading civil).2.1) :
    exists view, reading.sortedSchedules[entry.schedule]? = some view
      ∧ (worker.rollOverLedger civil.yearDay).overrides.isSuspended view.scheduleId
        entry.key = false :=
  mem_desiredEntries (mem_coalesce (mem_filter.mp h).1)

theorem planTick_guarded :
    Guarded (TickScope.planned reading.sortedSchedules
      (planTick curve worker reading civil).2.1).sources
      (planTick curve worker reading civil).1 := by
  refine ⟨_, rfl, rfl, ?_⟩
  intro target schedule hmem hsuspended
  rcases mem_sources.mp hmem with ⟨entry, hentry, view, hview, hkey, hschedule⟩
  rcases mem_fresh hentry with ⟨found, hfound, hfree⟩
  rw [hview] at hfound
  cases hfound
  rw [hkey, hschedule] at hfree
  exact absurd (hfree.symm.trans hsuspended) (by decide)

theorem planTick_planned (h : command ∈ (planTick curve worker reading civil).2.2.commands) :
    exists schedule, (command.key, schedule)
      ∈ (TickScope.planned reading.sortedSchedules
        (planTick curve worker reading civil).2.1).sources := by
  rcases mem_plan h with ⟨entry, hentry, hkey⟩
  rcases mem_fresh hentry with ⟨view, hview, _⟩
  exact ⟨view.scheduleId, mem_sources.mpr ⟨entry, hentry, view, hview, hkey.symm, rfl⟩⟩

theorem finishTick_sent (fresh : List DesiredEntry) (outcomes : PublishOutcomes) :
    (worker.finishTick reading fresh outcomes).sent = worker.sent := by
  unfold finishTick
  simp only
  split <;> rfl

/-! ## Histories -/

inductive Turn where
  | frame (reading : Reading) (frame : Frame)
  | tick (input : TickInput)

def turn (curve : ScheduleView -> LocalCivilTime -> Option DesiredState)
    (worker : Scheduler) : Turn -> Scheduler
  | .frame reading frame => worker.applyFrame reading frame
  | .tick input => runTick curve worker input

/-- No frame that the turn serves within its tick is divided. -/
def Turn.Undivided (curve : ScheduleView -> LocalCivilTime -> Option DesiredState)
    (worker : Scheduler) : Turn -> Prop
  | .frame _ _ => True
  | .tick input => forall civil, input.due = some civil -> PublishesUndivided input.answers 0
        (planTick curve worker input.reading civil).2.2.commands
        (planTick curve worker input.reading civil).1

inductive Reached (curve : ScheduleView -> LocalCivilTime -> Option DesiredState) :
    Scheduler -> Prop where
  | new : Reached curve Scheduler.new
  | turn {worker : Scheduler} (next : Turn) : Reached curve worker ->
      Turn.Undivided curve worker next -> Reached curve (worker.turn curve next)

theorem runTick_obeyed {input : TickInput} (hsent : forall sent, sent ∈ worker.sent -> Obeyed sent)
    (hundivided : Turn.Undivided curve worker (.tick input)) :
    forall sent, sent ∈ (runTick curve worker input).sent -> Obeyed sent := by
  unfold runTick
  cases hdue : input.due with
  | none => exact hsent
  | some civil =>
    simp only
    rw [finishTick_sent]
    refine publishPlan_obeyed planTick_guarded (fun _ => planTick_planned) ?_
      (hundivided civil hdue)
    change forall sent, sent ∈ (worker.rollOverLedger civil.yearDay).sent -> Obeyed sent
    rw [rollOverLedger_sent]
    exact hsent

/-- No command is published for a target that is suspended for the schedule it was
planned from. -/
theorem suspended_target_untouched (h : Reached curve worker) :
    forall sent, sent ∈ worker.sent -> Obeyed sent := by
  induction h with
  | new =>
    intro sent hnone
    cases hnone
  | turn next _ hundivided ih =>
    cases next with
    | frame reading frame =>
      change forall sent, sent ∈ (Scheduler.applyFrame _ reading frame).sent -> _
      rw [applyFrame_sent]
      exact ih
    | tick input => exact runTick_obeyed ih hundivided

/-! ## Two schedules on one group -/

def pointRow (levelMode : LevelMode) (kelvin : Nat) : SchedulePointRow where
  timeRef := .absolute
  offsetMinutes := 0
  levelMode := levelMode
  level := none
  colorTemperatureKelvin := some kelvin

def scheduleOf (scheduleId : String) (point : SchedulePointRow) : ScheduleView where
  scheduleId := scheduleId
  enabled := true
  algorithm := .stepped
  activeDaysMask := 127
  latitudeMicrodeg := none
  longitudeMicrodeg := none
  targets := [⟨0, .group, 8⟩]
  points := [point]

def firstPoint (schedule : ScheduleView) (_ : LocalCivilTime) : Option DesiredState :=
  schedule.points.head?.map fun point =>
    ⟨point.levelMode, point.level, point.colorTemperatureKelvin⟩

/-- One schedule for the colour, one for colour and level, and a lamp of their group. -/
def overlapping : Reading where
  schedules := [scheduleOf "colour" (pointRow .none 2700),
    scheduleOf "level" (pointRow .lastActive 3000)]
  groupApplySnapshot := fun _ => some [⟨1, 8⟩]
  civil := some ⟨100, 2, 600, 0⟩

def tickServing (frame : Frame) : TickInput where
  heldForMaintenance := false
  applicationActive := true
  quiescent := false
  reading := overlapping
  answers := fun _ => .answered [(overlapping, frame)] true
  finish := overlapping

def levelCommit : RuntimeCommit where
  adapterId := 0
  virtualLampId := some 1
  valueSource := some .api
  states := ⟨true, false⟩
  holdsHcl := true

/-- The level of the lamp is changed by hand while the tick waits for its first command:
the second command of the suspended schedule is published all the same. -/
theorem suspended_schedule_recalls :
    (runTick firstPoint Scheduler.new (tickServing (.runtimeStateChanged levelCommit))).sent.map
      (fun sent => (sent.command, sent.sources,
        sent.overrides.isSuspended "level" sent.command.key))
      = [(.recallLastActive ⟨0, .group, 3⟩, [(⟨0, .group, 3⟩, "level")], true),
        (.targetState ⟨0, .group, 3⟩ ⟨.unknown, none, some 3000⟩,
          [(⟨0, .group, 3⟩, "level")], false)] := by
  decide +kernel

theorem held_tick_reached :
    Reached firstPoint (Scheduler.new.turn firstPoint
      (.tick (tickServing (.overrideHold 0 (.group 3))))) := by
  -- Only a commit is divided.
  have hundivided : forall commands index worker, PublishesUndivided
      (tickServing (.overrideHold 0 (.group 3))).answers index commands worker := by
    intro commands
    induction commands with
    | nil => exact fun _ _ => trivial
    | cons command rest ih =>
      intro index worker
      unfold PublishesUndivided
      simp only
      split
      · exact ih _ _
      · exact ⟨⟨id, trivial⟩, ih _ _⟩
  exact .turn _ .new fun _ _ => hundivided _ _ _

/-- A hold at the same moment keeps the second command back. -/
theorem held_tick_untouched :
    ((Scheduler.new.turn firstPoint
        (.tick (tickServing (.overrideHold 0 (.group 3))))).sent.map Sent.command
      = [.targetState ⟨0, .group, 3⟩ ⟨.unknown, none, some 3000⟩])
      ∧ forall sent, sent ∈ (Scheduler.new.turn firstPoint
        (.tick (tickServing (.overrideHold 0 (.group 3))))).sent -> Obeyed sent :=
  ⟨by decide +kernel, suspended_target_untouched held_tick_reached⟩

end Scheduler

end Oxidali.Hcl
