import Oxidali.Registry.RuntimeCommits

/-!
# Level transitions of a device record

A command such as a step or a recall states no level of its own.  What it leads to is
resolved against what the record knows, and the outcome is committed like a setpoint.
Commits and transitions alike keep the last active level at the level shown, except
for the read that reveals a power cycle.
-/

namespace Oxidali.Registry.RuntimeCommits

open Hcl (RuntimeSource)

/-! ## Resolving a transition -/

inductive LevelTransition where
  | recallMaxLevel
  | recallMinLevel
  | goToLastActiveLevel
  | stepUp
  | stepDown
  | stepDownAndOff
  | onAndStepUp
  | up
  | down
deriving DecidableEq

structure LevelContext where
  targetLevel : Option Nat
  minLevel : Option Nat
  maxLevel : Option Nat
  lastActiveLevel : Option Nat

inductive TransitionOutcome where
  | level (level : Nat)
  | unchanged
  | onAtUnknownLevel
  | unknown
deriving DecidableEq

def absolute : Option Nat -> Option Nat -> TransitionOutcome
  | none, _ => .onAtUnknownLevel
  | some level, stored => if stored = some level then .unchanged else .level level

def unresolved : LevelTransition -> TransitionOutcome
  | .onAndStepUp => .onAtUnknownLevel
  | _ => .unknown

variable (transition : LevelTransition) (context : LevelContext)

def stepFrom (target min max : Nat) : TransitionOutcome :=
  match transition with
  | .stepUp =>
    if target = 0 ∨ max <= target then .unchanged
    else if min <= target then .level (target + 1)
    else .unknown
  | .stepDown =>
    if target = 0 ∨ target <= min then .unchanged
    else if target <= max then .level (target - 1)
    else .unknown
  | .stepDownAndOff =>
    if target = 0 then .unchanged
    else if target <= min then .level 0
    else if target <= max then .level (target - 1)
    else .unknown
  | .onAndStepUp =>
    if target = 0 then .level min
    else if max <= target then .unchanged
    else if min <= target then .level (target + 1)
    else .onAtUnknownLevel
  | _ => .unknown

def step : TransitionOutcome :=
  match context.targetLevel, context.minLevel, context.maxLevel with
  | some target, some min, some max =>
    if max < min then unresolved transition else stepFrom transition target min max
  | _, _, _ => unresolved transition

def dim : TransitionOutcome :=
  match context.targetLevel with
  | none => .unknown
  | some target =>
    let atBound :=
      match transition with
      | .up => context.maxLevel.any fun max => decide (max <= target)
      | _ => context.minLevel.any fun min => decide (target <= min)
    if target = 0 ∨ atBound = true then .unchanged else .onAtUnknownLevel

def resolve : TransitionOutcome :=
  match transition with
  | .recallMaxLevel => absolute context.maxLevel context.targetLevel
  | .recallMinLevel => absolute context.minLevel context.targetLevel
  | .goToLastActiveLevel => absolute context.lastActiveLevel context.targetLevel
  | .stepUp | .stepDown | .stepDownAndOff | .onAndStepUp => step transition context
  | .up | .down => dim transition context

/-! ## Committing it -/

structure LevelTransitionCommit where
  transition : LevelTransition
  observation : RuntimeObservation
  source : RuntimeSource
  observedAtMonoMs : Option Stamp

def transitionSetpoint : TransitionOutcome -> LightSetpoint
  | .level level => LightSetpoint.fromLevel level none
  | .onAtUnknownLevel => { power := .on }
  | .unchanged | .unknown => {}

namespace PhysicalDeviceRecord

variable (self : PhysicalDeviceRecord)

def forgetCommandedLevel : PhysicalDeviceRecord :=
  { self with
    runtimeLevel := none
    lastActiveLevel := none }

def resolveTransition (transition : LevelTransition) : TransitionOutcome :=
  resolve transition
    { targetLevel := self.runtimeLevel
      minLevel := self.minLevel
      maxLevel := self.maxLevel
      lastActiveLevel := self.lastActiveLevel }

variable (commit : LevelTransitionCommit)

/-- A dimming ramp that states nothing does not count as a sighting either. -/
def transitionObservation (setpoint : LightSetpoint) : RuntimeObservation :=
  let iterates := commit.transition = .up ∨ commit.transition = .down
  let untimed := { commit.observation with lastSeenMs := none }
  if iterates ∧ setpoint.statesAValue = false ∧
      self.runtime.observationAddsNothing untimed = true then
    untimed
  else
    commit.observation

def transitionCommit : PhysicalRuntimeCommit :=
  let setpoint := transitionSetpoint (self.resolveTransition commit.transition)
  { setpoint := setpoint
    observation := self.transitionObservation commit setpoint
    observedAtMonoMs := commit.observedAtMonoMs
    entryLastDapcSource := none
    entrySource := commit.source
    clearsPowerCycleSeen := true }

/-- The record's part of `apply_level_transition_short`. -/
def applyLevelTransition : PhysicalDeviceRecord × RuntimeCommitOutcome :=
  let applied := self.applyPhysicalRuntime (self.transitionCommit commit)
  if self.supersededBy commit.observedAtMonoMs = true ∧
      self.resolveTransition commit.transition = .onAtUnknownLevel then
    (applied.1.forgetCommandedLevel, applied.2)
  else
    applied

/-! ## The last active level follows the level shown -/

/-- A level shown above 0 is the last active one. -/
def Followed (record : PhysicalDeviceRecord) : Prop :=
  forall level : Nat,
    record.runtimeLevel = some level -> 0 < level -> record.lastActiveLevel = some level

/-- A power cycle the commit reveals leaves the gear dark, at its maximum, or at a level
not known. -/
def Mild (record : PhysicalDeviceRecord) (commit : PhysicalRuntimeCommit) : Prop :=
  record.runtime.powerCycleBegan commit.observation = true -> forall level : Nat,
      record.forgetRamState.shownBy commit.setpoint = some level -> 0 < level ->
        record.maxLevel = some level

variable {self : PhysicalDeviceRecord} {commit : PhysicalRuntimeCommit}

theorem runtimeLevel_commit (hbegan : self.runtime.powerCycleBegan commit.observation = false) :
    (self.commitPhysicalRuntime commit).1.runtimeLevel = self.shownBy commit.setpoint := by
  unfold commitPhysicalRuntime
  simp [hbegan, recordCommandedLevel]

theorem followed_commit (hmild : self.Mild commit) :
    (self.commitPhysicalRuntime commit).1.Followed := by
  intro level hshown hpos
  cases hbegan : self.runtime.powerCycleBegan commit.observation with
  | false =>
    rw [runtimeLevel_commit hbegan] at hshown
    rw [lastActiveLevel_commit hbegan, hshown]
    simp [Option.filter, hpos]
  | true =>
    unfold commitPhysicalRuntime at hshown
    simp only [hbegan, if_true, recordCommandedLevel] at hshown
    have hmax := hmild hbegan level hshown hpos
    unfold commitPhysicalRuntime
    simp [hbegan, recordCommandedLevel, forgetRamState, hmax]

theorem followed_applyPhysicalRuntime (hfollowed : self.Followed)
    (hmild : self.supersededBy commit.observedAtMonoMs -> self.Mild commit) :
    (self.applyPhysicalRuntime commit).1.Followed := by
  cases htaken : self.supersededBy commit.observedAtMonoMs with
  | false =>
    rw [applyPhysicalRuntime_refused htaken]
    exact hfollowed
  | true =>
    rw [applyPhysicalRuntime_taken htaken]
    exact followed_commit (hmild htaken)

theorem mild_of_unread (hunread : commit.observation.statusFlags = none) : self.Mild commit := by
  intro hbegan
  simp [RuntimeObservationData.powerCycleBegan, hunread] at hbegan

theorem followed_applyLevelTransition {commit : LevelTransitionCommit} (hfollowed : self.Followed)
    (hunread : commit.observation.statusFlags = none) :
    (self.applyLevelTransition commit).1.Followed := by
  have hcommit : (self.transitionCommit commit).observation.statusFlags = none := by
    unfold transitionCommit transitionObservation
    dsimp only
    split
    · exact hunread
    · exact hunread
  unfold applyLevelTransition
  split
  · intro level hshown
    cases hshown
  · exact followed_applyPhysicalRuntime hfollowed fun _ => mild_of_unread hcommit

end PhysicalDeviceRecord

end Oxidali.Registry.RuntimeCommits
