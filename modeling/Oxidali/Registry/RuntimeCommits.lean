import Oxidali.Hcl.Scheduler
import Oxidali.Lamps.ApplyDiff

/-!
# Runtime state of a device record

A record shows the level, the power and the colour its gear was last told or last
read to have.  Commands, frames heard on the bus and status reads all become commits
to it.  Beside the shown level the record keeps the last active level, which a
recall goes back to, and the power-cycle bit it last knew: a status read that shows
the bit where it was known to be clear reveals that the gear lost its RAM.
-/

namespace Oxidali.Registry.RuntimeCommits

open List

open Lamps (PowerState ColorMode ColorValue)
open Hcl (RuntimeSource)

/-! ## Setpoints -/

structure LightSetpoint where
  power : PowerState := .unknown
  level : Option Nat := none
  color : Option ColorValue := none

def forLevel (level : Nat) : PowerState := if 0 < level then .on else .off

def statesAColour : ColorMode -> Bool
  | .none | .unknown => false
  | _ => true

namespace LightSetpoint

def fromLevel (level : Nat) (color : Option ColorValue) : LightSetpoint where
  power := forLevel level
  level := some level
  color := color

variable (setpoint : LightSetpoint)

def statesAValue : Bool :=
  setpoint.power != .unknown || setpoint.level.isSome || setpoint.color.isSome

def commandedPower : Option Bool :=
  match setpoint.power, setpoint.level with
  | .off, _ => some false
  | .on, _ => some true
  | .unknown, some level => some (decide (0 < level))
  | .unknown, none => none

def dapcLevel : Option Nat :=
  match setpoint.power, setpoint.level with
  | .off, _ => some 0
  | .on, some 0 => none
  | _, none => none
  | _, some level => some level

def statesLevel : Bool := setpoint.commandedPower.isSome

def statesColor : Bool :=
  setpoint.color.any fun color => statesAColour color.mode

end LightSetpoint

/-! ## Observations -/

inductive LastDapcSource where
  | unknown
  | sniffer
  | scene
  | group
deriving DecidableEq

def readsTheGear : RuntimeSource -> Bool
  | .poller | .readback => true
  | _ => false

inductive ErrorCode where
  | deviceAbsent
  | other (code : Nat)
deriving DecidableEq

structure StatusFlags where
  raw : Nat
  lampFailure : Bool := false
  gearFailure : Bool := false
  lampOn : Bool := false
  limitError : Bool := false
  fadeRunning : Bool := false
  resetState : Bool := false
  missingShortAddress : Bool := false
  powerCycleSeen : Bool := false

structure FailureStatus where
  raw : Nat
  lampFailure : Bool
  gearFailure : Bool
  communicationFailure : Bool
  source : RuntimeSource

structure RuntimeObservation where
  statusFlags : Option StatusFlags := none
  failureStatus : Option FailureStatus := none
  valueSource : Option RuntimeSource := none
  lastSeenMs : Option Nat := none
  error : Option ErrorCode := none

namespace RuntimeObservation

def timestamped (source : RuntimeSource) (lastSeenMs : Nat) : RuntimeObservation where
  valueSource := some source
  lastSeenMs := some lastSeenMs

def reportsAbsence (observation : RuntimeObservation) : Bool :=
  observation.error = some .deviceAbsent

end RuntimeObservation

abbrev Stamp := BitVec 32

def observationOrderWindowMs : Nat := 60000

def observationSupersedes : Option Stamp -> Option Stamp -> Bool
  | some incoming, some stored =>
    stored - incoming == 0 || observationOrderWindowMs <= (stored - incoming).toNat
  | _, _ => true

/-! ## What a record keeps -/

/-- The source keeps `xy` as quotients by 65535; here it is the wire words. -/
structure RuntimeObservationData where
  hasObservation : Bool := false
  power : PowerState := .unknown
  colorMode : ColorMode := .unknown
  kelvin : Option Nat := none
  xy : Option (Nat × Nat) := none
  rgb : Option (Nat × Nat × Nat) := none
  waf : Option (Nat × Nat × Nat) := none
  statusFlags : Option StatusFlags := none
  knownPowerCycleSeen : Option Bool := none
  failureStatus : Option FailureStatus := none
  valueSource : Option RuntimeSource := none
  lastSeenMs : Option Nat := none
  lastDapcSource : LastDapcSource := .unknown
  error : Option ErrorCode := none
  observedAtMonoMs : Option Stamp := none

structure Dt8Attributes where
  colorValue0 : Option Nat := none
  colorValue1 : Option Nat := none
  colorValue2 : Option Nat := none
  gearFeatures : Option Nat := none
  rgbwafControl : Option Nat := none

structure PhysicalDeviceRecord where
  minLevel : Option Nat := none
  maxLevel : Option Nat := none
  dt8Color : Dt8Attributes := {}
  runtimeLevel : Option Nat := none
  lastActiveLevel : Option Nat := none
  runtime : RuntimeObservationData := {}

namespace RuntimeObservationData

variable (self : RuntimeObservationData) (observation : RuntimeObservation)

def clearRgbwaf : RuntimeObservationData :=
  { self with rgb := none, waf := none }

def applyColor (color : ColorValue) : RuntimeObservationData :=
  match color.mode with
  | .cct =>
    { self.clearRgbwaf with
      kelvin := some color.colorTemperatureKelvin
      xy := none
      colorMode := .cct }
  | .xy =>
    { self.clearRgbwaf with
      kelvin := none
      xy := some (color.x, color.y)
      colorMode := .xy }
  | .rgb =>
    { self with
      kelvin := none
      xy := none
      rgb := some (color.r, color.g, color.b)
      waf := none
      colorMode := .rgb }
  | .rgbwaf =>
    { self with
      kelvin := none
      xy := none
      rgb := some (color.r, color.g, color.b)
      waf := some (color.w, color.a, color.f)
      colorMode := .rgbwaf }
  | .brightness =>
    { self.clearRgbwaf with
      kelvin := none
      xy := none
      colorMode := .brightness }
  | .none | .unknown => self

def applyPower (setpoint : LightSetpoint) : RuntimeObservationData :=
  match setpoint.commandedPower with
  | some on => { self with power := if on then .on else .off }
  | none => self

def applySetpoint (setpoint : LightSetpoint) : RuntimeObservationData :=
  let powered := self.applyPower setpoint
  let coloured :=
    match setpoint.color with
    | some color => powered.applyColor color
    | none => powered
  { coloured with hasObservation := true }

def forgetColour : RuntimeObservationData :=
  { self.clearRgbwaf with
    colorMode := .unknown
    kelvin := none
    xy := none }

def powerCycleBegan : Bool :=
  (observation.statusFlags.any fun flags => flags.powerCycleSeen) &&
    self.knownPowerCycleSeen = some false

def trackPowerCycleBit (levelCommand : Bool) : RuntimeObservationData :=
  match observation.statusFlags with
  | some flags => { self with knownPowerCycleSeen := some flags.powerCycleSeen }
  | none => if levelCommand then { self with knownPowerCycleSeen := some false } else self

def applyReachability : RuntimeObservationData :=
  if observation.reportsAbsence then
    { self with error := observation.error }
  else if observation.statusFlags.isSome || observation.failureStatus.isSome then
    { self with error := none }
  else
    self

def applyObservation : RuntimeObservationData :=
  { self with
    hasObservation := true
    statusFlags := observation.statusFlags.or self.statusFlags
    failureStatus := observation.failureStatus.or self.failureStatus
    lastSeenMs := observation.lastSeenMs.or self.lastSeenMs
    : RuntimeObservationData }.applyReachability observation

def mergeCommandMetadata (observationValueSource : Option RuntimeSource)
    (entryLastDapcSource : Option LastDapcSource) (entrySource : RuntimeSource)
    (statesValue : Bool) : RuntimeObservationData :=
  { self with
    valueSource :=
      if statesValue then observationValueSource.or (some entrySource)
      else self.valueSource
    lastDapcSource := entryLastDapcSource.getD self.lastDapcSource }

def observationAddsNothing : Bool :=
  observation.statusFlags.isNone && observation.failureStatus.isNone &&
    observation.lastSeenMs.isNone && observation.error = self.error

end RuntimeObservationData

/-! ## Commits -/

structure PhysicalRuntimeCommit where
  setpoint : LightSetpoint
  observation : RuntimeObservation
  observedAtMonoMs : Option Stamp
  entryLastDapcSource : Option LastDapcSource
  entrySource : RuntimeSource
  clearsPowerCycleSeen : Bool

inductive RuntimeCommitOutcome where
  | committed
  | unchanged
  | superseded

namespace PhysicalDeviceRecord

variable (self : PhysicalDeviceRecord)

def forgetRamState : PhysicalDeviceRecord :=
  { self with
    lastActiveLevel := self.maxLevel
    dt8Color := {}
    runtime := self.runtime.forgetColour }

/-- The level a record shows once it took a setpoint. -/
def shownBy (setpoint : LightSetpoint) : Option Nat :=
  match setpoint.dapcLevel with
  | some level => some level
  | none => if setpoint.power = .on then self.lastActiveLevel else self.runtimeLevel

def recordCommandedLevel (setpoint : LightSetpoint) (powerCycled : Bool) : PhysicalDeviceRecord :=
  let shown := self.shownBy setpoint
  { self with
    runtimeLevel := shown
    lastActiveLevel :=
      (shown.filter fun level => decide (0 < level) && !powerCycled).or self.lastActiveLevel }

def commitPhysicalRuntime (commit : PhysicalRuntimeCommit) : PhysicalDeviceRecord × Bool :=
  let powerCycled := self.runtime.powerCycleBegan commit.observation
  let kept := if powerCycled then self.forgetRamState else self
  let shown := kept.recordCommandedLevel commit.setpoint powerCycled
  let tracked :=
    (((shown.runtime.applySetpoint commit.setpoint).applyObservation
      commit.observation).trackPowerCycleBit commit.observation
        commit.clearsPowerCycleSeen).mergeCommandMetadata
          commit.observation.valueSource commit.entryLastDapcSource commit.entrySource
          commit.setpoint.statesAValue
  ({ shown with
      runtime :=
        { tracked with
          observedAtMonoMs := commit.observedAtMonoMs.or tracked.observedAtMonoMs } },
    powerCycled)

def supersededBy (stamp : Option Stamp) : Bool :=
  observationSupersedes stamp self.runtime.observedAtMonoMs

/-- The record's part of `apply_physical_runtime_short`. -/
def applyPhysicalRuntime (commit : PhysicalRuntimeCommit) :
    PhysicalDeviceRecord × RuntimeCommitOutcome :=
  if self.supersededBy commit.observedAtMonoMs then
    let silent := !commit.setpoint.statesAValue &&
      self.runtime.observationAddsNothing commit.observation
    ((self.commitPhysicalRuntime commit).1, if silent then .unchanged else .committed)
  else
    (self, .superseded)

def afterCommits (commits : List PhysicalRuntimeCommit) : PhysicalDeviceRecord :=
  commits.foldl (fun record commit => (record.applyPhysicalRuntime commit).1) self

end PhysicalDeviceRecord

/-! ## What a commit leaves of the power-cycle bit -/

namespace RuntimeObservationData

variable (self : RuntimeObservationData)

@[simp] theorem knownPowerCycleSeen_applyColor (color : ColorValue) :
    (self.applyColor color).knownPowerCycleSeen = self.knownPowerCycleSeen := by
  unfold applyColor
  split <;> rfl

@[simp] theorem knownPowerCycleSeen_applySetpoint (setpoint : LightSetpoint) :
    (self.applySetpoint setpoint).knownPowerCycleSeen = self.knownPowerCycleSeen := by
  have hpower : (self.applyPower setpoint).knownPowerCycleSeen =
      self.knownPowerCycleSeen := by
    unfold applyPower
    split <;> rfl
  unfold applySetpoint
  cases setpoint.color with
  | none => exact hpower
  | some color => exact (knownPowerCycleSeen_applyColor _ color).trans hpower

@[simp] theorem knownPowerCycleSeen_applyObservation (observation : RuntimeObservation) :
    (self.applyObservation observation).knownPowerCycleSeen =
      self.knownPowerCycleSeen := by
  unfold applyObservation applyReachability
  split
  · rfl
  · split <;> rfl

end RuntimeObservationData

namespace PhysicalDeviceRecord

variable {self : PhysicalDeviceRecord} {commit : PhysicalRuntimeCommit}

theorem knownPowerCycleSeen_commit :
    (self.commitPhysicalRuntime commit).1.runtime.knownPowerCycleSeen =
      match commit.observation.statusFlags with
      | some flags => some flags.powerCycleSeen
      | none =>
        if commit.clearsPowerCycleSeen then some false
        else self.runtime.knownPowerCycleSeen := by
  have hkept :
      (if self.runtime.powerCycleBegan commit.observation = true then
        self.forgetRamState else self).runtime.knownPowerCycleSeen =
          self.runtime.knownPowerCycleSeen := by
    split <;> rfl
  unfold commitPhysicalRuntime
  simp only [recordCommandedLevel, RuntimeObservationData.mergeCommandMetadata,
    RuntimeObservationData.trackPowerCycleBit]
  cases commit.observation.statusFlags with
  | some flags => rfl
  | none =>
    cases commit.clearsPowerCycleSeen with
    | true => rfl
    | false => simpa using hkept

/-! ## The last active level after a power cycle -/

/-- The record takes the commit, and the commit reveals a new power cycle. -/
structure Reveals (record : PhysicalDeviceRecord) (commit : PhysicalRuntimeCommit) :
    Prop where
  taken : record.supersededBy commit.observedAtMonoMs = true
  began : record.runtime.powerCycleBegan commit.observation = true

/-- Once the record took the commit, it shows no level above 0 other than the given
maximum. -/
def Spares (max : Option Nat) (self : PhysicalDeviceRecord)
    (commit : PhysicalRuntimeCommit) : Prop :=
  self.supersededBy commit.observedAtMonoMs = true -> forall level : Nat,
      self.shownBy commit.setpoint = some level -> 0 < level -> max = some level

theorem applyPhysicalRuntime_taken (htaken : self.supersededBy commit.observedAtMonoMs) :
    (self.applyPhysicalRuntime commit).1 = (self.commitPhysicalRuntime commit).1 := by
  simp [applyPhysicalRuntime, htaken]

theorem applyPhysicalRuntime_refused
    (hrefused : self.supersededBy commit.observedAtMonoMs = false) :
    (self.applyPhysicalRuntime commit).1 = self := by
  simp [applyPhysicalRuntime, hrefused]

theorem Reveals.known (hreveals : self.Reveals commit) :
    (self.applyPhysicalRuntime commit).1.runtime.knownPowerCycleSeen = some true := by
  rw [applyPhysicalRuntime_taken hreveals.taken, knownPowerCycleSeen_commit]
  have hbegan := hreveals.began
  unfold RuntimeObservationData.powerCycleBegan at hbegan
  cases hflags : commit.observation.statusFlags with
  | none => simp [hflags] at hbegan
  | some flags =>
    rw [hflags] at hbegan
    simp only [Option.any_some, Bool.and_eq_true] at hbegan
    exact congrArg some hbegan.1

theorem Reveals.lastActiveLevel (hreveals : self.Reveals commit) :
    (self.applyPhysicalRuntime commit).1.lastActiveLevel = self.maxLevel := by
  rw [applyPhysicalRuntime_taken hreveals.taken]
  unfold commitPhysicalRuntime
  simp [hreveals.began, recordCommandedLevel, forgetRamState]

/-- Off a power cycle the last active level follows every level shown above 0. -/
theorem lastActiveLevel_commit (hbegan : self.runtime.powerCycleBegan commit.observation = false) :
    (self.commitPhysicalRuntime commit).1.lastActiveLevel =
      ((self.shownBy commit.setpoint).filter fun level => decide (0 < level)).or
        self.lastActiveLevel := by
  unfold commitPhysicalRuntime
  simp [hbegan, recordCommandedLevel]

theorem lastActiveLevel_commit_iff {max : Option Nat}
    (hknown : self.runtime.knownPowerCycleSeen = some true) (hactive : self.lastActiveLevel = max) :
    (self.applyPhysicalRuntime commit).1.lastActiveLevel = max <-> Spares max self commit := by
  cases htaken : self.supersededBy commit.observedAtMonoMs with
  | false =>
    rw [applyPhysicalRuntime_refused htaken]
    constructor
    · intro _ htakes
      rw [htaken] at htakes
      cases htakes
    · intro _
      exact hactive
  | true =>
    rw [applyPhysicalRuntime_taken htaken,
      lastActiveLevel_commit (by simp [RuntimeObservationData.powerCycleBegan, hknown]), hactive]
    unfold Spares
    cases hshown : self.shownBy commit.setpoint with
    | none => simp
    | some level =>
      rcases Nat.eq_zero_or_pos level with hzero | hpos
      · simp [hzero, Option.filter]
      · simp [Option.filter, hpos, htaken, eq_comm]

end PhysicalDeviceRecord

/-- A status read that still shows the power-cycle bit. -/
structure ShowsBit (commit : PhysicalRuntimeCommit) : Prop where
  shown : commit.observation.statusFlags.any (fun flags => flags.powerCycleSeen) = true
  reads : commit.clearsPowerCycleSeen = false

/-- A fact that states no level and reads no status: a colour, or nothing at all. -/
structure ColourOnly (commit : PhysicalRuntimeCommit) : Prop where
  stated : commit.setpoint.commandedPower = none
  unread : commit.observation.statusFlags = none
  kept : commit.clearsPowerCycleSeen = false

namespace PhysicalDeviceRecord

variable {self : PhysicalDeviceRecord}

/-- Neither kind of commit lets the record forget that it saw the bit. -/
theorem knownPowerCycleSeen_between {commit : PhysicalRuntimeCommit}
    (hknown : self.runtime.knownPowerCycleSeen = some true)
    (hbetween : ShowsBit commit ∨ ColourOnly commit) :
    (self.applyPhysicalRuntime commit).1.runtime.knownPowerCycleSeen = some true := by
  cases htaken : self.supersededBy commit.observedAtMonoMs with
  | false => rw [applyPhysicalRuntime_refused htaken, hknown]
  | true =>
    rw [applyPhysicalRuntime_taken htaken, knownPowerCycleSeen_commit]
    rcases hbetween with hbit | hcolour
    · have hshown := hbit.shown
      cases hflags : commit.observation.statusFlags with
      | none => simp [hflags] at hshown
      | some flags =>
        rw [hflags] at hshown
        exact congrArg some hshown
    · rw [hcolour.unread, hcolour.kept]
      exact hknown

theorem afterCommits_cons (commit : PhysicalRuntimeCommit) (commits : List PhysicalRuntimeCommit) :
    self.afterCommits (commit :: commits) =
      (self.applyPhysicalRuntime commit).1.afterCommits commits := rfl

/-- From a record that knows the bit set, the last active level stays where it is
exactly as long as every commit spares it. -/
theorem lastActiveLevel_afterCommits_iff {max : Option Nat} (later : List PhysicalRuntimeCommit)
    (hknown : self.runtime.knownPowerCycleSeen = some true) (hactive : self.lastActiveLevel = max)
    (hlater : forall commit, commit ∈ later -> ShowsBit commit ∨ ColourOnly commit) :
    (forall seen, seen <+: later -> (self.afterCommits seen).lastActiveLevel = max) <->
      forall seen commit, seen ++ [commit] <+: later ->
        Spares max (self.afterCommits seen) commit := by
  induction later generalizing self with
  | nil =>
    constructor
    · intro _ seen commit hseen
      exact absurd (prefix_nil.1 hseen) (by simp)
    · intro _ seen hseen
      rw [prefix_nil.1 hseen]
      exact hactive
  | cons first rest ih =>
    have hknown' := knownPowerCycleSeen_between hknown (hlater first (by simp))
    have hrest : forall commit, commit ∈ rest -> ShowsBit commit ∨ ColourOnly commit :=
      fun commit hmem => hlater commit (mem_cons_of_mem first hmem)
    have hstep : (self.applyPhysicalRuntime first).1.lastActiveLevel = max <->
        Spares max self first :=
      lastActiveLevel_commit_iff hknown hactive
    constructor
    · intro hstays
      have hfirst := hstays [first] (by simp)
      have hspared := (ih hknown' hfirst hrest).1 fun seen hseen =>
        hstays (first :: seen) ((cons_prefix_cons).2 ⟨rfl, hseen⟩)
      intro seen commit hseen
      cases seen with
      | nil =>
        rw [nil_append, cons_prefix_cons] at hseen
        rw [hseen.1]
        exact hstep.1 hfirst
      | cons head tail =>
        rw [cons_append, cons_prefix_cons] at hseen
        rw [hseen.1]
        exact hspared tail commit hseen.2
    · intro hspared seen hseen
      have hfirst := hstep.2 (hspared [] first (by simp))
      cases seen with
      | nil => exact hactive
      | cons head tail =>
        rw [cons_prefix_cons] at hseen
        rw [hseen.1]
        refine (ih hknown' hfirst hrest).2 ?_ tail hseen.2
        intro seen commit hlonger
        exact hspared (first :: seen) commit ((cons_prefix_cons).2 ⟨rfl, hlonger⟩)

/-- After a power cycle the last active level stays the maximum known then exactly as
long as no later read and no colour fact is taken while another level is shown. -/
theorem power_cycle_keeps_last_active_iff (self : PhysicalDeviceRecord)
    (reveal : PhysicalRuntimeCommit) (later : List PhysicalRuntimeCommit)
    (hreveals : self.Reveals reveal)
    (hlater : forall commit, commit ∈ later -> ShowsBit commit ∨ ColourOnly commit) :
    (forall seen, seen <+: later ->
      (self.afterCommits (reveal :: seen)).lastActiveLevel = self.maxLevel) <->
      forall seen commit, seen ++ [commit] <+: later ->
        Spares self.maxLevel (self.afterCommits (reveal :: seen)) commit :=
  lastActiveLevel_afterCommits_iff later hreveals.known hreveals.lastActiveLevel hlater

variable (level raw : Nat)

def statusRead (powerCycleSeen : Bool) : PhysicalRuntimeCommit where
  setpoint := LightSetpoint.fromLevel level none
  observation := { statusFlags := some { raw := raw, powerCycleSeen := powerCycleSeen } }
  observedAtMonoMs := none
  entryLastDapcSource := none
  entrySource := .readback
  clearsPowerCycleSeen := false

/-- A record of maximum level 200, read at level 90 with the bit clear. -/
def readBefore : PhysicalDeviceRecord :=
  { maxLevel := some 200 : PhysicalDeviceRecord }.afterCommits [statusRead 90 4 false]

theorem statusRead_showsBit : ShowsBit (statusRead level raw true) :=
  ⟨rfl, rfl⟩

theorem readBefore_reveals : readBefore.Reveals (statusRead level raw true) :=
  ⟨rfl, rfl⟩

/-- A gear that powers up dark keeps its maximum through every read. -/
theorem dark_gear_keeps_last_active :
    readBefore.Reveals (statusRead 0 128 true) ∧
      (readBefore.afterCommits [statusRead 0 128 true, statusRead 0 128 true,
        statusRead 0 128 true]).lastActiveLevel = some 200 := by
  constructor
  · exact readBefore_reveals 0 128
  · refine (power_cycle_keeps_last_active_iff readBefore (statusRead 0 128 true)
      [statusRead 0 128 true, statusRead 0 128 true] (readBefore_reveals 0 128)
      (fun commit hmem => ?_)).2 (fun seen commit hseen _ level hshown hpos => ?_)
      [statusRead 0 128 true, statusRead 0 128 true] (prefix_refl _)
    · have hcommit : commit = statusRead 0 128 true := by simpa using hmem
      rw [hcommit]
      exact .inl (statusRead_showsBit 0 128)
    · have hmem : commit ∈ [statusRead 0 128 true, statusRead 0 128 true] :=
        hseen.subset (by simp)
      have hcommit : commit = statusRead 0 128 true := by simpa using hmem
      rw [hcommit] at hshown
      cases hshown
      cases hpos

/-- A gear of maximum level 200 powers up at level 150: the read that reveals it puts the
last active level at 200, and the next read of the same level moves it to 150. -/
theorem second_read_moves_last_active :
    exists later : List PhysicalRuntimeCommit, readBefore.Reveals (statusRead 150 132 true) ∧
        (forall commit, commit ∈ later -> ShowsBit commit ∨ ColourOnly commit) ∧
        readBefore.maxLevel = some 200 ∧
        (readBefore.afterCommits [statusRead 150 132 true]).lastActiveLevel = some 200 ∧
        (readBefore.afterCommits (statusRead 150 132 true :: later)).lastActiveLevel =
          some 150 := by
  refine ⟨[statusRead 150 132 true], readBefore_reveals 150 132, ?_, rfl, rfl, rfl⟩
  intro commit hmem
  have hcommit : commit = statusRead 150 132 true := by simpa using hmem
  rw [hcommit]
  exact .inl (statusRead_showsBit 150 132)

end PhysicalDeviceRecord

end Oxidali.Registry.RuntimeCommits
