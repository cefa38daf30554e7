import Oxidali.Lib.Overrides
import Oxidali.Registry.LevelTransitions

/-!
# Runtime updates as overrides

A runtime update of the registry names a lamp or a device and becomes a commit to one
device record.  An update that reads no status writes each part of a record from the
update alone, as long as the last active level follows the level shown: what it leaves
of a record is an override of its parts.
-/

namespace Oxidali.Registry.RuntimeCommits

open List PhysicalRuntimeCommit

open Lamps (PowerState ColorMode ColorValue)
open Hcl (RuntimeSource)
open Overrides

/-! ## The parts of a record -/

structure ShownColour where
  mode : ColorMode
  kelvin : Option Nat := none
  xy : Option (Nat × Nat) := none
  rgb : Option (Nat × Nat × Nat) := none
  waf : Option (Nat × Nat × Nat) := none

/-- What a colour that is stated shows. -/
def shownColour (color : ColorValue) : Option ShownColour :=
  match color.mode with
  | .cct => some { mode := .cct, kelvin := some color.colorTemperatureKelvin }
  | .xy => some { mode := .xy, xy := some (color.x, color.y) }
  | .rgb => some { mode := .rgb, rgb := some (color.r, color.g, color.b) }
  | .rgbwaf =>
    some { mode := .rgbwaf
           rgb := some (color.r, color.g, color.b)
           waf := some (color.w, color.a, color.f) }
  | .brightness => some { mode := .brightness }
  | .none | .unknown => none

theorem isSome_shownColour (color : ColorValue) :
    (shownColour color).isSome = statesAColour color.mode := by
  unfold shownColour statesAColour
  cases color.mode <;> rfl

inductive Part where
  | level
  | lastActive
  | power
  | colour
  | knownBit
  | valueSource
  | lastDapc
  | lastSeen
  | observed
  | stamp
  | kept

abbrev Part.Value : Part -> Type
  | .level => Option Nat
  | .lastActive => Option Nat
  | .power => PowerState
  | .colour => ShownColour
  | .knownBit => Option Bool
  | .valueSource => Option RuntimeSource
  | .lastDapc => LastDapcSource
  | .lastSeen => Option Nat
  | .observed => Bool
  | .stamp => Option Stamp
  | .kept => (Option Nat × Option Nat × Dt8Attributes) ×
      (Option StatusFlags × Option FailureStatus × Option ErrorCode)

namespace RuntimeObservationData

variable (self : RuntimeObservationData)

def colour : ShownColour where
  mode := self.colorMode
  kelvin := self.kelvin
  xy := self.xy
  rgb := self.rgb
  waf := self.waf

def withColour (shown : ShownColour) : RuntimeObservationData :=
  { self with
    colorMode := shown.mode
    kelvin := shown.kelvin
    xy := shown.xy
    rgb := shown.rgb
    waf := shown.waf }

theorem applyColor_eq (color : ColorValue) :
    self.applyColor color = self.withColour ((shownColour color).getD self.colour) := by
  unfold applyColor shownColour
  cases color.mode <;> rfl

theorem applySetpoint_eq (setpoint : LightSetpoint) :
    self.applySetpoint setpoint =
      { self.withColour ((setpoint.color.bind shownColour).getD self.colour) with
        power :=
          (setpoint.commandedPower.map fun on =>
            if on then PowerState.on else PowerState.off).getD self.power
        hasObservation := true } := by
  unfold applySetpoint applyPower
  cases setpoint.commandedPower with
  | none | some on =>
    cases setpoint.color with
    | none => rfl
    | some color => simp only [applyColor_eq]; rfl

end RuntimeObservationData

namespace PhysicalDeviceRecord

def parts (self : PhysicalDeviceRecord) : (slot : Part) -> slot.Value
  | .level => self.runtimeLevel
  | .lastActive => self.lastActiveLevel
  | .power => self.runtime.power
  | .colour => self.runtime.colour
  | .knownBit => self.runtime.knownPowerCycleSeen
  | .valueSource => self.runtime.valueSource
  | .lastDapc => self.runtime.lastDapcSource
  | .lastSeen => self.runtime.lastSeenMs
  | .observed => self.runtime.hasObservation
  | .stamp => self.runtime.observedAtMonoMs
  | .kept => ((self.minLevel, self.maxLevel, self.dt8Color),
      (self.runtime.statusFlags, self.runtime.failureStatus, self.runtime.error))

theorem eq_of_parts {record other : PhysicalDeviceRecord}
    (h : record.parts = other.parts) : record = other := by
  have hpart : forall slot, record.parts slot = other.parts slot := fun slot => by rw [h]
  obtain ⟨_, _, _, _, _, ⟨_, _, _, _, _, _, _, _, _, _, _, _, _, _, _⟩⟩ := record
  obtain ⟨_, _, _, _, _, ⟨_, _, _, _, _, _, _, _, _, _, _, _, _, _, _⟩⟩ := other
  have hcolour := hpart .colour
  have hkept := hpart .kept
  have hlevel := hpart .level
  have hactive := hpart .lastActive
  have hpower := hpart .power
  have hbit := hpart .knownBit
  have hsource := hpart .valueSource
  have hdapc := hpart .lastDapc
  have hseen := hpart .lastSeen
  have hobserved := hpart .observed
  have hstamp := hpart .stamp
  simp only [parts, RuntimeObservationData.colour, ShownColour.mk.injEq, Prod.mk.injEq] at *
  simp [hcolour, hkept, hlevel, hactive, hpower, hbit, hsource, hdapc, hseen, hobserved, hstamp]

end PhysicalDeviceRecord

/-! ## Updates -/

structure RuntimeRegistryUpdateEntry where
  virtualLampId : Option Nat
  shortAddress : Option Nat
  setpoint : LightSetpoint
  observation : RuntimeObservation
  lastDapcSource : Option LastDapcSource
  source : RuntimeSource
  observedAtMonoMs : Option Stamp

namespace RuntimeRegistryUpdateEntry

variable (entry : RuntimeRegistryUpdateEntry)

def issuesALevelCommand : Bool :=
  !readsTheGear entry.source &&
    (entry.setpoint.commandedPower.isSome || entry.lastDapcSource = some .scene)

def commit : PhysicalRuntimeCommit where
  setpoint := entry.setpoint
  observation := entry.observation
  observedAtMonoMs := entry.observedAtMonoMs
  entryLastDapcSource := entry.lastDapcSource
  entrySource := entry.source
  clearsPowerCycleSeen := entry.issuesALevelCommand

end RuntimeRegistryUpdateEntry

/-- The parts a commit writes that reads no status and states no power without a
level. -/
def PhysicalRuntimeCommit.override (commit : PhysicalRuntimeCommit) : Override Part.Value
  | .level => commit.setpoint.dapcLevel.map some
  | .lastActive =>
    (commit.setpoint.dapcLevel.filter fun level => decide (0 < level)).map some
  | .power => commit.setpoint.commandedPower.map fun on => if on then .on else .off
  | .colour => commit.setpoint.color.bind shownColour
  | .knownBit => if commit.clearsPowerCycleSeen then some (some false) else none
  | .valueSource =>
    if commit.setpoint.statesAValue then
      some (commit.observation.valueSource.or (some commit.entrySource))
    else
      none
  | .lastDapc => commit.entryLastDapcSource
  | .lastSeen => commit.observation.lastSeenMs.map some
  | .observed => some true
  | .stamp => commit.observedAtMonoMs.map some
  | .kept => none

/-- A commit that only says what was sent: no status, no failure, no absence. -/
structure Heard (commit : PhysicalRuntimeCommit) : Prop where
  unread : commit.observation.statusFlags = none
  unfailed : commit.observation.failureStatus = none
  present : commit.observation.reportsAbsence = false
  levelled : commit.setpoint.dapcLevel = none -> commit.setpoint.power ≠ .on

namespace Heard

open PhysicalDeviceRecord

variable {self : PhysicalDeviceRecord} {commit : PhysicalRuntimeCommit}

section

variable (hheard : Heard commit)
include hheard

theorem powerCycleBegan : self.runtime.powerCycleBegan commit.observation = false := by
  simp [RuntimeObservationData.powerCycleBegan, hheard.unread]

theorem shownBy :
    self.shownBy commit.setpoint = (commit.setpoint.dapcLevel.map some).getD self.runtimeLevel := by
  unfold PhysicalDeviceRecord.shownBy
  cases hlevel : commit.setpoint.dapcLevel with
  | none => simp [hheard.levelled hlevel]
  | some level => rfl

theorem lastActiveLevel (hfollowed : self.Followed) :
    (self.commitPhysicalRuntime commit).1.lastActiveLevel =
      (((commit.setpoint.dapcLevel.filter fun level => decide (0 < level)).map some).getD
        self.lastActiveLevel) := by
  rw [lastActiveLevel_commit hheard.powerCycleBegan, hheard.shownBy]
  cases commit.setpoint.dapcLevel with
  | some level =>
    rcases Nat.eq_zero_or_pos level with hzero | hpos
    · simp [hzero, Option.filter]
    · simp [hpos, Option.filter]
  | none =>
    cases hshown : self.runtimeLevel with
    | none => rfl
    | some level =>
      rcases Nat.eq_zero_or_pos level with hzero | hpos
      · simp [hzero, Option.filter]
      · simp [Option.filter, hpos, hfollowed level hshown hpos]

theorem applyObservation (data : RuntimeObservationData) :
    data.applyObservation commit.observation =
      { data with
        hasObservation := true
        lastSeenMs := commit.observation.lastSeenMs.or data.lastSeenMs } := by
  unfold RuntimeObservationData.applyObservation RuntimeObservationData.applyReachability
  simp [hheard.unread, hheard.unfailed, hheard.present]

theorem trackPowerCycleBit (data : RuntimeObservationData) :
    data.trackPowerCycleBit commit.observation commit.clearsPowerCycleSeen =
      { data with
        knownPowerCycleSeen :=
          (commit.override .knownBit).getD data.knownPowerCycleSeen } := by
  unfold RuntimeObservationData.trackPowerCycleBit override
  rw [hheard.unread]
  cases commit.clearsPowerCycleSeen <;> rfl

theorem commit_eq :
    (self.commitPhysicalRuntime commit).1 =
      { self.recordCommandedLevel commit.setpoint false with
        runtime :=
          { self.runtime.withColour
              ((commit.override .colour).getD self.runtime.colour) with
            power := (commit.override .power).getD self.runtime.power
            hasObservation := true
            lastSeenMs := commit.observation.lastSeenMs.or self.runtime.lastSeenMs
            knownPowerCycleSeen :=
              (commit.override .knownBit).getD self.runtime.knownPowerCycleSeen
            valueSource :=
              if commit.setpoint.statesAValue then
                commit.observation.valueSource.or (some commit.entrySource)
              else
                self.runtime.valueSource
            lastDapcSource := commit.entryLastDapcSource.getD self.runtime.lastDapcSource
            observedAtMonoMs :=
              commit.observedAtMonoMs.or self.runtime.observedAtMonoMs } } := by
  have hbegan : self.runtime.powerCycleBegan commit.observation = false :=
    hheard.powerCycleBegan
  unfold commitPhysicalRuntime
  rw [hbegan]
  simp only [hheard.applyObservation, hheard.trackPowerCycleBit,
    RuntimeObservationData.applySetpoint_eq, RuntimeObservationData.mergeCommandMetadata]
  rfl

end

end Heard

namespace PhysicalDeviceRecord

variable {self : PhysicalDeviceRecord} {commit : PhysicalRuntimeCommit}

theorem parts_commit (hheard : Heard commit) (hfollowed : self.Followed) :
    (self.commitPhysicalRuntime commit).1.parts = overwrite self.parts commit.override := by
  have hbegan : self.runtime.powerCycleBegan commit.observation = false :=
    hheard.powerCycleBegan
  funext slot
  cases slot with
  | level => exact (runtimeLevel_commit hbegan).trans hheard.shownBy
  | lastActive => exact hheard.lastActiveLevel hfollowed
  | lastSeen =>
    rw [hheard.commit_eq]
    simp only [parts, overwrite, override]
    cases commit.observation.lastSeenMs <;> rfl
  | stamp =>
    rw [hheard.commit_eq]
    simp only [parts, overwrite, override]
    cases commit.observedAtMonoMs <;> rfl
  | valueSource =>
    rw [hheard.commit_eq]
    simp only [parts, overwrite, override]
    cases commit.setpoint.statesAValue <;> rfl
  | _ =>
    rw [hheard.commit_eq]
    rfl

theorem observedAtMonoMs_commit :
    (self.commitPhysicalRuntime commit).1.runtime.observedAtMonoMs =
      commit.observedAtMonoMs.or self.runtime.observedAtMonoMs := by
  have hkept :
      (if self.runtime.powerCycleBegan commit.observation = true then
        self.forgetRamState else self).runtime.observedAtMonoMs =
          self.runtime.observedAtMonoMs := by
    split <;> rfl
  have hobserved : forall data : RuntimeObservationData,
      (data.applyObservation commit.observation).observedAtMonoMs =
        data.observedAtMonoMs := by
    intro data
    unfold RuntimeObservationData.applyObservation RuntimeObservationData.applyReachability
    split
    · rfl
    · split <;> rfl
  have htracked : forall data : RuntimeObservationData,
      (data.trackPowerCycleBit commit.observation
        commit.clearsPowerCycleSeen).observedAtMonoMs = data.observedAtMonoMs := by
    intro data
    unfold RuntimeObservationData.trackPowerCycleBit
    split
    · rfl
    · split <;> rfl
  unfold commitPhysicalRuntime
  simp only [recordCommandedLevel, RuntimeObservationData.mergeCommandMetadata, htracked, hobserved,
    RuntimeObservationData.applySetpoint_eq, RuntimeObservationData.withColour, hkept]

end PhysicalDeviceRecord

/-! ## Stamps inside one window -/

/-- How far a stamp is past the start of the window, on the wrapping clock. -/
def offset (base stamp : Stamp) : Nat := (stamp - base).toNat

theorem observationSupersedes_iff {base incoming stored : Stamp}
    (hincoming : offset base incoming < observationOrderWindowMs)
    (hstored : offset base stored < observationOrderWindowMs) :
    observationSupersedes (some incoming) (some stored) = true <->
      offset base stored <= offset base incoming := by
  have hbehind : stored - incoming = (stored - base) - (incoming - base) := by
    bv_omega
  have hnat : (stored - incoming).toNat =
      (2 ^ 32 - offset base incoming + offset base stored) % 2 ^ 32 := by
    rw [hbehind, BitVec.toNat_sub]
    rfl
  have hzero : (stored - incoming == 0) = decide ((stored - incoming).toNat = 0) := by
    rw [Bool.eq_iff_iff]
    simp [<- BitVec.toNat_inj]
  simp only [observationOrderWindowMs] at hincoming hstored
  simp only [observationSupersedes, hzero, hnat, observationOrderWindowMs, Bool.or_eq_true,
    decide_eq_true_eq]
  omega

/-- A heard commit whose stamp lies in the window. -/
structure Sighted (base : Stamp) (commit : PhysicalRuntimeCommit) : Prop where
  heard : Heard commit
  stamped : exists stamp, commit.observedAtMonoMs = some stamp ∧
    offset base stamp < observationOrderWindowMs

/-- The later stamp is not behind the earlier one. -/
def NotBehind (base : Stamp) (earlier later : Option Stamp) : Prop :=
  forall stamp next, earlier = some stamp -> later = some next ->
    offset base stamp <= offset base next

def InWindow (base : Stamp) (stamp : Option Stamp) : Prop :=
  forall moment : Stamp, stamp = some moment -> offset base moment < observationOrderWindowMs

theorem Sighted.inWindow {base : Stamp} {commit : PhysicalRuntimeCommit}
    (hsighted : Sighted base commit) : InWindow base commit.observedAtMonoMs := by
  obtain ⟨stamp, hstamp, hwindow⟩ := hsighted.stamped
  intro other hother
  rw [hstamp] at hother
  cases hother
  exact hwindow

namespace PhysicalDeviceRecord

variable {self : PhysicalDeviceRecord} {base : Stamp}

section

variable (hself : InWindow base self.runtime.observedAtMonoMs)
include hself

/-- Inside the window a record takes what is not behind its own stamp. -/
theorem supersededBy_iff {stamp : Option Stamp} (hstamp : InWindow base stamp) :
    self.supersededBy stamp = true <-> NotBehind base self.runtime.observedAtMonoMs stamp := by
  unfold supersededBy NotBehind
  cases hstored : self.runtime.observedAtMonoMs with
  | none => simp [observationSupersedes]
  | some stored =>
    cases hincoming : stamp with
    | none => simp [observationSupersedes]
    | some incoming =>
      rw [observationSupersedes_iff (hstamp incoming hincoming) (hself stored hstored)]
      simp

theorem inWindow_applyPhysicalRuntime {commit : PhysicalRuntimeCommit}
    (hcommit : InWindow base commit.observedAtMonoMs) :
    InWindow base (self.applyPhysicalRuntime commit).1.runtime.observedAtMonoMs := by
  cases htaken : self.supersededBy commit.observedAtMonoMs with
  | false =>
    rw [applyPhysicalRuntime_refused htaken]
    exact hself
  | true =>
    rw [applyPhysicalRuntime_taken htaken, observedAtMonoMs_commit]
    cases hstamp : commit.observedAtMonoMs with
    | none => exact hself
    | some stamp =>
      rw [hstamp] at hcommit
      exact hcommit

theorem inWindow_applyLevelTransition {commit : LevelTransitionCommit}
    (hcommit : InWindow base commit.observedAtMonoMs) :
    InWindow base (self.applyLevelTransition commit).1.runtime.observedAtMonoMs := by
  have happlied : InWindow base
      (self.applyPhysicalRuntime (self.transitionCommit commit)).1.runtime.observedAtMonoMs :=
    inWindow_applyPhysicalRuntime hself hcommit
  unfold applyLevelTransition
  split
  · exact happlied
  · exact happlied

end

theorem afterCommits_append (before after : List PhysicalRuntimeCommit) :
    self.afterCommits (before ++ after) = (self.afterCommits before).afterCommits after :=
  foldl_append

variable {commits : List PhysicalRuntimeCommit}

/-- Commits in order, none behind the record, override its parts one after the other. -/
theorem parts_afterCommits (hsighted : forall commit, commit ∈ commits -> Sighted base commit)
    (hsorted : commits.Pairwise fun earlier later =>
      NotBehind base earlier.observedAtMonoMs later.observedAtMonoMs)
    (hfollowed : self.Followed) (htaken : forall commit, commit ∈ commits ->
      self.supersededBy commit.observedAtMonoMs) :
    (self.afterCommits commits).parts = applyAll (commits.map override) self.parts := by
  induction commits generalizing self with
  | nil => rfl
  | cons commit commits ih =>
    have hfirst := hsighted commit mem_cons_self
    obtain ⟨stamp, hstamp, hwindow⟩ := hfirst.stamped
    have hstored :
        (self.commitPhysicalRuntime commit).1.runtime.observedAtMonoMs =
          commit.observedAtMonoMs := by
      rw [observedAtMonoMs_commit, hstamp]
      rfl
    have htakes : forall later, later ∈ commits ->
        (self.commitPhysicalRuntime commit).1.supersededBy later.observedAtMonoMs =
          true := by
      intro later hlater
      rw [supersededBy_iff (hstored ▸ hfirst.inWindow)
        (hsighted later (mem_cons_of_mem commit hlater)).inWindow, hstored]
      exact rel_of_pairwise_cons hsorted hlater
    rw [afterCommits_cons, applyPhysicalRuntime_taken (htaken commit mem_cons_self),
      ih (fun later hlater => hsighted later (mem_cons_of_mem commit hlater))
        hsorted.of_cons (followed_commit (mild_of_unread hfirst.heard.unread)) htakes,
      map_cons, applyAll_cons, parts_commit hfirst.heard hfollowed]

theorem sound_afterCommits (hsighted : forall commit, commit ∈ commits -> Sighted base commit)
    (hself : self.Followed ∧ InWindow base self.runtime.observedAtMonoMs) :
    (self.afterCommits commits).Followed ∧
      InWindow base (self.afterCommits commits).runtime.observedAtMonoMs := by
  refine foldlRecOn (motive := fun record : PhysicalDeviceRecord =>
    record.Followed ∧ InWindow base record.runtime.observedAtMonoMs) commits _ hself ?_
  intro record hrecord commit hmem
  have hcommit := hsighted commit hmem
  constructor
  · exact followed_applyPhysicalRuntime hrecord.1 fun _ =>
      mild_of_unread hcommit.heard.unread
  · exact inWindow_applyPhysicalRuntime hrecord.2 hcommit.inWindow

theorem afterCommits_refused (hrefused : forall commit, commit ∈ commits ->
      self.supersededBy commit.observedAtMonoMs = false) : self.afterCommits commits = self := by
  induction commits with
  | nil => rfl
  | cons commit commits ih =>
    rw [afterCommits_cons, applyPhysicalRuntime_refused (hrefused commit mem_cons_self)]
    exact ih fun later hlater => hrefused later (mem_cons_of_mem commit hlater)

/-- Commits of one stamp whose parts are all written again by the last ones may as well
be left out. -/
theorem afterCommits_absorb {stamp : Stamp} {earlier between later : List PhysicalRuntimeCommit}
    (hsighted : forall commit, commit ∈ earlier ++ (between ++ later) -> Sighted base commit)
    (hsorted : (earlier ++ (between ++ later)).Pairwise fun earlier later =>
      NotBehind base earlier.observedAtMonoMs later.observedAtMonoMs)
    (hstamp : forall commit, commit ∈ earlier -> commit.observedAtMonoMs = some stamp)
    (hcovers : Covers (later.map override) (earlier.map override))
    (hfollowed : self.Followed) (hself : InWindow base self.runtime.observedAtMonoMs) :
    self.afterCommits (earlier ++ (between ++ later)) = self.afterCommits (between ++ later) := by
  cases htakes : self.supersededBy (some stamp) with
  | false =>
    have hskipped : self.afterCommits earlier = self :=
      afterCommits_refused fun commit hmem => by rw [hstamp commit hmem, htakes]
    rw [afterCommits_append earlier, hskipped]
  | true =>
    cases hearlier : earlier with
    | nil => rfl
    | cons first rest =>
      have hmem : first ∈ earlier := by simp [hearlier]
      have hfirst := hsighted first (mem_append_left _ hmem)
      have htakesFirst : self.supersededBy first.observedAtMonoMs := by
        rw [hstamp first hmem, htakes]
      have hbefore := (supersededBy_iff hself hfirst.inWindow).1 htakesFirst
      have htakesAll : forall commit, commit ∈ earlier ++ (between ++ later) ->
          self.supersededBy commit.observedAtMonoMs = true := by
        intro commit hcommit
        rcases mem_append.1 hcommit with hin | hafter
        · rw [hstamp commit hin, htakes]
        · rw [supersededBy_iff hself (hsighted commit hcommit).inWindow]
          have hnext := (pairwise_append.1 hsorted).2.2 first hmem commit hafter
          intro stored incoming hstored hincoming
          exact (hbefore stored stamp hstored (hstamp first hmem)).trans
            (hnext stamp incoming (hstamp first hmem) hincoming)
      rw [<- hearlier]
      apply eq_of_parts
      rw [parts_afterCommits hsighted hsorted hfollowed htakesAll,
        parts_afterCommits (fun commit hcommit => hsighted commit (mem_append_right _ hcommit))
          (pairwise_append.1 hsorted).2.1 hfollowed
          (fun commit hcommit => htakesAll commit (mem_append_right _ hcommit)),
        map_append, map_append]
      exact applyAll_absorb hcovers _ _

end PhysicalDeviceRecord

/-! ## Rows -/

abbrev DeviceKey := Nat × Nat

abbrev Rows := DeviceKey -> Option PhysicalDeviceRecord

/-- `internal_virtual_lamp_binding_short`, by adapter and lamp. -/
abbrev Bindings := Nat -> Nat -> Option Nat

inductive RegistryCommand where
  | runtimeUpdate (adapterId : Nat) (update : RuntimeRegistryUpdateEntry)
  | levelTransition (adapterId : Nat) (virtualLampId shortAddress : Option Nat)
      (commit : LevelTransitionCommit)

/-- A lamp and a device that are both named have to be bound to each other. -/
def resolveTarget (bindings : Bindings) (adapterId : Nat) :
    Option Nat -> Option Nat -> Option DeviceKey
  | some lamp, some short =>
    if bindings adapterId lamp = some short then some (adapterId, short) else none
  | some lamp, none => (bindings adapterId lamp).map fun short => (adapterId, short)
  | none, some short => some (adapterId, short)
  | none, none => none

namespace RegistryCommand

def target (bindings : Bindings) : RegistryCommand -> Option DeviceKey
  | .runtimeUpdate adapterId update =>
    resolveTarget bindings adapterId update.virtualLampId update.shortAddress
  | .levelTransition adapterId virtualLampId shortAddress _ =>
    resolveTarget bindings adapterId virtualLampId shortAddress

def onRecord (record : PhysicalDeviceRecord) : RegistryCommand -> PhysicalDeviceRecord
  | .runtimeUpdate _ update => (record.applyPhysicalRuntime update.commit).1
  | .levelTransition _ _ _ commit => (record.applyLevelTransition commit).1

def stamp : RegistryCommand -> Option Stamp
  | .runtimeUpdate _ update => update.observedAtMonoMs
  | .levelTransition _ _ _ commit => commit.observedAtMonoMs

/-- A transition is never published with a status, and a read that reveals a power
cycle finds the gear dark or at its maximum. -/
def MildOn (record : PhysicalDeviceRecord) : RegistryCommand -> Prop
  | .runtimeUpdate _ update =>
    record.supersededBy update.observedAtMonoMs = true -> record.Mild update.commit
  | .levelTransition _ _ _ commit => commit.observation.statusFlags = none

end RegistryCommand

def handleCommand (bindings : Bindings) (rows : Rows) (command : RegistryCommand) : Rows :=
  match command.target bindings with
  | none => rows
  | some key =>
    Function.update rows key ((rows key).map fun record => RegistryCommand.onRecord record command)

def handleCommands (bindings : Bindings) (rows : Rows) (commands : List RegistryCommand) : Rows :=
  commands.foldl (handleCommand bindings) rows

/-- Every row is followed, with its stamp in the window. -/
def RowsSound (base : Stamp) (rows : Rows) : Prop :=
  forall key record, rows key = some record ->
    record.Followed ∧ InWindow base record.runtime.observedAtMonoMs

section

variable {bindings : Bindings} {base : Stamp} {rows : Rows}

theorem handleCommand_at (command : RegistryCommand) (key : DeviceKey) :
    handleCommand bindings rows command key =
      if command.target bindings = some key then
        (rows key).map fun record => RegistryCommand.onRecord record command
      else
        rows key := by
  unfold handleCommand
  cases htarget : command.target bindings with
  | none => simp
  | some target =>
    rcases Decidable.em (target = key) with heq | hne
    · simp [heq]
    · simp [hne, Function.update_of_ne (Ne.symm hne)]

/-- A row sees the commands that resolve to it, in their order. -/
theorem handleCommands_at (commands : List RegistryCommand) (key : DeviceKey) :
    handleCommands bindings rows commands key =
      (rows key).map fun record =>
        (commands.filter fun command => command.target bindings = some key).foldl
          RegistryCommand.onRecord record := by
  induction commands generalizing rows with
  | nil => simp [handleCommands]
  | cons command commands ih =>
    have hstep : handleCommands bindings rows (command :: commands) =
        handleCommands bindings (handleCommand bindings rows command) commands := rfl
    rw [hstep, ih, handleCommand_at]
    rcases Decidable.em (command.target bindings = some key) with heq | hne
    · simp [heq, Function.comp_def]
    · simp [hne]

theorem rowsSound_handleCommand {command : RegistryCommand} (hrows : RowsSound base rows)
    (hstamp : InWindow base command.stamp)
    (hmild : forall key record, command.target bindings = some key ->
      rows key = some record -> RegistryCommand.MildOn record command) :
    RowsSound base (handleCommand bindings rows command) := by
  intro key record hrecord
  rw [handleCommand_at] at hrecord
  rcases Decidable.em (command.target bindings = some key) with htarget | hother
  · rw [if_pos htarget] at hrecord
    obtain ⟨before, hbefore, hafter⟩ := Option.map_eq_some_iff.1 hrecord
    have hsound := hrows key before hbefore
    have hmildOn := hmild key before htarget hbefore
    rw [<- hafter]
    cases command with
    | runtimeUpdate adapterId update =>
      constructor
      · exact PhysicalDeviceRecord.followed_applyPhysicalRuntime hsound.1 hmildOn
      · exact PhysicalDeviceRecord.inWindow_applyPhysicalRuntime hsound.2 hstamp
    | levelTransition adapterId virtualLampId shortAddress commit =>
      constructor
      · exact PhysicalDeviceRecord.followed_applyLevelTransition hsound.1 hmildOn
      · exact PhysicalDeviceRecord.inWindow_applyLevelTransition hsound.2 hstamp
  · rw [if_neg hother] at hrecord
    exact hrows key record hrecord

end

end Oxidali.Registry.RuntimeCommits
