import Oxidali.Fanout.ObservedFacts

/-!
# The coalescer of the projector

Facts about one target are held back for the length of a drained burst, at most four
of them.  A later fact drops the held ones it restates, and whatever else the
projector has to handle flushes them first.  The rows come out as if every fact had
been projected on its own, as long as the last active level of every row follows the
level it shows.
-/

namespace Oxidali.Fanout

open List Option Addressee

open Lamps (ColorValue)
open Overrides
open Registry.RuntimeCommits

/-! ## The coalescer -/

def pendingObservedFacts : Nat := 4

def coalesceKey (body : DaliObservedFrameEvent) : Nat × DaliTargetScope × Nat :=
  (body.registryAdapterId, body.target.scope,
    (body.target.shortAddress.or body.target.groupId).getD 255)

def setsLastActiveLevel (setpoint : LightSetpoint) : Bool :=
  setpoint.dapcLevel.any fun level => decide (0 < level)

def restatesColour (now before : LightSetpoint) : Bool :=
  let mode := fun setpoint : LightSetpoint => setpoint.color.map fun color => color.mode
  !before.statesColor || (now.statesColor && mode now = mode before)

def restates (later earlier : DaliObservedFrameEvent) : Bool :=
  match later.setpoint, earlier.setpoint with
  | some now, some before =>
    (now.statesLevel || !before.statesLevel) && restatesColour now before &&
      (later.dapcObserved || !earlier.dapcObserved) &&
      (setsLastActiveLevel now || !setsLastActiveLevel before)
  | _, _ => false

/-- The held facts, and the rows as the updates published so far leave them. -/
structure Projector where
  pending : List DaliObservedFrameEvent
  rows : Rows

/-- A target-state fact, or any other event by what the projector publishes for it. -/
inductive ProjectorEvent where
  | observed (body : DaliObservedFrameEvent)
  | other (commands : List RegistryCommand)

namespace Projector

variable (port : ReadPort) (self : Projector) (body : DaliObservedFrameEvent)

def holdsAnotherTarget : Bool :=
  self.pending.head?.any fun held => coalesceKey held != coalesceKey body

def fold : Projector :=
  { self with pending := self.pending.filter fun earlier => !restates body earlier }

def flushCoalesced : Projector where
  pending := []
  rows := self.pending.foldl (project port) self.rows

def handleOldestIfFull : Projector :=
  match self.pending with
  | oldest :: rest =>
    if pendingObservedFacts <= self.pending.length then
      { pending := rest
        rows := project port self.rows oldest }
    else
      self
  | [] => self

def push : Projector :=
  { self with pending := self.pending ++ [body] }

def holdObserved : Projector :=
  let same := if self.holdsAnotherTarget body then self.flushCoalesced port else self
  ((same.fold body).handleOldestIfFull port).push body

def handleEventFrame : ProjectorEvent -> Projector
  | .observed body => self.holdObserved port body
  | .other commands =>
    let flushed := self.flushCoalesced port
    { flushed with rows := handleCommands port.bindingShort flushed.rows commands }

/-- One turn of the worker: a drained burst, and the flush at its end. -/
def turn (burst : List ProjectorEvent) : Projector :=
  (burst.foldl (handleEventFrame port) self).flushCoalesced port

end Projector

variable (port : ReadPort)

def projectEvent (rows : Rows) : ProjectorEvent -> Rows
  | .observed body => project port rows body
  | .other commands => handleCommands port.bindingShort rows commands

/-! ## What a fact commits to one row -/

def audience (adapterId : Nat) (target : Target) (key : DeviceKey) : List Addressee :=
  (addressees port adapterId target).filter fun addressee =>
    resolveTarget port.bindingShort adapterId addressee.virtualLampId
      addressee.shortAddress = some key

def commitsAt (key : DeviceKey) (body : DaliObservedFrameEvent) : List PhysicalRuntimeCommit :=
  match body.setpoint with
  | some setpoint =>
    (audience port body.registryAdapterId body.target key).map fun addressee =>
      (addressee.entry body setpoint).commit
  | none => []

section

variable {port : ReadPort} {rows : Rows} {base : Stamp}

theorem foldl_onRecord (adapterId : Nat) (entries : List RuntimeRegistryUpdateEntry)
    (record : PhysicalDeviceRecord) :
    (entries.map (RegistryCommand.runtimeUpdate adapterId)).foldl RegistryCommand.onRecord record =
      record.afterCommits (entries.map RuntimeRegistryUpdateEntry.commit) := by
  unfold PhysicalDeviceRecord.afterCommits
  rw [foldl_map, foldl_map]
  rfl

variable {body : DaliObservedFrameEvent}

theorem project_at (hpublished : Published body) (key : DeviceKey) :
    project port rows body key =
      (rows key).map fun record => record.afterCommits (commitsAt port key body) := by
  obtain ⟨setpoint, hsetpoint, _⟩ := hpublished.stated
  unfold project
  rw [handleCommands_at, handleObservedTargetState_eq port hsetpoint, List.filter_map]
  have hcommits : commitsAt port key body =
      ((audience port body.registryAdapterId body.target key).map
        (entry body setpoint)).map RuntimeRegistryUpdateEntry.commit := by
    unfold commitsAt
    rw [hsetpoint, List.map_map]
    rfl
  rw [hcommits]
  congr 1
  funext record
  rw [<- foldl_onRecord body.registryAdapterId, List.map_map]
  rfl

variable {bodies : List DaliObservedFrameEvent}

theorem foldl_project_at (hpublished : forall body, body ∈ bodies -> Published body)
    (key : DeviceKey) :
    bodies.foldl (project port) rows key =
      (rows key).map fun record =>
        record.afterCommits (bodies.flatMap (commitsAt port key)) := by
  induction bodies generalizing rows with
  | nil => simp [PhysicalDeviceRecord.afterCommits]
  | cons body bodies ih =>
    rw [foldl_cons, ih fun later hlater =>
      hpublished later (mem_cons_of_mem body hlater),
      project_at (hpublished body mem_cons_self), Option.map_map]
    congr 1
    funext record
    rw [flatMap_cons, PhysicalDeviceRecord.afterCommits_append]
    rfl

variable {commit : PhysicalRuntimeCommit}

theorem stamp_of_mem_commitsAt {key : DeviceKey} (hmem : commit ∈ commitsAt port key body) :
    commit.observedAtMonoMs = some body.observedAtMonoMs := by
  unfold commitsAt at hmem
  split at hmem
  · obtain ⟨addressee, _, heq⟩ := mem_map.1 hmem
    rw [<- heq]
    rfl
  · cases hmem

theorem heard_of_mem_commitsAt {key : DeviceKey} (hpublished : Published body)
    (hmem : commit ∈ commitsAt port key body) : Heard commit := by
  obtain ⟨setpoint, hsetpoint, hworded⟩ := hpublished.stated
  unfold commitsAt at hmem
  rw [hsetpoint] at hmem
  obtain ⟨addressee, _, heq⟩ := mem_map.1 hmem
  rw [<- heq]
  exact heard_entry hworded.shape addressee

/-! ## A restated fact is covered -/

theorem target_of_key {other : DaliObservedFrameEvent} (hbody : Published body)
    (hother : Published other) (hkey : coalesceKey body = coalesceKey other) :
    body.registryAdapterId = other.registryAdapterId ∧ body.target = other.target := by
  obtain ⟨address, haddress⟩ := hbody.addressed
  obtain ⟨another, hanother⟩ := hother.addressed
  unfold coalesceKey at hkey
  simp only [Prod.mk.injEq] at hkey
  refine ⟨hkey.1, ?_⟩
  generalize body.target = target, other.target = faced at *
  cases address <;> cases haddress <;> cases another <;> cases hanother <;> simp_all

theorem Shape.statesLevel {setpoint : LightSetpoint} (hshape : Shape setpoint) :
    setpoint.statesLevel = setpoint.dapcLevel.isSome := by
  cases hshape with
  | level level =>
    rw [dapcLevel_fromLevel]
    exact commandedPower_fromLevel level none
  | colour color h => rfl

/-- What one setpoint restates of another, with whether either was said directly. -/
structure Restated (now before : LightSetpoint) (dapc dapcBefore : Bool) : Prop where
  level : before.statesLevel = true -> now.statesLevel = true
  colour : before.statesColor = true -> now.statesColor = true ∧
    now.color.map (fun color => color.mode) = before.color.map fun color => color.mode
  dapc : dapcBefore = true -> dapc = true
  active : setsLastActiveLevel before = true -> setsLastActiveLevel now = true

variable {earlier : DaliObservedFrameEvent}

theorem restated_of_restates {later : DaliObservedFrameEvent} {now before : LightSetpoint}
    (hnow : later.setpoint = some now) (hbefore : earlier.setpoint = some before)
    (h : restates later earlier) : Restated now before later.dapcObserved earlier.dapcObserved := by
  unfold restates restatesColour at h
  rw [hnow, hbefore] at h
  simp only [Bool.and_eq_true, Bool.or_eq_true, Bool.not_eq_true', decide_eq_true_eq] at h
  obtain ⟨⟨⟨hlevel, hcolour⟩, hdapc⟩, hactive⟩ := h
  constructor
  · intro hstates
    exact hlevel.resolve_right (by simp [hstates])
  · intro hstates
    exact hcolour.resolve_left (by simp [hstates])
  · intro hstates
    exact hdapc.resolve_right (by simp [hstates])
  · intro hstates
    exact hactive.resolve_right (by simp [hstates])

section

variable {now before : LightSetpoint} {dapc dapcBefore : Bool}

theorem Restated.color_kept (hrestated : Restated now before dapc dapcBefore)
    (hshape : Shape before) (addressee : Addressee) {color : ColorValue}
    (hkept : (addressee.setpointFor before).color = some color) :
    exists again, (addressee.setpointFor now).color = some again ∧ statesAColour again.mode := by
  rw [color_setpointFor, filter_eq_some_iff] at hkept
  obtain ⟨hcolor, haccepts⟩ := hkept
  have hstates : before.statesColor := by
    cases hshape with
    | level level => cases hcolor
    | colour stated h => simpa [LightSetpoint.statesColor] using h
  obtain ⟨hnow, hmode⟩ := hrestated.colour hstates
  cases hagain : now.color with
  | none => simp [LightSetpoint.statesColor, hagain] at hnow
  | some again =>
    rw [hagain, hcolor] at hmode
    have heq : again.mode = color.mode := by simpa using hmode
    refine ⟨again, ?_, ?_⟩
    · rw [color_setpointFor, hagain, filter_eq_some_iff, heq]
      exact ⟨rfl, haccepts⟩
    · simpa [LightSetpoint.statesColor, hagain] using hnow

theorem Shape.statesAValue {setpoint : LightSetpoint} (hshape : Shape setpoint)
    (addressee : Addressee) :
    (addressee.setpointFor setpoint).statesAValue =
      (setpoint.statesLevel || (addressee.setpointFor setpoint).color.isSome) := by
  unfold LightSetpoint.statesAValue
  rw [power_setpointFor, level_setpointFor]
  cases hshape with
  | level level =>
    rw [LightSetpoint.statesLevel, commandedPower_fromLevel]
    simp [LightSetpoint.fromLevel]
  | colour color h => rfl

theorem Restated.override {later : DaliObservedFrameEvent}
    (hrestated : Restated now before later.dapcObserved earlier.dapcObserved) (hnow : Shape now)
    (hbefore : Shape before) (addressee : Addressee) (slot : Part)
    (hwrites : ((addressee.entry earlier before).commit.override slot).isSome) :
    ((addressee.entry later now).commit.override slot).isSome := by
  have hsetpoint : forall body setpoint,
      (addressee.entry body setpoint).commit.setpoint = addressee.setpointFor setpoint :=
    fun _ _ => rfl
  have hlevel : before.dapcLevel.isSome -> now.dapcLevel.isSome := by
    rw [<- hbefore.statesLevel, <- hnow.statesLevel]
    exact hrestated.level
  have hdapc : forall source,
      (addressee.entry earlier before).lastDapcSource = some source ->
        (addressee.entry later now).lastDapcSource = some source := by
    intro source hsaid
    cases hobserved : earlier.dapcObserved with
    | false => simp [entry, snifferEntry, hobserved] at hsaid
    | true =>
      simpa [entry, snifferEntry, hobserved, hrestated.dapc hobserved] using hsaid
  unfold PhysicalRuntimeCommit.override at hwrites ⊢
  cases slot with
  | level =>
    simp only [hsetpoint, dapcLevel_setpointFor, isSome_map] at hwrites ⊢
    exact hlevel hwrites
  | lastActive =>
    simp only [hsetpoint, dapcLevel_setpointFor, isSome_map, isSome_filter] at hwrites ⊢
    exact hrestated.active hwrites
  | power =>
    simp only [hsetpoint, commandedPower_setpointFor, isSome_map] at hwrites ⊢
    exact hrestated.level hwrites
  | colour =>
    simp only [hsetpoint] at hwrites
    cases hkept : (addressee.setpointFor before).color with
    | none => simp [hkept] at hwrites
    | some color =>
      obtain ⟨again, hagain, hstates⟩ := hrestated.color_kept hbefore addressee hkept
      simp only [hsetpoint, hagain, bind_some, isSome_shownColour]
      exact hstates
  | knownBit =>
    have hclears : forall body setpoint,
        (addressee.entry body setpoint).commit.clearsPowerCycleSeen =
          (setpoint.statesLevel ||
            decide ((addressee.entry body setpoint).lastDapcSource = some .scene)) := by
      intro body setpoint
      rw [LightSetpoint.statesLevel, <- commandedPower_setpointFor addressee]
      rfl
    simp only [hclears, isSome_ite, Bool.or_eq_true, decide_eq_true_eq] at hwrites ⊢
    exact hwrites.imp hrestated.level (hdapc .scene)
  | valueSource =>
    simp only [hsetpoint, hbefore.statesAValue, isSome_ite, Bool.or_eq_true] at hwrites
    simp only [hsetpoint, hnow.statesAValue, isSome_ite, Bool.or_eq_true]
    refine hwrites.imp hrestated.level fun hsome => ?_
    obtain ⟨color, hkept⟩ := isSome_iff_exists.1 hsome
    obtain ⟨again, hagain, _⟩ := hrestated.color_kept hbefore addressee hkept
    rw [hagain]
    rfl
  | lastDapc =>
    obtain ⟨source, hsource⟩ := isSome_iff_exists.1 hwrites
    exact isSome_iff_exists.2 ⟨source, hdapc source hsource⟩
  | lastSeen | observed | stamp => rfl
  | kept => cases hwrites

end

theorem covers_of_restates {later : DaliObservedFrameEvent} (hlater : Published later)
    (hearlier : Published earlier) (hkey : coalesceKey later = coalesceKey earlier)
    (hrestates : restates later earlier) (key : DeviceKey) :
    Covers ((commitsAt port key later).map PhysicalRuntimeCommit.override)
      ((commitsAt port key earlier).map PhysicalRuntimeCommit.override) := by
  obtain ⟨now, hnow, hworded⟩ := hlater.stated
  obtain ⟨before, hbefore, hsaid⟩ := hearlier.stated
  obtain ⟨hadapter, htarget⟩ := target_of_key hlater hearlier hkey
  have hrestated := restated_of_restates hnow hbefore hrestates
  intro update hmem slot hwrites
  unfold commitsAt at hmem
  rw [hbefore, List.map_map] at hmem
  obtain ⟨addressee, haddressee, heq⟩ := mem_map.1 hmem
  refine ⟨(addressee.entry later now).commit.override, ?_, ?_⟩
  · unfold commitsAt
    rw [hnow, List.map_map, hadapter, htarget]
    exact mem_map.2 ⟨addressee, haddressee, rfl⟩
  · rw [<- heq] at hwrites
    exact hrestated.override hworded.shape hsaid.shape addressee slot hwrites

/-! ## Leaving out what is restated -/

/-- Facts of the translator in the order of their stamps, all inside the window. -/
structure InOrder (base : Stamp) (bodies : List DaliObservedFrameEvent) : Prop where
  published : forall body, body ∈ bodies -> Published body
  window : forall body, body ∈ bodies ->
    offset base body.observedAtMonoMs < observationOrderWindowMs
  sorted : bodies.Pairwise fun earlier later =>
    offset base earlier.observedAtMonoMs <= offset base later.observedAtMonoMs

theorem InOrder.sublist {fewer : List DaliObservedFrameEvent} (horder : InOrder base bodies)
    (hsub : fewer.Sublist bodies) : InOrder base fewer where
  published := fun body hmem => horder.published body (hsub.subset hmem)
  window := fun body hmem => horder.window body (hsub.subset hmem)
  sorted := horder.sorted.sublist hsub

theorem InOrder.sighted (horder : InOrder base bodies) (port : ReadPort) (key : DeviceKey) :
    forall commit, commit ∈ bodies.flatMap (commitsAt port key) -> Sighted base commit := by
  intro commit hmem
  obtain ⟨body, hbody, hcommit⟩ := mem_flatMap.1 hmem
  exact ⟨heard_of_mem_commitsAt (horder.published body hbody) hcommit,
    body.observedAtMonoMs, stamp_of_mem_commitsAt hcommit, horder.window body hbody⟩

theorem InOrder.commits_sorted (horder : InOrder base bodies) (port : ReadPort) (key : DeviceKey) :
    (bodies.flatMap (commitsAt port key)).Pairwise fun earlier later =>
      NotBehind base earlier.observedAtMonoMs later.observedAtMonoMs := by
  have hstamps : forall {earlier later : DaliObservedFrameEvent},
      offset base earlier.observedAtMonoMs <= offset base later.observedAtMonoMs ->
      forall first, first ∈ commitsAt port key earlier ->
      forall second, second ∈ commitsAt port key later ->
        NotBehind base first.observedAtMonoMs second.observedAtMonoMs := by
    intro earlier later hle first hfirst second hsecond stamp next hstamp hnext
    rw [stamp_of_mem_commitsAt hfirst] at hstamp
    rw [stamp_of_mem_commitsAt hsecond] at hnext
    cases hstamp
    cases hnext
    exact hle
  rw [pairwise_flatMap]
  constructor
  · intro body _
    exact pairwise_of_forall_mem_list fun first hfirst second hsecond =>
      hstamps (Nat.le_refl _) first hfirst second hsecond
  · exact horder.sorted.imp hstamps

section

variable (hrows : RowsSound base rows)
include hrows

theorem rowsSound_project (horder : InOrder base [body]) :
    RowsSound base (project port rows body) := by
  intro key record hrecord
  rw [project_at (horder.published body (by simp))] at hrecord
  obtain ⟨before, hbefore, hafter⟩ := map_eq_some_iff.1 hrecord
  rw [<- hafter]
  refine PhysicalDeviceRecord.sound_afterCommits (fun commit hmem => ?_) (hrows key before hbefore)
  exact horder.sighted port key commit (by simpa using hmem)

theorem rowsSound_foldl_project (horder : InOrder base bodies) :
    RowsSound base (bodies.foldl (project port) rows) := by
  refine foldlRecOn (motive := RowsSound base) bodies (project port) hrows ?_
  intro current hcurrent body hmem
  exact rowsSound_project hcurrent (horder.sublist (singleton_sublist.2 hmem))

theorem foldl_project_absorb {first last : DaliObservedFrameEvent}
    {rest : List DaliObservedFrameEvent} (horder : InOrder base (first :: (rest ++ [last])))
    (hkey : coalesceKey last = coalesceKey first) (hrestates : restates last first) :
    (first :: (rest ++ [last])).foldl (project port) rows =
      (rest ++ [last]).foldl (project port) rows := by
  have hrest : InOrder base (rest ++ [last]) :=
    horder.sublist (sublist_cons_self first _)
  funext key
  rw [foldl_project_at horder.published, foldl_project_at hrest.published]
  cases hrecord : rows key with
  | none => rfl
  | some record =>
    have hsplit : (rest ++ [last]).flatMap (commitsAt port key) =
        rest.flatMap (commitsAt port key) ++ commitsAt port key last := by simp
    have hall : (first :: (rest ++ [last])).flatMap (commitsAt port key) =
        commitsAt port key first ++
          (rest.flatMap (commitsAt port key) ++ commitsAt port key last) := by simp
    have hsighted := horder.sighted port key
    have hsorted := horder.commits_sorted port key
    rw [hall] at hsighted hsorted
    rw [Option.map_some, Option.map_some, hall, hsplit]
    congr 1
    exact PhysicalDeviceRecord.afterCommits_absorb hsighted hsorted
      (fun commit hmem => stamp_of_mem_commitsAt hmem)
      (covers_of_restates (horder.published last (by simp))
        (horder.published first (by simp)) hkey hrestates key)
      (hrows key record hrecord).1 (hrows key record hrecord).2

/-- Held facts of one target come out the same with what the newest restates left out. -/
theorem foldl_project_filter {held : List DaliObservedFrameEvent}
    (horder : InOrder base (held ++ [body]))
    (hkeys : forall earlier, earlier ∈ held -> coalesceKey earlier = coalesceKey body) :
    ((held.filter fun earlier => !restates body earlier) ++ [body]).foldl (project port) rows =
      (held ++ [body]).foldl (project port) rows := by
  refine foldl_filter_restated (fun rows bodies => RowsSound base rows ∧ InOrder base bodies ∧
        forall earlier, earlier ∈ bodies -> coalesceKey earlier = coalesceKey body)
    body (restates body) ?_ ?_ ?_ held rows ⟨hrows, horder, ?_⟩
  · intro current first rest hvalid
    refine ⟨rowsSound_project hvalid.1 (hvalid.2.1.sublist (by simp)),
      hvalid.2.1.sublist (sublist_cons_self first rest), ?_⟩
    exact fun earlier hmem => hvalid.2.2 earlier (mem_cons_of_mem first hmem)
  · intro current first rest hvalid
    refine ⟨hvalid.1, hvalid.2.1.sublist (sublist_cons_self first rest), ?_⟩
    exact fun earlier hmem => hvalid.2.2 earlier (mem_cons_of_mem first hmem)
  · intro current first rest hvalid hrestates
    exact foldl_project_absorb hvalid.1 hvalid.2.1 (hvalid.2.2 first mem_cons_self).symm hrestates
  · intro earlier hmem
    rcases mem_append.1 hmem with hheld | hlast
    · exact hkeys earlier hheld
    · rw [mem_singleton.1 hlast]

end

/-! ## Runs -/

/-- Every commit of every other event finds its row as mild as it needs to be, with the
rows as they stand when it comes. -/
def MildRun (port : ReadPort) (base : Stamp) (rows : Rows) (events : List ProjectorEvent) : Prop :=
  forall before commands, before ++ [ProjectorEvent.other commands] <+: events ->
    forall first command, first ++ [command] <+: commands -> InWindow base command.stamp ∧
        forall key record, command.target port.bindingShort = some key ->
          handleCommands port.bindingShort (before.foldl (projectEvent port) rows) first
            key = some record ->
          RegistryCommand.MildOn record command

def factsOf (events : List ProjectorEvent) : List DaliObservedFrameEvent :=
  events.filterMap fun event =>
    match event with
    | .observed body => some body
    | .other _ => none

/-- The held facts are all that the rows lack, and they are about one target. -/
structure Holding (port : ReadPort) (base : Stamp) (direct : Rows) (state : Projector) :
    Prop where
  lacks : state.pending.foldl (project port) state.rows = direct
  sound : RowsSound base state.rows
  keys : forall held other, held ∈ state.pending -> other ∈ state.pending ->
    coalesceKey held = coalesceKey other

theorem MildRun.tail {event : ProjectorEvent} {events : List ProjectorEvent}
    (hmild : MildRun port base rows (event :: events)) :
    MildRun port base (projectEvent port rows event) events := by
  intro before commands hevents
  exact hmild (event :: before) commands (cons_prefix_cons.2 ⟨rfl, hevents⟩)

theorem rowsSound_handleCommands {commands : List RegistryCommand} (hrows : RowsSound base rows)
    (hmild : forall first command, first ++ [command] <+: commands -> InWindow base command.stamp ∧
        forall key record, command.target port.bindingShort = some key ->
          handleCommands port.bindingShort rows first key = some record ->
          RegistryCommand.MildOn record command) :
    RowsSound base (handleCommands port.bindingShort rows commands) := by
  induction commands generalizing rows with
  | nil => exact hrows
  | cons command commands ih =>
    have hfirst := hmild [] command (by simp)
    refine ih (rowsSound_handleCommand hrows hfirst.1 hfirst.2) ?_
    intro first later hlater
    exact hmild (command :: first) later (cons_prefix_cons.2 ⟨rfl, hlater⟩)

namespace Holding

variable {direct : Rows} {self : Projector} {later : List DaliObservedFrameEvent}

theorem flush (hholding : Holding port base direct self)
    (horder : InOrder base (self.pending ++ later)) :
    Holding port base direct (self.flushCoalesced port) where
  lacks := hholding.lacks
  sound := rowsSound_foldl_project hholding.sound (horder.sublist (sublist_append_left _ _))
  keys := fun _ _ hheld => nomatch hheld

theorem sameTarget (hholding : Holding port base direct self) (body : DaliObservedFrameEvent)
    (horder : InOrder base (self.pending ++ later)) :
    exists same : Projector,
      (if self.holdsAnotherTarget body = true then self.flushCoalesced port else self) = same ∧
        Holding port base direct same ∧ same.pending.Sublist self.pending ∧
        forall held, held ∈ same.pending -> coalesceKey held = coalesceKey body := by
  refine ⟨_, rfl, ?_⟩
  split
  · refine ⟨hholding.flush horder, nil_sublist _, fun held hheld => ?_⟩
    cases hheld
  · rename_i hsame
    refine ⟨hholding, .refl _, fun held hheld => ?_⟩
    unfold Projector.holdsAnotherTarget at hsame
    cases hpending : self.pending with
    | nil =>
      rw [hpending] at hheld
      cases hheld
    | cons first rest =>
      have hfirst : coalesceKey first = coalesceKey body := by
        simpa [hpending] using hsame
      exact (hholding.keys held first hheld (by simp [hpending])).trans hfirst

/-- Handling the oldest fact early changes nothing: it is the next one anyway. -/
theorem oldest (port : ReadPort) (last : DaliObservedFrameEvent) (hself : RowsSound base self.rows)
    (horder : InOrder base self.pending) :
    exists room : Projector, self.handleOldestIfFull port = room ∧
      RowsSound base room.rows ∧ room.pending.Sublist self.pending ∧
      (room.pending ++ [last]).foldl (project port) room.rows =
        (self.pending ++ [last]).foldl (project port) self.rows := by
  refine ⟨_, rfl, ?_⟩
  unfold Projector.handleOldestIfFull
  cases hpending : self.pending with
  | nil =>
    rw [hpending]
    exact ⟨hself, .refl _, rfl⟩
  | cons first rest =>
    dsimp only
    split
    · refine ⟨rowsSound_project hself (horder.sublist ?_), sublist_cons_self first rest, rfl⟩
      rw [hpending]
      simp
    · rw [hpending]
      exact ⟨hself, .refl _, rfl⟩

theorem observed (hholding : Holding port base direct self)
    (horder : InOrder base (self.pending ++ body :: later)) :
    Holding port base (project port direct body) (self.holdObserved port body) ∧
      InOrder base ((self.holdObserved port body).pending ++ later) := by
  obtain ⟨same, hsame, hsameHolds, hsub, hkeys⟩ := hholding.sameTarget body horder
  have horderSame : InOrder base (same.pending ++ [body]) :=
    horder.sublist (hsub.append (by simp))
  have hfolded : (same.fold body).pending.Sublist same.pending := filter_sublist
  have hfoldedSound : RowsSound base (same.fold body).rows := hsameHolds.sound
  obtain ⟨room, hroom, hsound, hroomSub, hrows⟩ := oldest port body hfoldedSound
    (horderSame.sublist (hfolded.trans (sublist_append_left _ _)))
  have hheld : self.holdObserved port body = room.push body := by
    unfold Projector.holdObserved
    rw [hsame]
    exact congrArg (fun state : Projector => state.push body) hroom
  have hkept : room.pending.Sublist same.pending := hroomSub.trans hfolded
  rw [hheld]
  refine ⟨⟨?_, hsound, ?_⟩, ?_⟩
  · have hfilter : ((same.fold body).pending ++ [body]).foldl (project port)
        (same.fold body).rows = (same.pending ++ [body]).foldl (project port) same.rows :=
      foldl_project_filter hsameHolds.sound horderSame hkeys
    show (room.pending ++ [body]).foldl (project port) room.rows = _
    rw [hrows, hfilter, foldl_append, hsameHolds.lacks]
    rfl
  · have hone : forall held, held ∈ (room.push body).pending ->
        coalesceKey held = coalesceKey body := by
      intro held hmem
      rcases mem_append.1 hmem with hpending | hlast
      · exact hkeys held (hkept.subset hpending)
      · rw [mem_singleton.1 hlast]
    exact fun held other hmem hother => (hone held hmem).trans (hone other hother).symm
  · refine horder.sublist ?_
    show ((room.pending ++ [body]) ++ later).Sublist _
    rw [append_assoc]
    exact (hkept.trans hsub).append (.refl _)

theorem events {burst : List ProjectorEvent} (hholding : Holding port base direct self)
    (hmild : MildRun port base direct burst)
    (horder : InOrder base (self.pending ++ (factsOf burst ++ later))) :
    Holding port base (burst.foldl (projectEvent port) direct)
        (burst.foldl (Projector.handleEventFrame port) self) ∧
      InOrder base ((burst.foldl (Projector.handleEventFrame port) self).pending ++ later) := by
  induction burst generalizing direct self with
  | nil => exact ⟨hholding, horder⟩
  | cons event burst ih =>
    cases event with
    | observed body =>
      obtain ⟨hnext, hnextOrder⟩ := hholding.observed horder
      exact ih hnext hmild.tail hnextOrder
    | other commands =>
      have hflushed := hholding.flush horder
      have hrows : (self.flushCoalesced port).rows = direct := hholding.lacks
      have hnext : Holding port base (handleCommands port.bindingShort direct commands)
          (self.handleEventFrame port (.other commands)) := by
        constructor
        · show handleCommands port.bindingShort (self.flushCoalesced port).rows commands = _
          rw [hrows]
        · show RowsSound base (handleCommands port.bindingShort
            (self.flushCoalesced port).rows commands)
          rw [hrows]
          exact rowsSound_handleCommands (hrows ▸ hflushed.sound) (hmild [] commands (by simp))
        · exact hflushed.keys
      exact ih hnext hmild.tail (horder.sublist (sublist_append_right _ _))

end Holding

theorem MildRun.append {before after : List ProjectorEvent}
    (hmild : MildRun port base rows (before ++ after)) :
    MildRun port base rows before ∧
      MildRun port base (before.foldl (projectEvent port) rows) after := by
  constructor
  · intro start commands hevents
    exact hmild start commands (hevents.trans (prefix_append before after))
  · intro start commands hevents
    have hall := hmild (before ++ start) commands
      (by rw [append_assoc]; exact (prefix_append_right_inj before).2 hevents)
    rw [foldl_append] at hall
    exact hall

theorem turn_eq {burst : List ProjectorEvent} (hrows : RowsSound base rows)
    (hmild : MildRun port base rows burst) (horder : InOrder base (factsOf burst)) :
    Projector.turn port ⟨[], rows⟩ burst = ⟨[], burst.foldl (projectEvent port) rows⟩ ∧
      RowsSound base (burst.foldl (projectEvent port) rows) := by
  have hstart : Holding port base rows ⟨[], rows⟩ :=
    ⟨rfl, hrows, fun _ _ hheld => nomatch hheld⟩
  have hlater : InOrder base
      ([] ++ (factsOf burst ++ ([] : List DaliObservedFrameEvent))) := by
    simpa using horder
  obtain ⟨hholding, hpending⟩ := hstart.events hmild hlater
  have hflushed := hholding.flush hpending
  have hlacks : (Projector.turn port ⟨[], rows⟩ burst).rows =
      burst.foldl (projectEvent port) rows := hflushed.lacks
  constructor
  · rw [<- hlacks]
    rfl
  · rw [<- hlacks]
    exact hflushed.sound

/-- However the queue cuts the events into bursts, the rows come out as if every fact
had been projected and committed on its own. -/
theorem coalesced_rows_eq (port : ReadPort) (base : Stamp) (rows : Rows)
    (bursts : List (List ProjectorEvent)) (hrows : RowsSound base rows)
    (horder : InOrder base (factsOf bursts.flatten))
    (hmild : MildRun port base rows bursts.flatten) :
    (bursts.foldl (Projector.turn port) ⟨[], rows⟩).rows =
      bursts.flatten.foldl (projectEvent port) rows := by
  induction bursts generalizing rows with
  | nil => rfl
  | cons burst bursts ih =>
    rw [flatten_cons] at hmild horder
    rw [factsOf, filterMap_append] at horder
    obtain ⟨hfirst, hrest⟩ := hmild.append
    obtain ⟨hturn, hsound⟩ := turn_eq hrows hfirst (horder.sublist (sublist_append_left _ _))
    rw [foldl_cons, hturn, flatten_cons, foldl_append]
    exact ih (burst.foldl (projectEvent port) rows) hsound
      (horder.sublist (sublist_append_right _ _)) hrest

end

/-! ## Two runs -/

def lonePort : ReadPort where
  groupApplySnapshot := fun _ => none
  lampIds := fun _ => []
  capabilities := fun _ _ => ⟨true, true, false, false, false⟩
  bindingShort := fun _ _ => none

def rowAt5 (record : PhysicalDeviceRecord) : Rows :=
  fun key => if key = (0, 5) then some record else none

def factAt5 (setpoint : LightSetpoint) (dapc : Bool) (stamp : Stamp) : DaliObservedFrameEvent where
  registryAdapterId := 0
  target := ⟨.short, some 5, none⟩
  setpoint := some setpoint
  dapcObserved := dapc
  observedAtMs := 0
  observedAtMonoMs := stamp

def levelFact (level : Nat) (stamp : Stamp) : DaliObservedFrameEvent :=
  factAt5 (LightSetpoint.fromLevel level none) true stamp

def cctFact (kelvin : Nat) (stamp : Stamp) : DaliObservedFrameEvent :=
  factAt5 { color := some { mode := .cct, colorTemperatureKelvin := kelvin } } false stamp

theorem published_levelFact {level : Nat} (hlevel : level ≠ dapcMaskLevel)
    (stamp : Stamp) : Published (levelFact level stamp) where
  addressed := ⟨.short 5, rfl⟩
  stated := ⟨_, rfl, Worded.standard ⟨.directArc level⟩ (if_neg hlevel)⟩

theorem published_cctFact (mirek : Nat) {kelvin : Nat}
    (hkelvin : Lamps.mirekToKelvin mirek = some kelvin) (stamp : Stamp) :
    Published (cctFact kelvin stamp) where
  addressed := ⟨.short 5, rfl⟩
  stated := ⟨_, rfl, Worded.temperature mirek (by rw [decodeCct, hkelvin]; rfl)⟩

/-- A fade to 0 with colours around it, heard in one burst. -/
def fadeBurst : List ProjectorEvent :=
  [.observed (cctFact 4000 10), .observed (levelFact 0 20), .observed (cctFact 5000 30)]

theorem fadeBurst_inOrder : InOrder 0 (factsOf fadeBurst) := by
  constructor
  · intro body hmem
    have hfacts : factsOf fadeBurst = [cctFact 4000 10, levelFact 0 20, cctFact 5000 30] := rfl
    rw [hfacts] at hmem
    simp only [mem_cons, not_mem_nil, or_false] at hmem
    rcases hmem with heq | heq | heq
    · rw [heq]
      exact published_cctFact 250 rfl 10
    · rw [heq]
      exact published_levelFact (by decide) 20
    · rw [heq]
      exact published_cctFact 200 rfl 30
  · decide
  · decide

theorem rowAt5_sound {record : PhysicalDeviceRecord} (hfollowed : record.Followed)
    (hstamp : record.runtime.observedAtMonoMs = none) : RowsSound 0 (rowAt5 record) := by
  intro key other hother
  unfold rowAt5 at hother
  split at hother
  · cases hother
    exact ⟨hfollowed, fun _ hsome => by rw [hstamp] at hsome; cases hsome⟩
  · cases hother

/-- A lamp shown at 120 fades to 0: the first colour is left out, and the last active
level is 120 all the same. -/
theorem fade_to_zero_coalesced :
    RowsSound 0 (rowAt5 { runtimeLevel := some 120, lastActiveLevel := some 120 }) ∧
      (Projector.turn lonePort
        ⟨[], rowAt5 { runtimeLevel := some 120, lastActiveLevel := some 120 }⟩ fadeBurst).rows =
        fadeBurst.foldl (projectEvent lonePort)
          (rowAt5 { runtimeLevel := some 120, lastActiveLevel := some 120 }) := by
  have hsound : RowsSound 0 (rowAt5 { runtimeLevel := some 120, lastActiveLevel := some 120 }) :=
    rowAt5_sound (fun _ hshown _ => hshown) rfl
  constructor
  · exact hsound
  · refine coalesced_rows_eq lonePort 0 _ [fadeBurst] hsound fadeBurst_inOrder ?_
    intro before commands hevents
    have hmem : ProjectorEvent.other commands ∈ [fadeBurst].flatten :=
      hevents.subset (by simp)
    simp [fadeBurst] at hmem

def readAt150 : RuntimeRegistryUpdateEntry where
  virtualLampId := none
  shortAddress := some 5
  setpoint := LightSetpoint.fromLevel 150 none
  observation :=
    { statusFlags := some { raw := 132, lampOn := true, powerCycleSeen := true }
      valueSource := some .readback }
  lastDapcSource := none
  source := .readback
  observedAtMonoMs := some 5

/-- A read reveals a power cycle at level 150, below the maximum of 200, and a fade to 0
is heard.  Fact by fact the last active level becomes 150; with the first colour left out
it stays 200. -/
theorem revealed_row_differs :
    exists bursts : List (List ProjectorEvent),
      RowsSound 0 (rowAt5 PhysicalDeviceRecord.readBefore) ∧ InOrder 0 (factsOf bursts.flatten) ∧
        ((bursts.foldl (Projector.turn lonePort)
          ⟨[], rowAt5 PhysicalDeviceRecord.readBefore⟩).rows (0, 5)).map
            (fun record => record.lastActiveLevel) = some (some 200) ∧
        (bursts.flatten.foldl (projectEvent lonePort)
          (rowAt5 PhysicalDeviceRecord.readBefore) (0, 5)).map
            (fun record => record.lastActiveLevel) = some (some 150) := by
  refine ⟨[[.other [.runtimeUpdate 0 readAt150]], fadeBurst], ?_, fadeBurst_inOrder, rfl, rfl⟩
  exact rowAt5_sound (fun _ hshown _ => hshown) rfl

end Oxidali.Fanout
