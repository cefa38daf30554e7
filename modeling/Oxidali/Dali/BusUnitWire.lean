import Oxidali.Dali.SendTwice

/-!
# The unit on the wire and the reports it sends

The transport task owns the unit.  A frame that changes the non-volatile record
makes a report for the registry, and the report is sent again until a snapshot of
the registry acknowledges it.
-/

namespace Oxidali.Dali.BusUnit

open Words

def busUnitResendMs : BitVec 32 := 1000#32

/-- `observed` is the record after the change, `adopted` the one the unit last
took over from the registry. -/
structure BusUnitEvidence where
  adopted : BusUnitNvm
  adoptedRevision : BitVec 32
  observed : BusUnitNvm
  wireSequence : BitVec 32
deriving DecidableEq

structure BusUnitWire where
  unit : Device103Unit
  adopted : Option BusUnitNvm
  unacknowledged : Option BusUnitEvidence
  reportedAtMs : BitVec 32
deriving DecidableEq

/-- `due`: a clock that runs backwards does not make a report due. -/
def resendDue (reportedAtMs nowMs : BitVec 32) : Bool :=
  nowMs - reportedAtMs >= busUnitResendMs ∧ nowMs - reportedAtMs < 0x7FFFFFFF#32

namespace BusUnitWire

def new : BusUnitWire where
  unit := Device103Unit.new
  adopted := none
  unacknowledged := none
  reportedAtMs := 0

variable (wire : BusUnitWire)

def evidence : Option BusUnitEvidence :=
  match wire.adopted, wire.unit.revision with
  | some adopted, some revision =>
    some {
      adopted := adopted
      adoptedRevision := revision
      observed := wire.unit.nvm
      wireSequence := wire.unit.wireSequence }
  | _, _ => none

def reportNvm (atMs : BitVec 32) : BusUnitWire × Option BusUnitEvidence :=
  ({ wire with
      unacknowledged := wire.evidence
      reportedAtMs := atMs }, wire.evidence)

def resendNvm (nowMs : BitVec 32) : BusUnitWire × Option BusUnitEvidence :=
  if wire.unacknowledged.isSome && resendDue wire.reportedAtMs nowMs then
    ({ wire with reportedAtMs := nowMs }, wire.unacknowledged)
  else (wire, none)

def observe (frame : UnitFrame) (atMs entropy : BitVec 32) : BusUnitWire × Option BusUnitEvidence :=
  let (unit, effects) := wire.unit.feed frame atMs entropy
  let wire := { wire with unit := unit }
  if effects.nvmChanged then wire.reportNvm atMs else (wire, none)

def hydrate (snapshot : BusUnitSnapshot) : BusUnitWire :=
  let unacknowledged :=
    if snapshot.acknowledgedWireSequence = wire.unit.wireSequence then none
    else wire.unacknowledged
  let (unit, adopts) := wire.unit.hydrate snapshot
  { wire with
    unit := unit
    unacknowledged := unacknowledged
    adopted := if adopts then some unit.nvm else wire.adopted }

def poll (adopt : Option BusUnitSnapshot)
    (nowMs entropy : BitVec 32) : BusUnitWire × Option BusUnitEvidence :=
  let wire := match adopt with
    | some snapshot => wire.hydrate snapshot
    | none => wire
  { wire with unit := (wire.unit.tick nowMs entropy).1 }.resendNvm nowMs

def lostCapture : BusUnitWire :=
  { wire with unit := wire.unit.lostCapture }

/-! ## What one call can do -/

/-- What a frame may do to the unit, and the report that it makes of it. -/
structure Observes (wire next : BusUnitWire) (report : Option BusUnitEvidence) :
    Prop where
  adopted : next.adopted = wire.adopted
  revision : next.unit.revision = wire.unit.revision
  valid : ShortValid wire.unit.nvm -> ShortValid next.unit.nvm
  counted : (next.unit.nvm = wire.unit.nvm ∧ next.unit.wireSequence = wire.unit.wireSequence
      ∧ next.unacknowledged = wire.unacknowledged ∧ report = none)
    ∨ (next.unit.nvm ≠ wire.unit.nvm ∧ next.unit.wireSequence = wire.unit.wireSequence + 1
      ∧ next.unacknowledged = next.evidence ∧ report = next.evidence)

variable (wire : BusUnitWire)

theorem observe_observes (frame : UnitFrame) (atMs entropy : BitVec 32) :
    Observes wire (wire.observe frame atMs entropy).1 (wire.observe frame atMs entropy).2 := by
  cases frame with
  | other => exact ⟨rfl, rfl, id, .inl ⟨rfl, rfl, rfl, rfl⟩⟩
  | forward24 bytes =>
    cases hhydrated : wire.unit.isHydrated with
    | false =>
      have hfeed : wire.unit.feed (.forward24 bytes) atMs entropy
          = (wire.unit.lostCapture, {}) := by
        simp [Device103Unit.feed, hhydrated]
      simp only [observe, hfeed]
      exact ⟨rfl, rfl, id, .inl ⟨rfl, rfl, rfl, rfl⟩⟩
    | true =>
      have hacts := wire.unit.feed_acts bytes atMs entropy
      generalize hdone : (wire.unit.opened bytes atMs).frame bytes entropy = done at hacts
      have hfeed : wire.unit.feed (.forward24 bytes) atMs entropy
          = (done.unit, done.effects) := by
        rw [<- hdone]
        simp only [Device103Unit.feed, hhydrated, Bool.not_true]
        rfl
      simp only [observe, hfeed]
      rcases hacts.counted with hsame | hchanged
      · have hquiet : done.effects.nvmChanged = false := hsame.2.2
        rw [hquiet]
        exact ⟨rfl, hacts.revision, hacts.valid, .inl ⟨hsame.1, hsame.2.1, rfl, rfl⟩⟩
      · rw [hchanged.2.2.2]
        exact ⟨rfl, hacts.revision, hacts.valid, .inr ⟨hchanged.2.1, hchanged.2.2.1, rfl, rfl⟩⟩

/-- A poll that takes over the values of the snapshot. -/
structure Adopts (wire : BusUnitWire) (snapshot : BusUnitSnapshot)
    (next : BusUnitWire) (report : Option BusUnitEvidence) : Prop where
  newer : forall adopted, wire.unit.revision = some adopted ->
    isNewer snapshot.revision adopted = true
  acknowledged : snapshot.acknowledgedWireSequence = wire.unit.wireSequence
  nvm : ShortValid snapshot.nvm -> next.unit.nvm = snapshot.nvm
  adopted : next.adopted = some next.unit.nvm
  revision : next.unit.revision = some snapshot.revision
  wireSequence : next.unit.wireSequence = wire.unit.wireSequence
  unacknowledged : next.unacknowledged = none
  report : report = none

/-- A poll that leaves the values of the unit as they are. -/
structure Stays (wire next : BusUnitWire) (report : Option BusUnitEvidence) :
    Prop where
  nvm : next.unit.nvm = wire.unit.nvm
  adopted : next.adopted = wire.adopted
  revision : next.unit.revision = wire.unit.revision
  wireSequence : next.unit.wireSequence = wire.unit.wireSequence
  unacknowledged : next.unacknowledged = none ∨ next.unacknowledged = wire.unacknowledged
  report : report = none ∨ report = wire.unacknowledged

theorem resendNvm_stays (nowMs : BitVec 32) :
    Stays wire (wire.resendNvm nowMs).1 (wire.resendNvm nowMs).2
      ∧ (wire.unacknowledged = none -> (wire.resendNvm nowMs).2 = none) := by
  unfold resendNvm
  split
  · exact ⟨⟨rfl, rfl, rfl, rfl, .inr rfl, .inr rfl⟩, id⟩
  · exact ⟨⟨rfl, rfl, rfl, rfl, .inr rfl, .inl rfl⟩, fun _ => rfl⟩

theorem tick_stays (nowMs entropy : BitVec 32) :
    Stays wire (wire.poll none nowMs entropy).1 (wire.poll none nowMs entropy).2
      ∧ (wire.unacknowledged = none -> (wire.poll none nowMs entropy).2 = none) := by
  have htick := wire.unit.tick_kept nowMs entropy
  have hsent := resendNvm_stays { wire with unit := (wire.unit.tick nowMs entropy).1 } nowMs
  rcases hsent with ⟨hstays, hnone⟩
  exact ⟨⟨hstays.nvm.trans htick.1, hstays.adopted, hstays.revision.trans htick.2.2.1,
    hstays.wireSequence.trans htick.2.1, hstays.unacknowledged, hstays.report⟩, hnone⟩

theorem shortAddress_filter {nvm : BusUnitNvm} (h : ShortValid nvm) :
    nvm.shortAddress.filter (fun address => address.toNat <= maxShortAddress)
      = nvm.shortAddress := by
  cases hshort : nvm.shortAddress with
  | none => rfl
  | some address => simp [h address hshort]

theorem hydrate_cases (snapshot : BusUnitSnapshot) :
    Adopts wire snapshot (wire.hydrate snapshot) none
      ∨ Stays wire (wire.hydrate snapshot) none := by
  unfold hydrate Device103Unit.hydrate
  by_cases hack : snapshot.acknowledgedWireSequence = wire.unit.wireSequence
  · cases hrevision : wire.unit.revision with
    | none =>
      refine .inl ⟨?_, hack, ?_, ?_, ?_, ?_, ?_, rfl⟩
      · exact fun _ h => nomatch h.symm.trans hrevision
      all_goals simp [hack]
      intro hvalid
      rw [shortAddress_filter hvalid]
    | some adopted =>
      cases hnewer : isNewer snapshot.revision adopted with
      | false =>
        refine .inr ⟨?_, ?_, ?_, ?_, ?_, .inl rfl⟩
        all_goals simp [hack, hnewer, hrevision]
      | true =>
        refine .inl ⟨?_, hack, ?_, ?_, ?_, ?_, ?_, rfl⟩
        · intro other hother
          cases hrevision.symm.trans hother
          exact hnewer
        all_goals simp [hack, hnewer]
        intro hvalid
        rw [shortAddress_filter hvalid]
  · refine .inr ⟨?_, ?_, ?_, ?_, ?_, .inl rfl⟩
    all_goals simp [hack]

theorem poll_none (nowMs entropy : BitVec 32) :
    Stays wire (wire.poll none nowMs entropy).1 (wire.poll none nowMs entropy).2 :=
  (tick_stays wire nowMs entropy).1

theorem poll_some (snapshot : BusUnitSnapshot) (nowMs entropy : BitVec 32) :
    Adopts wire snapshot (wire.poll (some snapshot) nowMs entropy).1
        (wire.poll (some snapshot) nowMs entropy).2
      ∨ Stays wire (wire.poll (some snapshot) nowMs entropy).1
        (wire.poll (some snapshot) nowMs entropy).2 := by
  have hpoll : wire.poll (some snapshot) nowMs entropy
      = (wire.hydrate snapshot).poll none nowMs entropy := rfl
  rcases tick_stays (wire.hydrate snapshot) nowMs entropy with ⟨hstays, hnone⟩
  rw [hpoll]
  rcases hydrate_cases wire snapshot with hadopts | hkeeps
  · refine .inl ⟨hadopts.newer, hadopts.acknowledged, ?_, ?_, ?_, ?_, ?_, ?_⟩
    · exact fun hvalid => hstays.nvm.trans (hadopts.nvm hvalid)
    · rw [hstays.adopted, hadopts.adopted, hstays.nvm]
    · exact hstays.revision.trans hadopts.revision
    · exact hstays.wireSequence.trans hadopts.wireSequence
    · rcases hstays.unacknowledged with hunack | hunack
      · exact hunack
      · exact hunack.trans hadopts.unacknowledged
    · exact hnone hadopts.unacknowledged
  · refine .inr ⟨hstays.nvm.trans hkeeps.nvm, hstays.adopted.trans hkeeps.adopted,
      hstays.revision.trans hkeeps.revision, hstays.wireSequence.trans hkeeps.wireSequence, ?_, ?_⟩
    · rcases hstays.unacknowledged with hunack | hunack
      · exact .inl hunack
      · rw [hunack]
        exact hkeeps.unacknowledged
    · rcases hkeeps.unacknowledged with hunack | hunack
      · exact .inl (hnone hunack)
      · rw [<- hunack]
        exact hstays.report

end BusUnitWire

end Oxidali.Dali.BusUnit
