import Oxidali.Dali.BusUnitWire

/-!
# The settings record of the bus unit

The registry keeps the values of the bus unit, and two parties change them: the
operator through a settings command, and the wire through the unit's reports.  A
report is merged field by field against the last report that the registry has seen
for the same adopted revision.
-/

namespace Oxidali.Registry

open Words Dali Dali.BusUnit

inductive UnitField where
  | shortAddress
  | randomAddress
  | deviceGroups
  | operatingMode
  | powerCycleNotification
  | applicationActive
deriving DecidableEq

abbrev UnitField.Value : UnitField -> Type
  | .shortAddress => Option Byte
  | .randomAddress => BitVec 32
  | .deviceGroups => BitVec 32
  | .operatingMode => Byte
  | .powerCycleNotification => Bool
  | .applicationActive => Bool

instance : (field : UnitField) -> DecidableEq field.Value
  | .shortAddress => inferInstanceAs (DecidableEq (Option Byte))
  | .randomAddress => inferInstanceAs (DecidableEq (BitVec 32))
  | .deviceGroups => inferInstanceAs (DecidableEq (BitVec 32))
  | .operatingMode => inferInstanceAs (DecidableEq Byte)
  | .powerCycleNotification => inferInstanceAs (DecidableEq Bool)
  | .applicationActive => inferInstanceAs (DecidableEq Bool)

def get (nvm : BusUnitNvm) : (field : UnitField) -> field.Value
  | .shortAddress => nvm.shortAddress
  | .randomAddress => nvm.randomAddress
  | .deviceGroups => nvm.deviceGroups
  | .operatingMode => nvm.operatingMode
  | .powerCycleNotification => nvm.powerCycleNotification
  | .applicationActive => nvm.applicationActive

def differs (a b : BusUnitNvm) (field : UnitField) : Bool :=
  get a field ≠ get b field

def everyUnitField : List UnitField :=
  [.shortAddress, .randomAddress, .deviceGroups, .operatingMode,
    .powerCycleNotification, .applicationActive]

inductive BusUnitSetter where
  | unrecorded
  | operator
  | wire
  | redundancy

/-- The source keeps the six values of `nvm` as fields of the record. -/
structure DaliSettingsRecord where
  dt8AutoActivationRepair : Bool
  dt8RgbwafControlAssert : Bool
  nvm : BusUnitNvm
  setBy : UnitField -> BusUnitSetter
  busUnitRevision : BitVec 32
  wireAcknowledged : BitVec 32
  wireApplied : Option (BitVec 32 × BusUnitNvm)
  operatorMovedAt : UnitField -> Option (BitVec 32)

/-- A value that the patch mask does not name is `none`. -/
structure DaliSettingsUpdateCommand where
  dt8AutoActivationRepair : Option Bool := none
  dt8RgbwafControlAssert : Option Bool := none
  applicationActive : Option Bool := none
  deviceShortAddress : Option Byte := none
  powerCycleNotification : Option Bool := none
  byRedundancy : Bool := false

namespace DaliSettingsRecord

def default : DaliSettingsRecord where
  dt8AutoActivationRepair := true
  dt8RgbwafControlAssert := true
  nvm := factoryNvm
  setBy := fun _ => .unrecorded
  busUnitRevision := 0
  wireAcknowledged := 0
  wireApplied := none
  operatorMovedAt := fun _ => none

def busUnitSnapshot (record : DaliSettingsRecord) : BusUnitSnapshot where
  nvm := record.nvm
  revision := record.busUnitRevision
  acknowledgedWireSequence := record.wireAcknowledged

/-- The values of the unit after a settings command. -/
def patched (nvm : BusUnitNvm) (body : DaliSettingsUpdateCommand) : BusUnitNvm :=
  { nvm with
    applicationActive := body.applicationActive.getD nvm.applicationActive
    shortAddress := match body.deviceShortAddress with
      | some address => if address.toNat <= maxShortAddress then some address else none
      | none => nvm.shortAddress
    powerCycleNotification :=
      body.powerCycleNotification.getD nvm.powerCycleNotification }

variable (record : DaliSettingsRecord)

def applyPatch (body : DaliSettingsUpdateCommand) : DaliSettingsRecord :=
  let nowUnit := patched record.nvm body
  let revision :=
    if nowUnit ≠ record.nvm then record.busUnitRevision + 1
    else record.busUnitRevision
  let setter : BusUnitSetter := if body.byRedundancy then .redundancy else .operator
  { record with
    dt8AutoActivationRepair :=
      body.dt8AutoActivationRepair.getD record.dt8AutoActivationRepair
    dt8RgbwafControlAssert :=
      body.dt8RgbwafControlAssert.getD record.dt8RgbwafControlAssert
    nvm := nowUnit
    busUnitRevision := revision
    operatorMovedAt := fun field =>
      if differs nowUnit record.nvm field then some revision
      else record.operatorMovedAt field
    setBy := fun field =>
      if differs nowUnit record.nvm field then setter else record.setBy field }

/-- The operator moved the field after the revision that the report is based on. -/
def held (adoptedRevision : BitVec 32) (field : UnitField) : Bool :=
  (record.operatorMovedAt field).any fun moved => isNewer moved adoptedRevision

def wireMayMove (base : BusUnitNvm) (body : BusUnitEvidence) (field : UnitField) : Bool :=
  differs body.observed base field && !record.held body.adoptedRevision field

def setFromWire (observed : BusUnitNvm) (field : UnitField) : DaliSettingsRecord :=
  let nvm := match field with
    | .shortAddress => { record.nvm with shortAddress := observed.shortAddress }
    | .randomAddress => { record.nvm with randomAddress := observed.randomAddress }
    | .deviceGroups => { record.nvm with deviceGroups := observed.deviceGroups }
    | .operatingMode => { record.nvm with operatingMode := observed.operatingMode }
    | .powerCycleNotification =>
      { record.nvm with powerCycleNotification := observed.powerCycleNotification }
    | .applicationActive =>
      { record.nvm with applicationActive := observed.applicationActive }
  { record with
    nvm := nvm
    setBy := fun other => if other = field then .wire else record.setBy other }

/-- What the registry already knows of the unit under the report's revision. -/
def wireBase (body : BusUnitEvidence) : BusUnitNvm :=
  match record.wireApplied with
  | some (revision, observed) =>
    if revision = body.adoptedRevision then observed else body.adopted
  | none => body.adopted

def moveFields (base : BusUnitNvm) (body : BusUnitEvidence)
    (fields : List UnitField) : DaliSettingsRecord :=
  fields.foldl (fun record field =>
    if record.wireMayMove base body field then record.setFromWire body.observed field
    else record) record

def applyWire (body : BusUnitEvidence) : DaliSettingsRecord :=
  let moved := record.moveFields (record.wireBase body) body everyUnitField
  { moved with
    wireApplied := some (body.adoptedRevision, body.observed)
    wireAcknowledged := body.wireSequence
    busUnitRevision := moved.busUnitRevision + 1 }

def applyBusUnitEvidence (body : BusUnitEvidence) : DaliSettingsRecord :=
  if isNewer body.wireSequence record.wireAcknowledged then record.applyWire body
  else record

/-! ## What a merge leaves in each field -/

variable (record : DaliSettingsRecord)

theorem get_setFromWire (observed : BusUnitNvm) (field other : UnitField) :
    get (record.setFromWire observed field).nvm other
      = if other = field then get observed other else get record.nvm other := by
  cases field <;> cases other <;> rfl

/-- The merge leaves alone the marks that decide which fields may move. -/
theorem moveFields_marks (base : BusUnitNvm) (body : BusUnitEvidence) (fields : List UnitField) :
    (record.moveFields base body fields).operatorMovedAt = record.operatorMovedAt
      ∧ (record.moveFields base body fields).busUnitRevision = record.busUnitRevision := by
  unfold moveFields
  induction fields generalizing record with
  | nil => exact ⟨rfl, rfl⟩
  | cons field fields ih =>
    rw [List.foldl_cons]
    split
    · exact ih (record.setFromWire body.observed field)
    · exact ih record

theorem get_moveFields (base : BusUnitNvm) (body : BusUnitEvidence) (fields : List UnitField)
    (field : UnitField) :
    get (record.moveFields base body fields).nvm field
      = if field ∈ fields ∧ record.wireMayMove base body field then
          get body.observed field
        else get record.nvm field := by
  induction fields generalizing record with
  | nil => exact (if_neg fun h => nomatch h.1).symm
  | cons head fields ih =>
    unfold moveFields
    rw [List.foldl_cons]
    by_cases hmove : record.wireMayMove base body head = true
    · -- the marks are those of `record`, so the rest decides as before
      have hrest := ih (record.setFromWire body.observed head)
      have hsame : (record.setFromWire body.observed head).wireMayMove base body field
        = record.wireMayMove base body field := rfl
      rw [if_pos hmove]
      unfold moveFields at hrest
      rw [hrest, hsame, get_setFromWire]
      by_cases hfield : field = head
      · subst hfield
        simp [hmove]
      · simp [hfield]
    · have hrest := ih record
      rw [if_neg hmove]
      unfold moveFields at hrest
      rw [hrest]
      by_cases hfield : field = head
      · subst hfield
        simp [hmove]
      · simp [hfield]

theorem mem_everyUnitField (field : UnitField) : field ∈ everyUnitField := by
  cases field <;> decide

theorem get_applyWire (body : BusUnitEvidence) (field : UnitField) :
    get (record.applyWire body).nvm field
      = if record.wireMayMove (record.wireBase body) body field then
          get body.observed field
        else get record.nvm field := by
  have hmoved := get_moveFields record (record.wireBase body) body everyUnitField field
  simp only [mem_everyUnitField, true_and] at hmoved
  exact hmoved

end DaliSettingsRecord

theorem nvm_ext {a b : BusUnitNvm} (h : forall field, get a field = get b field) : a = b := by
  cases a
  cases b
  have hshort := h .shortAddress
  have hrandom := h .randomAddress
  have hgroups := h .deviceGroups
  have hmode := h .operatingMode
  have hpower := h .powerCycleNotification
  have hactive := h .applicationActive
  simp only [get] at hshort hrandom hgroups hmode hpower hactive
  rw [hshort, hrandom, hgroups, hmode, hpower, hactive]

end Oxidali.Registry
