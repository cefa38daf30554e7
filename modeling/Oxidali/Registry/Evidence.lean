import Oxidali.Registry.DaliSettings

/-!
# The registry and the unit agree

The unit and the registry change the same values without waiting for each other.
Reports travel from the unit to the registry in their order; they may be delayed,
lost or repeated.  The unit reads the newest snapshot of the registry whenever it
is polled.

All counters are 32 bits wide and are compared around the wrap, while a run may be
longer than that.  The history therefore counts without a bound, and the agreement
holds for as long as no two numbers that are compared lie too far apart.
-/

namespace Oxidali.Registry

open Words Dali Dali.BusUnit BitVec

/-! ## The two parties and what is under way between them -/

/-- A report under way, with the number of changes made on the wire up to it. -/
structure Sent where
  count : Nat
  body : BusUnitEvidence

/-- What has happened, in numbers that do not wrap.  Nothing in the program reads
it. -/
structure History where
  start : BusUnitNvm
  revisions : Nat
  adoptedAt : Nat
  made : Nat
  acknowledged : Nat
  appliedAt : Option Nat
  operatorLast : (field : UnitField) -> Option (Nat × field.Value)
  wireLast : (field : UnitField) -> Option (Nat × field.Value)

structure Net where
  registry : DaliSettingsRecord
  wire : BusUnitWire
  flight : List Sent
  history : History

inductive Event where
  | patch (body : DaliSettingsUpdateCommand)
  | frame (frame : UnitFrame) (atMs entropy : BitVec 32)
  | lostCapture
  | poll (adopt : Bool) (nowMs entropy : BitVec 32)
  | deliver
  | repeat_ (index : Nat)
  | lose (index : Nat)

namespace Net

variable (net : Net)

def send (report : Option BusUnitEvidence) : List Sent :=
  net.flight ++ (report.map (Sent.mk net.history.made)).toList

def patch (body : DaliSettingsUpdateCommand) : Net :=
  let registry := net.registry.applyPatch body
  let revisions :=
    if registry.nvm ≠ net.registry.nvm then net.history.revisions + 1
    else net.history.revisions
  { net with
    registry := registry
    history := { net.history with
      revisions := revisions
      operatorLast := fun field =>
        if differs registry.nvm net.registry.nvm field then
          some (revisions, get registry.nvm field)
        else net.history.operatorLast field } }

def observe (frame : UnitFrame) (atMs entropy : BitVec 32) : Net :=
  let (wire, report) := net.wire.observe frame atMs entropy
  let changed := decide (wire.unit.nvm ≠ net.wire.unit.nvm)
  let history := { net.history with
    made := if changed then net.history.made + 1 else net.history.made
    wireLast := fun field =>
      if differs wire.unit.nvm net.wire.unit.nvm field then
        some (net.history.adoptedAt, get wire.unit.nvm field)
      else net.history.wireLast field }
  let after := { net with
    wire := wire
    history := history }
  { after with flight := after.send report }

def poll (adopt : Bool) (nowMs entropy : BitVec 32) : Net :=
  let snapshot := if adopt then some net.registry.busUnitSnapshot else none
  let (wire, report) := net.wire.poll snapshot nowMs entropy
  let adopts := decide (wire.unit.revision ≠ net.wire.unit.revision)
  { net with
    wire := wire
    flight := net.send report
    history := { net.history with
      adoptedAt := if adopts then net.history.revisions else net.history.adoptedAt } }

def deliver : Net :=
  match net.flight with
  | [] => net
  | sent :: rest =>
    if isNewer sent.body.wireSequence net.registry.wireAcknowledged then
      { net with
        registry := net.registry.applyBusUnitEvidence sent.body
        flight := rest
        history := { net.history with
          revisions := net.history.revisions + 1
          acknowledged := sent.count
          appliedAt := some net.history.adoptedAt } }
    else
      { net with
        registry := net.registry.applyBusUnitEvidence sent.body
        flight := rest }

def apply : Event -> Net
  | .patch body => net.patch body
  | .frame frame atMs entropy => net.observe frame atMs entropy
  | .lostCapture => { net with wire := net.wire.lostCapture }
  | .poll adopt nowMs entropy => net.poll adopt nowMs entropy
  | .deliver => net.deliver
  | .repeat_ index =>
    { net with flight := net.flight.take (index + 1) ++ net.flight.drop index }
  | .lose index => { net with flight := net.flight.eraseIdx index }

end Net

/-- The runs whose states before each event are all `ok`. -/
inductive RunWhile (ok : Net -> Prop) (start : Net) : Net -> Prop where
  | refl : RunWhile ok start start
  | step {net : Net} : RunWhile ok start net -> ok net -> (event : Event) ->
      RunWhile ok start (net.apply event)

/-! ## What the fields should hold -/

/-- The operator's last value if it was set after `since`, and `other` if not. -/
def laterThan {α : Type} (last : Option (Nat × α)) (since : Nat) (other : α) : α :=
  match last with
  | some (moved, value) => if since < moved then value else other
  | none => other

namespace History

/-- The operator's last value if the operator set the field at a newer revision than
the one adopted when the wire last changed it, and the wire's last value if not. -/
def expected (history : History) (field : UnitField) : field.Value :=
  match history.wireLast field with
  | some (under, value) => laterThan (history.operatorLast field) under value
  | none =>
    match history.operatorLast field with
    | some (_, value) => value
    | none => get history.start field

end History

namespace Net

/-- The registry has seen every change made on the wire, and the unit has adopted
the newest revision. -/
def Settled (net : Net) : Prop :=
  net.registry.wireAcknowledged = net.wire.unit.wireSequence
    ∧ net.wire.unit.revision = some net.registry.busUnitRevision

/-- A unit that was hydrated and has seen no change on the wire since. -/
structure Fresh (net : Net) : Prop where
  flight : net.flight = []
  unacknowledged : net.wire.unacknowledged = none
  nvm : net.wire.unit.nvm = net.registry.nvm
  adopted : net.wire.adopted = some net.registry.nvm
  valid : ShortValid net.registry.nvm
  start : net.history.start = net.registry.nvm
  busUnitRevision : net.registry.busUnitRevision = BitVec.ofNat 32 net.history.revisions
  revision : net.wire.unit.revision = some net.registry.busUnitRevision
  adoptedAt : net.history.adoptedAt = net.history.revisions
  wireSequence : net.wire.unit.wireSequence = BitVec.ofNat 32 net.history.made
  wireAcknowledged : net.registry.wireAcknowledged = net.wire.unit.wireSequence
  acknowledged : net.history.acknowledged = net.history.made
  wireApplied : net.registry.wireApplied = none
  appliedAt : net.history.appliedAt = none
  wireLast : forall field, net.history.wireLast field = none
  marks : forall field, net.registry.operatorMovedAt field
    = (net.history.operatorLast field).map fun last => BitVec.ofNat 32 last.1
  moved : forall field moved value,
    net.history.operatorLast field = some (moved, value) ->
      moved <= net.history.revisions ∧ value = get net.registry.nvm field

/-- Fewer than 2^31 - 1 revisions of the registry that the unit has not adopted. -/
def Outstanding (net : Net) : Prop :=
  net.history.revisions - net.history.adoptedAt < 0x7FFFFFFF

/-- The numbers that the program compares lie close enough together. -/
structure Recent (net : Net) : Prop where
  outstanding : net.Outstanding
  reports : net.history.made - net.history.acknowledged < 0x7FFFFFFF
  moves : forall field moved value,
    net.history.operatorLast field = some (moved, value) ->
      net.history.adoptedAt - moved <= 0x80000001
  applied : forall at_, net.history.appliedAt = some at_ ->
    net.history.adoptedAt - at_ < 0x100000000

end Net

/-! ## Numbers compared around the wrap -/

theorem isNewer_ofNat {candidate adopted : Nat} (hahead : candidate - adopted < 0x7FFFFFFF)
    (hbehind : adopted - candidate <= 0x80000001) :
    isNewer (BitVec.ofNat 32 candidate) (BitVec.ofNat 32 adopted)
      = decide (adopted < candidate) := by
  have hiff : (BitVec.ofNat 32 candidate - BitVec.ofNat 32 adopted ≠ 0
      ∧ BitVec.ofNat 32 candidate - BitVec.ofNat 32 adopted < 0x7FFFFFFF#32)
      <-> adopted < candidate := by
    rw [Ne, <- toNat_inj, lt_def, toNat_sub, toNat_ofNat, toNat_ofNat]
    change ¬ _ = 0 ∧ _ < 0x7FFFFFFF <-> _
    omega
  exact decide_eq_decide.mpr hiff

theorem ofNat_eq_iff {a b : Nat} (hle : a <= b) (hnear : b - a < 0x100000000) :
    BitVec.ofNat 32 a = BitVec.ofNat 32 b <-> a = b := by
  rw [<- toNat_inj, toNat_ofNat, toNat_ofNat]
  omega

end Oxidali.Registry
