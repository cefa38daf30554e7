import Oxidali.Lamps.Inner

/-!
# Groups that follow the gear

A lamp takes its groups from the gear it is bound to, once, and keeps them until it is
bound to other gear.  As long as every membership query on bound gear is answered, what
it has taken is what the gear has reported.
-/

namespace Oxidali.Lamps

open List Function Option

/-! ## Histories -/

inductive Op where
  | discovery (adapter : Nat) (short : ShortAddress) (randomAddress : Option Nat)
      (found : DeviceProfile -> DeviceProfile)
  | groupsRead (adapter : Nat) (short : ShortAddress) (membership : Option (BitVec 16))
  | membershipReadback (adapter : Nat) (short : ShortAddress) (membership : BitVec 16)
  | editGroups (adapter : Nat) (rows : List (LampId × BitVec 16))
  | bind (adapter : Nat) (lamp : LampId) (short : ShortAddress)
  | unbind (adapter : Nat) (lamp : LampId)
  | scenesRead (adapter : Nat) (short : ShortAddress) (levels : Option (SceneId -> Nat))
  | sceneColourRead (adapter : Nat) (short : ShortAddress) (scene : SceneId)
      (level colourType : Option Nat) (values : List (Option Nat))
  | sceneProgrammed (adapter : Nat) (short : ShortAddress) (scene : SceneId)
      (level : Option Nat) (echo : Option SceneTarget)
  | foreignSceneWrite (adapter : Nat) (scope : Inner.WriteScope) (scene : SceneId) (removal : Bool)
  | editScenes (adapter : Nat) (scene : SceneId) (rows : List (LampId × Bool × Option SceneTarget))

namespace Inner

def apply (self : Inner) : Op -> Inner
  | .discovery adapter short randomAddress found =>
    self.applyDiscoveryProgress adapter short randomAddress found
  | .groupsRead adapter short membership => self.groupsRead adapter short membership
  | .membershipReadback adapter short membership =>
    self.applyGroupMembershipReadback adapter short membership
  | .editGroups adapter rows => self.applyGroupRows adapter rows
  | .bind adapter lamp short => self.applyVirtualLampBind adapter lamp short
  | .unbind adapter lamp => self.unbindLamp adapter lamp
  | .scenesRead adapter short levels => self.scenesRead adapter short levels
  | .sceneColourRead adapter short scene level colourType values =>
    self.sceneColourRead adapter short scene level colourType values
  | .sceneProgrammed adapter short scene level echo =>
    self.applySceneProgrammedReadback adapter short scene level echo
  | .foreignSceneWrite adapter scope scene removal =>
    self.applyForeignSceneWrite adapter scope scene removal
  | .editScenes adapter scene rows => self.applySceneMatrixRows adapter scene rows

end Inner

/-- A membership that the gear on a short address has reported. -/
abbrev Report := Nat × ShortAddress × BitVec 16

def Op.reports : Op -> List Report
  | .groupsRead adapter short (some membership) => [(adapter, short, membership)]
  | .membershipReadback adapter short membership => [(adapter, short, membership)]
  | _ => []

/-- The states that steps of the kind reach, with all memberships reported so far. -/
inductive Reached (ok : Inner -> Op -> Prop) : List Report -> Inner -> Prop where
  | new (adapters : List AdapterRecord) : Reached ok [] (Inner.new adapters)
  | step {reports : List Report} {inner : Inner} (op : Op) : Reached ok reports inner ->
      ok inner op -> Reached ok (op.reports ++ reports) (inner.apply op)

namespace Inner

variable {inner next last : Inner} {adapter : Nat} {lamp : LampId} {short : ShortAddress}
variable {reports : List Report}

/-! ## Steps that do not concern the groups -/

structure GroupsKept (inner next : Inner) : Prop where
  adapters : next.adapters = inner.adapters
  lamps : next.lamps = inner.lamps
  matrix : next.groupMatrix = inner.groupMatrix
  membership : forall adapter short,
    next.membershipOf adapter short = inner.membershipOf adapter short

theorem GroupsKept.trans (h : GroupsKept inner next) (hlast : GroupsKept next last) :
    GroupsKept inner last :=
  ⟨hlast.adapters.trans h.adapters, hlast.lamps.trans h.lamps, hlast.matrix.trans h.matrix,
    fun adapter short => (hlast.membership adapter short).trans (h.membership adapter short)⟩

theorem GroupsKept.refl : GroupsKept inner inner :=
  ⟨rfl, rfl, rfl, fun _ _ => rfl⟩

theorem GroupsKept.ite {p : Prop} [Decidable p] (h : GroupsKept inner next) :
    GroupsKept inner (if p then next else inner) := by
  split
  · exact h
  · exact .refl

theorem GroupsKept.foldl {α : Type} {step : Inner -> α -> Inner}
    (hstep : forall state item, GroupsKept state (step state item)) (items : List α) :
    GroupsKept inner (items.foldl step inner) :=
  foldlRecOn items step .refl fun state h item _ => h.trans (hstep state item)

theorem changeDevice_devices {change : PhysicalDevice -> PhysicalDevice}
    (key : Nat × ShortAddress) :
    (inner.changeDevice adapter short change).devices key
      = if key = (adapter, short) then (inner.devices (adapter, short)).map change
        else inner.devices key :=
  update_apply _ _ _ _

section

variable {change : PhysicalDevice -> PhysicalDevice}
  (hchange : forall device, (change device).attributes.membership = device.attributes.membership)
include hchange

theorem membershipOf_changeDevice (other : Nat) (key : ShortAddress) :
    (inner.changeDevice adapter short change).membershipOf other key
      = inner.membershipOf other key := by
  unfold membershipOf
  rw [changeDevice_devices]
  split
  · rename_i hkey
    rw [hkey]
    cases inner.devices (adapter, short) with
    | none => rfl
    | some device => exact hchange device
  · rfl

theorem groupsKept_changeDevice : GroupsKept inner (inner.changeDevice adapter short change) :=
  ⟨rfl, rfl, rfl, membershipOf_changeDevice hchange⟩

end

variable (scene : SceneId)

theorem groupsKept_seedScene :
    GroupsKept inner (inner.seedSceneRowsForShort adapter short scene) := by
  unfold seedSceneRowsForShort
  split
  · exact .refl
  · exact ⟨rfl, rfl, rfl, fun _ _ => rfl⟩

theorem groupsKept_writeLevel (level : Option Nat) :
    GroupsKept inner (inner.writeSceneLevel adapter short scene level) :=
  groupsKept_changeDevice fun _ => rfl

theorem groupsKept_writeColour (evidence : SceneColourEvidence) :
    GroupsKept inner (inner.writeSceneColour adapter short scene evidence) :=
  groupsKept_changeDevice fun _ => rfl

theorem groupsKept_scenesRead (levels : Option (SceneId -> Nat)) :
    GroupsKept inner (inner.scenesRead adapter short levels) := by
  have hseed : forall state : Inner, GroupsKept state (if state.adapterExists adapter then
      state.seedAllScenes adapter short else state) :=
    fun _ => .ite (.foldl (fun _ scene => groupsKept_seedScene scene) _)
  unfold scenesRead
  cases levels with
  | none => exact hseed inner
  | some levels =>
    simp only
    refine GroupsKept.trans ?_ (hseed _)
    exact groupsKept_changeDevice fun _ => rfl

theorem groupsKept_sceneColourRead (level colourType : Option Nat) (values : List (Option Nat)) :
    GroupsKept inner (inner.sceneColourRead adapter short scene level colourType values) := by
  refine GroupsKept.trans ?_ (.ite (groupsKept_seedScene scene))
  cases level with
  | none =>
    cases colourType with
    | none => exact .refl
    | some colourType => exact groupsKept_writeColour _ _
  | some level =>
    cases colourType with
    | none => exact groupsKept_writeLevel _ _
    | some colourType => exact (groupsKept_writeLevel _ _).trans (groupsKept_writeColour _ _)

theorem groupsKept_storeEcho (echo : Option SceneTarget) :
    GroupsKept inner (inner.storeSceneEchoForShort adapter short scene echo) :=
  ⟨rfl, rfl, rfl, fun _ _ => rfl⟩

theorem groupsKept_sceneProgrammed (level : Option Nat) (echo : Option SceneTarget) :
    GroupsKept inner (inner.applySceneProgrammedReadback adapter short scene level echo) := by
  refine .ite ?_
  cases level with
  | none => exact (groupsKept_storeEcho _ _).trans (groupsKept_seedScene _)
  | some level =>
    exact (groupsKept_writeLevel _ _).trans
      ((groupsKept_storeEcho _ _).trans (groupsKept_seedScene _))

theorem groupsKept_foreignWrite (scope : WriteScope) (scene : SceneId) (removal : Bool) :
    GroupsKept inner (inner.applyForeignSceneWrite adapter scope scene removal) := by
  refine .ite (.foldl (fun _ _ => ?_) _)
  exact (groupsKept_writeLevel _ _).trans
    ((groupsKept_writeColour _ _).trans (groupsKept_storeEcho _ _))

theorem groupsKept_readoptScenes :
    GroupsKept inner (inner.readoptSceneRows adapter lamp short) := by
  refine .foldl (fun state scene => ?_) _
  have hdrop : GroupsKept state (state.dropAdoptedScene adapter lamp scene) :=
    ⟨rfl, rfl, rfl, fun _ _ => rfl⟩
  exact hdrop.trans (groupsKept_seedScene scene)

theorem groupsKept_editScenes (scene : SceneId) (rows : List (LampId × Bool × Option SceneTarget)) :
    GroupsKept inner (inner.applySceneMatrixRows adapter scene rows) :=
  .ite ⟨rfl, rfl, rfl, fun _ _ => rfl⟩

theorem groupsKept_discovery (randomAddress : Option Nat) (found : DeviceProfile -> DeviceProfile) :
    GroupsKept inner (inner.applyDiscoveryProgress adapter short randomAddress found) := by
  refine ⟨rfl, rfl, rfl, fun other key => ?_⟩
  unfold membershipOf applyDiscoveryProgress
  by_cases hkey : (other, key) = (adapter, short)
  · rw [hkey]
    simp only [update_self]
    cases inner.devices (adapter, short) with
    | none | some device => rfl
  · simp only [update_of_ne hkey]

/-! ## What a row holds -/

/-- A row that the operator has not edited holds what the gear of the lamp reported, and
it holds it exactly when there is something to hold. -/
structure Follows (reports : List Report) (adapter : Nat) (binding : Option ShortAddress)
    (membership : ShortAddress -> Option (BitVec 16)) (row : GroupRow) : Prop where
  seeded : row.desiredSeeded = true -> exists short, binding = some short
    ∧ (adapter, short, row.desiredGroupsMask) ∈ reports ∧ (membership short).isSome = true
  unseeded : row.desiredSeeded = false -> row.desiredGroupsMask = 0
    ∧ forall short, binding = some short -> membership short = none

/-- The invariant of all rows and all reports. -/
structure Following (reports : List Report) (inner : Inner) : Prop where
  rows : forall adapter lamp, inner.adapterExists adapter = true ->
    (inner.groupRow adapter lamp).desiredFromOperator = false ->
    Follows reports adapter (inner.bindingShort adapter lamp) (inner.membershipOf adapter)
      (inner.groupRow adapter lamp)
  reported : forall adapter short membership, inner.membershipOf adapter short = some membership ->
    (adapter, short, membership) ∈ reports

variable {binding : Option ShortAddress} {row : GroupRow}
variable {membership : ShortAddress -> Option (BitVec 16)}

theorem Follows.more {more : List Report} (h : Follows reports adapter binding membership row)
    (hmore : reports ⊆ more) : Follows more adapter binding membership row := by
  refine ⟨fun hseeded => ?_, h.unseeded⟩
  rcases h.seeded hseeded with ⟨short, hbinding, hreported, hknown⟩
  exact ⟨short, hbinding, hmore hreported, hknown⟩

/-- The row of a lamp depends on what is known of its own gear only. -/
theorem Follows.same {known : ShortAddress -> Option (BitVec 16)}
    (h : Follows reports adapter binding membership row)
    (hsame : forall found, binding = some found -> known found = membership found) :
    Follows reports adapter binding known row := by
  constructor
  · intro hseeded
    rcases h.seeded hseeded with ⟨found, hfound, hreported, hknown⟩
    exact ⟨found, hfound, hreported, (hsame found hfound).symm ▸ hknown⟩
  · intro hunseeded
    refine ⟨(h.unseeded hunseeded).1, fun found hfound => ?_⟩
    rw [hsame found hfound]
    exact (h.unseeded hunseeded).2 found hfound

variable {value : BitVec 16}

/-- A row without a seed takes what is known of the gear of its lamp. -/
theorem follows_seed (hbinding : binding = some short) (hmembership : membership short = some value)
    (hreported : (adapter, short, value) ∈ reports) (hrow : row.desiredSeeded ->
      Follows reports adapter binding membership row) :
    Follows reports adapter binding membership (GroupRow.seed row value) := by
  unfold GroupRow.seed
  by_cases hseeded : row.desiredSeeded = true
  · rw [if_pos hseeded]
    exact hrow hseeded
  · rw [if_neg hseeded]
    refine ⟨fun _ => ⟨short, hbinding, hreported, ?_⟩, nofun⟩
    rw [hmembership]
    rfl

theorem groupRow_congr (h : next.groupMatrix = inner.groupMatrix) :
    next.groupRow = inner.groupRow := by
  funext adapter lamp
  unfold groupRow
  rw [h]

theorem bindingShort_congr (h : next.lamps = inner.lamps) :
    next.bindingShort = inner.bindingShort := by
  funext adapter lamp
  unfold bindingShort
  rw [h]

theorem adapterExists_congr (h : next.adapters = inner.adapters) :
    next.adapterExists = inner.adapterExists := by
  funext adapter
  unfold adapterExists
  rw [h]

theorem Following.kept (h : Following reports inner) (hkept : GroupsKept inner next) :
    Following reports next := by
  have hmembership : next.membershipOf = inner.membershipOf := by
    funext adapter short
    exact hkept.membership adapter short
  constructor
  · rw [groupRow_congr hkept.matrix, bindingShort_congr hkept.lamps,
      adapterExists_congr hkept.adapters, hmembership]
    exact h.rows
  · rw [hmembership]
    exact h.reported

/-! ## Readings -/

theorem groupRow_seedDesired (other : Nat) (key : LampId) :
    (inner.seedDesiredForShort adapter short value).groupRow other key
      = if other = adapter ∧ inner.bindingShort adapter key = some short then
          GroupRow.seed (inner.groupRow other key) value
        else inner.groupRow other key := by
  unfold groupRow seedDesiredForShort
  by_cases hkey : other = adapter ∧ inner.bindingShort adapter key = some short
  · simp only [if_pos hkey, getD_some]
    rw [hkey.1]
    rfl
  · simp only [if_neg hkey]

theorem membershipOf_write {value : Option (BitVec 16)} (other : Nat) (key : ShortAddress) :
    (inner.writeMembership adapter short value).membershipOf other key
      = if (other, key) = (adapter, short) then
          (inner.devices (adapter, short)).bind fun _ => value
        else inner.membershipOf other key := by
  unfold membershipOf writeMembership
  rw [changeDevice_devices]
  split
  · cases inner.devices (adapter, short) with
    | none | some device => rfl
  · rfl

theorem Following.reported_write {value : Option (BitVec 16)} {other : Nat}
    {key : ShortAddress} {found : BitVec 16} (h : Following reports inner)
    (hfound : (inner.writeMembership adapter short value).membershipOf other key = some found) :
    (other, key) = (adapter, short) ∧ value = some found ∨ (other, key, found) ∈ reports := by
  rw [membershipOf_write] at hfound
  by_cases hkey : (other, key) = (adapter, short)
  · rw [if_pos hkey] at hfound
    rcases bind_eq_some_iff.mp hfound with ⟨_, _, hvalue⟩
    exact .inl ⟨hkey, hvalue⟩
  · rw [if_neg hkey] at hfound
    exact .inr (h.reported other key found hfound)

theorem Following.reported_answer {other : Nat} {found : BitVec 16} {key : ShortAddress}
    (h : Following reports inner)
    (hfound : (inner.writeMembership adapter short (some value)).membershipOf other key
      = some found) : (other, key, found) ∈ (adapter, short, value) :: reports := by
  rcases h.reported_write hfound with ⟨hkey, hvalue⟩ | hold
  · cases hkey
    cases hvalue
    exact mem_cons_self
  · exact mem_cons_of_mem _ hold

theorem seed_fromOperator (h : (GroupRow.seed row value).desiredFromOperator = false)
    (hseeded : row.desiredSeeded) : row.desiredFromOperator = false := by
  unfold GroupRow.seed at h
  rw [if_pos hseeded] at h
  exact h

theorem Following.answered (h : Following reports inner)
    (hdevice : (inner.devices (adapter, short)).isSome) :
    Following ((adapter, short, value) :: reports)
      ((inner.writeMembership adapter short (some value)).seedDesiredForShort adapter short
        value) := by
  have hmore : reports ⊆ (adapter, short, value) :: reports :=
    fun _ hmem => mem_cons_of_mem _ hmem
  rcases isSome_iff_exists.mp hdevice with ⟨device, hsome⟩
  have hhere : (inner.writeMembership adapter short (some value)).membershipOf adapter short
      = some value := by
    rw [membershipOf_write, if_pos rfl, hsome]
    rfl
  constructor
  · intro other lamp hexists hoperator
    change Follows _ other (inner.bindingShort other lamp)
      ((inner.writeMembership adapter short (some value)).membershipOf other) _
    rw [groupRow_seedDesired] at hoperator ⊢
    change (if other = adapter ∧ inner.bindingShort adapter lamp = some short then
      GroupRow.seed (inner.groupRow other lamp) value
      else inner.groupRow other lamp).desiredFromOperator = false at hoperator
    change Follows _ _ _ _ (if other = adapter ∧ inner.bindingShort adapter lamp = some short
      then GroupRow.seed (inner.groupRow other lamp) value else inner.groupRow other lamp)
    by_cases hlamp : other = adapter ∧ inner.bindingShort adapter lamp = some short
    · rcases hlamp with ⟨rfl, hbinding⟩
      rw [if_pos ⟨rfl, hbinding⟩] at hoperator ⊢
      refine follows_seed hbinding hhere mem_cons_self ?_
      intro hseeded
      have hold := (h.rows other lamp hexists (seed_fromOperator hoperator hseeded)).more hmore
      refine ⟨fun _ => ?_, fun hfalse => nomatch hseeded.symm.trans hfalse⟩
      rcases hold.seeded hseeded with ⟨found, hfound, hreported, _⟩
      rw [hbinding] at hfound
      cases hfound
      refine ⟨short, hbinding, hreported, ?_⟩
      rw [hhere]
      rfl
    · rw [if_neg hlamp] at hoperator ⊢
      have hold := (h.rows other lamp hexists hoperator).more hmore
      refine hold.same fun found hfound => ?_
      rw [membershipOf_write, if_neg]
      intro heq
      cases heq
      exact hlamp ⟨rfl, hfound⟩
  · exact fun _ _ _ => h.reported_answer

theorem Following.readback (h : Following reports inner) :
    Following ((adapter, short, value) :: reports)
      (inner.applyGroupMembershipReadback adapter short value) := by
  unfold applyGroupMembershipReadback
  split
  · rename_i hboth
    exact h.answered (Bool.and_eq_true_iff.mp hboth).2
  · exact ⟨fun other lamp hexists hoperator => (h.rows other lamp hexists hoperator).more
      fun _ hmem => mem_cons_of_mem _ hmem,
      fun other key found hfound => mem_cons_of_mem _ (h.reported other key found hfound)⟩

theorem groupsRead_some (hexists : inner.adapterExists adapter) :
    inner.groupsRead adapter short (some value)
      = inner.applyGroupMembershipReadback adapter short value := by
  have htwice : (inner.writeMembership adapter short (some value)).writeMembership adapter
      short (some value) = inner.writeMembership adapter short (some value) := by
    unfold writeMembership changeDevice
    simp only [update_self, update_idem, Option.map_map]
    rfl
  unfold groupsRead applyGroupMembershipReadback
  cases hdevice : inner.devices (adapter, short) with
  | none =>
    have hsame : inner.writeMembership adapter short (some value) = inner := by
      unfold writeMembership changeDevice
      rw [hdevice, Option.map_none, <- hdevice, update_eq_self]
    simp only [hsame, hdevice, isSome_none, Bool.and_false, Bool.false_eq_true, if_false]
  | some device =>
    have hread : ((inner.writeMembership adapter short (some value)).devices
        (adapter, short)).isSome = true := by
      simp only [writeMembership, changeDevice, hdevice, update_self]
      rfl
    have hstill : (inner.writeMembership adapter short (some value)).adapterExists adapter
        = true := hexists
    simp only [hread, hstill, hexists, isSome_some, Bool.and_true, if_true, htwice]

theorem Following.nowhere (h : Following reports inner)
    (hnowhere : inner.adapterExists adapter = false) :
    Following ((adapter, short, value) :: reports)
      (inner.groupsRead adapter short (some value)) := by
  have hread : inner.groupsRead adapter short (some value)
      = inner.writeMembership adapter short (some value) := by
    have hstill : (inner.writeMembership adapter short (some value)).adapterExists adapter
        = false := hnowhere
    unfold groupsRead applyGroupMembershipReadback
    simp only [hstill, Bool.false_and, Bool.false_eq_true, if_false]
  rw [hread]
  constructor
  · intro other lamp hexists hoperator
    have hother : other ≠ adapter := by
      intro heq
      rw [heq] at hexists
      exact nomatch hexists.symm.trans hnowhere
    refine ((h.rows other lamp hexists hoperator).more
      fun _ hmem => mem_cons_of_mem _ hmem).same fun found _ => ?_
    rw [membershipOf_write, if_neg]
    exact fun heq => hother (congrArg Prod.fst heq)
  · exact fun _ _ _ => h.reported_answer

theorem mem_lampsBoundTo :
    lamp ∈ inner.lampsBoundTo adapter short <-> inner.bindingShort adapter lamp = some short := by
  unfold lampsBoundTo
  simp only [mem_filter, mem_finRange, true_and, decide_eq_true_eq]

theorem Following.unanswered (h : Following reports inner)
    (hunbound : inner.lampsBoundTo adapter short = []) :
    Following reports (inner.groupsRead adapter short none) := by
  have hnone : forall lamp, inner.bindingShort adapter lamp ≠ some short := by
    intro lamp hbinding
    rw [<- mem_lampsBoundTo, hunbound] at hbinding
    cases hbinding
  have hwritten : Following reports (inner.writeMembership adapter short none) := by
    constructor
    · intro other lamp hexists hoperator
      refine (h.rows other lamp hexists hoperator).same fun found hfound => ?_
      rw [membershipOf_write, if_neg]
      intro heq
      cases heq
      exact hnone lamp hfound
    · intro other key found hfound
      rcases h.reported_write hfound with ⟨_, hvalue⟩ | hold
      · cases hvalue
      · exact hold
  unfold groupsRead seedGroupMatrixFromMembershipRead
  simp only
  split
  · refine hwritten.kept ⟨rfl, rfl, ?_, fun _ _ => rfl⟩
    funext key
    exact if_neg fun hkey => hnone key.2 hkey.2
  · exact hwritten

/-! ## Bindings -/

theorem bindingShort_setBinding {target : Option ShortAddress} (other : Nat) (key : LampId) :
    (inner.setBinding adapter lamp target).bindingShort other key
      = if (other, key) = (adapter, lamp) then target else inner.bindingShort other key := by
  simp only [bindingShort, setBinding, update_apply]
  split
  · rfl
  · rfl

theorem groupRow_forgetAdopted (other : Nat) (key : LampId) :
    (inner.forgetAdoptedDesired adapter lamp).groupRow other key
      = if (other, key) = (adapter, lamp) then GroupRow.forget (inner.groupRow adapter lamp)
        else inner.groupRow other key := by
  simp only [groupRow, forgetAdoptedDesired, update_apply]
  split
  · cases inner.groupMatrix (adapter, lamp) with
    | none | some row => rfl
  · rfl

/-- The row after its lamp has been bound to gear with this membership. -/
def GroupRow.adopt (row : GroupRow) (known : Option (BitVec 16)) : GroupRow :=
  match known with
  | none => row
  | some membership => GroupRow.seed row membership

theorem groupRow_seedNew (other : Nat) (key : LampId) :
    (inner.seedDesiredForNewBinding adapter lamp short).groupRow other key
      = if (other, key) = (adapter, lamp) then
          GroupRow.adopt (inner.groupRow adapter lamp) (inner.membershipOf adapter short)
        else inner.groupRow other key := by
  unfold seedDesiredForNewBinding GroupRow.adopt
  cases inner.membershipOf adapter short with
  | none =>
    by_cases hkey : (other, key) = (adapter, lamp)
    · cases hkey
      rw [if_pos rfl]
    · rw [if_neg hkey]
  | some membership =>
    simp only [groupRow, update_apply]
    split
    · rfl
    · rfl

theorem forget_fromOperator : (GroupRow.forget row).desiredFromOperator
    = row.desiredFromOperator := by
  unfold GroupRow.forget
  split <;> rfl

theorem forget_adopted (h : row.desiredFromOperator = false) :
    (GroupRow.forget row).desiredSeeded = false := by
  unfold GroupRow.forget
  rw [h]
  cases hseeded : row.desiredSeeded with
  | true => rfl
  | false => exact hseeded

theorem Follows.forget_mask (h : Follows reports adapter binding membership row)
    (hoperator : row.desiredFromOperator = false) :
    (GroupRow.forget row).desiredGroupsMask = 0 := by
  unfold GroupRow.forget
  rw [hoperator]
  cases hseeded : row.desiredSeeded with
  | true => rfl
  | false => exact (h.unseeded hseeded).1

/-- The groups of a lamp that changes its gear. -/
def rebound (inner : Inner) (adapter : Nat) (lamp : LampId) (short : ShortAddress) : Inner :=
  let previous := inner.bindingShort adapter lamp
  let bound := inner.setBinding adapter lamp (some short)
  let forgotten := if previous.any fun prev => prev ≠ short then
    bound.forgetAdoptedDesired adapter lamp else bound
  forgotten.seedDesiredForNewBinding adapter lamp short

/-- The row of the lamp before it adopts anything. -/
def GroupRow.unbound (row : GroupRow) (previous : Option ShortAddress)
    (short : ShortAddress) : GroupRow :=
  if previous.any fun prev => prev ≠ short then GroupRow.forget row else row

theorem rebound_matrix (inner : Inner) (adapter : Nat) (lamp : LampId) (short : ShortAddress) :
    exists matrix, inner.rebound adapter lamp short
      = { inner.setBinding adapter lamp (some short) with groupMatrix := matrix } := by
  have hseed : forall state : Inner, exists matrix,
      state.seedDesiredForNewBinding adapter lamp short = { state with groupMatrix := matrix } := by
    intro state
    unfold seedDesiredForNewBinding
    split <;> exact ⟨_, rfl⟩
  unfold rebound
  simp only
  split
  · exact hseed _
  · exact hseed _

theorem rebound_bindingShort (other : Nat) (key : LampId) :
    (inner.rebound adapter lamp short).bindingShort other key
      = if (other, key) = (adapter, lamp) then some short else inner.bindingShort other key := by
  rcases rebound_matrix inner adapter lamp short with ⟨matrix, heq⟩
  rw [<- bindingShort_setBinding, heq]
  rfl

theorem rebound_rest : (inner.rebound adapter lamp short).adapters = inner.adapters
    ∧ (inner.rebound adapter lamp short).devices = inner.devices
    ∧ (inner.rebound adapter lamp short).sceneMatrix = inner.sceneMatrix
    ∧ (inner.rebound adapter lamp short).sceneEcho = inner.sceneEcho := by
  rcases rebound_matrix inner adapter lamp short with ⟨matrix, heq⟩
  rw [heq]
  exact ⟨rfl, rfl, rfl, rfl⟩

theorem rebound_membershipOf :
    (inner.rebound adapter lamp short).membershipOf = inner.membershipOf := by
  funext other key
  unfold membershipOf
  rw [rebound_rest.2.1]

theorem rebound_groupRow (other : Nat) (key : LampId) :
    (inner.rebound adapter lamp short).groupRow other key
      = if (other, key) = (adapter, lamp) then
          GroupRow.adopt (GroupRow.unbound (inner.groupRow adapter lamp)
            (inner.bindingShort adapter lamp) short) (inner.membershipOf adapter short)
        else inner.groupRow other key := by
  unfold rebound GroupRow.unbound
  simp only
  rw [groupRow_seedNew]
  by_cases hmoved : ((inner.bindingShort adapter lamp).any fun prev => prev ≠ short) = true
  · rw [if_pos hmoved, if_pos hmoved, groupRow_forgetAdopted, groupRow_forgetAdopted, if_pos rfl]
    by_cases hkey : (other, key) = (adapter, lamp)
    · rw [if_pos hkey, if_pos hkey]
      rfl
    · rw [if_neg hkey, if_neg hkey, if_neg hkey]
      rfl
  · rw [if_neg hmoved, if_neg hmoved]
    rfl

/-- A row that is still seeded when the lamp is bound again belongs to the same gear. -/
theorem Follows.unbound (short : ShortAddress) (h : row.desiredFromOperator = false ->
      Follows reports adapter binding membership row)
    (hoperator : (GroupRow.unbound row binding short).desiredFromOperator = false) :
    ((GroupRow.unbound row binding short).desiredSeeded ->
        binding = some short ∧ GroupRow.unbound row binding short = row)
      ∧ ((GroupRow.unbound row binding short).desiredSeeded = false ->
        (GroupRow.unbound row binding short).desiredGroupsMask = 0) := by
  unfold GroupRow.unbound at hoperator ⊢
  by_cases hmoved : (binding.any fun prev => prev ≠ short) = true
  · rw [if_pos hmoved] at hoperator ⊢
    rw [forget_fromOperator] at hoperator
    have hforgotten := forget_adopted hoperator
    exact ⟨(fun hseeded => nomatch hseeded.symm.trans hforgotten),
      fun _ => (h hoperator).forget_mask hoperator⟩
  · rw [if_neg hmoved] at hoperator ⊢
    refine ⟨fun hseeded => ⟨?_, rfl⟩, fun hunseeded => ((h hoperator).unseeded hunseeded).1⟩
    rcases (h hoperator).seeded hseeded with ⟨found, hfound, _⟩
    rw [hfound] at hmoved ⊢
    simp only [any_some, ne_eq, decide_not, Bool.not_eq_eq_eq_not, Bool.not_true,
      decide_eq_false_iff_not, not_not] at hmoved
    rw [hmoved]

theorem Following.rebound (h : Following reports inner) :
    Following reports (inner.rebound adapter lamp short) := by
  constructor
  · intro other key hexists hoperator
    rw [adapterExists_congr rebound_rest.1] at hexists
    rw [rebound_membershipOf, rebound_bindingShort]
    rw [rebound_groupRow] at hoperator ⊢
    by_cases hkey : (other, key) = (adapter, lamp)
    · cases hkey
      rw [if_pos rfl] at hoperator ⊢
      rw [if_pos rfl]
      have hunbound := Follows.unbound short (h.rows adapter lamp hexists)
      cases hknown : inner.membershipOf adapter short with
      | none =>
        rw [hknown] at hoperator
        rcases hunbound hoperator with ⟨hseeded, hunseeded⟩
        constructor
        · intro hstill
          rcases hseeded hstill with ⟨hbinding, hrow⟩
          rw [hrow] at hstill hoperator
          rcases (h.rows adapter lamp hexists hoperator).seeded hstill with
            ⟨found, hfound, _, hsome⟩
          rw [hbinding] at hfound
          cases hfound
          rw [hknown] at hsome
          cases hsome
        · intro hstill
          refine ⟨hunseeded hstill, fun found hfound => ?_⟩
          cases hfound
          exact hknown
      | some value =>
        rw [hknown] at hoperator
        refine follows_seed rfl hknown (h.reported adapter short value hknown) ?_
        intro hstill
        have hfalse := seed_fromOperator hoperator hstill
        rcases (hunbound hfalse).1 hstill with ⟨hbinding, hrow⟩
        rw [hrow] at hfalse ⊢
        rw [<- hbinding]
        exact h.rows adapter lamp hexists hfalse
    · rw [if_neg hkey] at hoperator ⊢
      rw [if_neg hkey]
      exact h.rows other key hexists hoperator
  · intro other key found hfound
    rw [rebound_membershipOf] at hfound
    exact h.reported other key found hfound

theorem Following.bind (h : Following reports inner) :
    Following reports (inner.applyVirtualLampBind adapter lamp short) := by
  unfold applyVirtualLampBind
  split
  · exact h
  · split
    · exact h
    · have hrebound : Following reports (inner.rebound adapter lamp short) := h.rebound
      simp only
      unfold readoptForBinding
      simp only
      split
      · exact hrebound
      · exact hrebound.kept groupsKept_readoptScenes

theorem bindingShort_unbind (other : Nat) (key : LampId) :
    (inner.unbindLamp adapter lamp).bindingShort other key
      = if (other, key) = (adapter, lamp) then none else inner.bindingShort other key := by
  simp only [unbindLamp, bindingShort, forgetAdoptedDesired, update_apply]
  split
  · cases inner.lamps (adapter, lamp) with
    | none | some record => rfl
  · rfl

theorem Following.unbind (h : Following reports inner) :
    Following reports (inner.unbindLamp adapter lamp) := by
  have hrow : forall other key, (inner.unbindLamp adapter lamp).groupRow other key
      = if (other, key) = (adapter, lamp) then GroupRow.forget (inner.groupRow adapter lamp)
        else inner.groupRow other key := by
    intro other key
    unfold unbindLamp
    rw [groupRow_forgetAdopted]
    rfl
  refine ⟨?_, h.reported⟩
  intro other key hexists hoperator
  rw [hrow] at hoperator ⊢
  rw [bindingShort_unbind]
  by_cases hkey : (other, key) = (adapter, lamp)
  · cases hkey
    rw [if_pos rfl] at hoperator ⊢
    rw [if_pos rfl]
    rw [forget_fromOperator] at hoperator
    have hforgotten := forget_adopted hoperator
    exact ⟨(fun hseeded => nomatch hseeded.symm.trans hforgotten),
      fun _ => ⟨(h.rows adapter lamp hexists hoperator).forget_mask hoperator, nofun⟩⟩
  · rw [if_neg hkey] at hoperator ⊢
    rw [if_neg hkey]
    exact h.rows other key hexists hoperator

/-- After a list of edits an entry is as it was or as one of the edits has left it. -/
theorem foldl_update {α κ ν : Type} [DecidableEq κ] (place : α -> κ) (value : α -> ν)
    (rows : List α) (table : κ -> Option ν) (key : κ) :
    rows.foldl (fun table row => Function.update table (place row) (some (value row))) table
        key = table key
      ∨ exists row, row ∈ rows
        ∧ rows.foldl (fun table row => Function.update table (place row) (some (value row)))
          table key = some (value row) := by
  induction rows generalizing table with
  | nil => exact .inl rfl
  | cons row rest ih =>
    rcases ih (Function.update table (place row) (some (value row))) with hsame | hedited
    · by_cases hkey : key = place row
      · rw [hkey, update_self] at hsame
        exact .inr ⟨row, mem_cons_self, hkey ▸ hsame⟩
      · rw [update_of_ne hkey] at hsame
        exact .inl hsame
    · rcases hedited with ⟨edit, hedit, hvalue⟩
      exact .inr ⟨edit, mem_cons_of_mem _ hedit, hvalue⟩

theorem Following.edit (h : Following reports inner) (rows : List (LampId × BitVec 16)) :
    Following reports (inner.applyGroupRows adapter rows) := by
  unfold applyGroupRows
  split
  · refine ⟨?_, h.reported⟩
    intro other key hexists hoperator
    unfold groupRow at hoperator ⊢
    rcases foldl_update (fun row => (adapter, row.1)) (fun row => (⟨row.2, true,
      true⟩ : GroupRow)) rows inner.groupMatrix (other, key) with hsame | ⟨row, _, hedited⟩
    · simp only [hsame] at hoperator ⊢
      exact h.rows other key hexists hoperator
    · simp only [hedited] at hoperator
      cases hoperator
  · exact h

/-! ## Whole histories -/

/-- A query on gear that a lamp is bound to is answered. -/
def Answered (inner : Inner) : Op -> Prop
  | .groupsRead adapter short none => inner.lampsBoundTo adapter short = []
  | _ => True

theorem Following.apply (h : Following reports inner) {op : Op} (hop : Answered inner op) :
    Following (op.reports ++ reports) (inner.apply op) := by
  cases op with
  | discovery adapter short randomAddress found =>
    exact h.kept (groupsKept_discovery randomAddress found)
  | groupsRead adapter short membership =>
    cases membership with
    | none => exact h.unanswered hop
    | some value =>
      cases hexists : inner.adapterExists adapter with
      | true =>
        change Following _ (inner.groupsRead adapter short (some value))
        rw [groupsRead_some hexists]
        exact h.readback
      | false => exact h.nowhere hexists
  | membershipReadback adapter short membership => exact h.readback
  | editGroups adapter rows => exact h.edit rows
  | bind adapter lamp short => exact h.bind
  | unbind adapter lamp => exact h.unbind
  | scenesRead adapter short levels => exact h.kept (groupsKept_scenesRead levels)
  | sceneColourRead adapter short scene level colourType values =>
    exact h.kept (groupsKept_sceneColourRead scene level colourType values)
  | sceneProgrammed adapter short scene level echo =>
    exact h.kept (groupsKept_sceneProgrammed scene level echo)
  | foreignSceneWrite adapter scope scene removal =>
    exact h.kept (groupsKept_foreignWrite scope scene removal)
  | editScenes adapter scene rows => exact h.kept (groupsKept_editScenes scene rows)

theorem reached_following (h : Reached Answered reports inner) : Following reports inner := by
  induction h with
  | new adapters =>
    refine ⟨fun _ _ _ _ => ⟨nofun, fun _ =>
      ⟨rfl, nofun⟩⟩, nofun⟩
  | step op _ hop ih => exact ih.apply hop

/-- What a lamp desires without an edit was reported by its gear, and while its gear
reports one membership only, an apply has nothing to do for the lamp. -/
theorem desired_groups_reported (h : Reached Answered reports inner)
    (hexists : inner.adapterExists adapter = true)
    (hoperator : (inner.groupRow adapter lamp).desiredFromOperator = false) :
    ((inner.groupRow adapter lamp).desiredSeeded = true -> exists short,
        inner.bindingShort adapter lamp = some short
          ∧ (adapter, short, (inner.groupRow adapter lamp).desiredGroupsMask) ∈ reports)
      ∧ ((forall short, inner.bindingShort adapter lamp = some short ->
          forall one other, (adapter, short, one) ∈ reports ->
            (adapter, short, other) ∈ reports -> one = other) ->
        forall cell, cell ∈ collectGroupApplyDiff (inner.groupApplyRows adapter) ->
          cell.virtualLampId ≠ lamp) := by
  have hfollowing := reached_following h
  have hfollows := hfollowing.rows adapter lamp hexists hoperator
  constructor
  · intro hseeded
    rcases hfollows.seeded hseeded with ⟨short, hbinding, hreported, _⟩
    exact ⟨short, hbinding, hreported⟩
  · intro hconstant cell hcell hlamp
    rcases mem_collectGroupApplyDiff hcell with ⟨row, hrow, hid, hdiffer⟩
    rcases mem_map.mp hrow with ⟨other, _, heq⟩
    subst heq
    simp only at hid hdiffer
    rw [hid, hlamp] at hdiffer
    apply hdiffer
    unfold derivedAppliedMask
    cases hbinding : inner.bindingShort adapter lamp with
    | none =>
      cases hseeded : (inner.groupRow adapter lamp).desiredSeeded with
      | true =>
        rcases hfollows.seeded hseeded with ⟨_, hfound, _⟩
        rw [hbinding] at hfound
        cases hfound
      | false => exact (hfollows.unseeded hseeded).1
    | some short =>
      cases hseeded : (inner.groupRow adapter lamp).desiredSeeded with
      | true =>
        rcases hfollows.seeded hseeded with ⟨found, hfound, hreported, hknown⟩
        rw [hbinding] at hfound
        cases hfound
        rcases isSome_iff_exists.mp hknown with ⟨value, hvalue⟩
        rw [bind_some, hvalue]
        exact hconstant short hbinding _ _ hreported
          (hfollowing.reported adapter short value hvalue)
      | false =>
        rw [bind_some, (hfollows.unseeded hseeded).2 short hbinding]
        exact (hfollows.unseeded hseeded).1

/-! ## A query without an answer -/

def oneAdapter : Inner := Inner.new [⟨"", true⟩]

def askedGear (answers : List (Option (BitVec 16))) : List Op :=
  [.discovery 0 5 none id, .bind 0 1 5] ++ answers.map fun answer => .groupsRead 0 5 answer

def run (inner : Inner) (ops : List Op) : Inner :=
  ops.foldl apply inner

/-- A first query goes unanswered, a second reports groups 1 and 3: the lamp desires to
be in no group, and an apply would take the gear out of both. -/
theorem unanswered_query_seeds_nothing :
    (run oneAdapter (askedGear [none, some 10])).groupRow 0 1 = ⟨0, true, false⟩
      ∧ collectGroupApplyDiff ((run oneAdapter (askedGear [none, some 10])).groupApplyRows 0)
        = [⟨1, 1, .remove, some 5⟩, ⟨1, 3, .remove, some 5⟩] := by
  decide +kernel

theorem askedGear_reached :
    Reached Answered [(0, 5, 10)] (run oneAdapter (askedGear [some 10])) := by
  have hnew : Reached Answered [] oneAdapter := .new [⟨"", true⟩]
  have hfound := Reached.step (.discovery 0 5 none id) hnew True.intro
  have hbound := Reached.step (.bind 0 1 5) hfound True.intro
  have hread := Reached.step (.groupsRead 0 5 (some 10)) hbound True.intro
  simpa only [run, askedGear, List.map, cons_append, nil_append, foldl,
    Op.reports, toList, append_nil] using hread

theorem askedGear_follows :
    (run oneAdapter (askedGear [some 10])).groupRow 0 1 = ⟨10, true, false⟩
      ∧ forall cell, cell ∈ collectGroupApplyDiff
        ((run oneAdapter (askedGear [some 10])).groupApplyRows 0) -> cell.virtualLampId ≠ 1 := by
  have hrow : (run oneAdapter (askedGear [some 10])).groupRow 0 1 = ⟨10, true, false⟩ := by
    decide +kernel
  have hexists : (run oneAdapter (askedGear [some 10])).adapterExists 0 = true := by
    decide +kernel
  have hreport : forall value, ((0, 5, value) : Report) ∈ [((0, 5, 10) : Report)] ->
      value = 10 := by
    intro value hvalue
    exact congrArg (fun report : Report => report.2.2) (mem_singleton.mp hvalue)
  refine ⟨hrow, (desired_groups_reported askedGear_reached hexists (hrow ▸ rfl)).2 ?_⟩
  intro short hshort one other hone hother
  cases hshort
  rw [hreport one hone, hreport other hother]

end Inner

end Oxidali.Lamps
