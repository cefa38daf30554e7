import Mathlib

/-!
# What an apply has to do

Groups and scenes are desired by the registry and applied by the gear.  An apply
programs the cells in which the two differ.
-/

namespace Oxidali

inductive GroupMembershipAction where
  | add
  | remove
deriving DecidableEq

inductive SceneProgramAction where
  | write
  | update
  | clear
deriving DecidableEq

end Oxidali

namespace Oxidali.Lamps

open List

abbrev LampId := Fin 64
abbrev ShortAddress := Fin 64
abbrev GroupId := Fin 16
abbrev SceneId := Fin 16

scoped instance lampId_neZero : NeZero 64 := ⟨by decide⟩

scoped instance groupId_neZero : NeZero 16 := ⟨by decide⟩

/-! ## Light values -/

inductive PowerState where
  | off
  | on
  | unknown
deriving DecidableEq

inductive ColorMode where
  | none
  | brightness
  | cct
  | xy
  | rgb
  | rgbwaf
  | unknown
deriving DecidableEq

structure ColorValue where
  mode : ColorMode
  colorTemperatureKelvin : Nat := 0
  x : Nat := 0
  y : Nat := 0
  r : Nat := 0
  g : Nat := 0
  b : Nat := 0
  w : Nat := 0
  a : Nat := 0
  f : Nat := 0
deriving DecidableEq

/-- `DaliSceneTargetState`. -/
structure SceneTarget where
  power : Option PowerState
  level : Option Nat
  color : Option ColorValue
deriving DecidableEq

namespace SceneTarget

def storedLevel (target : SceneTarget) : Nat :=
  match target.power, target.level with
  | some .off, _ => 0
  | _, none => 0
  | _, some level => level

def storesAs (target other : SceneTarget) : Bool :=
  target.storedLevel = other.storedLevel && target.color = other.color

end SceneTarget

def mirekToKelvin (mirek : Nat) : Option Nat :=
  if mirek = 0 then none else some (min (1000000 / mirek) 65535)

def kelvinToMirek (kelvin : Nat) : Option Nat :=
  if kelvin = 0 then none else some (min ((1000000 + kelvin / 2) / kelvin) 65535)

def srgbToDimLevel : List Nat := [
  0, 1, 1, 1, 1, 1, 1, 1, 1, 1, 1, 1, 1, 1, 1, 1, 1, 1, 2, 2, 2, 2, 2, 2, 2, 2, 3, 3,
  3, 3, 3, 3, 4, 4, 4, 4, 4, 5, 5, 5, 5, 6, 6, 6, 6, 7, 7, 7, 8, 8, 8, 8, 9, 9, 9, 10,
  10, 10, 11, 11, 11, 12, 12, 13, 13, 13, 14, 14, 15, 15, 16, 16, 16, 17, 17, 18, 18,
  19, 19, 20, 20, 21, 21, 22, 23, 23, 24, 24, 25, 25, 26, 27, 27, 28, 28, 29, 30, 30,
  31, 32, 32, 33, 34, 34, 35, 36, 37, 37, 38, 39, 40, 40, 41, 42, 43, 44, 44, 45, 46,
  47, 48, 49, 49, 50, 51, 52, 53, 54, 55, 56, 57, 58, 59, 60, 61, 62, 63, 64, 65, 66,
  67, 68, 69, 70, 71, 72, 73, 74, 75, 76, 77, 79, 80, 81, 82, 83, 84, 86, 87, 88, 89,
  91, 92, 93, 94, 96, 97, 98, 99, 101, 102, 103, 105, 106, 108, 109, 110, 112, 113,
  114, 116, 117, 119, 120, 122, 123, 125, 126, 128, 129, 131, 132, 134, 135, 137, 139,
  140, 142, 143, 145, 147, 148, 150, 152, 153, 155, 157, 158, 160, 162, 164, 165, 167,
  169, 171, 173, 174, 176, 178, 180, 182, 184, 186, 187, 189, 191, 193, 195, 197, 199,
  201, 203, 205, 207, 209, 211, 213, 215, 217, 219, 221, 223, 226, 228, 230, 232, 234,
  236, 238, 241, 243, 245, 247, 249, 252, 254]

def dimLevelToSrgb : List Nat := [
  0, 1, 18, 26, 32, 37, 41, 45, 48, 52, 55, 58, 61, 63, 66, 68, 70, 73, 75, 77, 79, 81,
  83, 84, 86, 88, 90, 91, 93, 95, 96, 98, 99, 101, 102, 104, 105, 106, 108, 109, 110,
  112, 113, 114, 115, 117, 118, 119, 120, 121, 123, 124, 125, 126, 127, 128, 129, 130,
  131, 132, 133, 134, 135, 136, 137, 138, 139, 140, 141, 142, 143, 144, 145, 146, 147,
  148, 149, 150, 150, 151, 152, 153, 154, 155, 156, 156, 157, 158, 159, 160, 160, 161,
  162, 163, 164, 164, 165, 166, 167, 168, 168, 169, 170, 171, 171, 172, 173, 173, 174,
  175, 176, 176, 177, 178, 179, 179, 180, 181, 181, 182, 183, 183, 184, 185, 185, 186,
  187, 187, 188, 189, 189, 190, 191, 191, 192, 193, 193, 194, 194, 195, 196, 196, 197,
  198, 198, 199, 199, 200, 201, 201, 202, 202, 203, 204, 204, 205, 205, 206, 207, 207,
  208, 208, 209, 209, 210, 211, 211, 212, 212, 213, 213, 214, 214, 215, 216, 216, 217,
  217, 218, 218, 219, 219, 220, 220, 221, 221, 222, 223, 223, 224, 224, 225, 225, 226,
  226, 227, 227, 228, 228, 229, 229, 230, 230, 231, 231, 232, 232, 233, 233, 234, 234,
  235, 235, 236, 236, 237, 237, 238, 238, 239, 239, 240, 240, 241, 241, 242, 242, 242,
  243, 243, 244, 244, 245, 245, 246, 246, 247, 247, 248, 248, 249, 249, 249, 250, 250,
  251, 251, 252, 252, 253, 253, 254, 254, 254, 255, 255]

def srgbChannelToDimLevel (srgb : Nat) : Nat := srgbToDimLevel.getD srgb 0

def dimLevelToSrgbChannel (dim : Nat) : Nat := dimLevelToSrgb.getD dim 0

/-! ## The diff of a scene -/

structure SceneApplyRow where
  virtualLampId : LampId
  desiredIncluded : Bool
  desiredTarget : Option SceneTarget
  appliedIncluded : Bool
  appliedTarget : Option SceneTarget
  bindingShort : Option ShortAddress

structure SceneApplySnapshot where
  sceneId : SceneId
  rows : List SceneApplyRow

structure SceneApplyDiffRow where
  virtualLampId : LampId
  sceneId : SceneId
  action : SceneProgramAction
  targetState : Option SceneTarget
  bindingShort : Option ShortAddress
deriving DecidableEq

def sceneTargetsConverged : Option SceneTarget -> Option SceneTarget -> Bool
  | some desired, some applied => desired.storesAs applied
  | desired, applied => desired = applied

/-- `none` where nothing is to be done. -/
def SceneApplyRow.action (row : SceneApplyRow) : Option SceneProgramAction :=
  match row.desiredIncluded, row.appliedIncluded with
  | true, false => some .write
  | true, true =>
    if sceneTargetsConverged row.desiredTarget row.appliedTarget then none
    else some .update
  | false, true => some .clear
  | false, false => none

def collectSceneApplyDiff (snapshot : SceneApplySnapshot) : List SceneApplyDiffRow :=
  (snapshot.rows.filterMap fun row => row.action.map fun action => {
    virtualLampId := row.virtualLampId
    sceneId := snapshot.sceneId
    action := action
    targetState := if action = .clear then none else row.desiredTarget
    bindingShort := row.bindingShort }).insertionSort fun a b => a.virtualLampId <= b.virtualLampId

theorem mem_collectSceneApplyDiff {snapshot : SceneApplySnapshot} {cell : SceneApplyDiffRow}
    (h : cell ∈ collectSceneApplyDiff snapshot) :
    exists row, row ∈ snapshot.rows ∧ row.virtualLampId = cell.virtualLampId
      ∧ row.action.isSome := by
  rcases mem_filterMap.mp ((mem_insertionSort _).mp h) with ⟨row, hrow, hcell⟩
  rcases Option.map_eq_some_iff.mp hcell with ⟨action, haction, heq⟩
  refine ⟨row, hrow, ?_, ?_⟩
  · rw [<- heq]
  · rw [haction]
    rfl

/-! ## The diff of the groups -/

structure GroupApplyRow where
  virtualLampId : LampId
  desiredGroupsMask : BitVec 16
  appliedGroupsMask : BitVec 16
  bindingShort : Option ShortAddress

structure GroupApplyDiffCell where
  virtualLampId : LampId
  groupId : GroupId
  action : GroupMembershipAction
  bindingShort : Option ShortAddress
deriving DecidableEq

def GroupApplyRow.cells (row : GroupApplyRow) : List GroupApplyDiffCell :=
  ((finRange 16).filter fun (group : GroupId) =>
    (row.desiredGroupsMask ^^^ row.appliedGroupsMask).getLsbD group).map fun group => {
      virtualLampId := row.virtualLampId
      groupId := group
      action := if row.desiredGroupsMask.getLsbD group then .add else .remove
      bindingShort := row.bindingShort }

/-- The cells by lamp, and by group within a lamp. -/
def collectGroupApplyDiff (rows : List GroupApplyRow) : List GroupApplyDiffCell :=
  (rows.flatMap GroupApplyRow.cells).insertionSort fun a b =>
    a.virtualLampId < b.virtualLampId ∨ (a.virtualLampId = b.virtualLampId ∧ a.groupId <= b.groupId)

theorem mem_collectGroupApplyDiff {rows : List GroupApplyRow} {cell : GroupApplyDiffCell}
    (h : cell ∈ collectGroupApplyDiff rows) :
    exists row, row ∈ rows ∧ row.virtualLampId = cell.virtualLampId
      ∧ row.desiredGroupsMask ≠ row.appliedGroupsMask := by
  rcases mem_flatMap.mp ((mem_insertionSort _).mp h) with ⟨row, hrow, hcell⟩
  rcases mem_map.mp hcell with ⟨group, hgroup, heq⟩
  refine ⟨row, hrow, ?_, ?_⟩
  · rw [<- heq]
  · intro hsame
    have hbit := (mem_filter.mp hgroup).2
    rw [hsame, BitVec.xor_self] at hbit
    simp at hbit

end Oxidali.Lamps
