import Oxidali.Lamps.Groups
import Oxidali.Lib.Table

/-!
# Scene rows that follow the gear

A scene row that the operator has not edited is a copy of what the gear of the lamp holds
for the scene.  The copy is renewed by every read and every readback; a write of somebody
else forgets what the gear holds and leaves the copy as it was.
-/

namespace Oxidali.Lamps.Inner

open SceneTarget List Function Option

variable {inner next : Inner} {adapter other : Nat} {scene place : SceneId}
variable {lamp key : LampId} {short : ShortAddress}

/-! ## What a row copies -/

/-- A colour that agrees with what has been read of it. -/
def Shows : SceneColourEvidence -> Option ColorValue -> Prop
  | .unread, _ => True
  | .noColour, color => color = none
  | .colour colourType values, color => color = some (observedColourValue colourType values)

/-- A row that may be made a copy. -/
structure Awaits (row : SceneRow) (level : Option (Option Nat))
    (echo : Option SceneTarget) : Prop where
  unknown : level = none -> row.included = false
  lit : echo.bind power ≠ some .off

structure Copies (row : SceneRow) (level : Option (Option Nat))
    (colour : SceneColourEvidence) (echo : Option SceneTarget) : Prop where
  absent : level.join = none -> row.included = false
  present : forall held, level = some (some held) -> row.included = true
    ∧ exists color, row.target = some ⟨none, some held, color⟩ ∧ Shows colour color
  lit : echo.bind power ≠ some .off

variable {echo : Option SceneTarget} {colour : SceneColourEvidence} {row : SceneRow}

theorem Copies.awaits {level : Option (Option Nat)}
    (h : Copies row level colour echo) : Awaits row level echo := by
  refine ⟨fun hunknown => h.absent ?_, h.lit⟩
  rw [hunknown]
  rfl

theorem Awaits.copies (h : Awaits row none echo) : Copies row none colour echo :=
  ⟨fun _ => h.unknown rfl, nofun, h.lit⟩

theorem followGearScene_copies {level : Option Nat} (hlit : echo.bind power ≠ some .off) :
    Copies (followGearScene row level colour) (some level) colour echo := by
  refine ⟨?_, ?_, hlit⟩
  · intro habsent
    cases level with
    | none => rfl
    | some held => cases habsent
  · intro held hheld
    cases hheld
    refine ⟨rfl, _, rfl, ?_⟩
    cases colour with
    | unread => exact True.intro
    | noColour | colour colourType values => rfl

/-- The row of a bound lamp is a copy unless the operator has edited it. -/
def Copied (inner : Inner) (adapter : Nat) (scene : SceneId) (lamp : LampId) : Prop :=
  (inner.bindingShort adapter lamp).isSome = true ->
    (inner.desiredRow adapter scene lamp).desiredFromOperator = false ->
    Copies (inner.desiredRow adapter scene lamp) (inner.sceneLevelEvidence adapter scene lamp)
      (inner.sceneColourEvidence adapter scene lamp) (inner.sceneEcho (adapter, scene, lamp))

def Awaited (inner : Inner) (adapter : Nat) (scene : SceneId) (lamp : LampId) : Prop :=
  (inner.bindingShort adapter lamp).isSome = true ->
    (inner.desiredRow adapter scene lamp).desiredFromOperator = false ->
    Awaits (inner.desiredRow adapter scene lamp) (inner.sceneLevelEvidence adapter scene lamp)
      (inner.sceneEcho (adapter, scene, lamp))

theorem Copied.awaited (h : Copied inner adapter scene lamp) : Awaited inner adapter scene lamp :=
  fun hbound hoperator => (h hbound hoperator).awaits

/-! ## Cells that a step leaves alone -/

structure SameCell (inner next : Inner) (adapter : Nat) (scene : SceneId) (lamp : LampId) :
    Prop where
  binding : next.bindingShort adapter lamp = inner.bindingShort adapter lamp
  row : next.desiredRow adapter scene lamp = inner.desiredRow adapter scene lamp
  level : next.sceneLevelEvidence adapter scene lamp = inner.sceneLevelEvidence adapter scene lamp
  colour : next.sceneColourEvidence adapter scene lamp
    = inner.sceneColourEvidence adapter scene lamp
  echo : next.sceneEcho (adapter, scene, lamp) = inner.sceneEcho (adapter, scene, lamp)

theorem Copied.same (h : Copied inner adapter scene lamp)
    (hsame : SameCell inner next adapter scene lamp) : Copied next adapter scene lamp := by
  unfold Copied
  rw [hsame.binding, hsame.row, hsame.level, hsame.colour, hsame.echo]
  exact h

theorem Awaited.same (h : Awaited inner adapter scene lamp)
    (hsame : SameCell inner next adapter scene lamp) : Awaited next adapter scene lamp := by
  unfold Awaited
  rw [hsame.binding, hsame.row, hsame.level, hsame.echo]
  exact h

theorem desiredRow_congr (h : next.sceneMatrix (adapter, scene, lamp)
      = inner.sceneMatrix (adapter, scene, lamp)) :
    next.desiredRow adapter scene lamp = inner.desiredRow adapter scene lamp := by
  unfold desiredRow
  rw [h]

theorem SameCell.rows (hbinding : next.bindingShort adapter lamp = inner.bindingShort adapter lamp)
    (hdevices : next.devices = inner.devices)
    (hrow : next.sceneMatrix (adapter, scene, lamp) = inner.sceneMatrix (adapter, scene, lamp))
    (hecho : next.sceneEcho (adapter, scene, lamp) = inner.sceneEcho (adapter, scene, lamp)) :
    SameCell inner next adapter scene lamp := by
  refine ⟨hbinding, desiredRow_congr hrow, ?_, ?_, hecho⟩
  · unfold sceneLevelEvidence levelEvidence
    rw [hbinding, hdevices]
  · unfold sceneColourEvidence colourEvidence
    rw [hbinding, hdevices]

theorem SameCell.devices (hlamps : next.lamps = inner.lamps)
    (hmatrix : next.sceneMatrix = inner.sceneMatrix) (hecho : next.sceneEcho = inner.sceneEcho)
    (hdevice : forall bound, inner.bindingShort adapter lamp = some bound ->
      next.levelEvidence adapter bound scene = inner.levelEvidence adapter bound scene
        ∧ next.colourEvidence adapter bound scene = inner.colourEvidence adapter bound scene) :
    SameCell inner next adapter scene lamp := by
  refine ⟨?_, desiredRow_congr (congrFun hmatrix _), ?_, ?_, congrFun hecho _⟩
  · rw [bindingShort_congr hlamps]
  · unfold sceneLevelEvidence
    rw [bindingShort_congr hlamps]
    cases hbinding : inner.bindingShort adapter lamp with
    | none => rfl
    | some bound => exact (hdevice bound hbinding).1
  · unfold sceneColourEvidence
    rw [bindingShort_congr hlamps]
    cases hbinding : inner.bindingShort adapter lamp with
    | none => rfl
    | some bound => exact (hdevice bound hbinding).2

/-! ## Evidence -/

variable {change : PhysicalDevice -> PhysicalDevice}

theorem levelEvidence_changeDevice (bound : ShortAddress) :
    (inner.changeDevice adapter short change).levelEvidence other bound scene
      = if (other, bound) = (adapter, short) then
          (inner.devices (adapter, short)).bind fun device =>
            ((change device).attributes.sceneLevels scene).map fun level =>
              if level = sceneNotSet then none else some level
        else inner.levelEvidence other bound scene := by
  unfold levelEvidence
  rw [changeDevice_devices]
  split
  · cases inner.devices (adapter, short) with
    | none | some device => rfl
  · rfl

theorem colourEvidence_changeDevice (bound : ShortAddress) :
    (inner.changeDevice adapter short change).colourEvidence other bound scene
      = if (other, bound) = (adapter, short) then
          match inner.devices (adapter, short) with
          | none => .unread
          | some device => (change device).sceneColours scene
        else inner.colourEvidence other bound scene := by
  unfold colourEvidence
  rw [changeDevice_devices]
  by_cases hkey : (other, bound) = (adapter, short)
  · rw [if_pos hkey, if_pos hkey]
    cases inner.devices (adapter, short) with
    | none | some device => rfl
  · rw [if_neg hkey, if_neg hkey]

theorem sameCell_changeDevice
    (hchange : forall device, (change device).attributes.sceneLevels scene
        = device.attributes.sceneLevels scene
      ∧ (change device).sceneColours scene = device.sceneColours scene) :
    SameCell inner (inner.changeDevice adapter short change) other scene key := by
  refine .devices rfl rfl rfl fun bound _ => ?_
  rw [levelEvidence_changeDevice, colourEvidence_changeDevice]
  by_cases hkey : (other, bound) = (adapter, short)
  · rw [if_pos hkey, if_pos hkey]
    cases hkey
    unfold levelEvidence colourEvidence
    cases inner.devices (adapter, short) with
    | none => exact ⟨rfl, rfl⟩
    | some device =>
      refine ⟨?_, (hchange device).2⟩
      rw [bind_some, bind_some, (hchange device).1]
  · rw [if_neg hkey, if_neg hkey]
    exact ⟨rfl, rfl⟩

theorem Awaited.changeDevice (h : Awaited inner other scene key)
    (hchange : forall device, (change device).attributes.sceneLevels scene = none ->
      device.attributes.sceneLevels scene = none) :
    Awaited (inner.changeDevice adapter short change) other scene key := by
  intro hbound hoperator
  have hbefore := h hbound hoperator
  refine ⟨fun hunknown => hbefore.unknown ?_, hbefore.lit⟩
  unfold sceneLevelEvidence at hunknown ⊢
  change (inner.bindingShort other key).bind _ = none at hunknown
  cases hbinding : inner.bindingShort other key with
  | none => rfl
  | some bound =>
    rw [hbinding, bind_some, levelEvidence_changeDevice] at hunknown
    rw [bind_some]
    by_cases hkey : (other, bound) = (adapter, short)
    · rw [if_pos hkey] at hunknown
      cases hkey
      unfold levelEvidence
      cases hdevice : inner.devices (adapter, short) with
      | none => rfl
      | some device =>
        rw [hdevice, bind_some, map_eq_none_iff] at hunknown
        rw [bind_some, hchange device hunknown]
        rfl
    · rwa [if_neg hkey] at hunknown

/-! ## Seeding -/

theorem seedScene_binding :
    (inner.seedSceneRowsForShort adapter short scene).bindingShort = inner.bindingShort :=
  bindingShort_congr (groupsKept_seedScene scene).lamps

theorem seedScene_rest :
    (inner.seedSceneRowsForShort adapter short scene).devices = inner.devices
      ∧ (inner.seedSceneRowsForShort adapter short scene).sceneEcho = inner.sceneEcho := by
  unfold seedSceneRowsForShort
  split
  · exact ⟨rfl, rfl⟩
  · exact ⟨rfl, rfl⟩

theorem seedScene_elsewhere (h : ¬ (other = adapter ∧ place = scene
      ∧ inner.bindingShort adapter key = some short)) :
    SameCell inner (inner.seedSceneRowsForShort adapter short scene) other place key := by
  refine .rows (by rw [seedScene_binding]) seedScene_rest.1 ?_ (congrFun seedScene_rest.2 _)
  unfold seedSceneRowsForShort
  split
  · rfl
  · simp only [if_neg h]

theorem Awaited.seed (h : Awaited inner adapter scene lamp)
    (hbinding : inner.bindingShort adapter lamp = some short) :
    Copied (inner.seedSceneRowsForShort adapter short scene) adapter scene lamp := by
  have hlevel : inner.sceneLevelEvidence adapter scene lamp
      = inner.levelEvidence adapter short scene := by
    unfold sceneLevelEvidence
    rw [hbinding, bind_some]
  have hbound : (inner.bindingShort adapter lamp).isSome := by
    rw [hbinding]
    rfl
  cases hknown : inner.levelEvidence adapter short scene with
  | none =>
    have hsame : inner.seedSceneRowsForShort adapter short scene = inner := by
      unfold seedSceneRowsForShort
      rw [hknown]
    rw [hsame]
    intro _ hoperator
    have hawaits := h hbound hoperator
    rw [hlevel, hknown] at hawaits ⊢
    exact hawaits.copies
  | some level =>
    have hrow : (inner.seedSceneRowsForShort adapter short scene).desiredRow adapter scene
        lamp = if (inner.desiredRow adapter scene lamp).desiredFromOperator then
          inner.desiredRow adapter scene lamp
        else followGearScene (inner.desiredRow adapter scene lamp) level
          (inner.colourEvidence adapter short scene) := by
      unfold seedSceneRowsForShort
      rw [hknown]
      simp only [desiredRow, hbinding, and_self, if_true, getD_some]
    have hafter : (inner.seedSceneRowsForShort adapter short scene).sceneLevelEvidence
        adapter scene lamp = some level
        ∧ (inner.seedSceneRowsForShort adapter short scene).sceneColourEvidence
          adapter scene lamp = inner.colourEvidence adapter short scene := by
      unfold sceneLevelEvidence sceneColourEvidence levelEvidence colourEvidence
      rw [seedScene_binding, seedScene_rest.1, hbinding]
      exact ⟨hknown, rfl⟩
    intro _ hoperator
    rw [hrow] at hoperator ⊢
    rw [hafter.1, hafter.2, seedScene_rest.2]
    cases hedited : (inner.desiredRow adapter scene lamp).desiredFromOperator with
    | true =>
      rw [if_pos hedited, hedited] at hoperator
      cases hoperator
    | false =>
      exact followGearScene_copies (h hbound hedited).lit

theorem Copied.seed (h : Copied inner other place key) :
    Copied (inner.seedSceneRowsForShort adapter short scene) other place key := by
  by_cases hown : other = adapter ∧ place = scene ∧ inner.bindingShort adapter key = some short
  · rcases hown with ⟨rfl, rfl, hbinding⟩
    exact h.awaited.seed hbinding
  · exact h.same (seedScene_elsewhere hown)

theorem Awaited.keep (h : Awaited inner other place key) :
    Awaited (inner.seedSceneRowsForShort adapter short scene) other place key := by
  by_cases hown : other = adapter ∧ place = scene ∧ inner.bindingShort adapter key = some short
  · rcases hown with ⟨rfl, rfl, hbinding⟩
    exact (h.seed hbinding).awaited
  · exact h.same (seedScene_elsewhere hown)

/-! ## Reads and readbacks -/

theorem sameCell_elsewhere (h : ¬ (other = adapter ∧ inner.bindingShort adapter key = some short)) :
    SameCell inner (inner.changeDevice adapter short change) other place key := by
  refine .devices rfl rfl rfl fun bound hbound => ?_
  have hkey : (other, bound) ≠ (adapter, short) := by
    intro hkey
    cases hkey
    exact h ⟨rfl, hbound⟩
  rw [levelEvidence_changeDevice, colourEvidence_changeDevice, if_neg hkey, if_neg hkey]
  exact ⟨rfl, rfl⟩

/-- The cells that the gear on a short address keeps a scene for. -/
def OnGear (inner : Inner) (adapter : Nat) (short : ShortAddress) (scene : SceneId) (other : Nat)
    (place : SceneId) (key : LampId) : Prop :=
  other = adapter ∧ place = scene ∧ inner.bindingShort adapter key = some short

theorem sameCell_writeScene (h : ¬ inner.OnGear adapter short scene other place key)
    (hchange : place ≠ scene -> forall device,
      (change device).attributes.sceneLevels place = device.attributes.sceneLevels place
        ∧ (change device).sceneColours place = device.sceneColours place) :
    SameCell inner (inner.changeDevice adapter short change) other place key := by
  by_cases hplace : place = scene
  · exact sameCell_elsewhere fun hgear => h ⟨hgear.1, hplace, hgear.2⟩
  · exact sameCell_changeDevice (hchange hplace)

theorem sameCell_writeLevel {level : Option Nat}
    (h : ¬ inner.OnGear adapter short scene other place key) :
    SameCell inner (inner.writeSceneLevel adapter short scene level) other place key :=
  sameCell_writeScene h fun hplace _ => ⟨update_of_ne hplace _ _, rfl⟩

theorem sameCell_writeColour {evidence : SceneColourEvidence}
    (h : ¬ inner.OnGear adapter short scene other place key) :
    SameCell inner (inner.writeSceneColour adapter short scene evidence) other place key :=
  sameCell_writeScene h fun hplace _ => ⟨rfl, update_of_ne hplace _ _⟩

theorem sameCell_storeEcho (h : ¬ inner.OnGear adapter short scene other place key) :
    SameCell inner (inner.storeSceneEchoForShort adapter short scene echo) other place key :=
  .rows rfl rfl rfl (if_neg h)

theorem Awaited.writeLevel (h : Awaited inner other place key) (level : Nat) :
    Awaited (inner.writeSceneLevel adapter short scene (some level)) other place key := by
  refine h.changeDevice fun device hunknown => ?_
  by_cases hplace : place = scene
  · subst hplace
    exact nomatch (update_self place _ _).symm.trans hunknown
  · exact (update_of_ne hplace _ _).symm.trans hunknown

theorem Awaited.writeColour (h : Awaited inner other place key) (evidence : SceneColourEvidence) :
    Awaited (inner.writeSceneColour adapter short scene evidence) other place key :=
  h.changeDevice fun _ hunknown => hunknown

/-- Whatever the read has found, the rows on the gear are copies in the end. -/
theorem copied_seeded {read : Inner} (hexists : read.adapterExists other)
    (hgear : read.OnGear adapter short scene other place key -> Awaited read other place key)
    (helse : ¬ read.OnGear adapter short scene other place key -> Copied read other place key) :
    Copied (if read.adapterExists adapter then
      read.seedSceneRowsForShort adapter short scene else read) other place key := by
  by_cases hon : read.OnGear adapter short scene other place key
  · have hawaited := hgear hon
    rcases hon with ⟨rfl, rfl, hbinding⟩
    rw [if_pos hexists]
    exact hawaited.seed hbinding
  · split
    · exact (helse hon).seed
    · exact helse hon

theorem Copied.sceneColourRead (h : Copied inner other place key)
    (hexists : inner.adapterExists other) (level colourType : Option Nat)
    (values : List (Option Nat)) :
    Copied (inner.sceneColourRead adapter short scene level colourType values) other place
      key := by
  cases level with
  | none =>
    cases colourType with
    | none => exact copied_seeded hexists (fun _ => h.awaited) (fun _ => h)
    | some colourType =>
      exact copied_seeded hexists (fun _ => h.awaited.writeColour _)
        (fun helse => h.same (sameCell_writeColour helse))
  | some level =>
    cases colourType with
    | none =>
      exact copied_seeded hexists (fun _ => h.awaited.writeLevel _)
        (fun helse => h.same (sameCell_writeLevel helse))
    | some colourType =>
      exact copied_seeded hexists (fun _ => (h.awaited.writeLevel _).writeColour _)
        (fun helse => (h.same (sameCell_writeLevel helse)).same (sameCell_writeColour helse))

theorem Copied.seedAll (h : Copied inner other place key) :
    Copied (inner.seedAllScenes adapter short) other place key :=
  foldlRecOn (motive := fun state => Copied state other place key) _ _ h fun _ hb _ _ => hb.seed

theorem Awaited.seedAll (h : Awaited inner adapter place key)
    (hbinding : inner.bindingShort adapter key = some short) :
    Copied (inner.seedAllScenes adapter short) adapter place key := by
  refine Table.foldl_reaches (fun state => Awaited state adapter place key
      ∧ state.bindingShort adapter key = some short)
    (fun state => Copied state adapter place key) _ ?_ ?_ ?_ (mem_finRange place) ⟨h, hbinding⟩
  · intro state scene _ hstate
    refine ⟨hstate.1.keep, ?_⟩
    rw [seedScene_binding]
    exact hstate.2
  · intro state scene _ _ _ hstate
    exact hstate.seed
  · intro state hstate
    exact hstate.1.seed hstate.2

theorem Copied.scenesRead (h : Copied inner other place key) (hexists : inner.adapterExists other)
    (levels : Option (SceneId -> Nat)) :
    Copied (inner.scenesRead adapter short levels) other place key := by
  unfold Inner.scenesRead
  cases levels with
  | none =>
    simp only
    split
    · exact h.seedAll
    · exact h
  | some levels =>
    simp only
    by_cases hgear : other = adapter ∧ inner.bindingShort adapter key = some short
    · rcases hgear with ⟨rfl, hbinding⟩
      refine (if_pos hexists).symm ▸ Awaited.seedAll ?_ hbinding
      exact h.awaited.changeDevice fun _ hunknown => nomatch hunknown
    · split
      · exact (h.same (sameCell_elsewhere hgear)).seedAll
      · exact h.same (sameCell_elsewhere hgear)

theorem Awaited.storeEcho (h : Awaited inner other place key)
    (hlit : inner.OnGear adapter short scene other place key ->
      (inner.desiredRow other place key).desiredFromOperator = false ->
        echo.bind power ≠ some .off) :
    Awaited (inner.storeSceneEchoForShort adapter short scene echo) other place key := by
  by_cases hgear : inner.OnGear adapter short scene other place key
  · intro hbound hoperator
    refine ⟨(h hbound hoperator).unknown, ?_⟩
    have hecho : (inner.storeSceneEchoForShort adapter short scene echo).sceneEcho
        (other, place, key) = echo := if_pos hgear
    rw [hecho]
    exact hlit hgear hoperator
  · exact h.same (sameCell_storeEcho hgear)

theorem Copied.sceneProgrammed (h : Copied inner other place key) (level : Option Nat)
    (hlit : inner.OnGear adapter short scene other place key ->
      (inner.desiredRow other place key).desiredFromOperator = false ->
        echo.bind power ≠ some .off) :
    Copied (inner.applySceneProgrammedReadback adapter short scene level echo) other place
      key := by
  unfold applySceneProgrammedReadback
  by_cases hgear : inner.OnGear adapter short scene other place key
  · split
    · rcases hgear with ⟨rfl, rfl, hbinding⟩
      cases level with
      | none => exact (h.awaited.storeEcho hlit).seed hbinding
      | some level => exact ((h.awaited.writeLevel level).storeEcho hlit).seed hbinding
    · exact h
  · split
    · cases level with
      | none => exact (h.same (sameCell_storeEcho hgear)).seed
      | some level =>
        exact ((h.same (sameCell_writeLevel hgear)).same (sameCell_storeEcho hgear)).seed
    · exact h

/-! ## Writes of others -/

/-- A row that holds nothing may forget what the gear holds. -/
theorem Copied.foreignWriteTo {target : ShortAddress × Bool} (removal : Bool)
    (h : Copied inner other place key)
    (hempty : inner.OnGear adapter target.1 scene other place key ->
      (inner.desiredRow other place key).desiredFromOperator = false ->
        (inner.desiredRow other place key).included = false) :
    Copied (inner.foreignWriteTo adapter scene removal target) other place key := by
  unfold Inner.foreignWriteTo
  by_cases hgear : inner.OnGear adapter target.1 scene other place key
  · intro hbound hoperator
    refine ⟨fun _ => hempty hgear hoperator, ?_, ?_⟩
    · intro held hheld
      rcases hgear with ⟨rfl, rfl, hbinding⟩
      change (inner.bindingShort other key).bind (fun bound => Inner.levelEvidence
        ((inner.writeSceneLevel other target.1 place _).writeSceneColour other target.1 place
          _) other bound place) = _ at hheld
      rw [hbinding, bind_some] at hheld
      unfold writeSceneColour writeSceneLevel at hheld
      rw [levelEvidence_changeDevice, if_pos rfl] at hheld
      simp only [changeDevice, update_self] at hheld
      cases hdevice : inner.devices (other, target.1) with
      | none =>
        rw [hdevice] at hheld
        cases hheld
      | some device =>
        rw [hdevice] at hheld
        simp only [Option.map_some, bind_some, update_self] at hheld
        split at hheld
        · cases hheld
        · cases hheld
    · have hecho : (storeSceneEchoForShort ((inner.writeSceneLevel adapter target.1 scene
          (if removal && target.2 then some sceneNotSet else none)).writeSceneColour adapter
            target.1 scene .unread) adapter target.1 scene none).sceneEcho
              (other, place, key) = none := if_pos hgear
      rw [hecho]
      rintro ⟨⟩
  · exact ((h.same (sameCell_writeLevel hgear)).same (sameCell_writeColour hgear)).same
      (sameCell_storeEcho hgear)

theorem Copied.foreignWrite {scope : WriteScope} (removal : Bool) (h : Copied inner other place key)
    (hempty : forall target, target ∈ inner.foreignWriteTargets adapter scope ->
      inner.OnGear adapter target.1 scene other place key ->
      (inner.desiredRow other place key).desiredFromOperator = false ->
        (inner.desiredRow other place key).included = false) :
    Copied (inner.applyForeignSceneWrite adapter scope scene removal) other place key := by
  unfold applyForeignSceneWrite
  split
  · refine (foldlRecOn (motive := fun state => Copied state other place key
        ∧ state.bindingShort = inner.bindingShort ∧ state.sceneMatrix = inner.sceneMatrix)
      _ _ ⟨h, rfl, rfl⟩ fun state hstate target htarget => ?_).1
    rcases hstate with ⟨hcopied, hbinding, hmatrix⟩
    refine ⟨hcopied.foreignWriteTo removal fun hgear => ?_, hbinding, hmatrix⟩
    rw [desiredRow_congr (congrFun hmatrix _)]
    unfold OnGear at hgear
    rw [hbinding] at hgear
    exact hempty target htarget hgear
  · exact h

/-! ## Bindings and edits -/

theorem Copied.rebound (h : Copied inner other place key)
    (hkey : (other, key) = (adapter, lamp) -> inner.bindingShort adapter lamp = some short) :
    Copied (inner.rebound adapter lamp short) other place key := by
  have hrest : (inner.rebound adapter lamp short).adapters = _ ∧ _ := rebound_rest
  rcases hrest with ⟨-, hdevices, hmatrix, hecho⟩
  refine h.same (.rows ?_ hdevices (congrFun hmatrix _) (congrFun hecho _))
  rw [rebound_bindingShort]
  split
  · rename_i heq
    rw [<- hkey heq]
    cases heq
    rfl
  · rfl

theorem dropScene_elsewhere (h : (other, place, key) ≠ (adapter, scene, lamp)) :
    SameCell inner (inner.dropAdoptedScene adapter lamp scene) other place key :=
  .rows rfl rfl (update_of_ne h _ _) (update_of_ne h _ _)

theorem dropScene_awaited :
    Awaited (inner.dropAdoptedScene adapter lamp scene) adapter scene lamp := by
  have hrow : (inner.dropAdoptedScene adapter lamp scene).desiredRow adapter scene lamp
      = ((inner.sceneMatrix (adapter, scene, lamp)).filter
        fun row => row.desiredFromOperator).getD SceneRow.default := by
    unfold desiredRow dropAdoptedScene
    simp only [update_self]
  have hecho : (inner.dropAdoptedScene adapter lamp scene).sceneEcho (adapter, scene, lamp)
      = none := update_self _ _ _
  intro _ hoperator
  rw [hecho]
  refine ⟨fun _ => ?_, nofun⟩
  rw [hrow] at hoperator ⊢
  cases hkept : (inner.sceneMatrix (adapter, scene, lamp)).filter
      fun row => row.desiredFromOperator with
  | none => rfl
  | some row =>
    have hedited := (filter_eq_some_iff.mp hkept).2
    rw [hkept, getD_some] at hoperator
    exact nomatch hedited.symm.trans hoperator

theorem Copied.readopt (h : (other, key) ≠ (adapter, lamp) -> Copied inner other place key)
    (hbinding : inner.bindingShort adapter lamp = some short) :
    Copied (inner.readoptSceneRows adapter lamp short) other place key := by
  by_cases hkey : (other, key) = (adapter, lamp)
  · cases hkey
    refine Table.foldl_reaches (fun state => state.bindingShort adapter lamp = some short)
      (fun state => Copied state adapter place lamp) _ ?_ ?_ ?_ (mem_finRange place) hbinding
    · intro state scene _ hstate
      rw [seedScene_binding]
      exact hstate
    · intro state scene _ hscene _ hstate
      refine Copied.seed (hstate.same (dropScene_elsewhere ?_))
      intro heq
      cases heq
      exact hscene rfl
    · intro state hstate
      exact dropScene_awaited.seed hstate
  · refine foldlRecOn (motive := fun state => Copied state other place key) _ _
      (h hkey) fun state hstate scene _ => ?_
    refine Copied.seed (hstate.same (dropScene_elsewhere ?_))
    intro heq
    cases heq
    exact hkey rfl

section

variable (h : Copied inner other place key)
include h

theorem Copied.bind : Copied (inner.applyVirtualLampBind adapter lamp short) other place key := by
  unfold applyVirtualLampBind
  split
  · exact h
  · split
    · exact h
    · simp only
      unfold readoptForBinding
      simp only
      split
      · rename_i hprevious
        exact h.rebound fun _ => hprevious
      · have hbinding : (inner.rebound adapter lamp short).bindingShort adapter lamp
            = some short := by
          rw [rebound_bindingShort, if_pos rfl]
        exact Copied.readopt (fun hkey => h.rebound fun heq => absurd heq hkey) hbinding

theorem Copied.unbind : Copied (inner.unbindLamp adapter lamp) other place key := by
  have hbinding : (inner.unbindLamp adapter lamp).bindingShort other key = _ :=
    bindingShort_unbind other key
  by_cases hkey : (other, key) = (adapter, lamp)
  · rw [if_pos hkey] at hbinding
    intro hbound
    rw [hbinding] at hbound
    cases hbound
  · rw [if_neg hkey] at hbinding
    exact h.same (.rows hbinding rfl rfl rfl)

theorem Copied.edit (rows : List (LampId × Bool × Option SceneTarget)) :
    Copied (inner.applySceneMatrixRows adapter scene rows) other place key := by
  unfold applySceneMatrixRows
  split
  · rcases foldl_update (fun row : LampId × Bool × Option SceneTarget =>
      (adapter, scene, row.1)) (fun row => (⟨row.2.1, row.2.2, true, true⟩ : SceneRow)) rows
      inner.sceneMatrix (other, place, key) with hsame | ⟨row, _, hedited⟩
    · exact h.same (.rows rfl rfl hsame rfl)
    · intro _ hoperator
      unfold desiredRow at hoperator
      simp only [hedited, getD_some] at hoperator
      cases hoperator
  · exact h

end

/-! ## Steps that do not concern scenes -/

theorem sameCell_discovery (randomAddress : Option Nat) (found : DeviceProfile -> DeviceProfile) :
    SameCell inner (inner.applyDiscoveryProgress adapter short randomAddress found) other
      place key := by
  refine .devices rfl rfl rfl fun bound _ => ?_
  unfold levelEvidence colourEvidence applyDiscoveryProgress
  by_cases hkey : (other, bound) = (adapter, short)
  · rw [hkey]
    simp only [update_self]
    cases inner.devices (adapter, short) with
    | none | some device => exact ⟨rfl, rfl⟩
  · simp only [update_of_ne hkey, and_self]

theorem sameCell_writeMembership (membership : Option (BitVec 16)) :
    SameCell inner (inner.writeMembership adapter short membership) other place key :=
  sameCell_changeDevice fun _ => ⟨rfl, rfl⟩

theorem Copied.membershipReadback (h : Copied inner other place key) (membership : BitVec 16) :
    Copied (inner.applyGroupMembershipReadback adapter short membership) other place key := by
  unfold applyGroupMembershipReadback
  split
  · exact (h.same (sameCell_writeMembership _)).same (.rows rfl rfl rfl rfl)
  · exact h

theorem Copied.groupsRead (h : Copied inner other place key) (membership : Option (BitVec 16)) :
    Copied (inner.groupsRead adapter short membership) other place key := by
  unfold Inner.groupsRead
  cases membership with
  | some membership => exact (h.same (sameCell_writeMembership _)).membershipReadback _
  | none =>
    simp only
    unfold seedGroupMatrixFromMembershipRead
    split
    · exact (h.same (sameCell_writeMembership _)).same (.rows rfl rfl rfl rfl)
    · exact h.same (sameCell_writeMembership _)

/-! ## Whole histories -/

/-- A write of somebody else reaches no lamp whose row copies a level of the scene, and
no readback switches a lamp off whose row is a copy. -/
def Undisturbed (inner : Inner) : Op -> Prop
  | .foreignSceneWrite adapter scope scene _ => forall target,
      target ∈ inner.foreignWriteTargets adapter scope ->
      forall lamp, lamp ∈ inner.lampsBoundTo adapter target.1 ->
        (inner.desiredRow adapter scene lamp).desiredFromOperator = false ->
          (inner.desiredRow adapter scene lamp).included = false
  | .sceneProgrammed adapter short scene _ echo => forall lamp,
      lamp ∈ inner.lampsBoundTo adapter short ->
        (inner.desiredRow adapter scene lamp).desiredFromOperator = false ->
          echo.bind power ≠ some .off
  | _ => True

theorem Copied.apply (h : Copied inner other place key) (hexists : inner.adapterExists other)
    {op : Op} (hop : Undisturbed inner op) : Copied (inner.apply op) other place key := by
  cases op with
  | discovery adapter short randomAddress found =>
    exact h.same (sameCell_discovery randomAddress found)
  | groupsRead adapter short membership => exact h.groupsRead membership
  | membershipReadback adapter short membership => exact h.membershipReadback membership
  | editGroups adapter rows =>
    change Copied (inner.applyGroupRows adapter rows) other place key
    unfold applyGroupRows
    split
    · exact h.same (.rows rfl rfl rfl rfl)
    · exact h
  | bind adapter lamp short => exact h.bind
  | unbind adapter lamp => exact h.unbind
  | scenesRead adapter short levels => exact h.scenesRead hexists levels
  | sceneColourRead adapter short scene level colourType values =>
    exact h.sceneColourRead hexists level colourType values
  | sceneProgrammed adapter short scene level echo =>
    refine h.sceneProgrammed level fun hgear hoperator => ?_
    rcases hgear with ⟨rfl, rfl, hbinding⟩
    exact hop key (mem_lampsBoundTo.mpr hbinding) hoperator
  | foreignSceneWrite adapter scope scene removal =>
    refine h.foreignWrite removal fun target htarget hgear hoperator => ?_
    rcases hgear with ⟨rfl, rfl, hbinding⟩
    exact hop target htarget key (mem_lampsBoundTo.mpr hbinding) hoperator
  | editScenes adapter scene rows => exact h.edit rows

theorem adapters_ite {p : Prop} [Decidable p] (h : next.adapters = inner.adapters) :
    (if p then next else inner).adapters = inner.adapters := by
  split
  · exact h
  · rfl

theorem bind_adapters :
    (inner.applyVirtualLampBind adapter lamp short).adapters = inner.adapters := by
  unfold applyVirtualLampBind
  split
  · rfl
  · split
    · rfl
    · simp only
      unfold readoptForBinding
      simp only
      split
      · exact rebound_rest.1
      · exact groupsKept_readoptScenes.adapters.trans rebound_rest.1

theorem apply_adapters (op : Op) : (inner.apply op).adapters = inner.adapters := by
  cases op with
  | discovery adapter short randomAddress found => rfl
  | groupsRead adapter short membership =>
    cases membership with
    | some membership | none => exact adapters_ite rfl
  | membershipReadback adapter short membership => exact adapters_ite rfl
  | editGroups adapter rows => exact adapters_ite rfl
  | bind adapter lamp short => exact bind_adapters
  | unbind adapter lamp => rfl
  | scenesRead adapter short levels => exact (groupsKept_scenesRead levels).adapters
  | sceneColourRead adapter short scene level colourType values =>
    exact (groupsKept_sceneColourRead scene level colourType values).adapters
  | sceneProgrammed adapter short scene level echo =>
    exact (groupsKept_sceneProgrammed scene level echo).adapters
  | foreignSceneWrite adapter scope scene removal =>
    exact (groupsKept_foreignWrite scope scene removal).adapters
  | editScenes adapter scene rows => exact (groupsKept_editScenes scene rows).adapters

theorem reached_copied {reports : List Report} (h : Reached Undisturbed reports inner)
    (hexists : inner.adapterExists other) : Copied inner other place key := by
  induction h with
  | new adapters => exact nofun
  | step op _ hop ih =>
    rw [adapterExists_congr (apply_adapters op)] at hexists
    exact (ih hexists).apply hexists hop

/-! ## Clean rows -/

variable {color : Option ColorValue}

theorem Shows.observed {colourType : Nat} {values : List (Option Nat)}
    (h : Shows (.colour colourType values) color) :
    some (colourFromObservation color colourType values) = color := by
  have hcolor : color = some (observedColourValue colourType values) := h
  rw [hcolor]
  unfold colourFromObservation
  simp only
  split
  · rfl
  · rfl

theorem storesAs_echo {level : Nat} {power : Option PowerState} (h : power ≠ some .off) :
    storesAs ⟨none, some level, color⟩ ⟨power, some level, color⟩ := by
  unfold storesAs
  simp only [storedLevel, decide_true, Bool.and_self]

theorem appliedColour_copied {held : Nat}
    (hoperator : (inner.desiredRow adapter scene lamp).desiredFromOperator = false)
    (hincluded : (inner.desiredRow adapter scene lamp).included)
    (htarget : (inner.desiredRow adapter scene lamp).target = some ⟨none, some held, color⟩)
    (hshows : Shows (inner.sceneColourEvidence adapter scene lamp) color) :
    inner.appliedColour adapter scene lamp = color := by
  unfold appliedColour
  cases hcolour : inner.sceneColourEvidence adapter scene lamp with
  | unread =>
    simp only [unreadSceneColour, hoperator, htarget, bind_some]
    rfl
  | noColour =>
    rw [hcolour] at hshows
    exact hshows.symm
  | colour colourType values =>
    rw [hcolour] at hshows
    simp only [desiredRaw, htarget, hincluded, filter_some, if_true, bind_some]
    exact hshows.observed

theorem raw_excluded (h : (inner.desiredRow adapter scene lamp).included = false) :
    inner.desiredRaw adapter scene lamp = (false, none) := by
  simp only [desiredRaw, h]
  cases (inner.desiredRow adapter scene lamp).target with
  | none | some target => rfl

theorem Copied.clean (h : Copied inner adapter scene lamp)
    (hbound : (inner.bindingShort adapter lamp).isSome)
    (hoperator : (inner.desiredRow adapter scene lamp).desiredFromOperator = false) :
    (inner.desiredRaw adapter scene lamp).1 = (inner.appliedRaw adapter scene lamp).1
      ∧ sceneTargetsConverged (inner.desiredRaw adapter scene lamp).2
        (inner.appliedRaw adapter scene lamp).2 := by
  have hcopies := h hbound hoperator
  by_cases habsent : (inner.sceneLevelEvidence adapter scene lamp).join = none
  · have happlied : inner.appliedRaw adapter scene lamp = (false, none) := by
      unfold appliedRaw
      split
      · rename_i held hheld
        rw [hheld] at habsent
        cases habsent
      · rfl
    rw [happlied, raw_excluded (hcopies.absent habsent)]
    exact ⟨rfl, rfl⟩
  · cases hlevel : inner.sceneLevelEvidence adapter scene lamp with
    | none =>
      rw [hlevel] at habsent
      exact absurd rfl habsent
    | some level =>
      cases level with
      | none =>
        rw [hlevel] at habsent
        exact absurd rfl habsent
      | some held =>
        rcases hcopies.present held hlevel with ⟨hincluded, color, htarget, hshows⟩
        have happlied : inner.appliedRaw adapter scene lamp = (true, some
            ⟨(inner.sceneEcho (adapter, scene, lamp)).bind power, some held, color⟩) := by
          unfold appliedRaw
          rw [hlevel, appliedColour_copied hoperator hincluded htarget hshows]
        have hdesired : inner.desiredRaw adapter scene lamp
            = (true, some ⟨none, some held, color⟩) := by
          simp only [desiredRaw, hincluded, htarget, filter_some, if_true]
        rw [happlied, hdesired]
        exact ⟨rfl, storesAs_echo hcopies.lit⟩

/-- A row that the operator has not edited is never dirty, so an apply of the scene has
nothing to do for the lamp. -/
theorem adopted_scene_row_clean {reports : List Report} (h : Reached Undisturbed reports inner)
    (hexists : inner.adapterExists adapter = true)
    (hbound : (inner.bindingShort adapter lamp).isSome = true)
    (hoperator : (inner.desiredRow adapter scene lamp).desiredFromOperator = false) :
    inner.sceneRowDirty adapter scene lamp = false
      ∧ forall cell, cell ∈ collectSceneApplyDiff (inner.sceneApplySnapshot adapter scene) ->
        cell.virtualLampId ≠ lamp := by
  have hcopied : Copied inner adapter scene lamp := reached_copied h hexists
  rcases hcopied.clean hbound hoperator with ⟨hincluded, hconverged⟩
  constructor
  · simp only [sceneRowDirty, hincluded, hconverged, ne_eq, not_true_eq_false, decide_false,
      Bool.not_true, Bool.or_self]
  · intro cell hcell hlamp
    rcases mem_collectSceneApplyDiff hcell with ⟨row, hrow, hid, haction⟩
    rcases mem_map.mp hrow with ⟨found, _, heq⟩
    subst heq
    simp only [SceneApplyRow.action] at haction
    split at haction
    all_goals simp_all

/-! ## A write on copied gear -/

def readGear (after : List Op) : List Op :=
  [.discovery 0 5 none id, .bind 0 1 5, .scenesRead 0 5 (some fun _ => 100)] ++ after

/-- Somebody else writes scene 3 of all gear: the lamp's row of the scene still holds the
level read before, and an apply would write it back.  A readback that says the lamp is
off does the same to the row. -/
theorem foreign_write_dirties_copy :
    collectSceneApplyDiff ((run oneAdapter (readGear
        [.foreignSceneWrite 0 .broadcast 3 false])).sceneApplySnapshot 0 3)
        = [⟨1, 3, .write, some ⟨none, some 100, none⟩, some 5⟩]
      ∧ collectSceneApplyDiff ((run oneAdapter (readGear
        [.sceneProgrammed 0 5 3 (some 100) (some ⟨some .off, some 100, none⟩)])
          ).sceneApplySnapshot 0 3)
        = [⟨1, 3, .update, some ⟨none, some 100, none⟩, some 5⟩] := by
  decide +kernel

def programmedGear : Inner :=
  run oneAdapter (readGear [.sceneProgrammed 0 5 3 (some 120) (some ⟨some .on, some 120, none⟩)])

theorem programmedGear_reached : Reached Undisturbed [] programmedGear := by
  have hnew : Reached Undisturbed [] oneAdapter := .new [⟨"", true⟩]
  have hfound := Reached.step (.discovery 0 5 none id) hnew True.intro
  have hbound := Reached.step (.bind 0 1 5) hfound True.intro
  have hread := Reached.step (.scenesRead 0 5 (some fun _ => 100)) hbound True.intro
  have hlast := Reached.step (.sceneProgrammed 0 5 3 (some 120) (some ⟨some .on, some 120,
    none⟩)) hread (fun _ _ _ => by decide)
  simpa only [programmedGear, run, readGear, cons_append, nil_append, foldl, Op.reports] using hlast

theorem programmedGear_clean :
    programmedGear.desiredRow 0 3 1 = ⟨true, some ⟨none, some 120, none⟩, true, false⟩
      ∧ programmedGear.sceneRowDirty 0 3 1 = false := by
  have hrow : programmedGear.desiredRow 0 3 1
      = ⟨true, some ⟨none, some 120, none⟩, true, false⟩ := by
    decide +kernel
  have hexists : programmedGear.adapterExists 0 = true := by
    decide +kernel
  have hbound : (programmedGear.bindingShort 0 1).isSome = true := by
    decide +kernel
  exact ⟨hrow, (adopted_scene_row_clean programmedGear_reached hexists hbound (hrow ▸ rfl)).1⟩

end Oxidali.Lamps.Inner
