import Oxidali.Lamps.Bindings

/-!
# What a reload restores

A registry that writes all its slices can be read into any other registry of the same
adapters: whatever that one held, it then holds the same configuration.
-/

namespace Oxidali.Lamps

open RegistryStore PhysicalDevice Table List Function Option

variable {bytes : Type} {codecs : Codecs bytes}

/-! ## All slices written -/

def Inner.flushAll (codecs : Codecs bytes) (self : Inner) (slices : SliceStore bytes) :
    SliceStore bytes := fun key =>
  let own : Nat -> bytes -> Except StoreError bytes := fun adapter slice =>
    if adapter < self.adapters.length then .ok slice else slices key
  match key with
  | .adapters => .ok (codecs.adapters.encode self.adaptersSlice)
  | .groups adapter => own adapter (codecs.groups.encode (self.groupsSlice adapter))
  | .virtualLamps adapter =>
    own adapter (codecs.virtualLamps.encode (self.virtualLampsSlice adapter))
  | .physicalDeviceBank adapter bank => own adapter
      (codecs.physicalDevices.encode (self.physicalDevicesSlice adapter (some bank)))
  | .scene adapter scene =>
    own adapter (codecs.scene.encode (self.sceneSlice adapter scene))
  | .physicalDevices _ => slices key
  | .setting _ => slices key
  | .inputDevices _ => slices key

theorem readSlot_encode {slice : Type} (codec : SliceCodec bytes slice) (value : slice) :
    readSlot (.ok (codec.encode value)) codec.decode = (.loaded, some value) := by
  simp only [readSlot, codec.decode_encode]

/-! ## The configuration -/

structure SameAdapter (source copy : Inner) (adapter : Nat) : Prop where
  groups : forall group, (copy.groups (adapter, group)).getD GroupRecord.default
    = (source.groups (adapter, group)).getD GroupRecord.default
  groupRows : forall lamp, copy.groupRow adapter lamp = source.groupRow adapter lamp
  lamps : forall lamp, copy.lamps (adapter, lamp) = source.lamps (adapter, lamp)
  scenes : forall scene, (copy.scenes (adapter, scene)).getD SceneRecord.default
    = (source.scenes (adapter, scene)).getD SceneRecord.default
  sceneRows : forall scene lamp,
    copy.desiredRaw adapter scene lamp = source.desiredRaw adapter scene lamp
  devices : forall short, (copy.devices (adapter, short)).map persisted
    = (source.devices (adapter, short)).map persisted

structure SameConfiguration (source copy : Inner) : Prop where
  adapters : copy.adapters = source.adapters
  each : forall adapter, adapter < source.adapters.length -> SameAdapter source copy adapter

/-! ## Adapters -/

theorem getElem_foldl_set {α : Type} (values : List α) (first : Nat) (entries : List α)
    (index : Nat) (hlength : first + values.length <= entries.length) :
    (((values.zipIdx first).map fun row => (row.2, row.1)).foldl
      (fun entries row => entries.set row.1 row.2) entries)[index]?
      = if first <= index ∧ index < first + values.length then values[index - first]?
        else entries[index]? := by
  induction values generalizing first entries with
  | nil =>
    rw [if_neg (by rw [length_nil]; omega)]
    rfl
  | cons value rest ih =>
    rw [length_cons] at hlength
    rw [zipIdx_cons, map_cons, foldl_cons, ih (first + 1) _ (by rw [length_set]; omega)]
    by_cases hindex : index = first
    · subst hindex
      rw [if_neg (by omega), if_pos (by rw [length_cons]; omega), Nat.sub_self,
        getElem?_cons_zero, getElem?_set_self (by omega)]
    · rw [getElem?_set_ne (fun heq => hindex heq.symm)]
      by_cases hrest : first + 1 <= index ∧ index < first + 1 + rest.length
      · have hnext : index - first = index - (first + 1) + 1 := by omega
        rw [if_pos hrest, if_pos (by rw [length_cons]; omega), hnext, getElem?_cons_succ]
      · rw [if_neg hrest, if_neg (by rw [length_cons]; omega)]

theorem hydrateAdapters_same {source copy : Inner}
    (hlength : copy.adapters.length = source.adapters.length) :
    (copy.hydrateAdaptersInner source.adaptersSlice).adapters = source.adapters := by
  unfold Inner.hydrateAdaptersInner Inner.adaptersSlice
  apply ext_getElem?
  intro index
  rw [getElem_foldl_set source.adapters 0 copy.adapters index (by omega)]
  by_cases hindex : index < source.adapters.length
  · rw [if_pos (by omega), Nat.sub_zero]
  · rw [if_neg (by omega), List.getElem?_eq_none (by omega), List.getElem?_eq_none (by omega)]

/-! ## Groups -/

theorem adapterKey_injective {id : Type} (adapter : Nat) :
    Function.Injective fun number : id => (adapter, number) :=
  fun _ _ heq => congrArg Prod.snd heq

theorem put_all {record : Type} {count : Nat} (adapter : Nat) (read : Fin count -> record)
    (table : Nat × Fin count -> Option record) (number : Fin count) :
    put (fun row : Fin count × record => (adapter, row.1)) (fun row _ => row.2)
        ((finRange count).map fun number => (number, read number)) table (adapter, number)
      = some (read number) := by
  rw [<- rowsOf_some]
  exact put_rowsOf (nodup_finRange count) _ (adapterKey_injective adapter) _ table
    (mem_finRange number)

variable {source copy : Inner} {adapter : Nat}

/-! ## Devices -/

theorem persisted_over (stored : PersistableDevice) (device : PhysicalDevice) :
    (stored.over device).persisted = stored := by
  have hbanks : stored.memoryBanks.map (MemoryBankRecord.summary ∘ MemoryBankSummary.record)
      = stored.memoryBanks :=
    List.map_id _
  simp only [persisted, PersistableDevice.over, List.map_map, hbanks]

variable {bank : BankId}

theorem mem_deviceSlice {row : ShortAddress × PersistableDevice}
    (h : row ∈ source.physicalDevicesSlice adapter (some bank)) : bankOf row.1 = bank := by
  have hshort := (mem_rowsOf.mp h).1
  simpa using (mem_filter.mp hshort).2

theorem decodeBank_encode (bank : BankId) :
    decodePhysicalDeviceBank codecs bank
        (codecs.physicalDevices.encode (source.physicalDevicesSlice adapter (some bank)))
      = some (source.physicalDevicesSlice adapter (some bank)) := by
  unfold decodePhysicalDeviceBank
  rw [codecs.physicalDevices.decode_encode, filter_some, if_pos]
  rw [List.all_eq_true]
  intro row hrow
  exact decide_eq_true (mem_deviceSlice hrow)

theorem hydrateBank_same {short : ShortAddress} (hbank : bankOf short = bank) :
    ((copy.hydratePhysicalDeviceBankInner adapter bank
        (source.physicalDevicesSlice adapter (some bank))).devices (adapter, short)).map persisted
      = (source.devices (adapter, short)).map persisted := by
  have hshort : short ∈ (finRange 64).filter fun short =>
      (some bank).all fun bank => bankOf short = bank := by
    simp [hbank]
  simp only [Inner.hydratePhysicalDeviceBankInner, Inner.hydratePhysicalDevicesInner]
  rw [Inner.physicalDevicesSlice, put_rowsOf ((nodup_finRange 64).filter _) _
    (adapterKey_injective adapter) _ _ hshort]
  cases hdevice : source.devices (adapter, short) with
  | some device =>
    simp only [Option.map_some, persisted_over]
  | none =>
    have hgone := fun ids => any_rowsOf_none ids (fun short =>
      (source.devices (adapter, short)).map persisted) (congrArg (Option.map _) hdevice)
    simp only [Option.map_none, ne_eq, not_true_eq_false, decide_false, hbank, Bool.or_self,
      hgone, Bool.false_eq_true, if_false]

theorem hydrateBank_elsewhere {other : Nat} {short : ShortAddress} {slice : PhysicalDevicesSlice}
    (hslice : forall row, row ∈ slice -> bankOf row.1 = bank)
    (h : other ≠ adapter ∨ bankOf short ≠ bank) :
    (copy.hydratePhysicalDeviceBankInner adapter bank slice).devices (other, short)
      = copy.devices (other, short) := by
  simp only [Inner.hydratePhysicalDeviceBankInner, Inner.hydratePhysicalDevicesInner]
  rw [put_elsewhere]
  · rcases h with hother | hbank
    · simp only [hother, ne_eq, not_false_eq_true, decide_true, Bool.true_or, if_true]
    · simp only [hbank, ne_eq, not_false_eq_true, decide_true, Bool.or_true, Bool.true_or, if_true]
  · intro row hrow heq
    rcases h with hother | hbank
    · exact hother (congrArg Prod.fst heq).symm
    · have hshort : row.1 = short := congrArg Prod.snd heq
      exact hbank (hshort ▸ hslice row hrow)

/-! ## Lamps -/

theorem hydrateLamps_same (hpresent : forall lamp short,
      source.bindingShort adapter lamp = some short ->
        (copy.devices (adapter, short)).isSome) (lamp : LampId) :
    (copy.hydrateVirtualLampsInner adapter 0 (source.virtualLampsSlice adapter)).lamps
        (adapter, lamp)
      = source.lamps (adapter, lamp) := by
  simp only [Inner.hydrateVirtualLampsInner]
  rw [Inner.virtualLampsSlice, put_rowsOf (nodup_finRange 64) _
    (adapterKey_injective adapter) _ _ (mem_finRange lamp)]
  cases hrecord : source.lamps (adapter, lamp) with
  | some record =>
    have hkept : copy.bindingShortToKeep adapter 0 record.bindingShort = record.bindingShort := by
      unfold Inner.bindingShortToKeep
      cases hbinding : record.bindingShort with
      | none => rfl
      | some short =>
        have hbound : source.bindingShort adapter lamp = some short := by
          unfold Inner.bindingShort
          rw [hrecord, bind_some, hbinding]
        rw [filter_some, hpresent lamp short hbound, Bool.or_true, if_pos rfl]
    simp only [hkept]
  | none =>
    have hgone := any_rowsOf_none (finRange 64) (fun lamp => source.lamps (adapter, lamp)) hrecord
    simp only [ne_eq, not_true_eq_false, decide_false, Bool.false_or, hgone,
      Bool.false_eq_true, if_false]

/-! ## Scenes -/

/-- What remains of a row that is written and read: nothing of a row that nobody has
seeded. -/
theorem hydrateScene_same (scene : SceneId) (lamp : LampId) :
    (copy.hydrateSceneInner adapter scene (source.sceneSlice adapter scene)).sceneMatrix
        (adapter, scene, lamp)
      = if (source.desiredRow adapter scene lamp).included
          || (source.desiredRow adapter scene lamp).desiredSeeded then
          some ((source.desiredRow adapter scene lamp).persisted lamp).row
        else none := by
  simp only [Inner.hydrateSceneInner, Inner.sceneSlice]
  have hinjective : Function.Injective fun lamp : LampId => (adapter, scene, lamp) := by
    intro one other heq
    exact congrArg (fun key => key.2.2) heq
  have hdistinct : ((((finRange 64).map fun lamp =>
      (source.desiredRow adapter scene lamp).persisted lamp).filter fun row =>
        row.included || row.desiredSeeded).map fun row =>
          (adapter, scene, row.virtualLampId)).Nodup := by
    refine List.Nodup.sublist (filter_sublist.map _) ?_
    rw [List.map_map]
    exact (nodup_finRange 64).map hinjective
  by_cases hkept : ((source.desiredRow adapter scene lamp).included
      || (source.desiredRow adapter scene lamp).desiredSeeded) = true
  · rw [if_pos hkept]
    have hmem : (source.desiredRow adapter scene lamp).persisted lamp
        ∈ ((finRange 64).map fun lamp =>
          (source.desiredRow adapter scene lamp).persisted lamp).filter fun row =>
            row.included || row.desiredSeeded :=
      mem_filter.mpr ⟨mem_map_of_mem (mem_finRange lamp), hkept⟩
    exact put_row hdistinct hmem _
  · rw [if_neg hkept, put_elsewhere]
    · simp only [ne_eq, not_true_eq_false, decide_false, Bool.or_self, Bool.false_eq_true, if_false]
    · intro row hrow heq
      rcases mem_filter.mp hrow with ⟨hmapped, hrowKept⟩
      rcases mem_map.mp hmapped with ⟨found, _, hfound⟩
      subst hfound
      have hlamp : found = lamp := congrArg (fun key => key.2.2) heq
      subst hlamp
      exact hkept hrowKept

theorem hydrateScene_raw {scene : SceneId} {lamp : LampId}
    (htarget : (source.desiredRow adapter scene lamp).included ->
      (source.desiredRow adapter scene lamp).target.isSome) :
    (copy.hydrateSceneInner adapter scene (source.sceneSlice adapter scene)).desiredRaw adapter
        scene lamp = source.desiredRaw adapter scene lamp := by
  have hrow : (copy.hydrateSceneInner adapter scene
      (source.sceneSlice adapter scene)).desiredRow adapter scene lamp = getD _ SceneRow.default :=
    congrArg (fun row => getD row SceneRow.default) (hydrateScene_same scene lamp)
  cases hincluded : (source.desiredRow adapter scene lamp).included with
  | true =>
    rcases isSome_iff_exists.mp (htarget hincluded) with ⟨target, hsome⟩
    rw [hincluded, Bool.true_or, if_pos rfl, getD_some] at hrow
    simp only [Inner.desiredRaw, hrow, PersistableSceneRow.row, SceneRow.persisted,
      hincluded, hsome, bind_some, filter_some, if_true]
  | false =>
    rw [Inner.raw_excluded hincluded]
    apply Inner.raw_excluded
    rw [hrow, hincluded, Bool.false_or]
    split
    · exact hincluded
    · rfl

/-! ## Other adapters -/

structure Elsewhere (adapter : Nat) (before after : Inner) : Prop where
  adapters : after.adapters = before.adapters
  groups : forall other group, other ≠ adapter ->
    after.groups (other, group) = before.groups (other, group)
  groupMatrix : forall other lamp, other ≠ adapter ->
    after.groupMatrix (other, lamp) = before.groupMatrix (other, lamp)
  lamps : forall other lamp, other ≠ adapter ->
    after.lamps (other, lamp) = before.lamps (other, lamp)
  scenes : forall other scene, other ≠ adapter ->
    after.scenes (other, scene) = before.scenes (other, scene)
  sceneMatrix : forall other scene lamp, other ≠ adapter ->
    after.sceneMatrix (other, scene, lamp) = before.sceneMatrix (other, scene, lamp)
  devices : forall other short, other ≠ adapter ->
    after.devices (other, short) = before.devices (other, short)

theorem Elsewhere.refl {inner : Inner} : Elsewhere adapter inner inner :=
  ⟨rfl, fun _ _ _ => rfl, fun _ _ _ => rfl, fun _ _ _ => rfl, fun _ _ _ => rfl,
    fun _ _ _ _ => rfl, fun _ _ _ => rfl⟩

theorem Elsewhere.trans {before between after : Inner} (h : Elsewhere adapter before between)
    (hafter : Elsewhere adapter between after) : Elsewhere adapter before after where
  adapters := hafter.adapters.trans h.adapters
  groups := fun other group hother =>
    (hafter.groups other group hother).trans (h.groups other group hother)
  groupMatrix := fun other lamp hother =>
    (hafter.groupMatrix other lamp hother).trans (h.groupMatrix other lamp hother)
  lamps := fun other lamp hother =>
    (hafter.lamps other lamp hother).trans (h.lamps other lamp hother)
  scenes := fun other scene hother =>
    (hafter.scenes other scene hother).trans (h.scenes other scene hother)
  sceneMatrix := fun other scene lamp hother =>
    (hafter.sceneMatrix other scene lamp hother).trans (h.sceneMatrix other scene lamp hother)
  devices := fun other short hother =>
    (hafter.devices other short hother).trans (h.devices other short hother)

theorem SameAdapter.elsewhere {next : Inner} {other : Nat} (h : SameAdapter source copy other)
    (hother : other ≠ adapter) (hnext : Elsewhere adapter copy next) :
    SameAdapter source next other where
  groups := fun group => by rw [hnext.groups other group hother]; exact h.groups group
  groupRows := fun lamp => by
    unfold Inner.groupRow
    rw [hnext.groupMatrix other lamp hother]
    exact h.groupRows lamp
  lamps := fun lamp => by rw [hnext.lamps other lamp hother]; exact h.lamps lamp
  scenes := fun scene => by rw [hnext.scenes other scene hother]; exact h.scenes scene
  sceneRows := fun scene lamp => by
    unfold Inner.desiredRaw
    rw [Inner.desiredRow_congr (hnext.sceneMatrix other scene lamp hother)]
    exact h.sceneRows scene lamp
  devices := fun short => by rw [hnext.devices other short hother]; exact h.devices short

theorem elsewhere_bank (bank : BankId) :
    Elsewhere adapter copy (copy.hydratePhysicalDeviceBankInner adapter bank
      (source.physicalDevicesSlice adapter (some bank))) where
  __ := @Elsewhere.refl adapter copy
  devices := fun _ _ hother => hydrateBank_elsewhere (fun _ => mem_deviceSlice) (.inl hother)

theorem elsewhere_lamps (waiting : BitVec 16) (slice : VirtualLampsSlice) :
    Elsewhere adapter copy (copy.hydrateVirtualLampsInner adapter waiting slice) where
  __ := @Elsewhere.refl adapter copy
  lamps := fun _ lamp hother => hydrateLamps_elsewhere hother lamp

theorem hydrateScene_elsewhere {scene place : SceneId} {other : Nat} {slice : SceneSlice}
    (h : (other, place) ≠ (adapter, scene)) :
    (copy.hydrateSceneInner adapter scene slice).scenes (other, place) = copy.scenes (other, place)
      ∧ forall lamp, (copy.hydrateSceneInner adapter scene slice).sceneMatrix
        (other, place, lamp) = copy.sceneMatrix (other, place, lamp) := by
  simp only [Inner.hydrateSceneInner]
  constructor
  · exact update_of_ne h _ _
  · intro lamp
    rw [put_elsewhere]
    · have hkept : (other ≠ adapter || place ≠ scene) := by
        rw [Bool.or_eq_true, decide_eq_true_eq, decide_eq_true_eq]
        by_contra hboth
        rw [not_or, not_not, not_not] at hboth
        exact h (by rw [hboth.1, hboth.2])
      rw [if_pos hkept]
    · intro row _ heq
      apply h
      rw [show other = adapter from (congrArg Prod.fst heq).symm,
        show place = scene from (congrArg (fun key => key.2.1) heq).symm]

theorem elsewhere_scene (scene : SceneId) (slice : SceneSlice) :
    Elsewhere adapter copy (copy.hydrateSceneInner adapter scene slice) := by
  have hdiffer : forall other place, other ≠ adapter -> (other, place) ≠ (adapter, scene) := by
    intro other place hother heq
    exact hother (congrArg Prod.fst heq)
  exact {
    __ := @Elsewhere.refl adapter copy
    scenes := fun other place hother => (hydrateScene_elsewhere (hdiffer other place hother)).1
    sceneMatrix := fun other place lamp hother =>
      (hydrateScene_elsewhere (hdiffer other place hother)).2 lamp }

/-! ## Reading the slices back -/

section Reload

variable {slices : SliceStore bytes} {store : RegistryStore}

section

variable (h : adapter < source.adapters.length)
include h

theorem read_groups :
    store.hydrateGroupsSlice codecs (source.flushAll codecs slices) adapter
      = { store with
          inner := store.inner.hydrateGroupsInner adapter (source.groupsSlice adapter) } := by
  simp only [hydrateGroupsSlice, Inner.flushAll, if_pos h, readSlot_encode, change]

theorem read_lamps :
    store.hydrateVlSlice codecs (source.flushAll codecs slices) adapter
      = { store with
          inner := store.inner.hydrateVirtualLampsInner adapter
            (store.dirty.withheldBanks adapter) (source.virtualLampsSlice adapter) } := by
  simp only [hydrateVlSlice, Inner.flushAll, if_pos h, readSlot_encode, change]

theorem read_scene (scene : SceneId) :
    store.hydrateSceneSlice codecs (source.flushAll codecs slices) adapter scene
      = { store with
          inner := store.inner.hydrateSceneInner adapter scene
            (source.sceneSlice adapter scene) } := by
  simp only [hydrateSceneSlice, Inner.flushAll, if_pos h, readSlot_encode, change]

theorem read_bank (bank : BankId) :
    bankSlot codecs (source.flushAll codecs slices) adapter bank
      = (.loaded, some (source.physicalDevicesSlice adapter (some bank))) := by
  simp only [bankSlot, Inner.flushAll, if_pos h, readSlot, decodeBank_encode]

end

def readBanks (source inner : Inner) (adapter : Nat) : Inner :=
  (finRange 16).foldl (fun inner bank => inner.hydratePhysicalDeviceBankInner adapter
    bank (source.physicalDevicesSlice adapter (some bank))) inner

theorem read_banks (h : adapter < source.adapters.length) :
    store.hydratePhysicalDeviceBanks codecs (source.flushAll codecs slices) adapter (finRange 16)
      = { store with inner := readBanks source store.inner adapter } := by
  unfold hydratePhysicalDeviceBanks readBanks
  simp only [read_bank h, change]
  generalize finRange 16 = banks
  induction banks generalizing store with
  | nil => rfl
  | cons bank rest ih => exact ih

theorem outcomes_loaded (h : adapter < source.adapters.length) :
    bankOutcomes codecs (source.flushAll codecs slices) adapter
      (finRange 16) = ⟨BitVec.allOnes 16, 0, 0, 0⟩ := by
  unfold bankOutcomes
  simp only [read_bank h]
  decide +kernel

/-- Every bank loads: the old slot is not asked for, and no bank waits. -/
theorem read_devices (codecs : Codecs bytes) (slices : SliceStore bytes) (store : RegistryStore)
    (h : adapter < source.adapters.length) :
    exists dirty : DirtyFlags, exists released : BitVec 16, dirty.withheldBanks adapter = 0
        ∧ store.hydratePhysicalDevicesOf codecs (source.flushAll codecs slices) adapter
          (finRange 16) = dropBindingsTheirBanksLack
              ⟨readBanks source store.inner adapter, dirty⟩ adapter released := by
  unfold hydratePhysicalDevicesOf
  simp only [read_banks h, outcomes_loaded h]
  have hopen : BankOutcomes.open_ ⟨BitVec.allOnes 16, 0, 0, 0⟩ = 0 := by decide
  simp only [readOldSlot]
  refine ⟨_, _, ?_, rfl⟩
  unfold DirtyFlags.settlePhysicalDeviceBanks
  split
  · rename_i hsmall
    simp only [DirtyFlags.withheldBanks, if_pos hsmall, update_self]
    have hsettled : (BankOutcomes.decide ⟨BitVec.allOnes 16, 0, 0, 0⟩ none).settled
        = BitVec.allOnes 16 := by decide
    have hwaiting : (BankOutcomes.decide ⟨BitVec.allOnes 16, 0, 0, 0⟩ none).waiting = 0 := by decide
    rw [hsettled, hwaiting]
    simp
  · rename_i hlarge
    simp only [DirtyFlags.withheldBanks, if_neg hlarge]

theorem readBanks_devices (short : ShortAddress) :
    ((readBanks source copy adapter).devices (adapter, short)).map persisted
      = (source.devices (adapter, short)).map persisted := by
  refine foldl_reaches (fun _ => True) (fun inner : Inner =>
    (inner.devices (adapter, short)).map persisted
      = (source.devices (adapter, short)).map persisted)
    _ (fun _ _ _ _ => True.intro) ?_ ?_ (mem_finRange (bankOf short)) True.intro
  · intro inner bank _ hbank _ hinner
    rw [hydrateBank_elsewhere (fun _ => mem_deviceSlice) (.inr hbank)]
    exact hinner
  · intro inner _
    exact hydrateBank_same rfl

theorem readBanks_elsewhere : Elsewhere adapter copy (readBanks source copy adapter) :=
  foldlRecOn (motive := Elsewhere adapter copy) _ _ .refl
    fun _ hinner bank _ => hinner.trans (elsewhere_bank bank)

theorem readBanks_kept :
    (readBanks source copy adapter).groups = copy.groups
      ∧ (readBanks source copy adapter).groupMatrix = copy.groupMatrix :=
  foldlRecOn (motive := fun inner : Inner => inner.groups = copy.groups
    ∧ inner.groupMatrix = copy.groupMatrix) _ _ ⟨rfl, rfl⟩ fun _ hinner _ _ => hinner

def readScenes (source inner : Inner) (adapter : Nat) : Inner :=
  (finRange 16).foldl (fun inner scene => inner.hydrateSceneInner adapter scene
    (source.sceneSlice adapter scene)) inner

theorem readScenes_elsewhere : Elsewhere adapter copy (readScenes source copy adapter) :=
  foldlRecOn (motive := Elsewhere adapter copy) _ _ .refl
    fun _ hinner scene _ => hinner.trans (elsewhere_scene scene _)

theorem readScenes_kept :
    (readScenes source copy adapter).groups = copy.groups
      ∧ (readScenes source copy adapter).groupMatrix = copy.groupMatrix
      ∧ (readScenes source copy adapter).lamps = copy.lamps
      ∧ (readScenes source copy adapter).devices = copy.devices :=
  foldlRecOn (motive := fun inner : Inner => inner.groups = copy.groups
    ∧ inner.groupMatrix = copy.groupMatrix ∧ inner.lamps = copy.lamps
    ∧ inner.devices = copy.devices) _ _ ⟨rfl, rfl, rfl, rfl⟩ fun _ hinner _ _ => hinner

theorem readScenes_scene (scene : SceneId) :
    (readScenes source copy adapter).scenes (adapter, scene)
      = some ((source.scenes (adapter, scene)).getD SceneRecord.default) := by
  refine foldl_reaches (fun _ => True) (fun inner : Inner => inner.scenes (adapter, scene)
      = some ((source.scenes (adapter, scene)).getD SceneRecord.default))
    _ (fun _ _ _ _ => True.intro) ?_ ?_ (mem_finRange scene) True.intro
  · intro inner place _ hplace _ hinner
    refine (hydrateScene_elsewhere ?_).1.trans hinner
    intro heq
    exact hplace (congrArg Prod.snd heq)
  · intro inner _
    exact update_self _ _ _

theorem readScenes_raw {scene : SceneId} {lamp : LampId}
    (htarget : (source.desiredRow adapter scene lamp).included ->
      (source.desiredRow adapter scene lamp).target.isSome) :
    (readScenes source copy adapter).desiredRaw adapter scene lamp
      = source.desiredRaw adapter scene lamp := by
  refine foldl_reaches (fun _ => True) (fun inner : Inner => inner.desiredRaw adapter scene
      lamp = source.desiredRaw adapter scene lamp)
    _ (fun _ _ _ _ => True.intro) ?_ ?_ (mem_finRange scene) True.intro
  · intro inner place _ hplace _ hinner
    have hdiffer : (adapter, scene) ≠ (adapter, place) := fun heq => hplace (congrArg Prod.snd heq)
    unfold Inner.desiredRaw
    rw [Inner.desiredRow_congr ((hydrateScene_elsewhere hdiffer).2 lamp)]
    exact hinner
  · intro inner _
    exact hydrateScene_raw htarget

/-! ## One adapter -/

theorem drop_kept (released : BitVec 16) :
    let dropped := (store.dropBindingsTheirBanksLack adapter released).inner
    dropped.devices = store.inner.devices ∧ dropped.groups = store.inner.groups
      ∧ dropped.groupMatrix = store.inner.groupMatrix :=
  ⟨rfl, rfl, rfl⟩

theorem read_scenes (h : adapter < source.adapters.length) :
    (finRange 16).foldl (fun store scene =>
        store.hydrateSceneSlice codecs (source.flushAll codecs slices) adapter scene) store
      = { store with inner := readScenes source store.inner adapter } := by
  simp only [read_scene h]
  unfold readScenes
  generalize finRange 16 = scenes
  induction scenes generalizing store with
  | nil => rfl
  | cons scene rest ih => exact ih

theorem reload_steps (codecs : Codecs bytes) (slices : SliceStore bytes) (store : RegistryStore)
    (h : adapter < source.adapters.length) :
    exists dirty : DirtyFlags, exists released : BitVec 16,
      (store.hydrateAdapter codecs (source.flushAll codecs slices) adapter).inner
        = readScenes source ((dropBindingsTheirBanksLack
            ⟨readBanks source (store.inner.hydrateGroupsInner adapter
              (source.groupsSlice adapter)) adapter, dirty⟩ adapter
                released).inner.hydrateVirtualLampsInner adapter 0
                  (source.virtualLampsSlice adapter)) adapter := by
  rcases read_devices codecs slices { store with
    inner := store.inner.hydrateGroupsInner adapter (source.groupsSlice adapter) } h with
    ⟨dirty, released, hwithheld, hdevices⟩
  refine ⟨dirty, released, ?_⟩
  unfold hydrateAdapter
  simp only [read_groups h, hdevices, read_lamps h, read_scenes h]
  rw [show (dropBindingsTheirBanksLack
    ⟨readBanks source (store.inner.hydrateGroupsInner adapter (source.groupsSlice adapter))
      adapter, dirty⟩ adapter released).dirty.withheldBanks adapter = 0 from hwithheld]

theorem reload_adapter (codecs : Codecs bytes) (slices : SliceStore bytes) (store : RegistryStore)
    (h : adapter < source.adapters.length)
    (hpresent : forall lamp short, source.bindingShort adapter lamp = some short ->
      (source.devices (adapter, short)).isSome)
    (htarget : forall scene lamp, (source.desiredRow adapter scene lamp).included ->
      (source.desiredRow adapter scene lamp).target.isSome) :
    SameAdapter source (store.hydrateAdapter codecs (source.flushAll codecs slices)
        adapter).inner adapter
      ∧ Elsewhere adapter store.inner (store.hydrateAdapter codecs
        (source.flushAll codecs slices) adapter).inner := by
  rcases reload_steps codecs slices store h with ⟨dirty, released, hsteps⟩
  rw [hsteps]
  generalize hgrouped : store.inner.hydrateGroupsInner adapter (source.groupsSlice adapter)
    = grouped
  generalize hfound : (dropBindingsTheirBanksLack
    ⟨readBanks source grouped adapter, dirty⟩ adapter released).inner = found
  have hdevices : forall short, (found.devices (adapter, short)).map persisted
      = (source.devices (adapter, short)).map persisted := by
    intro short
    rw [<- hfound, (drop_kept released).1]
    exact readBanks_devices short
  have hlamps : forall lamp, (found.hydrateVirtualLampsInner adapter 0
      (source.virtualLampsSlice adapter)).lamps (adapter, lamp) = source.lamps (adapter, lamp) := by
    apply hydrateLamps_same
    intro lamp short hbinding
    have hsame := congrArg isSome (hdevices short)
    rw [isSome_map, isSome_map] at hsame
    rw [hsame]
    exact hpresent lamp short hbinding
  have hgroups : (forall group, found.groups (adapter, group)
        = some ((source.groups (adapter, group)).getD GroupRecord.default))
      ∧ forall lamp, found.groupMatrix (adapter, lamp) = some (source.groupRow adapter lamp) := by
    rw [<- hfound, (drop_kept released).2.1, (drop_kept released).2.2, readBanks_kept.1,
      readBanks_kept.2, <- hgrouped]
    simp only [Inner.hydrateGroupsInner, Inner.groupsSlice]
    constructor
    · intro group
      rw [put_all]
    · intro lamp
      rw [put_all]
  constructor
  · constructor
    · intro group
      rw [readScenes_kept.1]
      have hsame := congrArg (Option.getD · GroupRecord.default) (hgroups.1 group)
      exact hsame
    · intro lamp
      rw [Inner.groupRow_congr readScenes_kept.2.1]
      have hsame := congrArg (Option.getD · GroupRow.default) (hgroups.2 lamp)
      exact hsame
    · intro lamp
      exact hlamps lamp
    · intro scene
      rw [readScenes_scene]
      rfl
    · intro scene lamp
      exact readScenes_raw (htarget scene lamp)
    · intro short
      exact hdevices short
  · have hfirst : Elsewhere adapter store.inner grouped := by
      rw [<- hgrouped]
      exact {
        __ := @Elsewhere.refl adapter store.inner
        groups := fun _ _ hother => by simp only [Inner.hydrateGroupsInner, put_beside hother]
        groupMatrix := fun _ _ hother => by
          simp only [Inner.hydrateGroupsInner, put_beside hother] }
    have hsecond : Elsewhere adapter (readBanks source grouped adapter) found := by
      rw [<- hfound]
      exact {
        __ := @Elsewhere.refl adapter (readBanks source grouped adapter)
        lamps := fun _ _ hother => if_neg hother }
    exact hfirst.trans (readBanks_elsewhere.trans (hsecond.trans
      ((elsewhere_lamps 0 _).trans readScenes_elsewhere)))

/-! ## All adapters -/

/-- A registry whose bindings all have their device, as every registry has, and whose
included scene rows carry a target.  Whatever the other registry held before it reads the
slices, it then has the same configuration. -/
theorem reload_same_configuration (codecs : Codecs bytes) (slices : SliceStore bytes)
    (source : Inner) (store : RegistryStore)
    (hcount : store.inner.adapters.length = source.adapters.length) (hbound : source.Bound)
    (htarget : forall adapter scene lamp, (source.desiredRow adapter scene lamp).included = true ->
        (source.desiredRow adapter scene lamp).target.isSome = true) :
    SameConfiguration source (store.hydrateAll codecs (source.flushAll codecs slices)
      store.inner.adapters.length).inner := by
  have hnamed : (store.hydrateAdaptersSlice codecs
      (source.flushAll codecs slices)).inner.adapters = source.adapters := by
    simp only [hydrateAdaptersSlice, Inner.flushAll, readSlot_encode, change]
    exact hydrateAdapters_same hcount
  have hstep : forall (current : RegistryStore) adapter, adapter ∈ range source.adapters.length ->
      SameAdapter source (current.hydrateAdapter codecs (source.flushAll codecs slices)
          adapter).inner adapter
        ∧ Elsewhere adapter current.inner (current.hydrateAdapter codecs
          (source.flushAll codecs slices) adapter).inner := by
    intro current adapter hadapter
    exact reload_adapter codecs slices current (mem_range.mp hadapter)
      (hbound.present adapter) (htarget adapter)
  rw [hcount]
  constructor
  · exact foldlRecOn (motive := fun current : RegistryStore =>
      current.inner.adapters = source.adapters) _ _ hnamed
      fun current hcurrent adapter hadapter =>
        (hstep current adapter hadapter).2.adapters.trans hcurrent
  · intro adapter hadapter
    refine foldl_reaches (fun _ => True) (fun current : RegistryStore =>
      SameAdapter source current.inner adapter) _ (fun _ _ _ _ => True.intro) ?_ ?_
      (mem_range.mpr hadapter) True.intro
    · intro current other hother hne _ hcurrent
      exact hcurrent.elsewhere hne (hstep current other hother).2
    · intro current _
      exact (hstep current adapter (mem_range.mpr hadapter)).1

end Reload

/-! ## A hall lamp -/

def hallLamp : Inner :=
  (((Inner.new [⟨"Hall", true⟩]).applyDiscoveryProgress 0 5 none id).setBinding 0 1
    (some 5)).applySceneMatrixRows 0 3 [(1, true, some ⟨none, some 100, none⟩)]

theorem hallLamp_binding (adapter : Nat) (lamp : LampId) :
    hallLamp.bindingShort adapter lamp = if (adapter, lamp) = (0, 1) then some 5 else none :=
  Inner.bindingShort_setBinding adapter lamp

theorem hallLamp_bound : hallLamp.Bound := by
  constructor
  · intro adapter lamp other short hlamp hother
    rw [hallLamp_binding] at hlamp hother
    split at hlamp
    · split at hother
      · rename_i hone htwo
        exact congrArg Prod.snd (hone.trans htwo.symm)
      · cases hother
    · cases hlamp
  · intro adapter lamp short hlamp
    rw [hallLamp_binding] at hlamp
    split at hlamp
    · rename_i hkey
      cases hkey
      cases hlamp
      decide +kernel
    · cases hlamp

theorem hallLamp_target (adapter : Nat) (scene : SceneId) (lamp : LampId)
    (h : (hallLamp.desiredRow adapter scene lamp).included) :
    (hallLamp.desiredRow adapter scene lamp).target.isSome := by
  have hrow : hallLamp.sceneMatrix (adapter, scene, lamp)
      = Function.update (fun _ => none) (0, 3, 1)
        (some (⟨true, some ⟨none, some 100, none⟩, true, true⟩ : SceneRow))
          (adapter, scene, lamp) := rfl
  unfold Inner.desiredRow at h ⊢
  rw [hrow] at h ⊢
  by_cases hkey : (adapter, scene, lamp) = ((0, 3, 1) : Nat × SceneId × LampId)
  · rw [hkey, update_self]
    rfl
  · rw [update_of_ne hkey] at h
    cases h

/-- Two lamps of another registry make way for the one that is stored. -/
theorem hallLamp_reload :
    SameConfiguration hallLamp (hydrateAll plainCodecs
      (hallLamp.flushAll plainCodecs fun _ => .error .missing)
        ⟨boundLamps, DirtyFlags.new⟩ 1).inner :=
  reload_same_configuration plainCodecs _ hallLamp
    ⟨boundLamps, DirtyFlags.new⟩ (by decide +kernel) hallLamp_bound hallLamp_target

end Oxidali.Lamps
