import Oxidali.Lamps.Scenes
import Oxidali.Lamps.Slices

/-!
# Bindings

No two lamps of an adapter are bound to one short address, and the device that a lamp is
bound to is always there.  Devices are found, evicted, forgotten, moved and replaced, and a
boot may pair an old slice of the lamps with whatever device banks are stored.
-/

namespace Oxidali.Lamps

open List Function Option

/-! ## Histories -/

inductive DeviceOp where
  | discovery (adapter : Nat) (short : ShortAddress) (randomAddress : Option Nat)
      (found : DeviceProfile -> DeviceProfile)
  | reconcile (adapter : Nat) (confirmedMask : BitVec 64)
  | forget (adapter : Nat) (short : ShortAddress)
  | addressChange (adapter : Nat) (old new : ShortAddress)
  | replace (adapter : Nat) (failed replacement : ShortAddress) (restore : Bool)
  | bind (adapter : Nat) (lamp : LampId) (short : ShortAddress)
  | unbind (adapter : Nat) (lamp : LampId)
  | delete (adapter : Nat) (lamp : LampId)

def Inner.applyDevice (self : Inner) : DeviceOp -> Inner
  | .discovery adapter short randomAddress found =>
    self.applyDiscoveryProgress adapter short randomAddress found
  | .reconcile adapter confirmedMask => self.reconcileDiscoveryScan adapter confirmedMask
  | .forget adapter short => self.applyPhysicalDeviceForget adapter short
  | .addressChange adapter old new => self.applyAddressChange adapter old new
  | .replace adapter failed replacement restore =>
    self.applyDeviceReplacement adapter failed replacement restore
  | .bind adapter lamp short => self.applyVirtualLampBind adapter lamp short
  | .unbind adapter lamp => self.unbindLamp adapter lamp
  | .delete adapter lamp => self.applyVirtualLampDelete adapter lamp

namespace Inner

variable {inner next : Inner} {adapter other : Nat} {lamp key : LampId}
variable {short old new : ShortAddress}

structure Bound (inner : Inner) : Prop where
  alone : forall adapter lamp other short, inner.bindingShort adapter lamp = some short ->
    inner.bindingShort adapter other = some short -> lamp = other
  present : forall adapter lamp short, inner.bindingShort adapter lamp = some short ->
    (inner.devices (adapter, short)).isSome = true

theorem bound_new (adapters : List AdapterRecord) : Bound (Inner.new adapters) := by
  constructor
  · intro adapter lamp other short hlamp
    cases hlamp
  · intro adapter lamp short hlamp
    cases hlamp

/-! ## Bindings of many lamps -/

theorem foldl_devices {α : Type} {step : Inner -> α -> Inner}
    (hstep : forall state item, (step state item).devices = state.devices) (items : List α) :
    (items.foldl step inner).devices = inner.devices :=
  foldlRecOn (motive := (Inner.devices · = _)) items _ rfl fun _ h item _ =>
    (hstep _ item).trans h

theorem unbindLampsOf_devices : (inner.unbindLampsOf adapter short).devices = inner.devices := by
  apply foldl_devices
  intro state item
  rfl

theorem rebindLamps_devices : (inner.rebindLamps adapter old new).devices = inner.devices := by
  apply foldl_devices
  intro state item
  rfl

section

variable {step : Inner -> LampId -> Inner} {target : Option ShortAddress}
  (hstep : forall state item place key, (step state item).bindingShort place key
    = if (place, key) = (adapter, item) then target else state.bindingShort place key)
include hstep

theorem foldl_binding (items : List LampId) (place : Nat) (key : LampId) :
    (items.foldl step inner).bindingShort place key
      = if place = adapter ∧ key ∈ items then target else inner.bindingShort place key := by
  induction items generalizing inner with
  | nil => simp only [foldl_nil, not_mem_nil, and_false, if_false]
  | cons item rest ih =>
    rw [foldl_cons, ih, hstep]
    by_cases hrest : place = adapter ∧ key ∈ rest
    · rw [if_pos hrest, if_pos ⟨hrest.1, mem_cons_of_mem _ hrest.2⟩]
    · rw [if_neg hrest]
      by_cases hitem : (place, key) = (adapter, item)
      · cases hitem
        rw [if_pos rfl, if_pos ⟨rfl, mem_cons_self⟩]
      · rw [if_neg hitem, if_neg]
        intro hmem
        rcases mem_cons.mp hmem.2 with heq | hmem'
        · exact hitem (by rw [hmem.1, heq])
        · exact hrest ⟨hmem.1, hmem'⟩

theorem foldl_bound (place : Nat) (key : LampId) :
    ((inner.lampsBoundTo adapter short).foldl step inner).bindingShort place key
      = if place = adapter ∧ inner.bindingShort place key = some short then target
        else inner.bindingShort place key := by
  rw [foldl_binding hstep]
  by_cases hplace : place = adapter
  · subst hplace
    simp only [true_and, mem_lampsBoundTo]
  · simp only [hplace, false_and]

end

theorem bindingShort_rebindLamps (place : Nat) (key : LampId) :
    (inner.rebindLamps adapter old new).bindingShort place key
      = if place = adapter ∧ inner.bindingShort place key = some old then some new
        else inner.bindingShort place key :=
  foldl_bound (fun _ _ place key => bindingShort_setBinding place key) place key

theorem unbindLampsOf_kept {place : Nat} {bound : ShortAddress}
    (h : (inner.unbindLampsOf adapter short).bindingShort place key = some bound) :
    inner.bindingShort place key = some bound ∧ (place, bound) ≠ (adapter, short) := by
  unfold unbindLampsOf at h
  rw [foldl_bound (fun _ _ place key => bindingShort_unbind place key)] at h
  split at h
  · cases h
  · rename_i hother
    refine ⟨h, ?_⟩
    intro heq
    cases heq
    exact hother ⟨rfl, h⟩

/-! ## One operation -/

section

variable (h : Bound inner)
include h

section

variable (hbinding : forall adapter lamp short, next.bindingShort adapter lamp = some short ->
  inner.bindingShort adapter lamp = some short)
include hbinding

theorem Bound.fewer
    (hpresent : forall adapter lamp short, next.bindingShort adapter lamp = some short ->
      (next.devices (adapter, short)).isSome) : Bound next := by
  constructor
  · intro adapter lamp other short hlamp hother
    exact h.alone adapter lamp other short (hbinding _ _ _ hlamp) (hbinding _ _ _ hother)
  · exact hpresent

theorem Bound.sameDevices (hdevices : next.devices = inner.devices) : Bound next := by
  apply h.fewer hbinding
  intro adapter lamp short hlamp
  rw [hdevices]
  exact h.present adapter lamp short (hbinding _ _ _ hlamp)

end

theorem Bound.discovery (randomAddress : Option Nat) (found : DeviceProfile -> DeviceProfile) :
    Bound (inner.applyDiscoveryProgress adapter short randomAddress found) := by
  refine h.fewer (fun _ _ _ hbinding => hbinding) ?_
  intro place key bound hbinding
  by_cases hkey : (place, bound) = (adapter, short)
  · rw [hkey]
    unfold applyDiscoveryProgress
    simp only [update_self, isSome_some]
  · unfold applyDiscoveryProgress
    simp only [update_of_ne hkey]
    exact h.present place key bound hbinding

theorem Bound.unbind : Bound (inner.unbindLamp adapter lamp) := by
  refine h.sameDevices ?_ rfl
  intro place key bound hbinding
  rw [bindingShort_unbind] at hbinding
  split at hbinding
  · cases hbinding
  · exact hbinding

theorem Bound.delete : Bound (inner.applyVirtualLampDelete adapter lamp) := by
  refine h.sameDevices ?_ rfl
  intro place key bound hbinding
  unfold bindingShort applyVirtualLampDelete at hbinding
  by_cases hkey : (place, key) = (adapter, lamp)
  · simp only [hkey, update_self] at hbinding
    cases hbinding
  · simp only [update_of_ne hkey] at hbinding
    exact hbinding

theorem Bound.remove : Bound ((inner.removeDevice adapter short).unbindLampsOf adapter short) := by
  refine h.fewer ?_ ?_ <;> intro place key bound hbinding <;>
    rcases unbindLampsOf_kept hbinding with ⟨hbefore, hother⟩
  · exact hbefore
  · rw [unbindLampsOf_devices]
    unfold removeDevice
    simp only [update_of_ne hother]
    exact h.present place key bound hbefore

theorem Bound.forget : Bound (inner.applyPhysicalDeviceForget adapter short) := by
  unfold applyPhysicalDeviceForget
  split
  · exact h
  · exact h.remove

theorem Bound.reconcile (confirmedMask : BitVec 64) :
    Bound (inner.reconcileDiscoveryScan adapter confirmedMask) := by
  have hcounted : Bound (inner.countScanMisses adapter confirmedMask) := by
    refine h.fewer (fun _ _ _ hbinding => hbinding) ?_
    intro place key bound hbinding
    have hpresent := h.present place key bound hbinding
    unfold countScanMisses
    simp only
    split
    · rw [isSome_map]
      exact hpresent
    · exact hpresent
  exact foldlRecOn (motive := Bound) _ _ hcounted fun _ hstate _ _ => hstate.remove

end

/-- A device has moved from one short address to another. -/
def moved (inner : Inner) (adapter : Nat) (gone taken : ShortAddress)
    (record : PhysicalDevice) : Inner :=
  { inner with
    devices := Function.update (Function.update inner.devices (adapter, gone) none)
      (adapter, taken) (some record) }

variable {record : PhysicalDevice}

section

variable (h : Bound inner)
include h

theorem Bound.moved_present {gone taken : ShortAddress} {place : Nat} {bound : ShortAddress}
    (hbinding : inner.bindingShort place lamp = some bound)
    (hother : (place, bound) ≠ (adapter, gone)) :
    ((inner.moved adapter gone taken record).devices (place, bound)).isSome := by
  unfold moved
  dsimp only
  by_cases htaken : (place, bound) = (adapter, taken)
  · rw [htaken, update_self]
    rfl
  · rw [update_of_ne htaken, update_of_ne hother]
    exact h.present place lamp bound hbinding

/-- The lamps follow a device that moves to a short address without lamps. -/
theorem Bound.rebind {gone taken : ShortAddress}
    (hunbound : forall key, inner.bindingShort adapter key ≠ some taken) :
    Bound ((inner.moved adapter gone taken record).rebindLamps adapter gone taken) := by
  constructor
  · intro place lamp key bound hlamp hkey
    rw [bindingShort_rebindLamps] at hlamp hkey
    split at hlamp
    · rename_i hmoved
      rcases hmoved with ⟨rfl, hmoved⟩
      cases hlamp
      split at hkey
      · rename_i hother
        exact h.alone place lamp key gone hmoved hother.2
      · exact absurd hkey (hunbound key)
    · split at hkey
      · rename_i hother
        rcases hother with ⟨rfl, _⟩
        cases hkey
        exact absurd hlamp (hunbound lamp)
      · exact h.alone place lamp key bound hlamp hkey
  · intro place lamp bound hlamp
    rw [bindingShort_rebindLamps] at hlamp
    rw [rebindLamps_devices]
    split at hlamp
    · rename_i hmoved
      cases hlamp
      simp only [moved, hmoved.1, update_self, isSome_some]
    · rename_i hstays
      refine h.moved_present hlamp ?_
      intro heq
      cases heq
      exact hstays ⟨rfl, hlamp⟩

theorem Bound.addressChange : Bound (inner.applyAddressChange adapter old new) := by
  unfold applyAddressChange
  split
  · exact h
  · rename_i hguard
    rw [Bool.or_eq_true, not_or, decide_eq_true_eq] at hguard
    split
    · exact h
    · exact h.rebind fun key hbinding => hguard.2 (h.present adapter key new hbinding)

variable {failed replacement : ShortAddress}

/-- The replacement stands where the failed device stood: the lamps of the failed device
stay, or else those of the replacement move there. -/
theorem Bound.handOver :
    Bound (handOverLamps (inner.moved adapter replacement failed record) adapter failed
      replacement) := by
  unfold handOverLamps
  simp only
  split
  · rename_i hempty
    refine h.rebind fun key hbinding => ?_
    have hmem : key ∈ inner.lampsBoundTo adapter failed := mem_lampsBoundTo.mpr hbinding
    exact ne_nil_of_mem hmem (isEmpty_iff.mp hempty)
  · refine h.fewer ?_ ?_ <;> intro place key bound hbinding <;>
      rcases unbindLampsOf_kept hbinding with ⟨hbefore, hother⟩
    · exact hbefore
    · change ((unbindLampsOf _ adapter replacement).devices (place, bound)).isSome = true
      rw [unbindLampsOf_devices]
      exact h.moved_present hbefore hother

theorem Bound.replace (restore : Bool) :
    Bound (inner.applyDeviceReplacement adapter failed replacement restore) := by
  unfold applyDeviceReplacement
  split
  · exact h
  · split
    · exact h
    · exact h.handOver

end

theorem readopted (inner : Inner) (adapter : Nat) (lamp : LampId) (short : ShortAddress) :
    ((inner.setBinding adapter lamp (some short)).readoptForBinding adapter lamp
        (inner.bindingShort adapter lamp) short).devices = inner.devices
      ∧ ((inner.setBinding adapter lamp (some short)).readoptForBinding adapter lamp
        (inner.bindingShort adapter lamp) short).bindingShort
          = (inner.rebound adapter lamp short).bindingShort := by
  have hdevices : (inner.rebound adapter lamp short).devices = _ := rebound_rest.2.1
  unfold readoptForBinding
  simp only
  split
  · exact ⟨hdevices, rfl⟩
  · constructor
    · refine Eq.trans ?_ hdevices
      apply foldl_devices
      intro state scene
      exact seedScene_rest.1
    · exact bindingShort_congr groupsKept_readoptScenes.lamps

theorem Bound.bind (h : Bound inner) : Bound (inner.applyVirtualLampBind adapter lamp short) := by
  unfold applyVirtualLampBind
  split
  · exact h
  · rename_i hdevice
    split
    · exact h
    · rename_i hfree
      rcases readopted inner adapter lamp short with ⟨hdevices, hbindings⟩
      have hother : forall key, inner.bindingShort adapter key = some short ->
          key = lamp := by
        intro key hkey
        by_contra hne
        apply hfree
        rw [List.any_eq_true]
        exact ⟨key, mem_lampsBoundTo.mpr hkey, decide_eq_true hne⟩
      constructor
      · intro place one two bound hone htwo
        rw [hbindings, rebound_bindingShort] at hone htwo
        split at hone
        · rename_i hkey
          cases hkey
          cases hone
          split at htwo
          · rename_i hkey
            exact (congrArg Prod.snd hkey).symm
          · exact (hother two htwo).symm
        · split at htwo
          · rename_i hkey
            cases hkey
            cases htwo
            exact hother one hone
          · exact h.alone place one two bound hone htwo
      · intro place one bound hone
        rw [hbindings, rebound_bindingShort] at hone
        rw [hdevices]
        split at hone
        · rename_i hkey
          cases hkey
          cases hone
          rwa [Bool.not_eq_true, isNone_eq_false_iff] at hdevice
        · exact h.present place one bound hone

theorem Bound.apply (h : Bound inner) (op : DeviceOp) : Bound (inner.applyDevice op) := by
  cases op with
  | discovery adapter short randomAddress found => exact h.discovery randomAddress found
  | reconcile adapter confirmedMask => exact h.reconcile confirmedMask
  | forget adapter short => exact h.forget
  | addressChange adapter old new => exact h.addressChange
  | replace adapter failed replacement restore => exact h.replace restore
  | bind adapter lamp short => exact h.bind
  | unbind adapter lamp => exact h.unbind
  | delete adapter lamp => exact h.delete

end Inner

/-! ## Boots -/

namespace RegistryStore

open Lamps.Inner

variable {bytes : Type} {codecs : Codecs bytes} {slices : SliceStore bytes}
variable {store next last : RegistryStore} {adapter : Nat}

/-- No lamp stands twice in the slice, and no two of them are bound to one device. -/
structure Distinct (slice : VirtualLampsSlice) : Prop where
  lamps : (slice.map Prod.fst).Nodup
  bindings : forall one other, one ∈ slice -> other ∈ slice -> forall short,
    one.2.bindingShort = some short -> other.2.bindingShort = some short -> one = other

variable {inner : Inner}

theorem distinct_slice (h : Inner.Bound inner) (adapter : Nat) :
    Distinct (inner.virtualLampsSlice adapter) := by
  constructor
  · exact (Table.rowsOf_ids _ _).nodup (nodup_finRange 64)
  · intro one other hone hother short hshort hsame
    have hone' := (Table.mem_rowsOf.mp hone).2
    have hother' := (Table.mem_rowsOf.mp hother).2
    have hlamp : one.1 = other.1 := by
      apply h.alone adapter one.1 other.1 short
      · unfold bindingShort
        rw [hone', bind_some]
        exact hshort
      · unfold bindingShort
        rw [hother', bind_some]
        exact hsame
    rw [hlamp, hother'] at hone'
    exact Prod.ext hlamp (Option.some.inj hone').symm

/-- The store can be read, and a slice of the lamps in it is one of those committed. -/
structure Readable (codecs : Codecs bytes) (committed : Nat -> List VirtualLampsSlice)
    (slices : SliceStore bytes) : Prop where
  read : forall key, slices key ≠ .error .backend
  lamps : forall adapter slice, (readSlot (slices (.virtualLamps adapter))
    codecs.virtualLamps.decode).2 = some slice -> slice ∈ committed adapter

theorem readSlot_read {slice : Type} {stored : Except StoreError bytes}
    {decode : bytes -> Option slice} (h : stored ≠ .error .backend) :
    (readSlot stored decode).1 ≠ .unread := by
  unfold readSlot
  split
  · exact nofun
  · exact absurd rfl h
  · split
    · exact nofun
    · exact nofun

theorem bankOutcomes_unread (codecs : Codecs bytes) (h : forall key, slices key ≠ .error .backend)
    (adapter : Nat) (which : List BankId) :
    (bankOutcomes codecs slices adapter which).unread = 0 := by
  refine foldlRecOn (motive := fun outcomes => BankOutcomes.unread outcomes = 0) _ _ rfl
    fun outcomes houtcomes bank _ => ?_
  have hread : (bankSlot codecs slices adapter bank).1 ≠ .unread := readSlot_read (h _)
  unfold BankOutcomes.note
  simp only
  split
  · exact houtcomes
  · exact houtcomes
  · exact houtcomes
  · rename_i heq
    exact absurd heq hread

def Settled (store : RegistryStore) : Prop :=
  forall adapter, store.dirty.withheldBanks adapter = 0

structure DevicesOnly (adapter : Nat) (store next : RegistryStore) : Prop where
  lamps : next.inner.lamps = store.inner.lamps
  devices : forall other short, other ≠ adapter ->
    next.inner.devices (other, short) = store.inner.devices (other, short)
  dirty : next.dirty = store.dirty

theorem DevicesOnly.refl : DevicesOnly adapter store store :=
  ⟨rfl, fun _ _ _ => rfl, rfl⟩

theorem DevicesOnly.trans (h : DevicesOnly adapter store next)
    (hlast : DevicesOnly adapter next last) : DevicesOnly adapter store last :=
  ⟨hlast.lamps.trans h.lamps, fun other short hother => (hlast.devices other short hother).trans
      (h.devices other short hother), hlast.dirty.trans h.dirty⟩

theorem hydrateDevices_elsewhere (rows : PhysicalDevicesSlice) {other : Nat}
    (hother : other ≠ adapter) (short : ShortAddress) :
    (inner.hydratePhysicalDevicesInner adapter rows).devices (other, short)
      = inner.devices (other, short) := by
  simp only [hydratePhysicalDevicesInner, Table.put_beside hother]

theorem devicesOnly_bank (bank : BankId) (found : Option PhysicalDevicesSlice) :
    DevicesOnly adapter store (store.change (fun slice inner =>
      inner.hydratePhysicalDeviceBankInner adapter bank slice) found) := by
  cases found with
  | none => exact .refl
  | some rows =>
    constructor
    · rfl
    · intro other short hother
      refine (hydrateDevices_elsewhere rows hother short).trans ?_
      simp only [hother, ne_eq, not_false_eq_true, decide_true, Bool.true_or, if_true]
    · rfl

theorem devicesOnly_banks (which : List BankId) :
    DevicesOnly adapter store (store.hydratePhysicalDeviceBanks codecs slices adapter which) := by
  exact foldlRecOn (motive := DevicesOnly adapter store) _ _ .refl
    fun _ hstate bank _ => hstate.trans (devicesOnly_bank bank _)

theorem devicesOnly_fallBack (opened : BitVec 16) :
    DevicesOnly adapter store
      (store.fallBackToWholeAdapterSlot codecs slices adapter opened).1 := by
  unfold fallBackToWholeAdapterSlot
  simp only
  cases (readSlot (slices (.physicalDevices adapter)) codecs.physicalDevices.decode).2 with
  | none => exact .refl
  | some rows =>
    exact ⟨rfl, fun other short hother => hydrateDevices_elsewhere _ hother short, rfl⟩

theorem devicesOnly_oldSlot (codecs : Codecs bytes)
    (hread : forall key, slices key ≠ .error .backend) (opened : BitVec 16) :
    DevicesOnly adapter store (store.readOldSlot codecs slices adapter opened).1
      ∧ (store.readOldSlot codecs slices adapter opened).2 ≠ some .unread := by
  unfold readOldSlot
  split
  · exact ⟨.refl, nofun⟩
  · refine ⟨devicesOnly_fallBack opened, ?_⟩
    intro heq
    have houtcome : (readSlot (slices (.physicalDevices adapter))
        codecs.physicalDevices.decode).1 = .unread := Option.some.inj heq
    exact readSlot_read (hread _) houtcome

theorem decide_waiting {banks : BankOutcomes} (hunread : banks.unread = 0)
    {oldSlot : Option SlotOutcome} (hold : oldSlot ≠ some .unread) :
    (banks.decide oldSlot).waiting = 0 := by
  unfold BankOutcomes.decide
  cases oldSlot with
  | none => simp [hunread]
  | some outcome =>
    cases outcome with
    | unread => exact absurd rfl hold
    | _ => simp [hunread]

theorem withheld_mark (dirty : DirtyFlags) (banks : BitVec 16) (other : Nat) :
    (dirty.markPhysicalDeviceBanksDirty adapter banks).withheldBanks other
      = dirty.withheldBanks other := by
  unfold DirtyFlags.markPhysicalDeviceBanksDirty
  split
  · rfl
  · rfl

theorem withheld_settle {dirty : DirtyFlags} (h : forall other, dirty.withheldBanks other = 0)
    (settled : BitVec 16) (other : Nat) :
    (dirty.settlePhysicalDeviceBanks adapter settled 0).withheldBanks other = 0 := by
  unfold DirtyFlags.settlePhysicalDeviceBanks
  split
  · rename_i hadapter
    have hzero := h adapter
    have hother := h other
    unfold DirtyFlags.withheldBanks at hzero hother ⊢
    rw [if_pos hadapter] at hzero
    by_cases hsame : other = adapter
    · subst hsame
      simp [hzero]
    · simp only [update_of_ne hsame]
      exact hother
  · exact h other

theorem dropBindings_nothing (adapter : Nat) :
    (store.dropBindingsTheirBanksLack adapter 0).inner.lamps = store.inner.lamps := by
  funext key
  unfold dropBindingsTheirBanksLack
  simp only
  split
  · cases store.inner.lamps key with
    | none => rfl
    | some lamp =>
      rcases lamp with ⟨name, enabled, binding⟩
      cases binding with
      | none => rfl
      | some short => simp [filter_some]
  · rfl

/-- While nothing waits, loading the devices of an adapter leaves all lamps alone. -/
theorem devicesOf_settled (codecs : Codecs bytes) (h : Settled store)
    (hread : forall key, slices key ≠ .error .backend) (which : List BankId) :
    (store.hydratePhysicalDevicesOf codecs slices adapter which).inner.lamps = store.inner.lamps
      ∧ (forall other short, other ≠ adapter ->
        (store.hydratePhysicalDevicesOf codecs slices adapter which).inner.devices
          (other, short) = store.inner.devices (other, short))
      ∧ Settled (store.hydratePhysicalDevicesOf codecs slices adapter which) := by
  have hbanks : DevicesOnly adapter store
      (store.hydratePhysicalDeviceBanks codecs slices adapter which) := devicesOnly_banks which
  rcases devicesOnly_oldSlot codecs hread
    (bankOutcomes codecs slices adapter which).open_ with ⟨hfallen, hold⟩
  have hdevices := hbanks.trans hfallen
  have hwaiting := decide_waiting (bankOutcomes_unread codecs hread adapter which) hold
  have hzero : forall banks other, (DirtyFlags.markPhysicalDeviceBanksDirty
      ((store.hydratePhysicalDeviceBanks codecs slices adapter which).readOldSlot codecs
        slices adapter (bankOutcomes codecs slices adapter which).open_).1.dirty adapter
          banks).withheldBanks other = 0 := by
    intro banks other
    rw [withheld_mark, hdevices.dirty]
    exact h other
  unfold hydratePhysicalDevicesOf
  simp only [hwaiting, hzero, BitVec.ofNat_eq_ofNat, BitVec.zero_and]
  refine ⟨?_, hdevices.devices, ?_⟩
  · refine (dropBindings_nothing adapter).trans ?_
    exact hdevices.lamps
  · exact withheld_settle (hzero _) _

/-! ## Lamps of a boot -/

variable {rows : VirtualLampsSlice}

theorem hydrateLamps_elsewhere {waiting : BitVec 16} {other : Nat} (hother : other ≠ adapter)
    (lamp : LampId) :
    (inner.hydrateVirtualLampsInner adapter waiting rows).lamps (other, lamp)
      = inner.lamps (other, lamp) := by
  simp only [hydrateVirtualLampsInner, Table.put_beside hother, hother, ne_eq,
    not_false_eq_true, decide_true, Bool.true_or, if_true]

/-- A loaded lamp is bound as its row says, to a device that is there. -/
theorem hydrateLamps_binding (hrows : (rows.map Prod.fst).Nodup) {lamp : LampId}
    {short : ShortAddress}
    (h : (inner.hydrateVirtualLampsInner adapter 0 rows).bindingShort adapter lamp = some short) :
    (exists record, (lamp, record) ∈ rows ∧ record.bindingShort = some short)
      ∧ (inner.devices (adapter, short)).isSome := by
  unfold bindingShort hydrateVirtualLampsInner at h
  simp only at h
  by_cases hmem : exists record, (lamp, record) ∈ rows
  · rcases hmem with ⟨record, hrecord⟩
    have hplaces : (rows.map fun row => (adapter, row.1)).Nodup := by
      have hinjective : Function.Injective fun lamp : LampId => (adapter, lamp) :=
        fun one other heq => congrArg Prod.snd heq
      have hmapped := hrows.map hinjective
      rwa [List.map_map] at hmapped
    rw [Table.put_row hplaces hrecord, bind_some] at h
    rcases filter_eq_some_iff.mp h with ⟨hbinding, hkept⟩
    refine ⟨⟨record, hrecord, hbinding⟩, ?_⟩
    simpa using hkept
  · rw [Table.put_elsewhere] at h
    · have hgone : ¬ (rows.any fun row => row.1 = lamp) := by
        intro hany
        rcases any_eq_true.mp hany with ⟨row, hrow, heq⟩
        rw [decide_eq_true_eq] at heq
        exact hmem ⟨row.2, heq ▸ hrow⟩
      simp only [ne_eq, not_true_eq_false, decide_false, Bool.false_or, hgone] at h
      cases h
    · intro row hrow heq
      have hlamp : row.1 = lamp := congrArg Prod.snd heq
      exact hmem ⟨row.2, hlamp ▸ hrow⟩

theorem Inner.Bound.hydrateLamps (h : Inner.Bound inner) (hrows : Distinct rows) :
    Inner.Bound (inner.hydrateVirtualLampsInner adapter 0 rows) := by
  have helsewhere : forall other lamp, other ≠ adapter ->
      (inner.hydrateVirtualLampsInner adapter 0 rows).bindingShort other lamp
        = inner.bindingShort other lamp := by
    intro other lamp hother
    unfold bindingShort
    rw [hydrateLamps_elsewhere hother]
  constructor
  · intro place lamp other short hlamp hother
    by_cases hplace : place = adapter
    · subst hplace
      rcases (hydrateLamps_binding hrows.lamps hlamp).1 with ⟨one, hone, honeShort⟩
      rcases (hydrateLamps_binding hrows.lamps hother).1 with ⟨two, htwo, htwoShort⟩
      exact congrArg Prod.fst (hrows.bindings _ _ hone htwo short honeShort htwoShort)
    · rw [helsewhere place _ hplace] at hlamp hother
      exact h.alone place lamp other short hlamp hother
  · intro place lamp short hlamp
    by_cases hplace : place = adapter
    · subst hplace
      exact (hydrateLamps_binding hrows.lamps hlamp).2
    · rw [helsewhere place lamp hplace] at hlamp
      exact h.present place lamp short hlamp

def Unlit (store : RegistryStore) (adapter : Nat) : Prop :=
  forall lamp, store.inner.lamps (adapter, lamp) = none

structure Booting (store : RegistryStore) : Prop where
  bound : Inner.Bound store.inner
  settled : Settled store

/-- Neither a binding nor a device has changed. -/
structure BindingsKept (store next : RegistryStore) : Prop where
  lamps : next.inner.lamps = store.inner.lamps
  devices : next.inner.devices = store.inner.devices
  dirty : next.dirty = store.dirty

theorem groups_kept : BindingsKept store (store.hydrateGroupsSlice codecs slices adapter) := by
  unfold hydrateGroupsSlice
  cases (readSlot (slices (.groups adapter)) codecs.groups.decode).2 with
  | none | some rows => exact ⟨rfl, rfl, rfl⟩

theorem scenes_kept (scenes : List SceneId) : BindingsKept store (scenes.foldl
    (fun store scene => store.hydrateSceneSlice codecs slices adapter scene) store) := by
  refine foldlRecOn (motive := BindingsKept store) _ _ ⟨rfl, rfl, rfl⟩
    fun state hstate scene _ => ?_
  unfold hydrateSceneSlice
  cases (readSlot (slices (.scene adapter scene)) codecs.scene.decode).2 with
  | none => exact hstate
  | some rows => exact ⟨hstate.lamps, hstate.devices, hstate.dirty⟩

section

variable (h : Booting store)
include h

theorem Booting.kept (hkept : BindingsKept store next) : Booting next := by
  constructor
  · refine h.bound.sameDevices ?_ hkept.devices
    intro adapter lamp short hbinding
    rwa [bindingShort_congr hkept.lamps] at hbinding
  · intro adapter
    rw [hkept.dirty]
    exact h.settled adapter

theorem Booting.devicesOf (hunlit : Unlit store adapter)
    (hread : forall key, slices key ≠ .error .backend) (which : List BankId) :
    Booting (store.hydratePhysicalDevicesOf codecs slices adapter which) := by
  rcases devicesOf_settled codecs h.settled hread which with
    ⟨hlamps, hdevices, hsettled⟩
  refine ⟨?_, hsettled⟩
  refine h.bound.fewer ?_ ?_
  · intro place lamp short hbinding
    rwa [bindingShort_congr hlamps] at hbinding
  · intro place lamp short hbinding
    rw [bindingShort_congr hlamps] at hbinding
    by_cases hplace : place = adapter
    · subst hplace
      unfold bindingShort at hbinding
      rw [hunlit lamp] at hbinding
      cases hbinding
    · rw [hdevices place short hplace]
      exact h.bound.present place lamp short hbinding

theorem Booting.lamps (hslice : forall slice, (readSlot (slices (.virtualLamps adapter))
      codecs.virtualLamps.decode).2 = some slice -> Distinct slice) :
    Booting (store.hydrateVlSlice codecs slices adapter) := by
  unfold hydrateVlSlice
  cases hread : (readSlot (slices (.virtualLamps adapter)) codecs.virtualLamps.decode).2 with
  | none => exact h
  | some rows =>
    constructor
    · simp only [change, h.settled adapter]
      exact Inner.Bound.hydrateLamps h.bound (hslice rows hread)
    · exact h.settled

end

theorem vl_lamps {other : Nat} (hother : other ≠ adapter) (lamp : LampId) :
    (store.hydrateVlSlice codecs slices adapter).inner.lamps (other, lamp)
      = store.inner.lamps (other, lamp) := by
  unfold hydrateVlSlice
  cases (readSlot (slices (.virtualLamps adapter)) codecs.virtualLamps.decode).2 with
  | none => rfl
  | some rows => exact hydrateLamps_elsewhere hother lamp

variable {committed : Nat -> List VirtualLampsSlice}

theorem Booting.oneAdapter (h : Booting store) (hunlit : Unlit store adapter)
    (hread : Readable codecs committed slices)
    (hcommitted : forall adapter slice, slice ∈ committed adapter -> Distinct slice) :
    Booting (store.hydrateAdapter codecs slices adapter)
      ∧ forall other, other ≠ adapter -> Unlit store other ->
        Unlit (store.hydrateAdapter codecs slices adapter) other := by
  have hgroups : Booting (store.hydrateGroupsSlice codecs slices adapter) := h.kept groups_kept
  have hunlit' : Unlit (store.hydrateGroupsSlice codecs slices adapter) adapter := by
    intro lamp
    rw [groups_kept.lamps]
    exact hunlit lamp
  have hdevices : Booting ((store.hydrateGroupsSlice codecs slices
      adapter).hydratePhysicalDevicesOf codecs slices adapter (finRange 16)) :=
    hgroups.devicesOf hunlit' hread.read (finRange 16)
  have hlamps : Booting (((store.hydrateGroupsSlice codecs slices
      adapter).hydratePhysicalDevicesOf codecs slices adapter
        (finRange 16)).hydrateVlSlice codecs slices adapter) :=
    hdevices.lamps fun slice hslice =>
      hcommitted adapter slice (hread.lamps adapter slice hslice)
  constructor
  · exact hlamps.kept (scenes_kept _)
  · intro other hother hdark lamp
    unfold hydrateAdapter
    simp only
    rw [(scenes_kept _).lamps, vl_lamps hother,
      (devicesOf_settled codecs hgroups.settled hread.read (finRange 16)).1, groups_kept.lamps]
    exact hdark lamp

theorem booting_all {adapters : List Nat} (hadapters : adapters.Nodup)
    (hread : Readable codecs committed slices)
    (hcommitted : forall adapter slice, slice ∈ committed adapter -> Distinct slice)
    (h : Booting store) (hunlit : forall adapter, adapter ∈ adapters -> Unlit store adapter) :
    Booting (adapters.foldl (fun store adapter => store.hydrateAdapter codecs slices adapter)
      store) := by
  induction adapters generalizing store with
  | nil => exact h
  | cons first rest ih =>
    rw [nodup_cons] at hadapters
    rcases h.oneAdapter (hunlit first mem_cons_self) hread hcommitted with
      ⟨hfirst, hother⟩
    refine ih hadapters.2 hfirst fun adapter hadapter => ?_
    refine hother adapter ?_ (hunlit adapter (mem_cons_of_mem _ hadapter))
    intro heq
    exact hadapters.1 (heq ▸ hadapter)

theorem booting_boot (hread : Readable codecs committed slices)
    (hcommitted : forall adapter slice, slice ∈ committed adapter -> Distinct slice)
    (adapters : List AdapterRecord) :
    Booting ((new adapters).hydrateAll codecs slices adapters.length) := by
  have hnew : Booting (new adapters) := by
    constructor
    · exact bound_new adapters
    · intro adapter
      simp only [new, DirtyFlags.new, DirtyFlags.withheldBanks, ite_self]
  have hnamed : Booting ((new adapters).hydrateAdaptersSlice codecs slices)
      ∧ forall adapter, Unlit ((new adapters).hydrateAdaptersSlice codecs slices) adapter := by
    unfold hydrateAdaptersSlice
    cases (readSlot (slices .adapters) codecs.adapters.decode).2 with
    | none => exact ⟨hnew, fun _ _ => rfl⟩
    | some rows => exact ⟨hnew.kept ⟨rfl, rfl, rfl⟩, fun _ _ => rfl⟩
  exact booting_all (nodup_range) hread hcommitted hnamed.1 fun adapter _ =>
    hnamed.2 adapter

/-! ## Whole histories -/

/-- The registries that operations, commits of lamp slices and boots reach, with all slices
of the lamps committed so far. -/
inductive Reached (codecs : Codecs bytes) :
    (Nat -> List VirtualLampsSlice) -> RegistryStore -> Prop where
  | new (adapters : List AdapterRecord) : Reached codecs (fun _ => []) (new adapters)
  | step {committed : Nat -> List VirtualLampsSlice} {store : RegistryStore} (op : DeviceOp) :
      Reached codecs committed store ->
      Reached codecs committed { store with inner := store.inner.applyDevice op }
  | commit {committed : Nat -> List VirtualLampsSlice} {store : RegistryStore}
      (adapter : Nat) : Reached codecs committed store ->
      Reached codecs (Function.update committed adapter
        (store.inner.virtualLampsSlice adapter :: committed adapter)) store
  | boot {committed : Nat -> List VirtualLampsSlice} {store : RegistryStore}
      (adapters : List AdapterRecord) (slices : SliceStore bytes) :
      Reached codecs committed store -> Readable codecs committed slices ->
      Reached codecs committed ((RegistryStore.new adapters).hydrateAll codecs slices
        adapters.length)

theorem reached_bound (h : Reached codecs committed store) :
    Inner.Bound store.inner
      ∧ forall adapter slice, slice ∈ committed adapter -> Distinct slice := by
  induction h with
  | new adapters =>
    constructor
    · exact bound_new adapters
    · intro adapter slice hslice
      cases hslice
  | step op _ ih => exact ⟨ih.1.apply op, ih.2⟩
  | @commit committed store adapter _ ih =>
    refine ⟨ih.1, ?_⟩
    intro other slice hslice
    by_cases hother : other = adapter
    · subst hother
      rw [update_self] at hslice
      rcases mem_cons.mp hslice with heq | hold
      · subst heq
        exact distinct_slice ih.1 other
      · exact ih.2 other slice hold
    · rw [update_of_ne hother] at hslice
      exact ih.2 other slice hslice
  | boot adapters slices _ hread ih =>
    exact ⟨(booting_boot hread ih.2 adapters).bound, ih.2⟩

/-- In every history no two lamps of an adapter share a short address, and the device of
every bound lamp is there. -/
theorem bound_alone_and_present (h : Reached codecs committed store) :
    (forall adapter lamp other short, store.inner.bindingShort adapter lamp = some short ->
        store.inner.bindingShort adapter other = some short -> lamp = other)
      ∧ forall adapter lamp short, store.inner.bindingShort adapter lamp = some short ->
        (store.inner.devices (adapter, short)).isSome = true :=
  ⟨(reached_bound h).1.alone, (reached_bound h).1.present⟩

/-! ## A boot in between -/

inductive Stored where
  | adapters (slice : AdaptersSlice)
  | groups (slice : GroupsSlice)
  | virtualLamps (slice : VirtualLampsSlice)
  | physicalDevices (slice : PhysicalDevicesSlice)
  | scene (slice : SceneSlice)

def plainCodecs : Codecs Stored where
  adapters := ⟨.adapters, fun | .adapters slice => some slice | _ => none, fun _ => rfl⟩
  groups := ⟨.groups, fun | .groups slice => some slice | _ => none, fun _ => rfl⟩
  virtualLamps :=
    ⟨.virtualLamps, fun | .virtualLamps slice => some slice | _ => none, fun _ => rfl⟩
  physicalDevices :=
    ⟨.physicalDevices, fun | .physicalDevices slice => some slice | _ => none, fun _ => rfl⟩
  scene := ⟨.scene, fun | .scene slice => some slice | _ => none, fun _ => rfl⟩

/-- Two lamps are bound; then the second device gets another short address. -/
def boundLamps : Inner :=
  (((Inner.new [⟨"", true⟩]).applyDevice (.discovery 0 5 none id)).applyDevice
    (.discovery 0 9 none id)).applyDevice (.bind 0 1 5) |>.applyDevice (.bind 0 2 9)

def movedDevice : Inner := boundLamps.applyDevice (.addressChange 0 9 30)

/-- The lamps as they were before the move, the devices as they are after it. -/
def mixedSlices : SliceStore Stored := fun key =>
  match key with
  | .virtualLamps 0 => .ok (.virtualLamps (boundLamps.virtualLampsSlice 0))
  | .physicalDeviceBank 0 bank =>
    .ok (.physicalDevices (movedDevice.physicalDevicesSlice 0 (some bank)))
  | _ => .error .missing

def mixedBoot : RegistryStore := (new [⟨"", true⟩]).hydrateAll plainCodecs mixedSlices 1

theorem movedDevice_reached :
    Reached plainCodecs (Function.update (fun _ => []) 0 [boundLamps.virtualLampsSlice 0])
      ⟨movedDevice, DirtyFlags.new⟩ := by
  have hnew : Reached plainCodecs (fun _ => []) (new [⟨"", true⟩]) := .new _
  have hfirst := Reached.step (.discovery 0 5 none id) hnew
  have hsecond := Reached.step (.discovery 0 9 none id) hfirst
  have hone := Reached.step (.bind 0 1 5) hsecond
  have htwo := Reached.step (.bind 0 2 9) hone
  have hcommit := Reached.commit 0 htwo
  have hmoved := Reached.step (.addressChange 0 9 30) hcommit
  simpa only [movedDevice, boundLamps, new] using hmoved

theorem mixedSlices_readable :
    Readable plainCodecs (Function.update (fun _ => []) 0 [boundLamps.virtualLampsSlice 0])
      mixedSlices := by
  constructor
  · intro key
    unfold mixedSlices
    split
    · exact nofun
    · exact nofun
    · exact nofun
  · intro adapter slice hslice
    cases adapter with
    | zero =>
      have heq : slice = boundLamps.virtualLampsSlice 0 := (Option.some.inj hslice).symm
      rw [heq, update_self]
      exact mem_singleton_self _
    | succ adapter => cases hslice

/-- The second lamp is not bound after the boot, as nothing stands where its device was. -/
theorem mixedBoot_bound :
    mixedBoot.inner.bindingShort 0 1 = some 5 ∧ mixedBoot.inner.bindingShort 0 2 = none
      ∧ (mixedBoot.inner.devices (0, 5)).isSome = true := by
  have hbinding : mixedBoot.inner.bindingShort 0 1 = some 5
      ∧ mixedBoot.inner.bindingShort 0 2 = none := by
    decide +kernel
  have hreached : Reached plainCodecs
      (Function.update (fun _ => []) 0 [boundLamps.virtualLampsSlice 0]) mixedBoot :=
    .boot [⟨"", true⟩] mixedSlices movedDevice_reached mixedSlices_readable
  exact ⟨hbinding.1, hbinding.2, (bound_alone_and_present hreached).2 0 1 5 hbinding.1⟩

end RegistryStore

end Oxidali.Lamps
