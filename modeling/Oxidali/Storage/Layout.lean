import Oxidali.Lib.Words

/-!
# The layout of the slices in flash

Every slice has a slot of two banks.  The slots lie one behind the other, so that
no two slices share a byte.
-/

namespace Oxidali.Storage

open Words BitVec

def sectorBytes : Nat := 4096
def maxAdapters : Nat := 8
def scenesPerAdapter : Nat := 16
def inputDeviceBanks : Nat := 4
def rulesBanks : Nat := 4
def pdBanksPerAdapter : Nat := 16

def largeBankBytes : Nat := 8 * sectorBytes
def smallBankBytes : Nat := 1 * sectorBytes
def pdBankBytes : Nat := 1 * sectorBytes

def largeSlotCount : Nat := maxAdapters
def smallSlotsPerAdapter : Nat := 2 + scenesPerAdapter
def leadingGlobalSmallSlots : Nat := 2
def trailingGlobalSmallSlots : Nat := 14
def trailingGlobalBase : Nat :=
  leadingGlobalSmallSlots + maxAdapters * smallSlotsPerAdapter
def smallSlotCount : Nat := trailingGlobalBase + trailingGlobalSmallSlots
def largeRegionBytes : Nat := largeSlotCount * 2 * largeBankBytes

def headerBytes : Nat := 16

inductive SliceKey where
  | adapters
  | virtualLamps (adapterId : Byte)
  | groups (adapterId : Byte)
  | physicalDevices (adapterId : Byte)
  | scene (adapterId sceneId : Byte)
  | controllerSettings
  | hclSchedules
  | pollerSettings
  | inputDevices (bank : Byte)
  | rules (bank : Byte)
  | homeAssistantSettings
  | daliSettings
  | redundancySettings
  | policies
  | physicalDeviceBank (adapterId bank : Byte)
deriving DecidableEq

/-- The name of a key in messages. -/
def SliceKey.label : SliceKey -> String
  | .adapters => "adapters"
  | .virtualLamps adapterId => "a" ++ toString adapterId.toNat ++ "/virtual_lamps"
  | .groups adapterId => "a" ++ toString adapterId.toNat ++ "/groups"
  | .physicalDevices adapterId => "a" ++ toString adapterId.toNat ++ "/physical_devices"
  | .scene adapterId sceneId =>
    "a" ++ toString adapterId.toNat ++ "/scene" ++ toString sceneId.toNat
  | .controllerSettings => "settings"
  | .hclSchedules => "hcl_schedules"
  | .pollerSettings => "poller_settings"
  | .inputDevices bank => "input_devices_b" ++ toString bank.toNat
  | .rules bank => "rules_b" ++ toString bank.toNat
  | .homeAssistantSettings => "home_assistant_settings"
  | .daliSettings => "dali_settings"
  | .redundancySettings => "redundancy_settings"
  | .policies => "policies"
  | .physicalDeviceBank adapterId bank =>
    "a" ++ toString adapterId.toNat ++ "/physical_devices_b" ++ toString bank.toNat

abbrev Bank := Fin 2

scoped instance bank_neZero : NeZero 2 := ⟨two_ne_zero⟩

structure SlotGeometry where
  offset : Nat
  bankBytes : Nat

def SlotGeometry.bankOffset (slot : SlotGeometry) (bank : Bank) : Nat :=
  slot.offset + bank.val * slot.bankBytes

def SlotGeometry.capacity (slot : SlotGeometry) : Nat :=
  slot.bankBytes - headerBytes

structure BankChoice where
  keep : Option Bank
  target : Bank

def chooseBank (proved newestHeader : Option Bank) : BankChoice :=
  let keep := proved.or newestHeader
  { keep := keep
    target := keep.elim 0 fun bank => 1 - bank }

/-- `none` for a key that has no slot of its own outside the adapters. -/
def globalSlotIndex : SliceKey -> Option (Option Nat)
  | .adapters => some (some 0)
  | .controllerSettings => some (some 1)
  | .hclSchedules => some (some trailingGlobalBase)
  | .pollerSettings => some (some (trailingGlobalBase + 1))
  | .homeAssistantSettings => some (some (trailingGlobalBase + 2))
  | .daliSettings => some (some (trailingGlobalBase + 3))
  | .inputDevices bank =>
    some (if bank.toNat < inputDeviceBanks then
      some (trailingGlobalBase + 4 + bank.toNat) else none)
  | .rules bank =>
    some (if bank.toNat < rulesBanks then
      some (trailingGlobalBase + 4 + inputDeviceBanks + bank.toNat) else none)
  | .redundancySettings =>
    some (some (trailingGlobalBase + 4 + inputDeviceBanks + rulesBanks))
  | .policies => some (some (trailingGlobalBase + 5 + inputDeviceBanks + rulesBanks))
  | _ => none

variable (index : Nat)

def bounded : Option Nat :=
  if index < smallSlotCount then some index else none

/-- The slot of a key that each adapter has one of. -/
def adapterSlot (adapterId : Byte) (withinAdapter : Nat) : Option Nat :=
  if adapterId.toNat >= maxAdapters then none
  else some (leadingGlobalSmallSlots + adapterId.toNat * smallSlotsPerAdapter + withinAdapter)

def smallSlotIndex (key : SliceKey) : Option Nat :=
  match globalSlotIndex key with
  | some slot => slot.bind bounded
  | none =>
    match key with
    | .virtualLamps adapterId => adapterSlot adapterId 0
    | .groups adapterId => adapterSlot adapterId 1
    | .scene adapterId sceneId =>
      if sceneId.toNat >= scenesPerAdapter then none
      else adapterSlot adapterId (2 + sceneId.toNat)
    | _ => none

def slotGeometry : SliceKey -> Option SlotGeometry
  | .physicalDevices adapterId =>
    if adapterId.toNat < maxAdapters then
      some {
        offset := adapterId.toNat * 2 * largeBankBytes
        bankBytes := largeBankBytes }
    else none
  | .physicalDeviceBank adapterId bank =>
    if adapterId.toNat < maxAdapters ∧ bank.toNat < pdBanksPerAdapter then
      some {
        offset := largeRegionBytes + smallSlotCount * 2 * smallBankBytes
          + (adapterId.toNat * pdBanksPerAdapter + bank.toNat) * 2 * pdBankBytes
        bankBytes := pdBankBytes }
    else none
  | key => (smallSlotIndex key).map fun index =>
    { offset := largeRegionBytes + index * 2 * smallBankBytes
      bankBytes := smallBankBytes }

def slotIndex : SliceKey -> Option Nat
  | .physicalDevices adapterId =>
    if adapterId.toNat < maxAdapters then some adapterId.toNat else none
  | .physicalDeviceBank adapterId bank =>
    if adapterId.toNat < maxAdapters ∧ bank.toNat < pdBanksPerAdapter then
      some (largeSlotCount + smallSlotCount + adapterId.toNat * pdBanksPerAdapter + bank.toNat)
    else none
  | key => (smallSlotIndex key).map fun index => largeSlotCount + index

/-! ## The slots by their number -/

/-- The slot with a number: the large ones come first. -/
def slotAt : SlotGeometry :=
  if index < largeSlotCount then
    { offset := index * 2 * largeBankBytes
      bankBytes := largeBankBytes }
  else
    { offset := largeRegionBytes + (index - largeSlotCount) * 2 * smallBankBytes
      bankBytes := smallBankBytes }

theorem slotGeometry_eq (key : SliceKey) : slotGeometry key = (slotIndex key).map slotAt := by
  have hsmall : forall index, ({
      offset := largeRegionBytes + index * 2 * smallBankBytes
      bankBytes := smallBankBytes } : SlotGeometry) = slotAt (largeSlotCount + index) := by
    intro index
    simp [slotAt]
  cases key with
  | physicalDevices adapterId =>
    by_cases h : adapterId.toNat < maxAdapters
    · simp [slotGeometry, slotIndex, h, slotAt, largeSlotCount]
    · simp [slotGeometry, slotIndex, h]
  | physicalDeviceBank adapterId bank =>
    by_cases h : adapterId.toNat < maxAdapters ∧ bank.toNat < pdBanksPerAdapter
    · have hindex := hsmall (smallSlotCount + adapterId.toNat * pdBanksPerAdapter + bank.toNat)
      have hoffset : largeRegionBytes + (smallSlotCount
            + adapterId.toNat * pdBanksPerAdapter + bank.toNat) * 2 * smallBankBytes
          = largeRegionBytes + smallSlotCount * 2 * smallBankBytes
            + (adapterId.toNat * pdBanksPerAdapter + bank.toNat) * 2 * pdBankBytes := by
        change _ = _ + _ * 2 * smallBankBytes
        ring
      rw [hoffset] at hindex
      simp only [slotGeometry, slotIndex, if_pos h, Option.map_some, Nat.add_assoc] at hindex ⊢
      exact congrArg some hindex
    · simp [slotGeometry, slotIndex, h]
  | _ =>
    unfold slotGeometry slotIndex
    simp only [Option.map_map, Function.comp_def, hsmall]

theorem slotAt_bankBytes : (slotAt index).bankBytes = 32768 ∨ (slotAt index).bankBytes = 4096 := by
  unfold slotAt
  split
  · exact .inl rfl
  · exact .inr rfl

theorem slotAt_end_le {a b : Nat} (h : a < b) :
    (slotAt a).offset + 2 * (slotAt a).bankBytes <= (slotAt b).offset := by
  by_cases ha : a < 8
  · by_cases hb : b < 8
    · simp only [slotAt, largeSlotCount, maxAdapters, ha, hb, if_true, largeBankBytes, sectorBytes]
      omega
    · simp only [slotAt, largeSlotCount, maxAdapters, ha, hb, if_true, if_false,
        largeRegionBytes, largeBankBytes, smallBankBytes, sectorBytes]
      omega
  · have hb : ¬ b < 8 := by omega
    simp only [slotAt, largeSlotCount, maxAdapters, ha, hb, if_false, largeRegionBytes,
      largeBankBytes, smallBankBytes, sectorBytes]
    omega

/-! ## Keys have slots of their own -/

/-- The key of a small slot of an adapter. -/
def adapterKeyAt (adapterId : Byte) (withinAdapter : Nat) : SliceKey :=
  if withinAdapter = 0 then .virtualLamps adapterId
  else if withinAdapter = 1 then .groups adapterId
  else .scene adapterId (BitVec.ofNat 8 (withinAdapter - 2))

def trailingKeyAt : SliceKey :=
  if index = 0 then .hclSchedules
  else if index = 1 then .pollerSettings
  else if index = 2 then .homeAssistantSettings
  else if index = 3 then .daliSettings
  else if index < 8 then .inputDevices (BitVec.ofNat 8 (index - 4))
  else if index < 12 then .rules (BitVec.ofNat 8 (index - 8))
  else if index = 12 then .redundancySettings
  else .policies

/-- The key that a slot belongs to. -/
def keyAt : SliceKey :=
  if index < 8 then .physicalDevices (BitVec.ofNat 8 index)
  else if index = 8 then .adapters
  else if index = 9 then .controllerSettings
  else if index < 154 then
    adapterKeyAt (BitVec.ofNat 8 ((index - 10) / 18)) ((index - 10) % 18)
  else if index < 168 then trailingKeyAt (index - 154)
  else .physicalDeviceBank (BitVec.ofNat 8 ((index - 168) / 16))
    (BitVec.ofNat 8 ((index - 168) % 16))

variable {index : Nat}

theorem keyAt_adapterSlot {adapterId : Byte} {withinAdapter : Nat} (hwithin : withinAdapter < 18)
    (h : adapterSlot adapterId withinAdapter = some index) :
    keyAt (largeSlotCount + index) = adapterKeyAt adapterId withinAdapter := by
  by_cases hadapter : adapterId.toNat >= maxAdapters
  · simp [adapterSlot, hadapter] at h
  · simp only [adapterSlot, if_neg hadapter, Option.some.injEq] at h
    have hadapter : ¬ adapterId.toNat >= 8 := hadapter
    have hindex : largeSlotCount + index = 10 + (adapterId.toNat * 18 + withinAdapter) := by
      rw [<- h]
      change 8 + (2 + adapterId.toNat * 18 + withinAdapter) = _
      omega
    have hdiv : (10 + (adapterId.toNat * 18 + withinAdapter) - 10) / 18
        = adapterId.toNat := by omega
    have hmod : (10 + (adapterId.toNat * 18 + withinAdapter) - 10) % 18 = withinAdapter := by omega
    unfold keyAt
    rw [hindex, if_neg (by omega), if_neg (by omega), if_neg (by omega),
      if_pos (by omega), hdiv, hmod, ofNat_toNat]
    rfl

theorem keyAt_banks : forall bank : Byte, forall key,
    key ∈ [SliceKey.inputDevices bank, .rules bank] -> forall index,
      index ∈ smallSlotIndex key -> keyAt (largeSlotCount + index) = key := by
  decide +kernel

variable {key : SliceKey}

theorem keyAt_small (h : smallSlotIndex key = some index) :
    keyAt (largeSlotCount + index) = key := by
  cases key with
  | adapters | controllerSettings | hclSchedules | pollerSettings | homeAssistantSettings
  | daliSettings | redundancySettings | policies =>
    cases h
    rfl
  | inputDevices bank | rules bank => exact keyAt_banks bank _ (by simp) index h
  | virtualLamps adapterId | groups adapterId => exact keyAt_adapterSlot (by decide) h
  | scene adapterId sceneId =>
    by_cases hscene : sceneId.toNat >= scenesPerAdapter
    · simp [smallSlotIndex, globalSlotIndex, hscene] at h
    · simp only [smallSlotIndex, globalSlotIndex, if_neg hscene] at h
      have hscene : ¬ sceneId.toNat >= 16 := hscene
      rw [keyAt_adapterSlot (by omega) h]
      unfold adapterKeyAt
      rw [if_neg (by omega), if_neg (by omega), Nat.add_sub_cancel_left, ofNat_toNat]
      rfl
  | physicalDevices adapterId | physicalDeviceBank adapterId bank => cases h

theorem keyAt_of_small
    (hsmall : slotIndex key = (smallSlotIndex key).map fun small => largeSlotCount + small)
    (h : slotIndex key = some index) : keyAt index = key := by
  rw [hsmall] at h
  rcases Option.map_eq_some_iff.mp h with ⟨small, hindex, heq⟩
  rw [<- heq]
  exact keyAt_small hindex

theorem keyAt_slotIndex (h : slotIndex key = some index) : keyAt index = key := by
  cases key with
  | physicalDevices adapterId =>
    by_cases hadapter : adapterId.toNat < maxAdapters
    · simp only [slotIndex, if_pos hadapter, Option.some.injEq] at h
      have hadapter : adapterId.toNat < 8 := hadapter
      unfold keyAt
      rw [<- h, if_pos hadapter, ofNat_toNat]
      rfl
    · simp [slotIndex, hadapter] at h
  | physicalDeviceBank adapterId bank =>
    by_cases hbank : adapterId.toNat < maxAdapters ∧ bank.toNat < pdBanksPerAdapter
    · simp only [slotIndex, if_pos hbank, Option.some.injEq] at h
      have hbank : adapterId.toNat < 8 ∧ bank.toNat < 16 := hbank
      have hindex : index = 168 + (adapterId.toNat * 16 + bank.toNat) := by
        rw [<- h, Nat.add_assoc]
        rfl
      have hdiv : (168 + (adapterId.toNat * 16 + bank.toNat) - 168) / 16
          = adapterId.toNat := by omega
      have hmod : (168 + (adapterId.toNat * 16 + bank.toNat) - 168) % 16 = bank.toNat := by omega
      unfold keyAt
      rw [hindex, if_neg (by omega), if_neg (by omega), if_neg (by omega), if_neg (by omega),
        if_neg (by omega), hdiv, hmod, ofNat_toNat, ofNat_toNat]
      rfl
    · simp [slotIndex, hbank] at h
  | _ => exact keyAt_of_small rfl h

end Oxidali.Storage
