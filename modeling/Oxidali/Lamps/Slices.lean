import Oxidali.Lamps.Inner
import Oxidali.Lib.Table

/-!
# The stored registry

The registry is stored in slices: one for the adapters, one for the groups and one for the
lamps of an adapter, one for each scene, and sixteen banks of four devices.  A slice is
written from the tables as a whole; a loader replaces what the tables held of its kind.
-/

namespace Oxidali.Lamps

open List

/-! ## Slices -/

abbrev BankId := Fin 16

def devicesPerBank : Nat := 4

def bankOf (short : ShortAddress) : BankId :=
  ⟨short / devicesPerBank, Nat.div_lt_of_lt_mul short.isLt⟩

structure MemoryBankSummary where
  bank : Nat
  totalBytesRead : Nat
  lastReadMs : Nat
  ranges : List MemoryBankRange

structure PersistableDevice where
  randomAddress : Option Nat
  profile : DeviceProfile
  attributes : Attributes
  memoryBanks : List MemoryBankSummary

structure PersistableSceneRow where
  virtualLampId : LampId
  included : Bool
  desiredSeeded : Bool
  desiredFromOperator : Bool
  power : Option PowerState
  level : Option Nat
  color : Option ColorValue

abbrev AdaptersSlice := List (Nat × AdapterRecord)

structure GroupsSlice where
  groups : List (GroupId × GroupRecord)
  rows : List (LampId × GroupRow)

abbrev VirtualLampsSlice := List (LampId × VlRecord)

structure SceneSlice where
  record : SceneRecord
  rows : List PersistableSceneRow

abbrev PhysicalDevicesSlice := List (ShortAddress × PersistableDevice)

/-- What is stored of a memory bank: its bytes are read again. -/
def MemoryBankRecord.summary (record : MemoryBankRecord) : MemoryBankSummary :=
  ⟨record.bank, record.totalBytesRead, record.lastReadMs, record.ranges⟩

def MemoryBankSummary.record (summary : MemoryBankSummary) : MemoryBankRecord :=
  ⟨summary.bank, summary.totalBytesRead, summary.lastReadMs, summary.ranges, []⟩

def PhysicalDevice.persisted (device : PhysicalDevice) : PersistableDevice where
  randomAddress := device.randomAddress
  profile := device.profile
  attributes := device.attributes
  memoryBanks := device.memoryBanks.map MemoryBankRecord.summary

/-- A stored device over the one that the registry has. -/
def PersistableDevice.over (stored : PersistableDevice) (device : PhysicalDevice) :
    PhysicalDevice :=
  { device with
    randomAddress := stored.randomAddress
    profile := stored.profile
    attributes := stored.attributes
    memoryBanks := stored.memoryBanks.map MemoryBankSummary.record }

def SceneRow.persisted (row : SceneRow) (lamp : LampId) : PersistableSceneRow where
  virtualLampId := lamp
  included := row.included
  desiredSeeded := row.desiredSeeded
  desiredFromOperator := row.desiredFromOperator
  power := row.target.bind SceneTarget.power
  level := row.target.bind SceneTarget.level
  color := row.target.bind SceneTarget.color

def PersistableSceneRow.row (stored : PersistableSceneRow) : SceneRow where
  included := stored.included
  target := if stored.included then some ⟨stored.power, stored.level, stored.color⟩ else none
  desiredSeeded := stored.desiredSeeded
  desiredFromOperator := stored.desiredFromOperator

namespace Inner

/-! ## Streams -/

variable (self : Inner) (adapter : Nat)

def adaptersSlice : AdaptersSlice :=
  self.adapters.zipIdx.map fun row => (row.2, row.1)

def groupsSlice : GroupsSlice where
  groups := (finRange 16).map fun group =>
    (group, (self.groups (adapter, group)).getD GroupRecord.default)
  rows := (finRange 64).map fun lamp => (lamp, self.groupRow adapter lamp)

def virtualLampsSlice : VirtualLampsSlice :=
  Table.rowsOf (finRange 64) fun lamp => self.lamps (adapter, lamp)

def sceneSlice (scene : SceneId) : SceneSlice where
  record := (self.scenes (adapter, scene)).getD SceneRecord.default
  rows := (finRange 64).map fun lamp =>
    (self.desiredRow adapter scene lamp).persisted lamp

/-- The devices of a bank, or all devices of the adapter. -/
def physicalDevicesSlice (bank : Option BankId) : PhysicalDevicesSlice :=
  Table.rowsOf ((finRange 64).filter fun short => bank.all fun bank => bankOf short = bank)
    fun short => (self.devices (adapter, short)).map PhysicalDevice.persisted

/-! ## Loaders -/

def hydrateAdaptersInner (slice : AdaptersSlice) : Inner :=
  { self with
    adapters := slice.foldl (fun adapters row => adapters.set row.1 row.2) self.adapters }

/-- A lamp keeps its binding if the device is there or its bank still waits to be read. -/
def bindingShortToKeep (waitingBanks : BitVec 16) (bindingShort : Option ShortAddress) :
    Option ShortAddress :=
  bindingShort.filter fun short =>
    waitingBanks.getLsbD (bankOf short) || (self.devices (adapter, short)).isSome

def hydrateVirtualLampsInner (waitingBanks : BitVec 16) (slice : VirtualLampsSlice) : Inner :=
  let retained : Nat × LampId -> Option VlRecord := fun key =>
    if key.1 ≠ adapter || slice.any (fun row => row.1 = key.2) then self.lamps key else none
  let loaded : LampId × VlRecord -> Option VlRecord -> VlRecord := fun row _ =>
    { row.2 with
      bindingShort := self.bindingShortToKeep adapter waitingBanks row.2.bindingShort }
  { self with lamps := Table.put (fun row => (adapter, row.1)) loaded slice retained }

def hydrateGroupsInner (slice : GroupsSlice) : Inner :=
  { self with
    groups := Table.put (fun row => (adapter, row.1)) (fun row _ => row.2) slice.groups self.groups
    groupMatrix := Table.put (fun row => (adapter, row.1)) (fun row _ => row.2) slice.rows
      self.groupMatrix }

def hydrateSceneInner (scene : SceneId) (slice : SceneSlice) : Inner :=
  let retained : Nat × SceneId × LampId -> Option SceneRow := fun key =>
    if key.1 ≠ adapter || key.2.1 ≠ scene then self.sceneMatrix key else none
  { self with
    scenes := Function.update self.scenes (adapter, scene) (some slice.record)
    sceneMatrix := Table.put (fun row : PersistableSceneRow =>
        (adapter, scene, row.virtualLampId)) (fun row _ => row.row)
      (slice.rows.filter fun row => row.included || row.desiredSeeded) retained }

def hydratePhysicalDevicesInner (slice : PhysicalDevicesSlice) : Inner :=
  { self with
    devices := Table.put (fun row => (adapter, row.1))
      (fun row device => row.2.over (device.getD PhysicalDevice.new)) slice self.devices }

def hydratePhysicalDeviceBankInner (bank : BankId) (slice : PhysicalDevicesSlice) : Inner :=
  let retained : Nat × ShortAddress -> Option PhysicalDevice := fun key =>
    if key.1 ≠ adapter || bankOf key.2 ≠ bank || slice.any (fun row => row.1 = key.2) then
      self.devices key
    else none
  hydratePhysicalDevicesInner { self with devices := retained } adapter slice

end Inner

/-! ## Slots -/

/-- The settings that are stored once for all adapters. -/
inductive Setting where
  | hclSchedules
  | pollerSettings
  | daliSettings
  | redundancySettings
  | policies
  | homeAssistantSettings

abbrev InputBank := Fin 4

inductive SliceKey where
  | adapters
  | groups (adapter : Nat)
  | virtualLamps (adapter : Nat)
  | physicalDevices (adapter : Nat)
  | physicalDeviceBank (adapter : Nat) (bank : BankId)
  | scene (adapter : Nat) (scene : SceneId)
  | setting (setting : Setting)
  | inputDevices (bank : InputBank)

inductive StoreError where
  | missing
  | backend

/-- How the slices of one kind are stored: what is written can be read again. -/
structure SliceCodec (bytes slice : Type) where
  encode : slice -> bytes
  decode : bytes -> Option slice
  decode_encode : forall value, decode (encode value) = some value

structure Codecs (bytes : Type) where
  adapters : SliceCodec bytes AdaptersSlice
  groups : SliceCodec bytes GroupsSlice
  virtualLamps : SliceCodec bytes VirtualLampsSlice
  physicalDevices : SliceCodec bytes PhysicalDevicesSlice
  scene : SliceCodec bytes SceneSlice

abbrev SliceStore (bytes : Type) := SliceKey -> Except StoreError bytes

inductive SlotOutcome where
  | loaded
  | missing
  | rejected
  | unread

variable {bytes slice : Type}

/-- The slice of a slot, where there is one that can be decoded. -/
def readSlot (stored : Except StoreError bytes) (decode : bytes -> Option slice) :
    SlotOutcome × Option slice :=
  match stored with
  | .error .missing => (.missing, none)
  | .error .backend => (.unread, none)
  | .ok found =>
    match decode found with
    | some slice => (.loaded, some slice)
    | none => (.rejected, none)

/-- A bank that holds a device of another bank is not decoded. -/
def decodePhysicalDeviceBank (codecs : Codecs bytes) (bank : BankId) (found : bytes) :
    Option PhysicalDevicesSlice :=
  (codecs.physicalDevices.decode found).filter fun slice =>
    slice.all fun row => bankOf row.1 = bank

/-! ## Banks -/

structure BankOutcomes where
  loaded : BitVec 16
  missing : BitVec 16
  rejected : BitVec 16
  unread : BitVec 16
deriving DecidableEq

structure BankDecision where
  rewrite : BitVec 16
  settled : BitVec 16
  waiting : BitVec 16

namespace BankOutcomes

def none : BankOutcomes := ⟨0, 0, 0, 0⟩

variable (self : BankOutcomes)

def note (bank : BankId) (outcome : SlotOutcome) : BankOutcomes :=
  let bit := BitVec.twoPow 16 bank
  match outcome with
  | .loaded => { self with loaded := self.loaded ||| bit }
  | .missing => { self with missing := self.missing ||| bit }
  | .rejected => { self with rejected := self.rejected ||| bit }
  | .unread => { self with unread := self.unread ||| bit }

/-- The banks without a readable copy of their own. -/
def open_ : BitVec 16 := self.missing ||| self.rejected

def decide (oldSlot : Option SlotOutcome) : BankDecision :=
  let masks : BitVec 16 × BitVec 16 := match oldSlot with
    | Option.none => (0, 0)
    | some .loaded => (self.open_, 0)
    | some .rejected => (self.open_, 0)
    | some .missing => (self.rejected, 0)
    | some .unread => (0, self.open_)
  { rewrite := masks.1
    settled := self.loaded ||| (self.open_ &&& ~~~masks.2)
    waiting := masks.2 ||| self.unread }

end BankOutcomes

/-! ## The registry and its marks -/

def maxDirtyAdapters : Nat := 8

/-- The marks of the device banks: what has changed and what waits to be read. -/
structure DirtyFlags where
  physicalDeviceBanks : Nat -> BitVec 16
  withheldPhysicalDeviceBanks : Nat -> BitVec 16

structure RegistryStore where
  inner : Inner
  dirty : DirtyFlags

namespace DirtyFlags

def new : DirtyFlags := ⟨fun _ => 0, fun _ => 0⟩

variable (self : DirtyFlags) (adapter : Nat)

def markPhysicalDeviceBanksDirty (banks : BitVec 16) : DirtyFlags :=
  if adapter < maxDirtyAdapters then
    { self with
      physicalDeviceBanks := Function.update self.physicalDeviceBanks adapter
        (self.physicalDeviceBanks adapter ||| banks) }
  else self

def pendingPhysicalDeviceBanks : BitVec 16 :=
  if adapter < maxDirtyAdapters then self.physicalDeviceBanks adapter else 0

def withheldBanks : BitVec 16 :=
  if adapter < maxDirtyAdapters then self.withheldPhysicalDeviceBanks adapter else 0

def settlePhysicalDeviceBanks (settled waiting : BitVec 16) : DirtyFlags :=
  if adapter < maxDirtyAdapters then
    { self with
      withheldPhysicalDeviceBanks := Function.update self.withheldPhysicalDeviceBanks adapter
        ((self.withheldPhysicalDeviceBanks adapter &&& ~~~settled) ||| waiting) }
  else self

end DirtyFlags

namespace RegistryStore

def new (adapters : List AdapterRecord) : RegistryStore := ⟨Inner.new adapters, DirtyFlags.new⟩

def change (self : RegistryStore) (apply : slice -> Inner -> Inner) (found : Option slice) :
    RegistryStore :=
  match found with
  | none => self
  | some slice => { self with inner := apply slice self.inner }

def presentShorts (inner : Inner) (adapter : Nat) (short : ShortAddress) : Bool :=
  (inner.devices (adapter, short)).isSome

def banksOf (inner : Inner) (adapter : Nat) : BitVec 16 :=
  (finRange 64).foldl (fun banks short =>
    if presentShorts inner adapter short then banks ||| BitVec.twoPow 16 (bankOf short)
    else banks) 0

variable (codecs : Codecs bytes) (slices : SliceStore bytes)

def bankSlot (adapter : Nat) (bank : BankId) : SlotOutcome × Option PhysicalDevicesSlice :=
  readSlot (slices (.physicalDeviceBank adapter bank)) (decodePhysicalDeviceBank codecs bank)

def hydratePhysicalDeviceBanks (self : RegistryStore) (adapter : Nat) (which : List BankId) :
    RegistryStore :=
  which.foldl (fun store bank => store.change (fun slice inner =>
    inner.hydratePhysicalDeviceBankInner adapter bank slice)
      (bankSlot codecs slices adapter bank).2) self

def bankOutcomes (adapter : Nat) (which : List BankId) : BankOutcomes :=
  which.foldl (fun outcomes bank => outcomes.note bank (bankSlot codecs slices adapter bank).1)
    BankOutcomes.none

variable (self : RegistryStore) (adapter : Nat)

/-- The devices of the old slot for banks that did not load; what the registry has of a bank
that waits for nothing stays. -/
def fallBackToWholeAdapterSlot (opened : BitVec 16) : RegistryStore × SlotOutcome :=
  let live := banksOf self.inner adapter ||| self.dirty.pendingPhysicalDeviceBanks adapter
  let takeable := opened &&& (self.dirty.withheldBanks adapter ||| ~~~live)
  let read := readSlot (slices (.physicalDevices adapter)) codecs.physicalDevices.decode
  (self.change (fun slice inner => inner.hydratePhysicalDevicesInner adapter
    (slice.filter fun row => takeable.getLsbD (bankOf row.1)
      && !presentShorts self.inner adapter row.1)) read.2, read.1)

/-- The old slot is read only for banks that did not load. -/
def readOldSlot (opened : BitVec 16) : RegistryStore × Option SlotOutcome :=
  if opened = 0 then (self, none)
  else
    let fallback := self.fallBackToWholeAdapterSlot codecs slices adapter opened
    (fallback.1, some fallback.2)

/-- The bindings of lamps to banks that have been read after all and lack the device. -/
def dropBindingsTheirBanksLack (settled : BitVec 16) : RegistryStore :=
  { self with
    inner := { self.inner with
      lamps := fun key =>
        if key.1 = adapter then
          (self.inner.lamps key).map fun lamp =>
            { lamp with
              bindingShort := lamp.bindingShort.filter fun short =>
                !settled.getLsbD (bankOf short) || presentShorts self.inner adapter short }
        else self.inner.lamps key } }

def hydratePhysicalDevicesOf (which : List BankId) : RegistryStore :=
  let banks := bankOutcomes codecs slices adapter which
  let read := self.hydratePhysicalDeviceBanks codecs slices adapter which
  let fallen := read.readOldSlot codecs slices adapter banks.open_
  let decision := banks.decide fallen.2
  let marked := fallen.1.dirty.markPhysicalDeviceBanksDirty adapter decision.rewrite
  let waited := marked.withheldBanks adapter
  let settled := marked.settlePhysicalDeviceBanks adapter decision.settled decision.waiting
  let released := waited &&& ~~~settled.withheldBanks adapter
  dropBindingsTheirBanksLack { fallen.1 with dirty := settled } adapter released

def hydrateGroupsSlice : RegistryStore :=
  self.change (fun slice inner => inner.hydrateGroupsInner adapter slice)
    (readSlot (slices (.groups adapter)) codecs.groups.decode).2

def hydrateVlSlice : RegistryStore :=
  self.change (fun slice inner =>
    inner.hydrateVirtualLampsInner adapter (self.dirty.withheldBanks adapter) slice)
      (readSlot (slices (.virtualLamps adapter)) codecs.virtualLamps.decode).2

def hydrateSceneSlice (scene : SceneId) : RegistryStore :=
  self.change (fun slice inner => inner.hydrateSceneInner adapter scene slice)
    (readSlot (slices (.scene adapter scene)) codecs.scene.decode).2

def hydrateAdaptersSlice : RegistryStore :=
  self.change (fun slice inner => inner.hydrateAdaptersInner slice)
    (readSlot (slices .adapters) codecs.adapters.decode).2

def hydrateAdapter (adapter : Nat) : RegistryStore :=
  let grouped := self.hydrateGroupsSlice codecs slices adapter
  let found := grouped.hydratePhysicalDevicesOf codecs slices adapter (finRange 16)
  let bound := found.hydrateVlSlice codecs slices adapter
  (finRange 16).foldl (fun store scene => store.hydrateSceneSlice codecs slices adapter scene) bound

/-- Every slot of the registry, read at boot or after an import. -/
def hydrateAll (adapterCount : Nat) : RegistryStore :=
  (range adapterCount).foldl (fun store adapter =>
    store.hydrateAdapter codecs slices adapter) (self.hydrateAdaptersSlice codecs slices)

end RegistryStore

end Oxidali.Lamps
