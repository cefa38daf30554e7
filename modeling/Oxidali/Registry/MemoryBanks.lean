import Oxidali.Lib.Words

/-!
# Memory banks read in chunks

A bank of a gear is read in chunks that arrive one event each.  Chunks of one
sweep share a correlation id, and the registry keeps one open read for each id:
a first chunk opens it, a chunk out of order drops it, and the last chunk commits
the bytes.  Which attributes a bank is parsed into does not matter here, so that
step is a parameter.
-/

namespace Oxidali.Registry.MemoryBanks

open Words List

structure ChunkIdentity where
  adapterId : Nat
  shortAddress : Nat
  bank : Nat
  startOffset : Nat
  deriving DecidableEq

structure MemoryBankStaging where
  identity : ChunkIdentity
  bytes : List Byte
  stagedAtMs : Nat
  indicatorUnread : Bool
  lastChunkIndex : Option Nat
  headless : Bool

namespace MemoryBankStaging

variable (st : MemoryBankStaging) (identity : ChunkIdentity)

def new (data : List Byte) (now chunkIndex : Nat) : MemoryBankStaging :=
  let headless := decide (chunkIndex ≠ 0)
  { identity
    bytes := if headless then [] else data
    stagedAtMs := now
    indicatorUnread := false
    lastChunkIndex := some chunkIndex
    headless }

def isReadOf : Bool :=
  decide (st.identity = identity)

/-- The chunk a read goes on with; there is none behind the largest index. -/
def inOrder (chunkIndex : Nat) : Bool :=
  match st.lastChunkIndex with
  | none => true
  | some last => decide (last < u16Max) && decide (chunkIndex = last + 1)

/-- The read with one more chunk, or nothing when the chunk is refused. -/
def acceptChunk (chunkIndex : Nat) (data : List Byte) (now : Nat) : Option MemoryBankStaging :=
  if st.isReadOf identity && st.inOrder chunkIndex then
    some
      { st with
        lastChunkIndex := some chunkIndex
        bytes := if st.headless then st.bytes else st.bytes ++ data
        stagedAtMs := now }
  else none

end MemoryBankStaging

/-- The open reads by correlation id. -/
abbrev Stages := Nat -> Option MemoryBankStaging

def stageChunk (stages : Stages) (correlationId : Nat) (identity : ChunkIdentity) (chunkIndex : Nat)
    (data : List Byte) (now : Nat) : Stages × Bool :=
  let fresh := MemoryBankStaging.new identity data now chunkIndex
  match stages correlationId with
  | none => (Function.update stages correlationId (some fresh), true)
  | some st =>
    if chunkIndex ≠ 0 || st.isReadOf identity then
      match st.acceptChunk identity chunkIndex data now with
      | some longer => (Function.update stages correlationId (some longer), true)
      | none => (Function.update stages correlationId none, false)
    else (Function.update stages correlationId (some fresh), true)

/-!
## Committing a bank
-/

structure MemoryBankRangeRecord where
  start : Nat
  length : Nat
  deriving DecidableEq

structure MemoryBankRecord where
  bank : Nat
  totalBytesRead : Nat
  lastReadMs : Nat
  ranges : List MemoryBankRangeRecord
  bytes : List Byte

structure PhysicalDeviceRecord (attributes : Type) where
  memoryBanks : List MemoryBankRecord
  attributes : attributes

def indicatorOffset : Nat := 0x01

/-- What was read of the bank: an indicator byte that was not is a gap. -/
def readRanges (start length : Nat) (indicatorUnread : Bool) : List MemoryBankRangeRecord :=
  let finish := saturatingAdd u16Max start length
  if !indicatorUnread || !(decide (start <= indicatorOffset) &&
      decide (indicatorOffset < finish)) then
    [{ start, length }]
  else
    [(start, indicatorOffset), (indicatorOffset + 1, finish)].filter
        (fun range => decide (range.1 < range.2)) |>.map
      (fun range => { start := range.1, length := range.2 - range.1 })

/-- The record takes the place of the one for its bank, or comes behind all
others; whether that changed anything but its time and bytes. -/
def putBank (record : MemoryBankRecord) : List MemoryBankRecord -> List MemoryBankRecord × Bool
  | [] => ([record], true)
  | entry :: rest =>
    if entry.bank = record.bank then
      (record :: rest, entry.totalBytesRead != record.totalBytesRead ||
        entry.ranges != record.ranges)
    else
      let put := putBank record rest
      (entry :: put.1, put.2)

section Store

variable {attributes : Type}

/-- How the attributes of a device follow its bank: bank, bytes, start offset and
time. -/
abbrev ParsedBank (attributes : Type) :=
  Nat -> List Byte -> Nat -> Nat -> attributes -> attributes × Bool

variable (applyParsedBank : ParsedBank attributes)

def commitMemoryBank (record : PhysicalDeviceRecord attributes) (bank startOffset : Nat)
    (indicatorUnread : Bool) (bytes : List Byte)
    (nowMs : Nat) : PhysicalDeviceRecord attributes × Bool :=
  let length := min bytes.length u16Max
  let ranges := readRanges startOffset length indicatorUnread
  let put := putBank
    { bank
      totalBytesRead := (ranges.map MemoryBankRangeRecord.length).sum
      lastReadMs := nowMs
      ranges
      bytes } record.memoryBanks
  let parsed := applyParsedBank bank bytes startOffset nowMs record.attributes
  ({ memoryBanks := put.1, attributes := parsed.1 }, put.2 || parsed.2)

structure RegistryStore (attributes : Type) where
  memoryBankStage : Stages
  physicalDevices : Nat × Nat -> Option (PhysicalDeviceRecord attributes)
  physicalDevicesRevision : Nat
  /-- The devices marked for writing, in the order of the marks. -/
  dirty : List (Nat × Nat)

namespace RegistryStore

variable (store : RegistryStore attributes)

/-- The registry with one bank of a device committed. -/
def commitBank (device : Nat × Nat) (record : PhysicalDeviceRecord attributes)
    (bank startOffset : Nat) (indicatorUnread : Bool) (bytes : List Byte) (nowMs : Nat) :
    RegistryStore attributes :=
  let committed := commitMemoryBank applyParsedBank record bank startOffset
    indicatorUnread bytes nowMs
  { store with
    physicalDevices := Function.update store.physicalDevices device (some committed.1)
    physicalDevicesRevision := saturatingAdd u32Max store.physicalDevicesRevision 1
    dirty := if committed.2 then store.dirty ++ [device] else store.dirty }

def commitStagedBank (correlationId nowMs : Nat) : RegistryStore attributes × Bool :=
  let removed :=
    { store with
      memoryBankStage := Function.update store.memoryBankStage correlationId none }
  match store.memoryBankStage correlationId with
  | none => (removed, false)
  | some st =>
    if st.headless then (removed, false)
    else
      let device := (st.identity.adapterId, st.identity.shortAddress)
      match store.physicalDevices device with
      | none => (removed, false)
      | some record =>
        (removed.commitBank applyParsedBank device record st.identity.bank
          st.identity.startOffset st.indicatorUnread st.bytes nowMs, true)

/-- A chunk event, with the times at which it is staged and committed. -/
structure ChunkEvent where
  correlationId : Nat
  identity : ChunkIdentity
  chunkIndex : Nat
  lastChunk : Bool
  indicatorUnread : Bool
  data : List Byte
  stagedAtMs : Nat
  committedAtMs : Nat

def stageMemoryBankChunk (event : ChunkEvent) : RegistryStore attributes × Bool :=
  let staged := stageChunk store.memoryBankStage event.correlationId event.identity
    event.chunkIndex event.data event.stagedAtMs
  let marked :=
    if staged.2 then
      Function.update staged.1 event.correlationId
        ((staged.1 event.correlationId).map (fun st =>
          { st with indicatorUnread := st.indicatorUnread || event.indicatorUnread }))
    else staged.1
  let next := { store with memoryBankStage := marked }
  if !staged.2 || !event.lastChunk then (next, false)
  else next.commitStagedBank applyParsedBank event.correlationId event.committedAtMs

end RegistryStore

/-!
## Reads and what arrives of them
-/

/-- A chunk of a read, and whether its event arrives. -/
structure BankChunk where
  data : List Byte
  indicatorUnread : Bool
  arrives : Bool
  stagedAtMs : Nat
  committedAtMs : Nat

/-- A read of a bank: at least one chunk, and no more than there are indices. -/
structure BankRead where
  bank : Nat
  startOffset : Nat
  chunks : List BankChunk
  nonempty : chunks ≠ []
  fits : chunks.length <= u16Max + 1

namespace BankRead

def identity (device : Nat × Nat) (read : BankRead) : ChunkIdentity :=
  { adapterId := device.1, shortAddress := device.2, bank := read.bank,
    startOffset := read.startOffset }

def eventOf (correlationId : Nat) (identity : ChunkIdentity) (index : Nat) (lastChunk : Bool)
    (chunk : BankChunk) : RegistryStore.ChunkEvent :=
  { correlationId, identity, chunkIndex := index, lastChunk
    indicatorUnread := chunk.indicatorUnread, data := chunk.data
    stagedAtMs := chunk.stagedAtMs, committedAtMs := chunk.committedAtMs }

/-- The events of the chunks that arrive, from an index on. -/
def eventsFrom (correlationId : Nat) (identity : ChunkIdentity) :
    Nat -> List BankChunk -> List RegistryStore.ChunkEvent
  | _, [] => []
  | index, chunk :: rest =>
    let later := eventsFrom correlationId identity (index + 1) rest
    if chunk.arrives then
      eventOf correlationId identity index rest.isEmpty chunk :: later
    else later

def events (correlationId : Nat) (device : Nat × Nat) (read : BankRead) :
    List RegistryStore.ChunkEvent :=
  eventsFrom correlationId (read.identity device) 0 read.chunks

variable (read : BankRead)

def whole : Bool := read.chunks.all BankChunk.arrives

def bytes : List Byte := read.chunks.flatMap BankChunk.data

def indicatorUnread : Bool :=
  read.chunks.any BankChunk.indicatorUnread

def committedAtMs : Nat :=
  (read.chunks.getLast read.nonempty).committedAtMs

end BankRead

namespace RegistryStore

def handle (store : RegistryStore attributes) (event : ChunkEvent) : RegistryStore attributes :=
  (store.stageMemoryBankChunk applyParsedBank event).1

end RegistryStore

/-!
## One read

While no chunk of a read was lost, the open read holds exactly the chunks so far.
Once one was, whatever is open is another read, has lost its first chunk, or waits
for a chunk that has passed.
-/

/-- The open read of chunks that have all arrived. -/
def openRead (identity : ChunkIdentity) (chunks : List BankChunk) (stagedAtMs : Nat) :
    MemoryBankStaging :=
  { identity
    bytes := chunks.flatMap BankChunk.data
    stagedAtMs
    indicatorUnread := chunks.any BankChunk.indicatorUnread
    lastChunkIndex := some (chunks.length - 1)
    headless := false }

/-- The open read holds these chunks; before the first one it is another read. -/
inductive Gathered (identity : ChunkIdentity) :
    List BankChunk -> Option MemoryBankStaging -> Prop where
  | fresh {stage : Option MemoryBankStaging}
      (hforeign : forall st, stage = some st -> st.identity ≠ identity) :
      Gathered identity [] stage
  | going {before : List BankChunk} (hne : before ≠ []) (stagedAtMs : Nat) :
      Gathered identity before (some (openRead identity before stagedAtMs))

def Broken (identity : ChunkIdentity) (index : Nat) (stage : Option MemoryBankStaging) : Prop :=
  forall st, stage = some st -> st.identity ≠ identity ∨ st.headless = true ∨
    exists last, st.lastChunkIndex = some last ∧ last + 1 < index

variable {stage : Option MemoryBankStaging} {before : List BankChunk} {identity : ChunkIdentity}

theorem Gathered.broken (h : Gathered identity before stage) :
    Broken identity (before.length + 1) stage := by
  intro st hst
  cases h with
  | fresh hforeign => exact .inl (hforeign st hst)
  | going hne =>
    cases hst
    have hpos := length_pos_iff.mpr hne
    exact .inr (.inr ⟨_, rfl, by omega⟩)

theorem Broken.later {index : Nat}
    (h : Broken identity index stage) : Broken identity (index + 1) stage := by
  intro st hst
  rcases h st hst with hother | hheadless | ⟨last, hlast, hlt⟩
  · exact .inl hother
  · exact .inr (.inl hheadless)
  · exact .inr (.inr ⟨last, hlast, Nat.lt_succ_of_lt hlt⟩)

section Staging

variable {stages : Stages} {correlationId : Nat} {identity : ChunkIdentity}

/-- The next chunk of a read that has lost none is added to it. -/
theorem Gathered.stageChunk (h : Gathered identity before (stages correlationId))
    (hfits : before.length <= u16Max) (chunk : BankChunk) :
    exists st, stageChunk stages correlationId identity before.length chunk.data
        chunk.stagedAtMs = (Function.update stages correlationId (some st), true) ∧
      Gathered identity (before ++ [chunk]) (some
        { st with
          indicatorUnread := st.indicatorUnread || chunk.indicatorUnread }) := by
  generalize hstage : stages correlationId = stage at h
  cases h with
  | fresh hforeign =>
    refine ⟨.new identity chunk.data chunk.stagedAtMs 0, ?_, ?_⟩
    · unfold MemoryBanks.stageChunk
      cases stage with
      | none => simp [hstage]
      | some st =>
        have hnot : st.isReadOf identity = false := by
          simp [MemoryBankStaging.isReadOf, hforeign st rfl]
        simp [hstage, hnot]
    · have hgoing : Gathered identity [chunk]
          (some (openRead identity [chunk] chunk.stagedAtMs)) :=
        .going (cons_ne_nil chunk []) _
      simpa [MemoryBankStaging.new, openRead] using hgoing
  | going hne stagedAtMs =>
    have hpos := length_pos_iff.mpr hne
    have hlast : before.length - 1 + 1 = before.length := by omega
    have hroom : before.length - 1 < u16Max := by omega
    have haccept : (openRead identity before stagedAtMs).acceptChunk identity
        before.length chunk.data chunk.stagedAtMs = some
          { openRead identity (before ++ [chunk]) chunk.stagedAtMs with
            indicatorUnread := before.any BankChunk.indicatorUnread } := by
      simp [MemoryBankStaging.acceptChunk, MemoryBankStaging.isReadOf,
        MemoryBankStaging.inOrder, openRead, hlast, hroom]
    refine ⟨{ openRead identity (before ++ [chunk]) chunk.stagedAtMs with
        indicatorUnread := before.any BankChunk.indicatorUnread }, ?_, ?_⟩
    · simp [MemoryBanks.stageChunk, hstage, Nat.ne_of_gt hpos, haccept]
    · have hgoing : Gathered identity (before ++ [chunk])
          (some (openRead identity (before ++ [chunk]) chunk.stagedAtMs)) :=
        .going (by simp) _
      simpa [openRead] using hgoing

/-- A later chunk of a read that has lost one is refused, or joins a read that
commits nothing. -/
theorem Broken.stageChunk {index : Nat} (h : Broken identity index (stages correlationId))
    (hpos : 0 < index) (data : List Byte) (now : Nat) :
    (exists st, stageChunk stages correlationId identity index data now =
        (Function.update stages correlationId (some st), true) ∧
        st.headless ∧ st.identity = identity) ∨
      stageChunk stages correlationId identity index data now =
        (Function.update stages correlationId none, false) := by
  have hindex : index ≠ 0 := Nat.ne_of_gt hpos
  unfold MemoryBanks.stageChunk
  cases hstage : stages correlationId with
  | none =>
    left
    refine ⟨_, rfl, ?_, rfl⟩
    simp [MemoryBankStaging.new, hindex]
  | some st =>
    simp only [hindex, ne_eq, not_false_eq_true, decide_true, Bool.true_or, if_true]
    cases haccept : st.acceptChunk identity index data now with
    | none => exact .inr rfl
    | some longer =>
      left
      unfold MemoryBankStaging.acceptChunk at haccept
      split at haccept
      next hordered =>
        rw [Bool.and_eq_true, MemoryBankStaging.isReadOf, decide_eq_true_eq] at hordered
        cases haccept
        refine ⟨_, rfl, ?_, hordered.1⟩
        rcases h st hstage with hother | hheadless | ⟨last, hlast, hlt⟩
        · exact absurd hordered.1 hother
        · exact hheadless
        · have horder := hordered.2
          simp only [MemoryBankStaging.inOrder, hlast, Bool.and_eq_true,
            decide_eq_true_eq] at horder
          omega
      next => cases haccept

end Staging

namespace RegistryStore

variable {store : RegistryStore attributes} {correlationId : Nat} {identity : ChunkIdentity}

variable {seen : List ChunkIdentity}

variable {record : PhysicalDeviceRecord attributes}

variable {device : Nat × Nat}

end RegistryStore
end Store

end Oxidali.Registry.MemoryBanks
