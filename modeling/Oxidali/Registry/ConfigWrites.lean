import Oxidali.Lib.Words

/-!
# Matrices written in chunks

A write of a group or scene matrix is a series of chunks and a commit that states
how many there were.  The registry keeps one stage for each matrix and at most two
of them: a chunk of another series displaces the stage of its matrix, a chunk that
is refused drops it, and stages that wait for too long are dropped as well.  A
commit is judged by its series and its count alone.
-/

namespace Oxidali.Registry.ConfigWrites

open Words List AList

inductive ConfigWriteResource where
  | groupMatrix
  | sceneMatrix
  deriving DecidableEq

/-- Resource, adapter and scene. -/
abbrev ConfigWriteStageKey := ConfigWriteResource × Nat × Nat

inductive ConfigWriteRejection where
  | tooManyStages
  | tooManyRows
  | noStage
  | chunkCountMismatch
  deriving DecidableEq

def ConfigWriteRejection.message : ConfigWriteRejection -> String
  | .tooManyStages => "config_write_stage_limit"
  | .tooManyRows => "config_write_too_many_rows"
  | .noStage => "config_write_no_stage"
  | .chunkCountMismatch => "config_write_chunk_mismatch"

def maxConfigWriteStages : Nat := 2

/-- As many rows as there are virtual lamps. -/
def maxStagedRows : Nat := 64

inductive StagedRows (groupRow sceneRow : Type) where
  | group (rows : List groupRow)
  | scene (rows : List sceneRow)

structure ConfigWriteStage (groupRow sceneRow : Type) where
  rows : StagedRows groupRow sceneRow
  chunks : Nat
  stagedAtMs : Nat
  series : Nat

abbrev Stages (groupRow sceneRow : Type) :=
  AList (fun _ : ConfigWriteStageKey => ConfigWriteStage groupRow sceneRow)

variable {groupRow sceneRow matrices : Type}

def emptyRows : ConfigWriteResource -> StagedRows groupRow sceneRow
  | .groupMatrix => .group []
  | .sceneMatrix => .scene []

variable (stages : Stages groupRow sceneRow) (series : Nat)

/-- A stage of another series makes room for this one. -/
def displace (key : ConfigWriteStageKey) (series : Nat) : Stages groupRow sceneRow :=
  match stages.lookup key with
  | some stage => if stage.series ≠ series then stages.erase key else stages
  | none => stages

def stageRows (key : ConfigWriteStageKey) (series stagedAtMs : Nat)
    (append : StagedRows groupRow sceneRow -> StagedRows groupRow sceneRow × Nat) :
    Stages groupRow sceneRow × Except ConfigWriteRejection Unit :=
  let displaced := displace stages key series
  if (displaced.lookup key).isNone ∧
      maxConfigWriteStages <= displaced.entries.length then
    (displaced, .error .tooManyStages)
  else
    let stage := (displaced.lookup key).getD
      { rows := emptyRows key.1, chunks := 0, stagedAtMs, series }
    let appended := append stage.rows
    let next := displaced.insert key
      { stage with
        rows := appended.1
        chunks := saturatingAdd u8Max stage.chunks 1 }
    if maxStagedRows < appended.2 then (next, .error .tooManyRows)
    else (next, .ok ())

def evictOnError (key : ConfigWriteStageKey)
    (staged : Stages groupRow sceneRow × Except ConfigWriteRejection Unit) :
    Stages groupRow sceneRow × Except ConfigWriteRejection Unit :=
  match staged.2 with
  | .error _ => (staged.1.erase key, staged.2)
  | .ok _ => staged

def appendScene (rows : List sceneRow) :
    StagedRows groupRow sceneRow -> StagedRows groupRow sceneRow × Nat
  | .scene staged => (.scene (staged ++ rows), (staged ++ rows).length)
  | .group staged => (.group staged, staged.length)

def appendGroup (rows : List groupRow) :
    StagedRows groupRow sceneRow -> StagedRows groupRow sceneRow × Nat
  | .group staged => (.group (staged ++ rows), (staged ++ rows).length)
  | .scene staged => (.scene staged, staged.length)

def stageSceneMatrixChunk (adapterId sceneId : Nat) (rows : List sceneRow) (nowMs : Nat) :
    Stages groupRow sceneRow × Except ConfigWriteRejection Unit :=
  let key := (ConfigWriteResource.sceneMatrix, adapterId, sceneId)
  evictOnError key (stageRows stages key series nowMs (appendScene rows))

def stageGroupMatrixChunk (adapterId : Nat) (rows : List groupRow) (nowMs : Nat) :
    Stages groupRow sceneRow × Except ConfigWriteRejection Unit :=
  let key := (ConfigWriteResource.groupMatrix, adapterId, 0)
  evictOnError key (stageRows stages key series nowMs (appendGroup rows))

/-- `evict_stale`: the stages that are too old are dropped. -/
def evictStale (nowMs maxAgeMs : Nat) : Stages groupRow sceneRow :=
  (stages.keys.filter (fun key => (stages.lookup key).any (fun stage =>
    decide (maxAgeMs < nowMs - stage.stagedAtMs)))).foldl
      (fun stages key => stages.erase key) stages

/-- What a commit does to the matrices: which of them, its place and its rows. -/
structure Matrices (groupRow sceneRow matrices : Type) where
  applySceneMatrixRows : Nat -> Nat -> List sceneRow -> matrices -> matrices × Bool
  applyGroupMatrixRows : Nat -> List groupRow -> matrices -> matrices × Bool

def Matrices.applyRows (apply : Matrices groupRow sceneRow matrices) (adapterId sceneId : Nat) :
    StagedRows groupRow sceneRow -> matrices -> matrices × Bool
  | .scene rows => apply.applySceneMatrixRows adapterId sceneId rows
  | .group rows => apply.applyGroupMatrixRows adapterId rows

structure RegistryStore (groupRow sceneRow matrices : Type) where
  configWriteStage : Stages groupRow sceneRow
  matrices : matrices

section Store

variable (apply : Matrices groupRow sceneRow matrices)

def RegistryStore.commitConfigWrite (store : RegistryStore groupRow sceneRow matrices)
    (series : Nat) (resource : ConfigWriteResource) (adapterId sceneId chunks : Nat) :
    RegistryStore groupRow sceneRow matrices × Except ConfigWriteRejection Bool :=
  let key := (resource, adapterId, sceneId)
  match store.configWriteStage.lookup key with
  | none => (store, .error .noStage)
  | some current =>
    if current.series ≠ series then (store, .error .noStage)
    else
      let removed :=
        { store with configWriteStage := store.configWriteStage.erase key }
      if current.chunks ≠ chunks then (removed, .error .chunkCountMismatch)
      else
        let applied := apply.applyRows adapterId sceneId current.rows store.matrices
        ({ removed with matrices := applied.1 }, .ok applied.2)

/-!
## Series and what arrives of them
-/

/-- A series: its matrix and the chunks it is sent in. -/
inductive Series (groupRow sceneRow : Type) where
  | group (adapterId : Nat) (chunks : List (List groupRow))
  | scene (adapterId sceneId : Nat) (chunks : List (List sceneRow))

namespace Series

def key : Series groupRow sceneRow -> ConfigWriteStageKey
  | .group adapterId _ => (.groupMatrix, adapterId, 0)
  | .scene adapterId sceneId _ => (.sceneMatrix, adapterId, sceneId)

def count : Series groupRow sceneRow -> Nat
  | .group _ chunks => chunks.length
  | .scene _ _ chunks => chunks.length

/-- The rows of chunks in an order. -/
def rowsOf : Series groupRow sceneRow -> List Nat -> StagedRows groupRow sceneRow
  | .group _ chunks, indices =>
    .group (indices.flatMap (fun index => chunks.getD index []))
  | .scene _ _ chunks, indices =>
    .scene (indices.flatMap (fun index => chunks.getD index []))

end Series

/-- A chunk or the commit of a series is handled, or old stages are dropped. -/
inductive Op where
  | chunk (series index nowMs : Nat)
  | commit (series : Nat)
  | evict (nowMs maxAgeMs : Nat)

def stageSeriesChunk (index nowMs : Nat) :
    Series groupRow sceneRow -> Stages groupRow sceneRow × Except ConfigWriteRejection Unit
  | .group adapterId chunks =>
    stageGroupMatrixChunk stages series adapterId (chunks.getD index []) nowMs
  | .scene adapterId sceneId chunks =>
    stageSceneMatrixChunk stages series adapterId sceneId (chunks.getD index []) nowMs

namespace RegistryStore

def commitSeries (store : RegistryStore groupRow sceneRow matrices) (series : Nat)
    (sent : Series groupRow sceneRow) :
    RegistryStore groupRow sceneRow matrices × Except ConfigWriteRejection Bool :=
  store.commitConfigWrite apply series sent.key.1 sent.key.2.1 sent.key.2.2 sent.count

variable (table : Nat -> Series groupRow sceneRow)

def step (store : RegistryStore groupRow sceneRow matrices) :
    Op -> RegistryStore groupRow sceneRow matrices
  | .chunk series index nowMs =>
    { store with
      configWriteStage := (stageSeriesChunk store.configWriteStage series index nowMs
        (table series)).1 }
  | .commit series => (store.commitSeries apply series (table series)).1
  | .evict nowMs maxAgeMs =>
    { store with
      configWriteStage := evictStale store.configWriteStage nowMs maxAgeMs }

def run (store : RegistryStore groupRow sceneRow matrices) (ops : List Op) :
    RegistryStore groupRow sceneRow matrices :=
  ops.foldl (step apply table) store

end RegistryStore
end Store

/-- The chunk an operation handles. -/
def Op.handled : Op -> Option (Nat × Nat)
  | .chunk series index _ => some (series, index)
  | .commit _ => none
  | .evict _ _ => none

def chunksOf (ops : List Op) : List Nat :=
  (ops.filterMap Op.handled).filterMap
    (fun chunk => if chunk.1 = series then some chunk.2 else none)

@[simp] theorem chunksOf_append (first second : List Op) :
    chunksOf series (first ++ second) = chunksOf series first ++ chunksOf series second := by
  simp [chunksOf]

@[simp] theorem chunksOf_chunk (index nowMs : Nat) :
    chunksOf series [.chunk series index nowMs] = [index] := by
  simp [chunksOf, Op.handled]

theorem chunksOf_other {series : Nat} {op : Op}
    (h : forall index nowMs, op ≠ .chunk series index nowMs) : chunksOf series [op] = [] := by
  cases op with
  | chunk other index nowMs =>
    have hne : other ≠ series := by
      intro heq
      exact h index nowMs (by rw [heq])
    simp [chunksOf, Op.handled, hne]
  | commit _ | evict _ _ => rfl

/-!
## One chunk
-/

namespace Series

/-- A chunk put behind staged rows, and how many rows there are then. -/
def append (sent : Series groupRow sceneRow) (index : Nat) :
    StagedRows groupRow sceneRow -> StagedRows groupRow sceneRow × Nat :=
  match sent with
  | .group _ chunks => appendGroup (chunks.getD index [])
  | .scene _ _ chunks => appendScene (chunks.getD index [])

theorem append_rowsOf (sent : Series groupRow sceneRow) (indices : List Nat) (index : Nat) :
    (sent.append index (sent.rowsOf indices)).1 = sent.rowsOf (indices ++ [index]) := by
  cases sent <;> simp [append, rowsOf, appendGroup, appendScene]

theorem rowsOf_nil (sent : Series groupRow sceneRow) : sent.rowsOf [] = emptyRows sent.key.1 := by
  cases sent <;> rfl

end Series

theorem stageSeriesChunk_eq (index nowMs : Nat) (sent : Series groupRow sceneRow) :
    stageSeriesChunk stages series index nowMs sent = evictOnError sent.key
        (stageRows stages sent.key series nowMs (sent.append index)) := by
  cases sent <;> rfl

section Chunk

variable {stages : Stages groupRow sceneRow} {key : ConfigWriteStageKey} {series nowMs : Nat}
  {append : StagedRows groupRow sceneRow -> StagedRows groupRow sceneRow × Nat}

theorem lookup_displace_ne {other : ConfigWriteStageKey} (h : other ≠ key) :
    (displace stages key series).lookup other = stages.lookup other := by
  unfold displace
  split
  · split
    · exact lookup_erase_ne h
    · rfl
  · rfl

variable {stage : ConfigWriteStage groupRow sceneRow}

theorem lookup_displace (h : (displace stages key series).lookup key = some stage) :
    stages.lookup key = some stage ∧ stage.series = series := by
  unfold displace at h
  split at h
  next current hcurrent =>
    split at h
    · rw [lookup_erase] at h
      cases h
    next hsame =>
      rw [not_not] at hsame
      rw [hcurrent] at h
      cases h
      exact ⟨hcurrent, hsame⟩
  next hnone =>
    rw [hnone] at h
    cases h

theorem lookup_stage_ne {other : ConfigWriteStageKey} (h : other ≠ key) :
    (evictOnError key (stageRows stages key series nowMs append)).1.lookup other =
      stages.lookup other := by
  have hinsert : forall stage : ConfigWriteStage groupRow sceneRow,
      ((displace stages key series).insert key stage).lookup other = stages.lookup other := by
    intro stage
    rw [lookup_insert_ne h, lookup_displace_ne h]
  unfold stageRows
  simp only
  split
  · rw [evictOnError, lookup_erase_ne h, lookup_displace_ne h]
  · split
    · rw [evictOnError, lookup_erase_ne h, hinsert]
    · rw [evictOnError, hinsert]

/-- The stage a chunk leaves for its matrix, if it leaves one: the stage of its
series with the chunk behind it, or a new one. -/
theorem lookup_stage
    (h : (evictOnError key (stageRows stages key series nowMs append)).1.lookup key = some stage) :
    exists base : ConfigWriteStage groupRow sceneRow,
      stage = { base with
        rows := (append base.rows).1
        chunks := saturatingAdd u8Max base.chunks 1 } ∧
      base.series = series ∧
      (stages.lookup key = some base ∨ base.rows = emptyRows key.1 ∧ base.chunks = 0) := by
  unfold stageRows at h
  simp only at h
  split at h
  · rw [evictOnError, lookup_erase] at h
    cases h
  · split at h
    · rw [evictOnError, lookup_erase] at h
      cases h
    · rw [evictOnError, lookup_insert] at h
      refine ⟨_, (Option.some.inj h).symm, ?_⟩
      cases hbase : (displace stages key series).lookup key with
      | none => exact ⟨rfl, .inr ⟨rfl, rfl⟩⟩
      | some base =>
        rcases lookup_displace hbase with ⟨hcurrent, hseries⟩
        exact ⟨hseries, .inl hcurrent⟩

end Chunk

/-!
## Whole runs
-/

/-- A stage holds the chunks of its series that were handled since, and nothing of
another series for its matrix was. -/
structure Assembled (table : Nat -> Series groupRow sceneRow) (since : List Op)
    (key : ConfigWriteStageKey) (stage : ConfigWriteStage groupRow sceneRow) :
    Prop where
  key_eq : (table stage.series).key = key
  alone : forall series index nowMs, .chunk series index nowMs ∈ since ->
    (table series).key = key -> series = stage.series
  rows_eq : stage.rows = (table stage.series).rowsOf (chunksOf stage.series since)
  chunks_eq : stage.chunks = min (chunksOf stage.series since).length u8Max

/-- Every stage was assembled by the last operations of a run. -/
def Staged (table : Nat -> Series groupRow sceneRow) (done : List Op)
    (stages : Stages groupRow sceneRow) : Prop :=
  forall key stage, stages.lookup key = some stage ->
    exists earlier since, done = earlier ++ since ∧ Assembled table since key stage

section Runs

variable {table : Nat -> Series groupRow sceneRow} {done since : List Op}
  {key : ConfigWriteStageKey} {stage : ConfigWriteStage groupRow sceneRow}

theorem Assembled.later (h : Assembled table since key stage) {op : Op}
    (hop : forall series index nowMs, op = .chunk series index nowMs -> (table series).key ≠ key) :
    Assembled table (since ++ [op]) key stage := by
  have hnone : chunksOf stage.series [op] = [] := by
    apply chunksOf_other
    intro index nowMs heq
    exact hop _ _ _ heq h.key_eq
  refine ⟨h.key_eq, ?_, ?_, ?_⟩
  · intro series index nowMs hmem hkey
    rcases mem_append.mp hmem with hbefore | hnow
    · exact h.alone series index nowMs hbefore hkey
    · exact absurd hkey (hop _ _ _ (mem_singleton.mp hnow).symm)
  · rw [chunksOf_append, hnone, append_nil]
    exact h.rows_eq
  · rw [chunksOf_append, hnone, append_nil]
    exact h.chunks_eq

theorem Assembled.chunk (h : Assembled table since key stage) (index nowMs : Nat) :
    Assembled table (since ++ [.chunk stage.series index nowMs]) key
      { stage with
        rows := ((table stage.series).append index stage.rows).1
        chunks := saturatingAdd u8Max stage.chunks 1 } := by
  refine ⟨h.key_eq, ?_, ?_, ?_⟩
  · intro series place now hmem hkey
    rcases mem_append.mp hmem with hbefore | hnow
    · exact h.alone series place now hbefore hkey
    · cases mem_singleton.mp hnow
      rfl
  · simp only [chunksOf_append, chunksOf_chunk]
    rw [h.rows_eq, Series.append_rowsOf]
  · simp only [chunksOf_append, chunksOf_chunk, length_append,
      length_singleton, h.chunks_eq, saturatingAdd]
    omega

theorem assembled_first {index nowMs : Nat}
    (hrows : stage.rows = emptyRows (table stage.series).key.1) (hchunks : stage.chunks = 0) :
    Assembled table [.chunk stage.series index nowMs] (table stage.series).key
      { stage with
        rows := ((table stage.series).append index stage.rows).1
        chunks := saturatingAdd u8Max stage.chunks 1 } := by
  have hempty : Assembled table [] (table stage.series).key stage := by
    refine ⟨rfl, nofun, ?_, ?_⟩
    · rw [hrows, <- Series.rowsOf_nil]
      rfl
    · rw [hchunks]
      rfl
  exact hempty.chunk index nowMs

variable {stages : Stages groupRow sceneRow}

theorem lookup_of_erase {erased : ConfigWriteStageKey}
    (h : (stages.erase erased).lookup key = some stage) : stages.lookup key = some stage := by
  by_cases hkey : key = erased
  · rw [hkey, lookup_erase] at h
    cases h
  · rwa [lookup_erase_ne hkey] at h

theorem lookup_of_evictStale {nowMs maxAgeMs : Nat}
    (h : (evictStale stages nowMs maxAgeMs).lookup key = some stage) :
    stages.lookup key = some stage := by
  refine foldlRecOn (motive := fun next : Stages groupRow sceneRow =>
    next.lookup key = some stage -> stages.lookup key = some stage) _ _ id ?_ h
  exact fun _ hnext _ _ herased => hnext (lookup_of_erase herased)

theorem Staged.kept (h : Staged table done stages) {op : Op} {next : Stages groupRow sceneRow}
    (hkept : forall key stage, next.lookup key = some stage -> stages.lookup key = some stage)
    (hop : forall series index nowMs, op ≠ .chunk series index nowMs) :
    Staged table (done ++ [op]) next := by
  intro key stage hlookup
  rcases h key stage (hkept key stage hlookup) with
    ⟨earlier, since, hdone, hassembled⟩
  refine ⟨earlier, since ++ [op], ?_, hassembled.later ?_⟩
  · rw [hdone, append_assoc]
  · intro series index nowMs heq
    exact absurd heq (hop series index nowMs)

theorem Staged.chunk (h : Staged table done stages) (series index nowMs : Nat) :
    Staged table (done ++ [.chunk series index nowMs])
      (stageSeriesChunk stages series index nowMs (table series)).1 := by
  intro key stage hlookup
  rw [stageSeriesChunk_eq] at hlookup
  by_cases hkey : key = (table series).key
  · subst hkey
    rcases lookup_stage hlookup with ⟨base, rfl, rfl, hcurrent | ⟨hrows, hchunks⟩⟩
    · rcases h _ base hcurrent with ⟨earlier, since, hdone, hassembled⟩
      refine ⟨earlier, since ++ [.chunk base.series index nowMs], ?_, hassembled.chunk index nowMs⟩
      rw [hdone, append_assoc]
    · exact ⟨done, [.chunk base.series index nowMs], rfl, assembled_first hrows hchunks⟩
  · rw [lookup_stage_ne hkey] at hlookup
    rcases h key stage hlookup with ⟨earlier, since, hdone, hassembled⟩
    refine ⟨earlier, since ++ [.chunk series index nowMs], ?_, hassembled.later ?_⟩
    · rw [hdone, append_assoc]
    · intro other place now heq hother
      cases heq
      exact hkey hother.symm

variable (apply : Matrices groupRow sceneRow matrices)

/-- A commit is rejected and changes no row, or it finds all chunks of its series in the
stage. -/
theorem commitConfigWrite_cases (store : RegistryStore groupRow sceneRow matrices) (series : Nat)
    (resource : ConfigWriteResource) (adapterId sceneId chunks : Nat) :
    let key := (resource, adapterId, sceneId)
    let committed := store.commitConfigWrite apply series resource adapterId sceneId chunks
    (committed.1.configWriteStage = store.configWriteStage ∨
        committed.1.configWriteStage = store.configWriteStage.erase key) ∧
      ((exists rejection, committed.2 = .error rejection) ∧ committed.1.matrices = store.matrices ∨
        exists stage, store.configWriteStage.lookup key = some stage ∧ stage.series = series ∧
          stage.chunks = chunks ∧ committed.1.matrices =
            (apply.applyRows adapterId sceneId stage.rows store.matrices).1) := by
  dsimp only [RegistryStore.commitConfigWrite]
  split
  · exact ⟨.inl rfl, .inl ⟨⟨_, rfl⟩, rfl⟩⟩
  next stage hstage =>
    split
    · exact ⟨.inl rfl, .inl ⟨⟨_, rfl⟩, rfl⟩⟩
    next hseries =>
      split
      · exact ⟨.inr rfl, .inl ⟨⟨_, rfl⟩, rfl⟩⟩
      next hchunks =>
        exact ⟨.inr rfl, .inr ⟨stage, hstage, not_not.mp hseries, not_not.mp hchunks, rfl⟩⟩

variable {store : RegistryStore groupRow sceneRow matrices}

theorem Staged.step (h : Staged table done store.configWriteStage) (op : Op) :
    Staged table (done ++ [op]) (store.step apply table op).configWriteStage := by
  cases op with
  | chunk series index nowMs => exact h.chunk series index nowMs
  | commit series =>
    rcases (commitConfigWrite_cases apply store series _ _ _ _).1 with hsame | herased
    · exact h.kept (fun _ _ hlookup => hsame ▸ hlookup) nofun
    · exact h.kept (fun _ _ hlookup => lookup_of_erase (herased ▸ hlookup)) nofun
  | evict nowMs maxAgeMs => exact h.kept (fun _ _ => lookup_of_evictStale) nofun

theorem Staged.run (h : Staged table done store.configWriteStage) (ops : List Op) :
    Staged table (done ++ ops) (store.run apply table ops).configWriteStage := by
  induction ops generalizing done store with
  | nil =>
    rw [append_nil]
    exact h
  | cons op ops ih =>
    have hrest := ih (h.step apply op)
    rwa [append_assoc] at hrest

/-- A series is interrupted when a chunk of another series for its matrix is
handled behind one of its own. -/
def Interrupted (table : Nat -> Series groupRow sceneRow) (series : Nat) (ops : List Op) : Prop :=
  exists first between last index nowMs other place now, ops = first ++ .chunk series index nowMs ::
      (between ++ .chunk other place now :: last) ∧
    other ≠ series ∧ (table other).key = (table series).key

variable {ops : List Op}

theorem mem_chunksOf {series index : Nat} :
    index ∈ chunksOf series ops <-> exists nowMs, .chunk series index nowMs ∈ ops := by
  simp only [chunksOf, mem_filterMap]
  constructor
  · rintro ⟨⟨other, place⟩, ⟨op, hop, hhandled⟩, hchunk⟩
    cases op with
    | chunk first second nowMs =>
      cases hhandled
      simp only [Option.ite_none_right_eq_some, Option.some.injEq] at hchunk
      rcases hchunk with ⟨rfl, rfl⟩
      exact ⟨nowMs, hop⟩
    | commit _ | evict _ _ => cases hhandled
  · rintro ⟨nowMs, hop⟩
    exact ⟨(series, index), ⟨_, hop, rfl⟩, if_pos rfl⟩

theorem nodup_chunksOf {series : Nat} (honce : (ops.filterMap Op.handled).Nodup) :
    (chunksOf series ops).Nodup := by
  apply List.Nodup.filterMap _ honce
  rintro ⟨first, index⟩ ⟨second, place⟩ found hfirst hsecond
  simp only [Option.mem_def, Option.ite_none_right_eq_some, Option.some.injEq] at hfirst hsecond
  rcases hfirst with ⟨rfl, rfl⟩
  rcases hsecond with ⟨rfl, rfl⟩
  rfl

section

variable {series : Nat} {earlier : List Op}
  (h : Assembled table since (table series).key stage) (hops : ops = earlier ++ since)
  (hseries : stage.series = series)
include h hops hseries

/-- A stage that counts every chunk of its series holds all that were handled. -/
theorem Assembled.complete (hcount : stage.chunks = (table series).count)
    (hsent : forall series index nowMs, .chunk series index nowMs ∈ ops ->
      index < (table series).count) (honce : (ops.filterMap Op.handled).Nodup) :
    chunksOf series earlier = [] ∧ (chunksOf series ops).Perm (range (table series).count) := by
  subst hseries
  have hsubset : chunksOf stage.series ops ⊆ range (table stage.series).count := by
    intro index hindex
    rcases mem_chunksOf.mp hindex with ⟨nowMs, hop⟩
    exact mem_range.mpr (hsent _ _ _ hop)
  have hsubperm := subperm_of_subset (nodup_chunksOf honce) hsubset
  have hle := hsubperm.length_le
  have hchunks := h.chunks_eq
  have hsplit : (chunksOf stage.series ops).length =
      (chunksOf stage.series earlier).length + (chunksOf stage.series since).length := by
    rw [hops, chunksOf_append, length_append]
  rw [length_range] at hle
  refine ⟨eq_nil_of_length_eq_zero (by omega), hsubperm.perm_of_length_le ?_⟩
  rw [length_range]
  omega

theorem Assembled.not_interrupted (hnone : chunksOf series earlier = []) :
    ¬ Interrupted table series ops := by
  rintro ⟨first, between, last, index, nowMs, other, place, now, hsplit, hother, hkey⟩
  have hlater : .chunk other place now ∈ since -> False := by
    intro hmem
    exact hother ((h.alone other place now hmem hkey).trans hseries)
  have hearlier : .chunk series index nowMs ∉ earlier := by
    intro hmem
    have hchunk := mem_chunksOf.mpr ⟨nowMs, hmem⟩
    rw [hnone] at hchunk
    cases hchunk
  rw [hops] at hsplit
  rcases append_eq_append_iff.mp hsplit with
    ⟨rest, hfirst, hsince⟩ | ⟨rest, hearly, hrest⟩
  · exact hlater (by rw [hsince]; simp)
  · cases rest with
    | nil => exact hlater (by rw [<- nil_append since, <- hrest]; simp)
    | cons op rest =>
      rcases List.cons.inj hrest with ⟨rfl, _⟩
      exact hearlier (by rw [hearly]; simp)

end

/-- A commit that succeeds passes on the rows of all chunks of its series, in the
order they were handled; one whose series lost a chunk or was interrupted is
rejected, and a rejected one changes no row. -/
theorem commit_all_or_nothing (table : Nat -> Series groupRow sceneRow)
    (store : RegistryStore groupRow sceneRow matrices) (hempty : store.configWriteStage = ∅)
    (ops : List Op)
    (hsent : forall series index nowMs, .chunk series index nowMs ∈ ops ->
      index < (table series).count) (honce : (ops.filterMap Op.handled).Nodup) (series : Nat) :
    let reached := store.run apply table ops
    let commit := reached.commitSeries apply series (table series)
    (forall changed, commit.2 = .ok changed ->
      (chunksOf series ops).Perm (range (table series).count) ∧ commit.1.matrices =
        (apply.applyRows (table series).key.2.1 (table series).key.2.2
          ((table series).rowsOf (chunksOf series ops)) reached.matrices).1) ∧
    ((exists index, index < (table series).count ∧ index ∉ chunksOf series ops) ∨
        Interrupted table series ops ->
      (exists rejection, commit.2 = .error rejection) ∧ commit.1.matrices = reached.matrices) := by
  intro reached commit
  have hstart : Staged table [] store.configWriteStage := by
    intro key stage hlookup
    rw [hempty, lookup_empty] at hlookup
    cases hlookup
  have hstaged : Staged table ops reached.configWriteStage := hstart.run apply ops
  rcases (commitConfigWrite_cases apply reached series (table series).key.1 (table series).key.2.1
    (table series).key.2.2 (table series).count).2 with
    ⟨⟨rejection, hrejected⟩, hkept⟩ | ⟨stage, hlookup, hseries, hcount, happlied⟩
  · refine ⟨fun changed hok => ?_, fun _ => ⟨⟨rejection, hrejected⟩, hkept⟩⟩
    cases hrejected.symm.trans hok
  · rcases hstaged _ stage hlookup with ⟨earlier, since, hops, hassembled⟩
    rcases hassembled.complete hops hseries hcount hsent honce with ⟨hnone, hperm⟩
    have hsince : chunksOf stage.series since = chunksOf series ops := by
      rw [hops, chunksOf_append, hnone, hseries, nil_append]
    constructor
    · intro changed _
      refine ⟨hperm, happlied.trans ?_⟩
      rw [hassembled.rows_eq, hsince, hseries]
    · rintro (⟨index, hindex, hlost⟩ | hinterrupted)
      · exact absurd (hperm.mem_iff.mpr (mem_range.mpr hindex)) hlost
      · exact absurd hinterrupted (hassembled.not_interrupted hops hseries hnone)

def twoSeries : Nat -> Series Nat Nat
  | 0 => .scene 0 3 [[10], [11, 12]]
  | _ => .group 0 [[20]]

/-- Chunks of both series in turn, then the commit of the first. -/
theorem interleaved_commit_applied :
    let apply : Matrices Nat Nat (List Nat) :=
      { applySceneMatrixRows := fun _ _ rows matrices => (matrices ++ rows, true)
        applyGroupMatrixRows := fun _ rows matrices => (matrices ++ rows, true) }
    let ops := [Op.chunk 0 1 0, .chunk 1 0 0, .chunk 0 0 0]
    let reached := RegistryStore.run apply twoSeries ⟨∅, []⟩ ops
    let commit := reached.commitSeries apply 0 (twoSeries 0)
    (exists changed, commit.2 = .ok changed) ∧ commit.1.matrices = [11, 12, 10] := by
  intro apply ops reached commit
  have hok : commit.2 = .ok true := by decide
  have hwhole := (commit_all_or_nothing apply twoSeries ⟨∅, []⟩ rfl ops
    (by
      intro series index nowMs hmem
      simp only [ops, mem_cons, not_mem_nil, or_false] at hmem
      rcases hmem with hop | hop | hop <;> cases hop <;> decide)
    (by decide) 0).1 true hok
  exact ⟨⟨true, hok⟩, hwhole.2⟩

/-!
## What the stages take up
-/

def StagedRows.count : StagedRows groupRow sceneRow -> Nat
  | .group rows => rows.length
  | .scene rows => rows.length

theorem erase_insert : (stages.insert key stage).erase key = stages.erase key :=
  AList.ext (kerase_cons_eq rfl)

structure Bounded (stages : Stages groupRow sceneRow) : Prop where
  few : stages.entries.length <= maxConfigWriteStages
  rows : forall key stage, stages.lookup key = some stage -> stage.rows.count <= maxStagedRows

namespace Bounded

variable (h : Bounded stages)
include h

theorem erase (key : ConfigWriteStageKey) : Bounded (stages.erase key) :=
  ⟨(kerase_sublist key _).length_le.trans h.few,
    fun other stage hfound => h.rows other stage (lookup_of_erase hfound)⟩

theorem insert
    (hroom : ¬ ((stages.lookup key).isNone ∧ maxConfigWriteStages <= stages.entries.length))
    (hrows : stage.rows.count <= maxStagedRows) : Bounded (stages.insert key stage) := by
  constructor
  · rw [Option.isNone_iff_eq_none, lookup_eq_none, AList.mem_keys] at hroom
    have hkeys := congrArg length (keys_insert (a := key) (b := stage) stages)
    simp only [AList.keys, List.keys, length_cons, length_erase, length_map] at hkeys hroom
    grind [length_pos_of_mem, h.few]
  · intro other found hfound
    by_cases hkey : other = key
    · subst hkey
      rw [lookup_insert] at hfound
      cases hfound
      exact hrows
    · rw [lookup_insert_ne hkey] at hfound
      exact h.rows other found hfound

theorem staged (key : ConfigWriteStageKey) (series nowMs : Nat)
    {append : StagedRows groupRow sceneRow -> StagedRows groupRow sceneRow × Nat}
    (happend : forall rows, (append rows).1.count = (append rows).2) :
    Bounded (evictOnError key (stageRows stages key series nowMs append)).1 := by
  have hdisplaced : Bounded (displace stages key series) := by
    unfold displace
    split
    · split
      · exact h.erase _
      · exact h
    · exact h
  rw [stageRows]
  dsimp only
  split
  · exact hdisplaced.erase _
  next hroom =>
    split
    · -- the stage that has become too long is dropped again
      rw [evictOnError, erase_insert]
      exact hdisplaced.erase _
    next hfew => exact hdisplaced.insert hroom ((happend _).trans_le (Nat.le_of_not_lt hfew))

end Bounded

/-- A call of the registry's writer, whatever it names. -/
inductive Call (groupRow sceneRow : Type) where
  | groupChunk (series adapterId : Nat) (rows : List groupRow) (nowMs : Nat)
  | sceneChunk (series adapterId sceneId : Nat) (rows : List sceneRow) (nowMs : Nat)
  | commit (series : Nat) (resource : ConfigWriteResource) (adapterId sceneId chunks : Nat)
  | evict (nowMs maxAgeMs : Nat)

def RegistryStore.call (apply : Matrices groupRow sceneRow matrices)
    (store : RegistryStore groupRow sceneRow matrices) :
    Call groupRow sceneRow -> RegistryStore groupRow sceneRow matrices
  | .groupChunk series adapterId rows nowMs => { store with configWriteStage :=
      (stageGroupMatrixChunk store.configWriteStage series adapterId rows nowMs).1 }
  | .sceneChunk series adapterId sceneId rows nowMs => { store with configWriteStage :=
      (stageSceneMatrixChunk store.configWriteStage series adapterId sceneId rows nowMs).1 }
  | .commit series resource adapterId sceneId chunks =>
    (store.commitConfigWrite apply series resource adapterId sceneId chunks).1
  | .evict nowMs maxAgeMs =>
    { store with configWriteStage := evictStale store.configWriteStage nowMs maxAgeMs }

/-- Whatever arrives, the registry keeps two stages at most, with no more rows than there
are lamps. -/
theorem stages_stay_bounded (matrices : matrices) (calls : List (Call groupRow sceneRow)) :
    Bounded (calls.foldl (RegistryStore.call apply) ⟨∅, matrices⟩).configWriteStage := by
  have hempty : Bounded (∅ : Stages groupRow sceneRow) :=
    ⟨Nat.zero_le _, fun key _ hfound => by cases (lookup_empty key).symm.trans hfound⟩
  refine foldlRecOn calls (RegistryStore.call apply) (b := ⟨∅, matrices⟩)
    (motive := fun store => Bounded store.configWriteStage) hempty ?_
  intro store h call _
  cases call with
  | groupChunk series adapterId rows nowMs | sceneChunk series adapterId sceneId rows nowMs =>
    exact h.staged _ series nowMs fun staged => by cases staged <;> rfl
  | commit series resource adapterId sceneId chunks =>
    rcases (commitConfigWrite_cases apply store series resource adapterId sceneId chunks).1 with
      hsame | herased
    · exact (congrArg Bounded hsame).mpr h
    · exact (congrArg Bounded herased).mpr (h.erase _)
  | evict nowMs maxAgeMs =>
    exact foldlRecOn _ _ (motive := Bounded) h fun _ hstages _ _ => hstages.erase _

end Runs

end Oxidali.Registry.ConfigWrites
