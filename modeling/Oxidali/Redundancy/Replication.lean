import Oxidali.Storage.SliceStore

/-!
# Pulling the configuration of the peer

A passive controller compares the manifest of its peer with its own slices, fetches
those that differ one by one and stages them for the registry.  The peer goes on
working in the meantime.
-/

namespace Oxidali.Redundancy

open Words Storage List

/-! ## Slices by name -/

/-- Slices that are only of use together. -/
def sliceFamily : SliceKey -> SliceKey
  | .inputDevices _ => .inputDevices 0
  | .rules _ => .rules 0
  | key => key

def bytesUpTo (count : Nat) : List Byte :=
  (range count).map (BitVec.ofNat 8)

def transferableSlices (adapterCount : Byte) : List SliceKey :=
  [.controllerSettings, .hclSchedules, .pollerSettings, .policies, .homeAssistantSettings]
    ++ (bytesUpTo inputDeviceBanks).map SliceKey.inputDevices
    ++ (bytesUpTo rulesBanks).map SliceKey.rules
    ++ (bytesUpTo adapterCount.toNat).flatMap fun adapterId =>
      (bytesUpTo pdBanksPerAdapter).map (SliceKey.physicalDeviceBank adapterId)
        ++ [.physicalDevices adapterId, .groups adapterId, .virtualLamps adapterId]
        ++ (bytesUpTo scenesPerAdapter).map (SliceKey.scene adapterId)

def sliceKeyFromName (name : String) (adapterCount : Byte) : Option SliceKey :=
  (transferableSlices adapterCount).find? fun key => key.label = name

structure SliceDigest where
  name : String
  bytes : Option Nat
  crc32 : BitVec 32

def crc32 (bytes : List Byte) : BitVec 32 :=
  crc32Le.crc32 0 bytes

def sliceManifest (load : SliceKey -> Option (List Byte)) (adapterCount : Byte) :
    List SliceDigest :=
  (transferableSlices adapterCount).map fun key =>
    { name := key.label
      bytes := (load key).map List.length
      crc32 := (load key).elim 0 crc32 }

def slicesToPull (peer mine : List SliceDigest) : List String :=
  ((peer.filter fun row => row.bytes.isSome).filter fun row =>
    (mine.find? fun own => own.name = row.name).all fun own =>
      own.crc32 ≠ row.crc32 || own.bytes ≠ row.bytes).map SliceDigest.name

def shouldPull (enabled applicationActive : Bool) (peerUrl : String) : Bool :=
  enabled && !applicationActive && !peerUrl.isEmpty

def manifestPath : String := "/api/v1/config/slices"

/-- A byte of a name in a path. -/
def encodedByte (byte : UInt8) : String :=
  if byte = 0x2F then "%2F"
  else if byte = 0x25 then "%25"
  else if byte = 0x3F then "%3F"
  else if byte = 0x23 then "%23"
  else if byte = 0x20 then "%20"
  else String.singleton (Char.ofNat byte.toNat)

def slicePath (name : String) : String :=
  manifestPath ++ "/" ++ String.join (name.toUTF8.toList.map encodedByte)

/-! ## The stage of an import -/

structure StagedSlice where
  key : SliceKey
  bytes : List Byte
deriving DecidableEq

structure PendingImport where
  workflow : Nat
  slices : List StagedSlice
  stagedAt : Nat

abbrev ImportStage := Option PendingImport

def importStageMaxAge : Nat := 10000

def correlationNone : Nat := 0

namespace ImportStage

/-- `none` if another import waits for its commit. -/
def stageImport (stage : ImportStage) (now workflow : Nat) (slices : List StagedSlice) :
    Option ImportStage :=
  if stage.any fun pending => now - pending.stagedAt < importStageMaxAge then none
  else some (some {
    workflow := workflow
    slices := slices
    stagedAt := now })

def discardImport (stage : ImportStage) (workflow : Nat) : ImportStage :=
  if stage.any fun pending => pending.workflow = workflow then none else stage

end ImportStage

/-! ## One pass -/

inductive FetchError where
  | badUrl
  | transport (message : String)
  | status (code : Nat)
  | tooLarge
  | malformed

structure PulledSlice where
  name : String
  bytes : List Byte

inductive PassOutcome where
  | idle
  | peerUnreachable (error : FetchError)
  | upToDate
  | pulled (names : List String)
  | notLanded

structure ReplicationCounters where
  passes : BitVec 32
  peerUnreachable : BitVec 32
  slicesPulled : BitVec 32
  slicesRejected : BitVec 32
  reloadPublishFailed : BitVec 32

/-- The controller that pulls. -/
structure Replica where
  adapterCount : Byte
  persistent : Bool
  stage : ImportStage
  counters : ReplicationCounters

/-- What a pass finds outside: its settings, its own slices, and the answers of the
peer, each fetch at its own time. -/
structure PassEnv where
  enabled : Bool
  applicationActive : Bool
  peerUrl : String
  manifest : Except FetchError (List SliceDigest)
  get : Nat -> String -> String -> Except FetchError (List Byte)
  load : SliceKey -> Option (List Byte)
  now : Nat
  queued : Bool

namespace Replica

variable (self : Replica) (name : String)

def key : Option SliceKey :=
  sliceKeyFromName name self.adapterCount

def acceptedKey : Option SliceKey :=
  if self.persistent then self.key name else none

def accepts : Bool :=
  (self.acceptedKey name).isSome

def family : String :=
  (self.key name).elim name fun key => (sliceFamily key).label

def staged (slice : PulledSlice) : Option StagedSlice :=
  (self.acceptedKey slice.name).map fun key => ⟨key, slice.bytes⟩

variable (env : PassEnv)

def localDigests : List SliceDigest :=
  if self.persistent then sliceManifest env.load self.adapterCount else []

/-- The slices fetched from the `n`-th fetch on, and the families that missed one. -/
def pullFrom (env : PassEnv) : Nat -> List String -> List PulledSlice × List String
  | _, [] => ([], [])
  | n, name :: rest =>
    let later := pullFrom env (n + 1) rest
    match env.get n env.peerUrl (slicePath name) with
    | .ok bytes =>
      if self.accepts name then (⟨name, bytes⟩ :: later.1, later.2)
      else (later.1, self.family name :: later.2)
    | .error _ => (later.1, self.family name :: later.2)

variable (wanted : List String)

def whole : List PulledSlice :=
  let fetched := self.pullFrom env 0 wanted
  fetched.1.filter fun slice => !fetched.2.contains (self.family slice.name)

def rejected : Nat :=
  let fetched := self.pullFrom env 0 wanted
  fetched.2.length
    + (fetched.1.filter fun slice => fetched.2.contains (self.family slice.name)).length

/-- `pull_each` with the slices it rejects counted. -/
def pullEach : Replica × List PulledSlice :=
  ({ self with
    counters := { self.counters with
      slicesRejected := self.counters.slicesRejected
        + BitVec.ofNat 32 (self.rejected env wanted) } }, self.whole env wanted)

def notLanded (count : Nat) : Replica × PassOutcome :=
  ({ self with
    counters := { self.counters with
      slicesRejected := self.counters.slicesRejected + BitVec.ofNat 32 count } }, .notLanded)

def land (pulled : List PulledSlice) : Replica × PassOutcome :=
  let names := pulled.map PulledSlice.name
  match pulled.mapM self.staged with
  | none => self.notLanded names.length
  | some slices =>
    match self.stage.stageImport env.now correlationNone slices with
    | none => self.notLanded names.length
    | some stage =>
      if env.queued then
        ({ self with
          stage := stage
          counters := { self.counters with
            slicesPulled := self.counters.slicesPulled
              + BitVec.ofNat 32 names.length } }, .pulled names)
      else
        Replica.notLanded { self with
          stage := stage.discardImport correlationNone
          counters := { self.counters with
            reloadPublishFailed := self.counters.reloadPublishFailed + 1 } }
          names.length

def counted : Replica :=
  { self with
    counters := { self.counters with passes := self.counters.passes + 1 } }

def runPass : Replica × PassOutcome :=
  if shouldPull env.enabled env.applicationActive env.peerUrl then
    match env.manifest with
    | .error e =>
      ({ self.counted with
        counters := { self.counted.counters with
          peerUnreachable := self.counters.peerUnreachable + 1 } }, .peerUnreachable e)
    | .ok peer =>
      let wanted := slicesToPull peer (self.localDigests env)
      if wanted.isEmpty then (self.counted, .upToDate)
      else
        let result := self.counted.pullEach env wanted
        if result.2.isEmpty then (result.1, .upToDate) else result.1.land env result.2
  else (self, .idle)

/-- The slices that a pass leaves staged. -/
def stagedBy : List StagedSlice :=
  match (self.runPass env).2 with
  | .pulled _ => (self.runPass env).1.stage.elim [] PendingImport.slices
  | _ => []

end Replica

/-! ## What is fetched -/

variable {replica : Replica} {env : PassEnv} {wanted : List String}

/-- The fetch of the `n`-th wanted slice that the replica can use. -/
def Fetched (replica : Replica) (env : PassEnv) (n : Nat) (name : String)
    (bytes : List Byte) : Prop :=
  env.get n env.peerUrl (slicePath name) = .ok bytes ∧ replica.accepts name = true

variable {slice : PulledSlice}

theorem pullFrom_cons (n : Nat) (name : String) (rest : List String) :
    let later := replica.pullFrom env (n + 1) rest
    (exists bytes, Fetched replica env n name bytes
        ∧ replica.pullFrom env n (name :: rest) = (⟨name, bytes⟩ :: later.1, later.2))
      ∨ (forall bytes, ¬ Fetched replica env n name bytes) ∧ replica.pullFrom env n (name :: rest)
          = (later.1, replica.family name :: later.2) := by
  rw [Replica.pullFrom]
  cases hget : env.get n env.peerUrl (slicePath name) with
  | error e =>
    refine .inr ⟨?_, rfl⟩
    intro bytes hfetched
    cases hget.symm.trans hfetched.1
  | ok bytes =>
    by_cases haccepts : replica.accepts name = true
    · exact .inl ⟨bytes, ⟨hget, haccepts⟩, if_pos haccepts⟩
    · exact .inr ⟨fun _ hfetched => haccepts hfetched.2, if_neg haccepts⟩

variable {name : String}

theorem exists_index_cons {n : Nat} {rest : List String} {P : Nat -> String -> Prop} :
    (exists i other, (name :: rest)[i]? = some other ∧ P (n + i) other) <->
      P n name ∨ exists i other, rest[i]? = some other ∧ P (n + 1 + i) other := by
  constructor
  · rintro ⟨i, other, hi, h⟩
    cases i with
    | zero =>
      cases Option.some.inj hi
      exact .inl h
    | succ i =>
      refine .inr ⟨i, other, hi, ?_⟩
      rwa [Nat.add_right_comm]
  · rintro (h | ⟨i, other, hi, h⟩)
    · exact ⟨0, name, rfl, h⟩
    · refine ⟨i + 1, other, hi, ?_⟩
      rwa [Nat.add_right_comm] at h

theorem mem_pulled {n : Nat} :
    slice ∈ (replica.pullFrom env n wanted).1 <->
      exists i name, wanted[i]? = some name ∧ name = slice.name
        ∧ Fetched replica env (n + i) name slice.bytes := by
  induction wanted generalizing n with
  | nil => simp [Replica.pullFrom]
  | cons name rest ih =>
    rw [exists_index_cons (P := fun k other => other = slice.name
      ∧ Fetched replica env k other slice.bytes), <- ih]
    rcases pullFrom_cons n name rest with ⟨bytes, hfetched, heq⟩ | ⟨hmissed, heq⟩
    · rw [heq, mem_cons]
      refine or_congr_left ⟨?_, ?_⟩
      · rintro rfl
        exact ⟨rfl, hfetched⟩
      · rintro ⟨hname, hsame⟩
        cases hfetched.1.symm.trans hsame.1
        cases hname
        rfl
    · rw [heq]
      exact (or_iff_right fun h => hmissed _ h.2).symm

theorem mem_missed {n : Nat} {family : String} :
    family ∈ (replica.pullFrom env n wanted).2 <->
      exists i name, wanted[i]? = some name ∧ replica.family name = family
        ∧ forall bytes, ¬ Fetched replica env (n + i) name bytes := by
  induction wanted generalizing n with
  | nil => simp [Replica.pullFrom]
  | cons name rest ih =>
    rw [exists_index_cons (P := fun k other => replica.family other = family
      ∧ forall bytes, ¬ Fetched replica env k other bytes), <- ih]
    rcases pullFrom_cons n name rest with ⟨bytes, hfetched, heq⟩ | ⟨hmissed, heq⟩
    · rw [heq]
      exact (or_iff_right fun h => h.2 bytes hfetched).symm
    · rw [heq, mem_cons, eq_comm]
      exact or_congr_left (and_iff_left hmissed).symm

/-- All wanted slices of the family were fetched. -/
def FamilyFetched (replica : Replica) (env : PassEnv) (wanted : List String)
    (family : String) : Prop :=
  forall i name, wanted[i]? = some name -> replica.family name = family ->
    exists bytes, Fetched replica env i name bytes

theorem mem_whole :
    slice ∈ replica.whole env wanted <->
      (exists i, wanted[i]? = some slice.name ∧ Fetched replica env i slice.name slice.bytes)
        ∧ FamilyFetched replica env wanted (replica.family slice.name) := by
  have hpulled : slice ∈ (replica.pullFrom env 0 wanted).1 <-> exists i,
      wanted[i]? = some slice.name ∧ Fetched replica env i slice.name slice.bytes := by
    simp [mem_pulled]
  have hmissed : replica.family slice.name ∈ (replica.pullFrom env 0 wanted).2 <->
      ¬ FamilyFetched replica env wanted (replica.family slice.name) := by
    rw [mem_missed]
    unfold FamilyFetched
    simp only [Nat.zero_add, not_forall, not_exists, exists_prop]
  unfold Replica.whole
  rw [mem_filter, hpulled, Bool.not_eq_true', contains_eq_mem,
    decide_eq_false_iff_not, hmissed, not_not]

theorem whole_of_family (hslice : slice ∈ replica.whole env wanted) (hname : name ∈ wanted)
    (hfamily : replica.family name = replica.family slice.name) :
    exists other, other ∈ replica.whole env wanted ∧ other.name = name := by
  have hfetched := (mem_whole.mp hslice).2
  rcases mem_iff_getElem?.mp hname with ⟨i, hi⟩
  rcases hfetched i name hi hfamily with ⟨bytes, hbytes⟩
  refine ⟨⟨name, bytes⟩, mem_whole.mpr ⟨⟨i, hi, hbytes⟩, ?_⟩, rfl⟩
  rw [hfamily]
  exact hfetched

/-! ## What is staged -/

theorem staged_key {staged : StagedSlice} (h : replica.staged slice = some staged) :
    replica.key slice.name = some staged.key ∧ staged.key.label = slice.name
      ∧ staged.bytes = slice.bytes := by
  unfold Replica.staged Replica.acceptedKey at h
  rcases Option.map_eq_some_iff.mp h with ⟨key, hkey, hstaged⟩
  subst hstaged
  split at hkey
  · have hlabel := find?_some hkey
    exact ⟨hkey, of_decide_eq_true hlabel, rfl⟩
  · cases hkey

theorem staged_of_accepts (h : replica.accepts slice.name = true) :
    exists staged, replica.staged slice = some staged := by
  rcases Option.isSome_iff_exists.mp h with ⟨key, hkey⟩
  exact ⟨⟨key, slice.bytes⟩, by rw [Replica.staged, hkey, Option.map_some]⟩

theorem mapM_staged {pulled : List PulledSlice}
    (h : forall slice, slice ∈ pulled -> replica.accepts slice.name = true) :
    pulled.mapM replica.staged = some (pulled.filterMap replica.staged) := by
  induction pulled with
  | nil => rfl
  | cons first rest ih =>
    rcases staged_of_accepts (h first mem_cons_self) with ⟨staged, hstaged⟩
    rw [mapM_cons, ih fun slice hslice => h slice (mem_cons_of_mem _ hslice),
      filterMap_cons, hstaged]
    rfl

theorem pullFrom_counted (n : Nat) :
    replica.counted.pullFrom env n wanted = replica.pullFrom env n wanted := by
  induction wanted generalizing n with
  | nil => rfl
  | cons name rest ih =>
    rw [Replica.pullFrom, Replica.pullFrom, ih]
    rfl

theorem whole_mapM {other : Replica} (h : other.staged = replica.staged) :
    (replica.whole env wanted).mapM other.staged
      = some ((replica.whole env wanted).filterMap replica.staged) := by
  rw [h]
  apply mapM_staged
  intro slice hslice
  rcases mem_whole.mp hslice with ⟨⟨_, _, _, haccepts⟩, _⟩
  exact haccepts

theorem whole_counted : replica.counted.whole env wanted = replica.whole env wanted := by
  unfold Replica.whole
  rw [pullFrom_counted]
  rfl

/-- The pass is due, no younger import waits for its commit, and the reload is queued. -/
structure Lands (replica : Replica) (env : PassEnv) : Prop where
  due : shouldPull env.enabled env.applicationActive env.peerUrl = true
  free : forall pending, replica.stage = some pending ->
    importStageMaxAge <= env.now - pending.stagedAt
  queued : env.queued = true

theorem land_cases (env : PassEnv) {pulled : List PulledSlice} {slices : List StagedSlice}
    (h : pulled.mapM replica.staged = some slices) :
    let free := forall pending, replica.stage = some pending ->
      importStageMaxAge <= env.now - pending.stagedAt
    (¬ (free ∧ env.queued = true) ∧ (replica.land env pulled).2 = .notLanded)
      ∨ (free ∧ env.queued = true)
        ∧ (replica.land env pulled).2 = .pulled (pulled.map PulledSlice.name)
        ∧ (replica.land env pulled).1.stage = some ⟨correlationNone, slices, env.now⟩ := by
  intro free
  have hfree : (replica.stage.any fun pending =>
      env.now - pending.stagedAt < importStageMaxAge) = false <-> free := by
    cases hstage : replica.stage <;> simp [free, hstage]
  unfold Replica.land ImportStage.stageImport
  rw [h, <- hfree]
  cases hbusy : replica.stage.any fun pending =>
      env.now - pending.stagedAt < importStageMaxAge with
  | true => exact .inl ⟨by simp, rfl⟩
  | false =>
    cases hqueued : env.queued with
    | false => exact .inl ⟨by simp, rfl⟩
    | true => exact .inr ⟨⟨rfl, rfl⟩, rfl, rfl⟩

variable {peer : List SliceDigest} {staged : StagedSlice}

theorem runPass_due (hdue : shouldPull env.enabled env.applicationActive env.peerUrl = true)
    (hmanifest : env.manifest = .ok peer) :
    let pulled := replica.whole env (slicesToPull peer (replica.localDigests env))
    (pulled = [] ∧ (replica.runPass env).2 = .upToDate)
      ∨ exists other : Replica, other.stage = replica.stage ∧ other.staged = replica.staged
        ∧ replica.runPass env = other.land env pulled := by
  intro pulled
  rw [Replica.runPass, if_pos hdue, hmanifest]
  have hpulled : (replica.counted.pullEach env
      (slicesToPull peer (replica.localDigests env))).2 = pulled := whole_counted
  dsimp only
  rw [hpulled]
  by_cases hwanted : (slicesToPull peer (replica.localDigests env)).isEmpty = true
  · rw [if_pos hwanted]
    refine .inl ⟨?_, rfl⟩
    change replica.whole env _ = []
    rw [isEmpty_iff.mp hwanted]
    rfl
  · rw [if_neg hwanted]
    by_cases hempty : pulled.isEmpty = true
    · rw [if_pos hempty]
      exact .inl ⟨isEmpty_iff.mp hempty, rfl⟩
    · rw [if_neg hempty]
      exact .inr ⟨(replica.counted.pullEach env _).1, rfl, rfl, rfl⟩

/-- What a pass stages is what it has fetched in whole families. -/
theorem mem_stagedBy (hmanifest : env.manifest = .ok peer) :
    staged ∈ replica.stagedBy env <-> Lands replica env ∧ exists slice,
      slice ∈ replica.whole env (slicesToPull peer (replica.localDigests env))
        ∧ replica.staged slice = some staged := by
  by_cases hdue : shouldPull env.enabled env.applicationActive env.peerUrl = true
  · rcases runPass_due hdue hmanifest with ⟨hnone, hdone⟩ | ⟨other, hstage, hstaged, hrun⟩
    · rw [Replica.stagedBy, hdone, hnone]
      exact ⟨nofun, fun h => by simp at h⟩
    · rw [<- mem_filterMap]
      rcases land_cases env (whole_mapM hstaged) with ⟨hnot, hout⟩ | ⟨hlands, hout, hleft⟩
      · rw [Replica.stagedBy, hrun, hout]
        exact ⟨nofun, fun h => absurd ⟨hstage ▸ h.1.free, h.1.queued⟩ hnot⟩
      · rw [Replica.stagedBy, hrun, hout]
        dsimp only
        rw [hleft]
        exact ⟨fun h => ⟨⟨hdue, hstage ▸ hlands.1, hlands.2⟩, h⟩, fun h => h.2⟩
  · rw [Replica.stagedBy, Replica.runPass, if_neg hdue]
    exact ⟨nofun, fun h => absurd h.1.due hdue⟩

/-! ## One version of the peer -/

/-- The manifest has a row for these bytes. -/
def Advertised (peer : List SliceDigest) (name : String) (bytes : List Byte) : Prop :=
  exists row, row ∈ peer ∧ row.name = name ∧ row.bytes = some bytes.length ∧ row.crc32 = crc32 bytes

/-- Whole families only, and every slice as the manifest has it. -/
structure OneVersion (replica : Replica) (env : PassEnv) (staged : List StagedSlice) :
    Prop where
  families : forall peer name other, env.manifest = .ok peer ->
    name ∈ slicesToPull peer (replica.localDigests env) ->
    other ∈ slicesToPull peer (replica.localDigests env) ->
    replica.family name = replica.family other ->
    (exists slice, slice ∈ staged ∧ slice.key.label = name) ->
    exists slice, slice ∈ staged ∧ slice.key.label = other
  advertised : forall peer slice, env.manifest = .ok peer -> slice ∈ staged ->
    Advertised peer slice.key.label slice.bytes

/-- In a pass that lands, no slice of a family of which every wanted slice is fetched was
rewritten between the manifest and its own fetch: the digest of the bytes is a row of the
manifest. -/
def Undisturbed (replica : Replica) (env : PassEnv) : Prop :=
  forall peer n name bytes, env.manifest = .ok peer -> Lands replica env ->
    (slicesToPull peer (replica.localDigests env))[n]? = some name ->
    FamilyFetched replica env (slicesToPull peer (replica.localDigests env))
      (replica.family name) ->
    env.get n env.peerUrl (slicePath name) = .ok bytes ->
    ⟨name, some bytes.length, crc32 bytes⟩ ∈ peer

theorem advertised_iff {bytes : List Byte} :
    Advertised peer name bytes <-> ⟨name, some bytes.length, crc32 bytes⟩ ∈ peer := by
  constructor
  · rintro ⟨⟨_, _, _⟩, hrow, rfl, rfl, rfl⟩
    exact hrow
  · intro hrow
    exact ⟨_, hrow, rfl, rfl, rfl⟩

theorem stagedBy_families {other : String} (hmanifest : env.manifest = .ok peer)
    (hother : other ∈ slicesToPull peer (replica.localDigests env))
    (hfamily : replica.family name = replica.family other)
    (h : exists slice, slice ∈ replica.stagedBy env ∧ slice.key.label = name) :
    exists slice, slice ∈ replica.stagedBy env ∧ slice.key.label = other := by
  rcases h with ⟨slice, hslice, hlabel⟩
  rcases (mem_stagedBy hmanifest).mp hslice with ⟨hlands, pulled, hpulled, hstaged⟩
  have hsame : replica.family other = replica.family pulled.name := by
    rw [<- (staged_key hstaged).2.1, hlabel, hfamily]
  rcases whole_of_family hpulled hother hsame with ⟨more, hmore, hname⟩
  rcases mem_whole.mp hmore with ⟨⟨_, _, haccepts⟩, _⟩
  rcases staged_of_accepts haccepts.2 with ⟨staged, hmoreStaged⟩
  exact ⟨staged, (mem_stagedBy hmanifest).mpr ⟨hlands, more, hmore, hmoreStaged⟩,
    (staged_key hmoreStaged).2.1.trans hname⟩

/-- The staged set is one version of the peer exactly if the peer left alone, until it
was fetched, what the manifest had said of every slice that lands. -/
theorem staged_one_version_iff :
    OneVersion replica env (replica.stagedBy env) <-> Undisturbed replica env := by
  constructor
  · intro h peer n name bytes hmanifest hlands hn hfamily hget
    rcases hfamily n name hn rfl with ⟨_, _, haccepts⟩
    have hwhole : (⟨name, bytes⟩ : PulledSlice)
        ∈ replica.whole env (slicesToPull peer (replica.localDigests env)) :=
      mem_whole.mpr ⟨⟨n, hn, hget, haccepts⟩, hfamily⟩
    have hstages : exists staged, replica.staged ⟨name, bytes⟩ = some staged :=
      staged_of_accepts haccepts
    rcases hstages with ⟨staged, hstaged⟩
    have hmem := (mem_stagedBy hmanifest).mpr ⟨hlands, _, hwhole, hstaged⟩
    have hadvertised := h.advertised peer staged hmanifest hmem
    rw [(staged_key hstaged).2.1, (staged_key hstaged).2.2] at hadvertised
    exact advertised_iff.mp hadvertised
  · intro h
    refine ⟨fun peer name other hmanifest _ hother => stagedBy_families hmanifest hother, ?_⟩
    intro peer staged hmanifest hmem
    rcases (mem_stagedBy hmanifest).mp hmem with ⟨hlands, slice, hslice, hstaged⟩
    rcases mem_whole.mp hslice with ⟨⟨n, hn, hget, _⟩, hfamily⟩
    rw [(staged_key hstaged).2.1, (staged_key hstaged).2.2]
    exact advertised_iff.mpr (h peer n slice.name slice.bytes hmanifest hlands hn hfamily hget)

/-! ## What the registry keeps of it -/

/-- `keep_decodable`: the slices to import and the number of those refused. -/
def keepDecodable (decodes : StagedSlice -> Bool) (staged : List StagedSlice) :
    List StagedSlice × Nat :=
  let broken := (staged.filter fun slice => !decodes slice).map StagedSlice.key
  let refused := fun slice : StagedSlice =>
    broken.any fun key => sliceFamily key = sliceFamily slice.key
  (staged.filter fun slice => !refused slice, (staged.filter refused).length)

variable {decodes : StagedSlice -> Bool}

theorem mem_keepDecodable {staged : List StagedSlice} {slice : StagedSlice} :
    slice ∈ (keepDecodable decodes staged).1 <-> slice ∈ staged
      ∧ forall other, other ∈ staged -> sliceFamily other.key = sliceFamily slice.key ->
        decodes other := by
  have hrefused : (((staged.filter fun slice => !decodes slice).map StagedSlice.key).any
      fun key => sliceFamily key = sliceFamily slice.key) = false <->
      forall other, other ∈ staged -> sliceFamily other.key = sliceFamily slice.key ->
        decodes other = true := by
    rw [any_eq_false]
    constructor
    · intro h other hother hfamily
      cases hdecodes : decodes other with
      | true => rfl
      | false =>
        have hmem : other ∈ staged.filter fun slice => !decodes slice :=
          mem_filter.mpr ⟨hother, by rw [hdecodes]; rfl⟩
        exact absurd (decide_eq_true hfamily) (h _ (mem_map_of_mem hmem))
    · intro h key hkey hfamily
      rcases mem_map.mp hkey with ⟨other, hother, heq⟩
      rcases mem_filter.mp hother with ⟨hmem, hbroken⟩
      subst heq
      rw [h other hmem (of_decide_eq_true hfamily)] at hbroken
      cases hbroken
  unfold keepDecodable
  rw [mem_filter, Bool.not_eq_true', hrefused]

theorem keepDecodable_family {staged : List StagedSlice} {slice other : StagedSlice}
    (hslice : slice ∈ (keepDecodable decodes staged).1) (hother : other ∈ staged)
    (hfamily : sliceFamily other.key = sliceFamily slice.key) :
    other ∈ (keepDecodable decodes staged).1 := by
  rcases mem_keepDecodable.mp hslice with ⟨_, hall⟩
  refine mem_keepDecodable.mpr ⟨hother, fun third hthird hsame => ?_⟩
  exact hall third hthird (hsame.trans hfamily)

/-- Of the slices of a family that differ, a pass brings all into the registry or none. -/
theorem pass_keeps_whole_families {slice : StagedSlice} {key : SliceKey}
    (hmanifest : env.manifest = .ok peer)
    (hslice : slice ∈ (keepDecodable decodes (replica.stagedBy env)).1)
    (hname : name ∈ slicesToPull peer (replica.localDigests env))
    (hkey : replica.key name = some key) (hfamily : sliceFamily key = sliceFamily slice.key) :
    exists other, other ∈ (keepDecodable decodes (replica.stagedBy env)).1 ∧ other.key = key := by
  have hkeys : forall slice, slice ∈ replica.stagedBy env ->
      replica.key slice.key.label = some slice.key := by
    intro slice hslice
    rcases (mem_stagedBy hmanifest).mp hslice with ⟨_, _, _, hstaged⟩
    rw [(staged_key hstaged).2.1]
    exact (staged_key hstaged).1
  have hstaged := (mem_keepDecodable.mp hslice).1
  have hlabels : replica.family slice.key.label = replica.family name := by
    rw [Replica.family, Replica.family, hkeys slice hstaged, hkey]
    exact congrArg SliceKey.label hfamily.symm
  rcases stagedBy_families hmanifest hname hlabels ⟨slice, hstaged, rfl⟩
    with ⟨other, hother, hlabel⟩
  have hsame := hkeys other hother
  rw [hlabel, hkey] at hsame
  cases hsame
  exact ⟨other, keepDecodable_family hslice hother hfamily, rfl⟩

def emptyReplica : Replica where
  adapterCount := 0
  persistent := true
  stage := none
  counters := {
    passes := 0
    peerUnreachable := 0
    slicesPulled := 0
    slicesRejected := 0
    reloadPublishFailed := 0 }

/-- The peer had one byte in its policies when it listed them and has another when they
are fetched. -/
def rewrittenPeer : PassEnv where
  enabled := true
  applicationActive := false
  peerUrl := "peer"
  manifest := .ok [{
    name := "policies"
    bytes := some 1
    crc32 := crc32 [1#8] }]
  get := fun _ _ _ => .ok [2#8]
  load := fun _ => none
  now := 0
  queued := true

theorem rewritten_slice_staged :
    ⟨.policies, [2#8]⟩ ∈ emptyReplica.stagedBy rewrittenPeer
      ∧ ¬ OneVersion emptyReplica rewrittenPeer (emptyReplica.stagedBy rewrittenPeer) := by
  have hmem : ⟨.policies, [2#8]⟩ ∈ emptyReplica.stagedBy rewrittenPeer := by
    decide +kernel
  refine ⟨hmem, fun h => ?_⟩
  rcases h.advertised _ _ rfl hmem with ⟨row, hrow, _, _, hcrc⟩
  cases mem_singleton.mp hrow
  revert hcrc
  decide +kernel

/-- A peer with two banks of rules. -/
def twoBanks : PassEnv :=
  { rewrittenPeer with manifest := .ok (["rules_b0", "rules_b1"].map fun name =>
      ⟨name, some 1, 0⟩) }

theorem twoBanks_kept : exists other,
    other ∈ (keepDecodable (fun _ => true) (emptyReplica.stagedBy twoBanks)).1
      ∧ other.key = .rules 1 := by
  refine @pass_keeps_whole_families emptyReplica twoBanks "rules_b1" _ _ ⟨.rules 0, [2#8]⟩ _ rfl
    ?_ ?_ ?_ rfl
  all_goals decide +kernel

end Oxidali.Redundancy
