import Oxidali.Storage.Confined

/-!
# Histories with losses of power

The calls of all keys come in any order, and each of them may be the one in which
the power is lost.  The flash is all that the next start finds.
-/

namespace Oxidali.Storage

open Words Device Storage List Function

/-! ## The system -/

inductive Call where
  | load (key : SliceKey)
  | beginWrite (key : SliceKey)
  | append (key : SliceKey) (chunk : List Byte)
  | commit (key : SliceKey)
  | abort (key : SliceKey)

def History.fresh : History where
  data := []
  commits := 0
  last := none
  landed := []
  loaded := false

/-- The store, the open sessions, and what has happened to each slice.  The claim on
a slot lets a key have one session at a time. -/
structure World where
  store : Store
  sessions : SliceKey -> Option WriteSession
  history : SliceKey -> History

namespace World

def update (world : World) (key : SliceKey) (store : Store) (session : Option WriteSession)
    (history : History) : World where
  store := store
  sessions := Function.update world.sessions key session
  history := Function.update world.history key history

/-- A start on what the flash holds. -/
def powerUp (flash : Flash) (history : SliceKey -> History) : World where
  store := {
    flash := flash
    memory := fun _ => SlotMemory.default }
  sessions := fun _ => none
  history := fun key => { history key with
    data := []
    loaded := false }

def begun (world : World) (key : SliceKey)
    (result : Store × Except StoreError WriteSession) : World :=
  match result.2 with
  | .ok session =>
    world.update key result.1 (some session) { world.history key with data := [] }
  | .error _ => world.update key result.1 (world.sessions key) (world.history key)

def grown (world : World) (key : SliceKey) (chunk : List Byte)
    (result : Store × WriteSession × Except StoreError Unit) : World :=
  world.update key result.1 (some result.2.1) { world.history key with
    data := match result.2.2 with
      | .ok () => (world.history key).data ++ chunk
      | .error _ => (world.history key).data }

def closed (world : World) (key : SliceKey) (result : Store × Except StoreError Unit) : World :=
  world.update key result.1 none ((world.history key).afterCommit result.2)

section Calls

variable (sum : Checksum)

def after (world : World) : Call -> World
  | .load key =>
    world.update key ((load sum key).run world.store).1 (world.sessions key)
      { world.history key with loaded := true }
  | .beginWrite key => world.begun key ((beginWrite key).run world.store)
  | .append key chunk =>
    match world.sessions key with
    | none => world
    | some session =>
      world.grown key chunk ((append sum session chunk).run world.store)
  | .commit key =>
    match world.sessions key with
    | none => world
    | some session => world.closed key ((commit session).run world.store)
  | .abort key =>
    match world.sessions key with
    | none => world
    | some session =>
      world.update key ((abort session).run world.store).1 none (world.history key)

/-- The states in which a call may be cut off. -/
def CutAt (world : World) (call : Call) (lost : Store) : Prop :=
  match call with
  | .load key => (load sum key).Cut world.store lost
  | .beginWrite key => (beginWrite key).Cut world.store lost
  | .append key chunk =>
    match world.sessions key with
    | none => lost = world.store
    | some session => (append sum session chunk).Cut world.store lost
  | .commit key =>
    match world.sessions key with
    | none => lost = world.store
    | some session => (commit session).Cut world.store lost
  | .abort key =>
    match world.sessions key with
    | none => lost = world.store
    | some session => (abort session).Cut world.store lost

/-- What has happened once the power was lost in a call. -/
def lostHistory (world : World) (call : Call) (flash : Flash) : SliceKey -> History :=
  match call with
  | .commit key =>
    match world.sessions key with
    | none => world.history
    | some session => Function.update world.history key
        ((world.history key).lostCommit (HeaderStands flash session))
  | _ => world.history

/-- The key is loaded after each start before it is written. -/
def Permitted (key : SliceKey) (world : World) (call : Call) : Prop :=
  call = .beginWrite key -> (world.history key).loaded = true

inductive Step (key : SliceKey) : World -> World -> Prop where
  | returns {world : World} (call : Call) : Permitted key world call ->
      Step key world (world.after sum call)
  | loses {world : World} (call : Call) (lost : Store) : Permitted key world call ->
      world.CutAt sum call lost ->
      Step key world (powerUp lost.flash (world.lostHistory call lost.flash))

end Calls

/-- The first start of a device, with no slice in the slot. -/
def Start (key : SliceKey) (world : World) : Prop :=
  exists flash, world = powerUp flash (fun _ => History.fresh)
    ∧ forall slot bank, slotGeometry key = some slot -> candidateAt flash slot bank = none

end World

/-! ## What a slot owes to its own bytes only -/

variable {sum : Checksum} {slot : SlotGeometry} {index : Nat} {flash other : Flash}
  {history : History} {key : SliceKey} {world : World}

theorem Blank.congr {offset len : Nat} (h : Blank flash offset len)
    (hsame : forall i, i < len -> other (offset + i) = flash (offset + i)) :
    Blank other offset len :=
  fun i hi => (hsame i hi).trans (h i hi)

theorem Open.congr {session : WriteSession} (hsized : slot.Sized)
    (h : Open sum flash slot index session history)
    (hsame : forall bank, SameBank flash other slot bank) :
    Open sum other slot index session history := by
  have hheader := hsized.header_le
  have hcandidate := (hsame (1 - session.target)).candidateAt_eq hsized
  refine ⟨h.slot_eq, h.index_eq, h.written_le, ?_, ?_, ?_, ?_, h.seq_le⟩
  · exact h.header.congr fun i hi => hsame session.target i (by omega)
  · intro hfailed
    rcases h.filled hfailed with ⟨hwritten, hpayload, hcrc, hblank⟩
    refine ⟨hwritten, ?_, hcrc, ?_⟩
    · rw [(hsame session.target).payloadAt_eq (hwritten ▸ h.written_le)]
      exact hpayload
    · apply hblank.congr
      intro i hi
      rw [Nat.add_assoc, Nat.add_assoc]
      apply hsame session.target
      unfold SlotGeometry.capacity at hi
      omega
  · exact h.stale.imp_right (And.imp_right hcandidate.trans)
  · exact fun header hheader => h.newer header (hcandidate.symm.trans hheader)

variable {session : Option WriteSession}

theorem SlotInv.congr {memory : SlotMemory} (hsized : slot.Sized)
    (h : SlotInv sum flash memory slot index session history)
    (hsame : forall bank, SameBank flash other slot bank) :
    SlotInv sum other memory slot index session history := by
  constructor
  · intro bank header hheader
    rw [(hsame bank).candidateAt_eq hsized] at hheader
    exact h.bounded bank header hheader
  · intro bank hbank
    exact (h.erased bank hbank).congr fun i hi => hsame bank i hi
  · intro s hs
    rcases h.opened s hs with ⟨hopen, hrest⟩
    exact ⟨hopen.congr hsized hsame, hrest⟩
  · intro hlast
    rcases h.proved hlast with ⟨bank, payload, seq, hproved, hrest⟩
    exact ⟨bank, payload, seq, ⟨(hsame bank).sound hsized hproved.sound,
      (hsame (1 - bank)).behind hsized hproved.behind⟩, hrest⟩

theorem Untouched.sameBank {before after : Store} (h : Untouched slot index before after)
    (bank : Bank) : SameBank before.flash after.flash slot bank := by
  intro i hi
  apply h.flash
  · exact Nat.le_trans (Nat.le_add_right _ _) (Nat.le_add_right _ _)
  · unfold SlotGeometry.bankOffset
    match bank with
    | 0 | 1 =>
      omega

/-- What survives is all that a start needs. -/
theorem Survives.slotInv (h : Survives sum flash slot history) :
    SlotInv sum flash SlotMemory.default slot index none
      { history with
        data := []
        loaded := false } := by
  refine ⟨h.bounded, nofun, nofun, ?_⟩
  intro hlast
  rcases h.proved hlast with ⟨bank, payload, seq, hproved, hallows⟩
  exact ⟨bank, payload, seq, hproved, hallows, .inl rfl, nofun, nofun⟩

theorem Open.loaded {session : WriteSession} (h : Open sum flash slot index session history) :
    Open sum flash slot index session { history with loaded := true } :=
  ⟨h.slot_eq, h.index_eq, h.written_le, h.header, h.filled, h.stale, h.newer, h.seq_le⟩

theorem servedAfter_memory (store : Store) (index : Nat) (bank : Bank) :
    (servedAfter store index (store.memory index).served bank).memory index
      = { store.memory index with
          served := servedRead (store.memory index).served bank } := by
  refine (remember_self store index _).trans ?_
  exact if_pos rfl

/-- Before the first commit it does not matter which bank was read. -/
theorem SlotInv.loaded_first {memory read : SlotMemory}
    (h : SlotInv sum flash memory slot index session history) (hlast : history.last = none)
    (herased : read.erased = memory.erased) (hwriting : read.writing = memory.writing) :
    SlotInv sum flash read slot index session { history with loaded := true } := by
  refine ⟨h.bounded, ?_, ?_, fun hnone => absurd hlast hnone⟩
  · rw [herased]
    exact h.erased
  · intro s hs
    rcases h.opened s hs with ⟨hopen, hclaimed, hnone⟩
    exact ⟨hopen.loaded, hwriting.trans hclaimed, herased.trans hnone⟩

theorem load_own (hslot : slotGeometry key = some slot) (hindex : slotIndex key = some index)
    (hsized : slot.Sized) {store : Store}
    (h : SlotInv sum store.flash (store.memory index) slot index session history) :
    SlotInv sum ((load sum key).run store).1.flash
      (((load sum key).run store).1.memory index) slot index session
      { history with loaded := true } := by
  by_cases hlast : history.last = none
  · have hsafe : (load sum key).Safely (fun _ => True)
        (fun _ after => after = store ∨ exists bank,
          after = servedAfter store index (store.memory index).served bank) store :=
      load_flash hslot hindex fun _ _ => trivial
    rcases hsafe.run with hsame | ⟨bank, hread⟩
    · rw [hsame]
      exact h.loaded_first hlast rfl rfl
    · rw [hread, servedAfter_memory]
      exact h.loaded_first hlast rfl rfl
  · rcases h.proved hlast with ⟨bank, payload, seq, hproved, hallows, _, _, htarget⟩
    have hread : servedBank (servedRead (store.memory index).served bank) = some bank :=
      servedBank_read _ _
    rw [load_proved hslot hindex hsized hproved, servedAfter_memory]
    refine ⟨h.bounded, h.erased, ?_, fun _ => ?_⟩
    · intro s hs
      rcases h.opened s hs with ⟨hopen, hrest⟩
      exact ⟨hopen.loaded, hrest⟩
    · exact ⟨bank, payload, seq, hproved, hallows, .inr hread, fun _ => hread, htarget⟩

namespace World

/-! ## The invariant of a run -/

structure KeyInv (sum : Checksum) (key : SliceKey) (slot : SlotGeometry) (index : Nat)
    (world : World) : Prop where
  placed : forall other session, world.sessions other = some session -> Placed other session
  slotInv : SlotInv sum world.store.flash (world.store.memory index) slot index
    (world.sessions key) (world.history key)

theorem KeyInv.update (hsized : slot.Sized) (h : KeyInv sum key slot index world) {other : SliceKey}
    {store : Store} {session : Option WriteSession}
    (hplaced : forall s, session = some s -> Placed other s) (hown : other = key ->
      SlotInv sum store.flash (store.memory index) slot index session history)
    (hothers : other ≠ key -> Untouched slot index world.store store) :
    KeyInv sum key slot index (world.update other store session history) := by
  constructor
  · intro third s hs
    change Function.update world.sessions other session third = some s at hs
    by_cases hthird : third = other
    · subst hthird
      rw [update_self] at hs
      exact hplaced s hs
    · rw [update_of_ne hthird] at hs
      exact h.placed third s hs
  · change SlotInv sum store.flash (store.memory index) slot index
      (Function.update world.sessions other session key)
      (Function.update world.history other history key)
    by_cases hkey : other = key
    · have hinv := hown hkey
      subst hkey
      rwa [update_self, update_self]
    · have huntouched := hothers hkey
      rw [update_of_ne (Ne.symm hkey), update_of_ne (Ne.symm hkey), huntouched.memory]
      exact h.slotInv.congr hsized huntouched.sameBank

theorem KeyInv.held (h : KeyInv sum key slot index world) {other : SliceKey}
    {session : WriteSession} (hsession : world.sessions other = some session) (hkey : other = key) :
    SlotInv sum world.store.flash (world.store.memory index) slot index (some session)
      (world.history other) := by
  subst hkey
  rw [<- hsession]
  exact h.slotInv

theorem slot_cases (other : SliceKey) :
    (slotGeometry other = none ∧ slotIndex other = none)
      ∨ exists own ownIndex, slotGeometry other = some own ∧ slotIndex other = some ownIndex := by
  cases hindex : slotIndex other with
  | none =>
    left
    rw [slotGeometry_eq, hindex]
    exact ⟨rfl, rfl⟩
  | some ownIndex =>
    right
    refine ⟨slotAt ownIndex, ownIndex, ?_, rfl⟩
    rw [slotGeometry_eq, hindex]
    rfl

theorem beginWrite_placed (other : SliceKey) (store : Store) :
    forall s, ((beginWrite other).run store).2 = .ok s -> Placed other s := by
  rcases slot_cases other with hnone | ⟨own, ownIndex, hown, hownIndex⟩
  · unfold beginWrite
    rw [hnone.1]
    exact nofun
  · exact (within_beginWrite hown hownIndex).returns store

theorem Untouched.refl (store : Store) : Untouched slot index store store :=
  ⟨fun _ _ _ => rfl, rfl⟩

/-! ## Calls of other keys -/

section Others

variable (hslot : slotGeometry key = some slot) (hindex : slotIndex key = some index)
  {other : SliceKey} (hne : other ≠ key)

include hslot hindex hne

theorem load_others (store : Store) :
    (load sum other).Safely (Untouched slot index store)
      (fun _ after => Untouched slot index store after) store := by
  rcases slot_cases other with hnone | ⟨own, ownIndex, hown, hownIndex⟩
  · unfold load
    rw [hnone.1]
    exact ⟨Untouched.refl store, Untouched.refl store⟩
  · have hapart := apart_of_ne hne hslot hindex hown hownIndex
    exact ((within_load hown hownIndex).untouched hapart store).mono fun _ _ h => h.2

theorem beginWrite_others (store : Store) :
    (beginWrite other).Safely (Untouched slot index store)
      (fun _ after => Untouched slot index store after) store := by
  rcases slot_cases other with hnone | ⟨own, ownIndex, hown, hownIndex⟩
  · unfold beginWrite
    rw [hnone.1]
    exact ⟨Untouched.refl store, Untouched.refl store⟩
  · have hapart := apart_of_ne hne hslot hindex hown hownIndex
    exact ((within_beginWrite hown hownIndex).untouched hapart store).mono fun _ _ h => h.2

theorem Placed.apart {session : WriteSession} (hplaced : Placed other session) :
    Apart slot session.slot index session.index :=
  apart_of_ne hne hslot hindex hplaced.slot hplaced.index

end Others

/-! ## One step -/

theorem powerUp_keyInv {histories : SliceKey -> History}
    (h : Survives sum flash slot (histories key)) :
    KeyInv sum key slot index (powerUp flash histories) :=
  ⟨nofun, h.slotInv⟩

theorem on_session {result : Type} {other : SliceKey} {absent : result}
    {held : WriteSession -> result} (motive : result -> Prop) (hnone : motive absent)
    (hsome : forall session, world.sessions other = some session -> motive (held session)) :
    motive (match world.sessions other with
      | none => absent
      | some session => held session) := by
  cases hsession : world.sessions other with
  | none => exact hnone
  | some session => exact hsome session hsession

section Steps

variable (hslot : slotGeometry key = some slot) (hindex : slotIndex key = some index)

include hslot hindex

section

variable (h : KeyInv sum key slot index world)
include h

theorem begun_keyInv {other : SliceKey} (hpermitted : Permitted key world (.beginWrite other))
    (hcommits : (world.history key).commits + 1 < 4294967296) :
    KeyInv sum key slot index (world.begun other ((beginWrite other).run world.store)) := by
  have hsized := sized_of_key hslot
  have hplaced := beginWrite_placed other world.store
  have hothers := fun (hne : other ≠ key) => (beginWrite_others hslot hindex hne world.store).run
  have hown : other = key -> BeginPost sum slot index (world.sessions other)
      (world.history other) ((beginWrite other).run world.store).2
      ((beginWrite other).run world.store).1 := by
    intro hkey
    subst hkey
    exact (beginWrite_safely hslot hindex hsized h.slotInv (hpermitted rfl) hcommits).run
  generalize (beginWrite other).run world.store = result at hplaced hothers hown
  rcases result with ⟨store, r⟩
  cases r with
  | ok opened =>
    refine h.update hsized ?_ hown hothers
    intro s hs
    cases hs
    exact hplaced opened rfl
  | error e => exact h.update hsized (h.placed other) hown hothers

theorem grown_keyInv {other : SliceKey} {session : WriteSession}
    (hsession : world.sessions other = some session) (chunk : List Byte) :
    KeyInv sum key slot index
      (world.grown other chunk ((append sum session chunk).run world.store)) := by
  have hplaced := h.placed other session hsession
  have hsized := sized_of_key hslot
  have hwithin : Within session.slot session.index (fun r => Placed other r.1)
      (append sum session chunk) :=
    within_append hplaced (sized_of_key hplaced.slot) chunk
  refine h.update hsized ?_ ?_ ?_
  · intro s hs
    cases hs
    exact hwithin.returns world.store
  · exact fun hkey => (append_safely hsized (h.held hsession hkey) chunk).run
  · exact fun hne => (hwithin.untouched (Placed.apart hslot hindex hne hplaced) world.store).run.2

section

variable {call : Call} (hpermitted : Permitted key world call)
  (hcommits : (world.history key).commits + 1 < 4294967296)
include hpermitted hcommits

theorem after_keyInv : KeyInv sum key slot index (world.after sum call) := by
  have hsized := sized_of_key hslot
  cases call with
  | load other =>
    refine h.update hsized (h.placed other) ?_ ?_
    · intro hkey
      subst hkey
      exact load_own hslot hindex hsized h.slotInv
    · exact fun hne => (load_others hslot hindex hne world.store).run
  | beginWrite other => exact begun_keyInv hslot hindex h hpermitted hcommits
  | append other chunk =>
    apply on_session (KeyInv sum key slot index) h
    intro session hsession
    exact grown_keyInv hslot hindex h hsession chunk
  | commit other =>
    apply on_session (KeyInv sum key slot index) h
    intro session hsession
    have hplaced := h.placed other session hsession
    refine h.update hsized nofun ?_ ?_
    · exact fun hkey => (commit_safely hsized (h.held hsession hkey)).run
    · intro hne
      have hwithin := within_commit (sized_of_key hplaced.slot)
      exact (hwithin.untouched (Placed.apart hslot hindex hne hplaced) world.store).run.2
  | abort other =>
    apply on_session (KeyInv sum key slot index) h
    intro session hsession
    have hplaced := h.placed other session hsession
    refine h.update hsized nofun ?_ ?_
    · exact fun hkey => (abort_safely (h.held hsession hkey)).run
    · intro hne
      exact (within_abort.untouched (Placed.apart hslot hindex hne hplaced) world.store).run.2

/-- What the flash holds of the key, whichever call lost the power. -/
theorem cut_survives {lost : Store} (hcut : world.CutAt sum call lost) :
    Survives sum lost.flash slot (world.lostHistory call lost.flash key) := by
  have hsized := sized_of_key hslot
  have hinv := h.slotInv
  have hstill : lost = world.store -> Survives sum lost.flash slot (world.history key) :=
    fun hsame => hsame ▸ hinv.survives
  have huntouched : Untouched slot index world.store lost ->
      Survives sum lost.flash slot (world.history key) := fun hsame =>
    (hinv.congr hsized hsame.sameBank).survives
  cases call with
  | load other =>
    by_cases hother : other = key
    · subst hother
      have hsafe : (load sum other).Safely
          (fun after : Store => Survives sum after.flash slot (world.history other)) _
          world.store :=
        load_flash hslot hindex fun after hsame => hsame ▸ hinv.survives
      exact hsafe.cut hcut
    · exact huntouched ((load_others hslot hindex hother world.store).cut hcut)
  | beginWrite other =>
    by_cases hother : other = key
    · subst hother
      exact (beginWrite_safely hslot hindex hsized hinv (hpermitted rfl) hcommits).cut hcut
    · exact huntouched ((beginWrite_others hslot hindex hother world.store).cut hcut)
  | append other chunk =>
    revert hcut
    apply on_session (fun cut => cut -> _) hstill
    intro session hsession hcut
    by_cases hother : other = key
    · have hown := (append_safely hsized (h.held hsession hother) chunk).cut hcut
      exact hother ▸ hown
    · have hplaced := h.placed other session hsession
      have hwithin := @within_append sum session other hplaced (sized_of_key hplaced.slot) chunk
      exact huntouched ((hwithin.untouched (Placed.apart hslot hindex hother hplaced) _).cut hcut)
  | commit other =>
    unfold CutAt at hcut
    unfold lostHistory
    cases hsession : world.sessions other with
    | none =>
      simp only [hsession] at hcut ⊢
      exact hstill hcut
    | some session =>
      simp only [hsession] at hcut ⊢
      by_cases hother : other = key
      · have hown := (commit_safely hsized (h.held hsession hother)).cut hcut
        subst hother
        rw [update_self]
        exact hown
      · have hplaced := h.placed other session hsession
        rw [update_of_ne (Ne.symm hother)]
        have hwithin := within_commit (sized_of_key hplaced.slot)
        exact huntouched
          ((hwithin.untouched (Placed.apart hslot hindex hother hplaced) _).cut hcut)
  | abort other =>
    revert hcut
    apply on_session (fun cut => cut -> _) hstill
    intro session hsession hcut
    by_cases hother : other = key
    · have hown := (abort_safely (h.held hsession hother)).cut hcut
      exact hother ▸ hown
    · have hplaced := h.placed other session hsession
      exact huntouched ((within_abort.untouched (Placed.apart hslot hindex hother hplaced)
        _).cut hcut)

end

end

end Steps

/-! ## Whole histories -/

theorem update_commits {histories : SliceKey -> History} (other key : SliceKey)
    (h : (histories other).commits <= history.commits) :
    (histories key).commits <= (Function.update histories other history key).commits := by
  by_cases hkey : key = other
  · subst hkey
    rw [update_self]
    exact h
  · rw [update_of_ne hkey]

theorem afterCommit_commits (history : History) (r : Except StoreError Unit) :
    history.commits <= (history.afterCommit r).commits := by
  cases r with
  | ok done | error e => exact Nat.le_succ _

theorem step_commits {next : World} (hstep : Step sum key world next) :
    (world.history key).commits <= (next.history key).commits := by
  cases hstep with
  | returns call _ =>
    cases call with
    | load other => exact update_commits other key (Nat.le_refl _)
    | beginWrite other =>
      unfold after begun
      simp only
      split
      · exact update_commits other key (Nat.le_refl _)
      · exact update_commits other key (Nat.le_refl _)
    | append other chunk | abort other =>
      apply on_session (fun next : World => _ <= (next.history key).commits) (Nat.le_refl _)
      exact fun _ _ => update_commits other key (Nat.le_refl _)
    | commit other =>
      apply on_session (fun next : World => _ <= (next.history key).commits) (Nat.le_refl _)
      exact fun _ _ => update_commits other key (afterCommit_commits _ _)
  | loses call lost _ _ =>
    change _ <= (world.lostHistory call lost.flash key).commits
    cases call with
    | commit other =>
      unfold lostHistory
      cases hsession : world.sessions other with
      | none => simp only [hsession, Nat.le_refl]
      | some session =>
        simp only [hsession]
        exact update_commits other key (Nat.le_succ _)
    | _ => exact Nat.le_refl _

theorem run_keyInv {start : World} (hslot : slotGeometry key = some slot)
    (hindex : slotIndex key = some index) (hstart : Start key start)
    (hrun : Relation.ReflTransGen (Step sum key) start world)
    (hcommits : (world.history key).commits < 4294967294) : KeyInv sum key slot index world := by
  induction hrun with
  | refl =>
    rcases hstart with ⟨flash, hworld, hempty⟩
    subst hworld
    apply powerUp_keyInv
    refine ⟨?_, fun hnone => absurd rfl hnone⟩
    intro bank header hheader
    rw [hempty slot bank hslot] at hheader
    cases hheader
  | tail _ hstep ih =>
    have hmono := step_commits hstep
    have hbefore := ih (Nat.lt_of_le_of_lt hmono hcommits)
    cases hstep with
    | returns call hpermitted => exact after_keyInv hslot hindex hbefore hpermitted (by omega)
    | loses call lost hpermitted hcut =>
      exact powerUp_keyInv (cut_survives hslot hindex hbefore hpermitted (by omega) hcut)

/-- Once a commit has returned, a load returns its payload, or that of a later commit
whose header was written in full. -/
theorem load_after_power_loss {start : World} (hslot : (slotGeometry key).isSome)
    (hstart : Start key start) (hrun : Relation.ReflTransGen (Step sum key) start world)
    (hcommits : (world.history key).commits < 4294967294) {last : List Byte}
    (hlast : (world.history key).last = some last) :
    exists payload, ((load sum key).run world.store).2 = .ok payload
      ∧ (payload = last ∨ payload ∈ (world.history key).landed) := by
  rcases Option.isSome_iff_exists.mp hslot with ⟨slot, hslot⟩
  rcases slot_cases key with hnone | ⟨_, index, _, hindex⟩
  · cases hnone.1.symm.trans hslot
  · have hinv := (run_keyInv hslot hindex hstart hrun hcommits).slotInv
    rcases hinv.proved (by rw [hlast]; exact Option.some_ne_none last) with
      ⟨bank, payload, seq, hproved, hallows, _⟩
    refine ⟨payload, ?_, hallows last hlast⟩
    rw [load_proved hslot hindex (sized_of_key hslot) hproved]

def blankWorld : World :=
  powerUp (fun _ => erasedByte) fun _ => History.fresh

def oneSlice : World :=
  [Call.load .pollerSettings, .beginWrite .pollerSettings,
    .append .pollerSettings [1#8, 2#8], .commit .pollerSettings].foldl (after crc32Le) blankWorld

def secondSession : World :=
  [Call.beginWrite .pollerSettings, .append .pollerSettings [3#8]].foldl (after crc32Le) oneSlice

def restarted : World :=
  powerUp secondSession.store.flash secondSession.history

theorem blankWorld_start (key : SliceKey) : Start key blankWorld := by
  refine ⟨_, rfl, ?_⟩
  intro slot bank hslot
  exact candidateAt_of_erased (sized_of_key hslot).capacity_lt rfl

theorem oneSlice_run :
    Relation.ReflTransGen (Step crc32Le .pollerSettings) blankWorld oneSlice := by
  have hload : Relation.ReflTransGen (Step crc32Le .pollerSettings) blankWorld
      (blankWorld.after crc32Le (.load .pollerSettings)) :=
    .single (.returns _ nofun)
  have hbegin := hload.tail (.returns (.beginWrite .pollerSettings) fun _ => rfl)
  have happend := hbegin.tail (.returns (.append .pollerSettings [1#8, 2#8]) nofun)
  rw [oneSlice, foldl_cons, foldl_cons, foldl_cons, foldl_cons, foldl_nil]
  exact happend.tail (.returns (.commit .pollerSettings) nofun)

theorem oneSlice_loaded : (oneSlice.history .pollerSettings).loaded := by
  decide +kernel

theorem secondSession_run :
    Relation.ReflTransGen (Step crc32Le .pollerSettings) blankWorld secondSession := by
  have hsecond := oneSlice_run.tail
    (.returns (.beginWrite .pollerSettings) fun _ => oneSlice_loaded)
  rw [secondSession, foldl_cons, foldl_cons, foldl_nil]
  exact hsecond.tail (.returns (.append .pollerSettings [3#8]) nofun)

theorem restarted_run : Relation.ReflTransGen (Step crc32Le .pollerSettings) blankWorld restarted :=
  secondSession_run.tail (.loses (.load .pollerSettings) secondSession.store nofun (.here _ _))

theorem restarted_loads : (restarted.history .pollerSettings).last = some [1#8, 2#8]
    ∧ exists payload, ((load crc32Le .pollerSettings).run restarted.store).2 = .ok payload
      ∧ (payload = [1#8, 2#8] ∨ payload ∈ (restarted.history .pollerSettings).landed) := by
  have hlast : (restarted.history .pollerSettings).last = some [1#8, 2#8] := by
    decide +kernel
  exact ⟨hlast, load_after_power_loss rfl (blankWorld_start _) restarted_run
    (by decide +kernel) hlast⟩

end World

end Oxidali.Storage
