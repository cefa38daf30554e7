import Oxidali.Storage.Sessions

/-!
# A call stays in its slot

The calls of one key write only within the slot of that key and remember only what
belongs to it, so that the slots can be looked at one by one.
-/

namespace Oxidali.Storage

open Words Device Prog.Every

variable {value : Type} {sum : Checksum} {slot own : SlotGeometry} {index ownIndex : Nat}
  {session : WriteSession}

/-! ## Operations within a slot -/

variable (slot)

def RangeWithin (offset len : Nat) : Prop :=
  slot.offset <= offset ∧ offset + len <= slot.offset + 2 * slot.bankBytes

def OpWithin (index : Nat) : StoreOp -> Prop
  | .read _ _ => True
  | .write offset bytes => RangeWithin slot offset bytes.length
  | .erase offset len => RangeWithin slot offset len
  | .snapshot _ => True
  | .committed other _ => other = index
  | .readUnlessMoved other _ _ => other = index
  | .erased _ => True
  | .setErased other _ => other = index
  | .claim other => other = index
  | .release other => other = index

/-- The program stays in the slot, and what it returns satisfies `returns`. -/
def Within (index : Nat) (returns : value -> Prop) (prog : StoreProg value) : Prop :=
  prog.Every (OpWithin slot index) returns

/-! ## Operations that only look -/

def StoreOp.Looks : StoreOp -> Prop
  | .read _ _ => True
  | .snapshot _ => True
  | .erased _ => True
  | _ => False

variable {slot} {op : StoreOp}

theorem StoreOp.Looks.within (h : op.Looks) : OpWithin slot index op := by
  cases op with
  | read | snapshot | erased => trivial
  | _ => cases h

theorem readChunks_looks (offset : Nat) (sizes : List Nat) :
    (readChunks offset sizes).Every StoreOp.Looks fun _ => True := by
  induction sizes generalizing offset with
  | nil => trivial
  | cons size rest ih =>
    have hread : (perform (.read offset size)).Every StoreOp.Looks
        fun r => forall v, r = .ok v -> True := ⟨trivial, fun _ _ _ => trivial⟩
    apply attempt hread (fun _ => trivial)
    intro bytes _
    apply andThen (ih (offset + size))
    intro r _
    cases r with
    | ok more | error e => trivial

theorem header_looks (slot : SlotGeometry) (bank : Bank) :
    (header slot bank).Every StoreOp.Looks fun _ => True := by
  refine ⟨trivial, fun r => ?_⟩
  cases r with
  | ok raw | error e => trivial

theorem candidateBanks_looks (slot : SlotGeometry) :
    (candidateBanks slot).Every StoreOp.Looks fun _ => True := by
  apply andThen (header_looks slot 0)
  intro first _
  cases first with
  | error e => trivial
  | ok first =>
    apply andThen (header_looks slot 1)
    intro second _
    cases second with
    | error e | ok second => trivial

theorem isErased_looks (offset : Nat) (sizes : List Nat) :
    (isErased offset sizes).Every StoreOp.Looks fun _ => True := by
  induction sizes generalizing offset with
  | nil => trivial
  | cons size rest ih =>
    refine ⟨trivial, fun r => ?_⟩
    cases r with
    | error e => trivial
    | ok bytes =>
      change Prog.Every _ _ (if _ then _ else _)
      split
      · trivial
      · exact ih (offset + size)

theorem within_tryBanks (seen : BitVec 32) (lastErr : StoreError)
    (found : List (Bank × BankHeader)) :
    Within slot index (fun _ => True) (tryBanks sum slot index seen lastErr found) := by
  induction found generalizing lastErr with
  | nil => trivial
  | cons first rest ih =>
    rcases first with ⟨bank, header⟩
    apply andThen ((readChunks_looks _ _).widen fun _ h => h.within)
    intro r _
    cases r with
    | error e => exact ih e
    | ok payload =>
      change Within slot index _ (if _ then _ else _)
      split
      · exact ih lastErr
      · exact ⟨rfl, fun _ => trivial⟩

/-! ## The calls -/

/-- A session that works on the slot of its key. -/
structure Placed (key : SliceKey) (session : WriteSession) : Prop where
  slot : slotGeometry key = some session.slot
  index : slotIndex key = some session.index
  written_le : session.written <= session.slot.capacity

theorem bank_within (bank : Bank) {start len : Nat} (h : start + len <= slot.bankBytes) :
    RangeWithin slot (slot.bankOffset bank + start) len := by
  unfold RangeWithin SlotGeometry.bankOffset
  match bank with
  | 0 =>
    omega
  | 1 =>
    omega

variable {key : SliceKey}

theorem within_load (hslot : slotGeometry key = some slot) (hindex : slotIndex key = some index) :
    Within slot index (fun _ => True) (load sum key) := by
  unfold load
  rw [hslot, hindex]
  refine ⟨trivial, fun seen => ?_⟩
  apply andThen ((candidateBanks_looks slot).widen fun _ h => h.within)
  intro r _
  cases r with
  | error e => trivial
  | ok found => exact within_tryBanks seen .missing found

/-- The operations of `begin_write`. -/
def BeginOp (slot : SlotGeometry) (index : Nat) : StoreOp -> Prop
  | .write _ _ => False
  | .erase offset len => exists bank, offset = slot.bankOffset bank ∧ len = slot.bankBytes
  | .committed _ _ => False
  | .readUnlessMoved _ _ _ => False
  | .setErased other _ => other = index
  | .claim other => other = index
  | .release other => other = index
  | _ => True

theorem StoreOp.Looks.begins (h : op.Looks) : BeginOp slot index op := by
  cases op with
  | read | snapshot | erased => trivial
  | _ => cases h

theorem BeginOp.within (h : BeginOp slot index op) : OpWithin slot index op := by
  cases op with
  | erase offset len =>
    rcases h with ⟨bank, hoffset, hlen⟩
    subst hoffset hlen
    exact bank_within bank (Nat.le_of_eq (Nat.zero_add _))
  | write | committed | readUnlessMoved => cases h
  | _ => exact h

theorem prepareBank_begins (target : Bank) :
    (prepareBank slot index target).Every (BeginOp slot index) fun _ => True := by
  refine ⟨trivial, fun (erased : Option Bank) => ?_⟩
  change Prog.Every _ _ (if _ then _ else _)
  split
  · trivial
  · apply andThen ((isErased_looks _ _).widen fun _ h => h.begins)
    intro r _
    cases r with
    | error e => trivial
    | ok blank =>
      change Prog.Every _ _ (if _ then _ else _)
      split
      · trivial
      · exact ⟨⟨target, rfl, rfl⟩, fun _ => trivial⟩

section

variable (hslot : slotGeometry key = some slot) (hindex : slotIndex key = some index)
include hslot hindex

theorem openSession_begins :
    (openSession slot index).Every (BeginOp slot index)
      fun r => forall opened, r = .ok opened -> Placed key opened := by
  apply andThen ((candidateBanks_looks slot).widen fun _ h => h.begins)
  intro r _
  cases r with
  | error e => exact nofun
  | ok found =>
    refine ⟨trivial, fun word => ?_⟩
    apply andThen (prepareBank_begins _)
    intro r _
    cases r with
    | error e => exact nofun
    | ok done =>
      refine ⟨rfl, fun _ => ?_⟩
      intro opened hopened
      cases hopened
      exact ⟨hslot, hindex, Nat.zero_le _⟩

theorem beginWrite_begins :
    (beginWrite key).Every (BeginOp slot index)
      fun r => forall opened, r = .ok opened -> Placed key opened := by
  unfold beginWrite
  rw [hslot, hindex]
  refine ⟨rfl, fun (taken : Bool) => ?_⟩
  change Prog.Every _ _ (if _ then _ else _)
  split
  · apply andThen (openSession_begins hslot hindex)
    intro r hr
    cases r with
    | error e =>
      refine ⟨rfl, fun _ => ?_⟩
      exact nofun
    | ok opened => exact hr
  · exact nofun

theorem within_beginWrite :
    Within slot index (fun r => forall opened, r = .ok opened -> Placed key opened)
      (beginWrite key) :=
  (beginWrite_begins hslot hindex).widen fun _ h => h.within

end

theorem within_append (h : Placed key session) (hsized : session.slot.Sized) (chunk : List Byte) :
    Within session.slot session.index (fun r => Placed key r.1) (append sum session chunk) := by
  have hheader := hsized.header_le
  unfold append
  split
  · exact h
  · split
    · exact ⟨h.slot, h.index, h.written_le⟩
    · rename_i hfits
      have hfits := Nat.le_of_not_lt hfits
      constructor
      · rw [Nat.add_assoc]
        apply bank_within
        unfold SlotGeometry.capacity at hfits
        omega
      · intro r
        cases r with
        | error e => exact ⟨h.slot, h.index, h.written_le⟩
        | ok done => exact ⟨h.slot, h.index, hfits⟩

theorem within_commit (hsized : session.slot.Sized) :
    Within session.slot session.index (fun _ => True) (commit session) := by
  have hheader := hsized.header_le
  unfold commit
  split
  · exact ⟨rfl, fun _ => trivial⟩
  · constructor
    · have hlength : 0 + (sessionHeader session).encode.length <= session.slot.bankBytes :=
        (Nat.zero_add _).trans_le hheader
      exact bank_within session.target hlength
    · intro r
      cases r with
      | error e => exact ⟨rfl, fun _ => trivial⟩
      | ok done =>
        refine ⟨rfl, fun _ => ?_⟩
        have herase : Within session.slot session.index (fun _ => True)
            (eraseStale session) := by
          unfold eraseStale
          split
          · trivial
          · refine ⟨bank_within _ (Nat.le_of_eq (Nat.zero_add _)), fun r => ?_⟩
            cases r with
            | error e => trivial
            | ok done => exact ⟨rfl, fun _ => trivial⟩
        apply andThen herase
        intro _ _
        exact ⟨rfl, fun _ => trivial⟩

theorem within_abort : Within session.slot session.index (fun _ => True) (abort session) :=
  ⟨rfl, fun _ => trivial⟩

/-! ## Other slots are left alone -/

/-- The slot and what is remembered of it are as they were. -/
structure Untouched (slot : SlotGeometry) (index : Nat) (before after : Store) : Prop where
  flash : forall at_, slot.offset <= at_ -> at_ < slot.offset + 2 * slot.bankBytes ->
    after.flash at_ = before.flash at_
  memory : after.memory index = before.memory index

/-- Two slots that share nothing. -/
structure Apart (slot own : SlotGeometry) (index ownIndex : Nat) : Prop where
  ranges : slot.offset + 2 * slot.bankBytes <= own.offset
    ∨ own.offset + 2 * own.bankBytes <= slot.offset
  index : index ≠ ownIndex

theorem untouched_exec (hapart : Apart slot own index ownIndex) {before store : Store}
    (hop : OpWithin own ownIndex op) (h : Untouched slot index before store) :
    Untouched slot index before (store.exec op).1 := by
  have hranges := hapart.ranges
  cases op with
  | read offset len | snapshot other | erased other => exact h
  | write offset bytes =>
    rcases hop with ⟨hlow, hhigh⟩
    refine ⟨fun at_ hfrom hto => ?_, h.memory⟩
    exact (Flash.write_outside (by omega)).trans (h.flash at_ hfrom hto)
  | erase offset len =>
    rcases hop with ⟨hlow, hhigh⟩
    refine ⟨fun at_ hfrom hto => ?_, h.memory⟩
    exact (Flash.erase_outside (by omega)).trans (h.flash at_ hfrom hto)
  | committed other bank | readUnlessMoved other seen bank | setErased other bank
  | claim other | release other =>
    cases hop
    exact ⟨h.flash, (if_neg hapart.index).trans h.memory⟩

theorem untouched_torn (hapart : Apart slot own index ownIndex) {before store after : Store}
    (hop : OpWithin own ownIndex op) (h : Untouched slot index before store)
    (htorn : store.Torn op after) : Untouched slot index before after := by
  have hranges := hapart.ranges
  cases op with
  | write offset bytes =>
    rcases hop with ⟨hlow, hhigh⟩
    rcases htorn with ⟨k, htorn⟩
    have hlength := List.length_take_le' k bytes
    subst htorn
    refine ⟨fun at_ hfrom hto => ?_, h.memory⟩
    exact (Flash.write_outside (by omega)).trans (h.flash at_ hfrom hto)
  | erase offset len =>
    rcases hop with ⟨hlow, hhigh⟩
    rcases htorn with ⟨sectors, htorn⟩
    subst htorn
    refine ⟨fun at_ hfrom hto => ?_, h.memory⟩
    exact (Flash.erase_outside (by omega)).trans (h.flash at_ hfrom hto)
  | _ => exact htorn ▸ h

theorem Within.untouched {returns : value -> Prop} {prog : StoreProg value}
    (hapart : Apart slot own index ownIndex) (h : Within own ownIndex returns prog)
    (before : Store) :
    prog.Safely (Untouched slot index before)
      (fun v after => returns v ∧ Untouched slot index before after) before :=
  safely (fun _ _ => untouched_exec hapart)
    (fun _ _ _ hop hinv htorn => untouched_torn hapart hop hinv htorn) h ⟨fun _ _ _ => rfl, rfl⟩

theorem Within.returns {returns : value -> Prop} {prog : StoreProg value}
    (h : Within own ownIndex returns prog) (store : Store) : returns (prog.run store).2 := by
  have hsafe : prog.Safely (fun _ => True) (fun v _ => returns v ∧ True) store :=
    safely (fun _ _ _ _ => trivial) (fun _ _ _ _ _ _ => trivial) h trivial
  exact hsafe.run.1

theorem apart_of_ne {other : SliceKey} (hne : other ≠ key) (hslot : slotGeometry key = some slot)
    (hindex : slotIndex key = some index) (hown : slotGeometry other = some own)
    (hownIndex : slotIndex other = some ownIndex) : Apart slot own index ownIndex := by
  have hdistinct : index ≠ ownIndex := by
    intro heq
    subst heq
    exact hne ((keyAt_slotIndex hownIndex).symm.trans (keyAt_slotIndex hindex))
  rw [slotGeometry_eq, hindex] at hslot
  rw [slotGeometry_eq, hownIndex] at hown
  cases hslot
  cases hown
  refine ⟨?_, hdistinct⟩
  rcases Nat.lt_or_gt_of_ne hdistinct with hlt | hgt
  · exact .inl (slotAt_end_le hlt)
  · exact .inr (slotAt_end_le hgt)

theorem sized_of_key (hslot : slotGeometry key = some slot) : slot.Sized := by
  rw [slotGeometry_eq] at hslot
  rcases Option.map_eq_some_iff.mp hslot with ⟨index, _, heq⟩
  exact heq ▸ slotAt_sized index

end Oxidali.Storage
