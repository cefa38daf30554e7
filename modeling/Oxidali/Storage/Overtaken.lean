import Oxidali.Lib.Beside
import Oxidali.Storage.PowerLoss

/-!
# A load beside a writer

A load takes no claim on the slot.  It reads the headers and then the payload while
another thread opens sessions, fills them and commits them.  What it can be sure of
depends on whether a bank is erased in the meantime.
-/

namespace Oxidali.Storage

open Words Device Prog.Always List

/-! ## The writing thread -/

inductive WriterCall where
  | beginWrite
  | append (chunk : List Byte)
  | commit

/-- The calls of one thread on one key.  A call that needs a session is made on the
one that is open. -/
def writer (sum : Checksum) (key : SliceKey) : Option WriteSession -> List WriterCall ->
    StoreProg Unit
  | _, [] => .done ()
  | session, .beginWrite :: rest =>
    (beginWrite key).andThen fun
      | .ok opened => writer sum key (some opened) rest
      | .error _ => writer sum key session rest
  | some session, .append chunk :: rest =>
    (append sum session chunk).andThen fun r => writer sum key (some r.1) rest
  | none, .append _ :: rest => writer sum key none rest
  | some session, .commit :: rest =>
    (commit session).andThen fun _ => writer sum key none rest
  | none, .commit :: rest => writer sum key none rest

def StoreOp.Erases : StoreOp -> Prop
  | .erase _ _ => True
  | _ => False

/-- The revision in the slot of the key: it checks, and the other bank is older or does
not check. -/
def Current (sum : Checksum) (key : SliceKey) (store : Store) (payload : List Byte) : Prop :=
  exists slot bank seq, slotGeometry key = some slot ∧ Proved sum store.flash slot bank payload seq

variable {sum : Checksum} {key : SliceKey} {slot : SlotGeometry} {index : Nat}
  {store : Store} {bank : Bank} {payload : List Byte} {seq : BitVec 32} {flashes : Flash -> Prop}

/-! ## Reading a flash that changes -/

def StoreOp.AnsweredBy (flashes : Flash -> Prop) : (op : StoreOp) -> op.Ret -> Prop
  | .read offset len, r => exists flash, flashes flash ∧ r = .ok (flash.read offset len)
  | _, _ => True

/-- Every read finds one of the given flashes. -/
def answersOf (flashes : Flash -> Prop) : Prog.Answers storeMachine :=
  fun op r => StoreOp.AnsweredBy flashes op r

theorem answersOf_exec (h : flashes store.flash) (op : StoreOp) :
    answersOf flashes op (storeMachine.exec op store).2 := by
  cases op with
  | read offset len => exact ⟨store.flash, h, rfl⟩
  | _ => trivial

theorem answersOf_mono {more : Flash -> Prop} (h : forall flash, flashes flash -> more flash)
    (op : storeMachine.op) (r : storeMachine.ret op)
    (hr : answersOf flashes op r) : answersOf more op r := by
  cases op with
  | read offset len =>
    rcases hr with ⟨flash, hflash, hread⟩
    exact ⟨flash, h flash hflash, hread⟩
  | _ => trivial

theorem readChunks_always {flash : Flash} {sizes : List Nat} {offset : Nat}
    (h : forall other, flashes other -> forall i, i < sizes.sum ->
      other (offset + i) = flash (offset + i)) :
    (readChunks offset sizes).Always (answersOf flashes)
      fun r => r = .ok (flash.read offset sizes.sum) := by
  induction sizes generalizing offset with
  | nil => rfl
  | cons size rest ih =>
    rw [sum_cons] at h
    apply attempt
    intro r hr
    rcases hr with ⟨other, hother, hread⟩
    subst hread
    refine ⟨_, rfl, ?_⟩
    apply attempt
    have hrest : forall other, flashes other -> forall i, i < rest.sum ->
        other (offset + size + i) = flash (offset + size + i) := by
      intro other hother i hi
      rw [Nat.add_assoc]
      exact h other hother (size + i) (by omega)
    apply (ih hrest).mono
    intro r hr
    refine ⟨_, hr, ?_⟩
    change Except.ok _ = Except.ok _
    rw [sum_cons, Flash.read_append, Flash.read_congr fun i hi => h other hother i (by omega)]

theorem payload_always {len : Nat} (hlen : len <= slot.capacity)
    (hsame : forall other, flashes other -> SameBank store.flash other slot bank) :
    (readChunks (slot.bankOffset bank + headerBytes)
        (chunkSizes ioChunkBytes len)).Always (answersOf flashes)
      fun r => r = .ok (payloadAt store.flash slot bank len) := by
  unfold SlotGeometry.capacity at hlen
  have hchunks : (readChunks (slot.bankOffset bank + headerBytes)
      (chunkSizes ioChunkBytes len)).Always (answersOf flashes)
      fun r => r = .ok (store.flash.read (slot.bankOffset bank + headerBytes)
        (chunkSizes ioChunkBytes len).sum) := by
    apply readChunks_always
    intro other hother i hi
    rw [chunkSizes_sum] at hi
    rw [Nat.add_assoc]
    exact hsame other hother (headerBytes + i) (by omega)
  rw [chunkSizes_sum] at hchunks
  exact hchunks

theorem tryBanks_skips {seen : BitVec 32} {lastErr : StoreError}
    {before rest : List (Bank × BankHeader)} {post : Except StoreError (List Byte) -> Prop}
    (hbefore : forall other header, (other, header) ∈ before -> header.len.toNat <= slot.capacity
        ∧ (forall flash, flashes flash -> SameBank store.flash flash slot other)
        ∧ sum.crc32 0 (payloadAt store.flash slot other header.len.toNat) ≠ header.crc)
    (h : (tryBanks sum slot index seen lastErr rest).Always (answersOf flashes) post) :
    (tryBanks sum slot index seen lastErr (before ++ rest)).Always (answersOf flashes)
      post := by
  induction before with
  | nil => exact h
  | cons first before ih =>
    rcases first with ⟨other, header⟩
    rcases hbefore other header mem_cons_self with ⟨hlen, hsame, hcrc⟩
    apply andThen
    apply (payload_always hlen hsame).mono
    intro r hr
    subst hr
    simp only [hcrc, ne_eq, not_false_eq_true, if_true]
    exact ih fun other header hmem =>
      hbefore other header (mem_cons_of_mem _ hmem)

/-- The candidates are tried on any flashes that agree on the banks that count. -/
theorem tryBanks_always (hsized : slot.Sized)
    (hproved : Proved sum store.flash slot bank payload seq)
    (hsame : forall flash, flashes flash -> SameBank store.flash flash slot bank)
    (hother : candidateAt store.flash slot (1 - bank) ≠ none ->
      forall flash, flashes flash -> SameBank store.flash flash slot (1 - bank))
    (seen : BitVec 32) (lastErr : StoreError) :
    (tryBanks sum slot index seen lastErr (candidates store.flash slot)).Always
      (answersOf flashes) fun r => r = .ok payload := by
  rcases candidates_proved hproved with ⟨before, rest, hsplit, hbefore⟩
  rw [hsplit]
  apply tryBanks_skips
  · intro other header hmem
    rcases hbefore other header hmem with ⟨hcandidate, hmismatch⟩
    refine ⟨candidateAt_len_le hcandidate, ?_, hmismatch⟩
    by_cases hbank : other = bank
    · rw [hbank]
      exact hsame
    · rw [bank_ne_iff.mp hbank] at hcandidate ⊢
      apply hother
      rw [hcandidate]
      exact Option.some_ne_none header
  · have hlength := hproved.sound.length_le
    unfold tryBanks
    rw [toNat_length hsized hlength]
    apply andThen
    apply (payload_always hlength hsame).mono
    intro r hr
    subst hr
    simp only [hproved.sound.holds, ne_eq, not_true_eq_false, if_false]
    exact fun _ _ => rfl

/-! ## A load while one commit comes -/

/-- Up to the header of the commit: the bank in use is as it was, and the other one is
untouched or no candidate before and after. -/
def Quiet (store : Store) (slot : SlotGeometry) (bank : Bank) (flash : Flash) : Prop :=
  SameBank store.flash flash slot bank
    ∧ (flash = store.flash
      ∨ (candidateAt store.flash slot (1 - bank) = none ∧ candidateAt flash slot (1 - bank) = none))

/-- The header has made the other bank the one in use. -/
structure Published (sum : Checksum) (store : Store) (slot : SlotGeometry) (bank : Bank)
    (after : Store) : Prop where
  kept : SameBank store.flash after.flash slot bank
  none : candidateAt store.flash slot (1 - bank) = none
  proved : exists data seq, Proved sum after.flash slot (1 - bank) data seq

theorem bank_cases (bank other : Bank) : other = bank ∨ other = 1 - bank := by
  by_cases h : other = bank
  · exact .inl h
  · exact .inr (bank_ne_iff.mp h)

theorem Quiet.candidate_eq {flash : Flash} (hsized : slot.Sized) (h : Quiet store slot bank flash)
    (other : Bank) :
    candidate slot other (headerAt flash slot other)
      = candidate slot other (headerAt store.flash slot other) := by
  rw [Storage.candidate_eq, Storage.candidate_eq]
  rcases bank_cases bank other with hbank | hbank
  · rw [hbank, h.1.candidateAt_eq hsized]
  · subst hbank
    rcases h.2 with hsame | ⟨hbefore, hafter⟩
    · rw [hsame]
    · rw [hbefore, hafter]

theorem candidates_eq (flash : Flash) (slot : SlotGeometry) :
    candidates flash slot = newestFirst (candidate slot 0 (headerAt flash slot 0)
      ++ candidate slot 1 (headerAt flash slot 1)) := by
  rw [Storage.candidate_eq, Storage.candidate_eq]
  rfl

/-- One header of before and one of after: they make no difference in the bank that is
kept. -/
theorem candidates_mixed {flash other : Flash} (hsized : slot.Sized)
    (hkept : SameBank flash other slot bank) :
    newestFirst (candidate slot 0 (headerAt flash slot 0)
        ++ candidate slot 1 (headerAt other slot 1)) = candidates flash slot
      ∨ newestFirst (candidate slot 0 (headerAt flash slot 0)
        ++ candidate slot 1 (headerAt other slot 1)) = candidates other slot := by
  have hcandidate := hkept.candidateAt_eq hsized
  rw [candidates_eq, candidates_eq, Storage.candidate_eq, Storage.candidate_eq,
    Storage.candidate_eq, Storage.candidate_eq]
  match bank with
  | 0 =>
    right
    rw [hcandidate]
  | 1 =>
    left
    rw [hcandidate]

theorem header_always (slot : SlotGeometry) (bank : Bank) (flash : Flash) :
    (header slot bank).Always (answersOf fun other => other = flash)
      fun r => r = .ok (headerAt flash slot bank) := by
  intro r hr
  rcases hr with ⟨other, hother, hread⟩
  subst hother hread
  rfl

theorem candidateBanks_always (slot : SlotGeometry) (flash : Flash) :
    (candidateBanks slot).Always (answersOf fun other => other = flash)
      fun r => r = .ok (candidates flash slot) := by
  apply attempt
  apply (header_always slot 0 flash).mono
  intro r hr
  refine ⟨_, hr, ?_⟩
  apply attempt
  apply (header_always slot 1 flash).mono
  intro r hr
  refine ⟨_, hr, ?_⟩
  rw [candidates_eq]
  rfl

theorem header_switches (hsized : slot.Sized) (other : Bank) :
    (header slot other).Switches (answersOf (Quiet store slot bank))
      (fun mid : { mid // Published sum store slot bank mid } =>
        answersOf fun flash => flash = mid.val.flash)
      (fun r => exists found, r = .ok found ∧ candidate slot other found
        = candidate slot other (headerAt store.flash slot other))
      (fun mid r => r = .ok (headerAt mid.val.flash slot other)) := by
  constructor
  · intro mid
    exact header_always slot other mid.val.flash
  · intro r hr
    rcases hr with ⟨flash, hquiet, hread⟩
    subst hread
    exact ⟨_, rfl, hquiet.candidate_eq hsized other⟩

/-- Whenever the header comes, both headers are those of one moment. -/
theorem candidateBanks_switches (hsized : slot.Sized) :
    (candidateBanks slot).Switches (answersOf (Quiet store slot bank))
      (fun mid : { mid // Published sum store slot bank mid } =>
        answersOf fun flash => flash = mid.val.flash)
      (fun r => r = .ok (candidates store.flash slot))
      (fun mid r => r = .ok (candidates store.flash slot)
        ∨ r = .ok (candidates mid.val.flash slot)) := by
  apply Prog.Switches.attempt
  apply (header_switches hsized 0).mono
  · intro r hr
    rcases hr with ⟨first, hr, hfirst⟩
    refine ⟨first, hr, ?_⟩
    apply Prog.Switches.attempt
    apply (header_switches hsized 1).mono
    · intro r hr
      rcases hr with ⟨second, hr, hsecond⟩
      refine ⟨second, hr, ?_⟩
      rw [candidates_eq, <- hfirst, <- hsecond]
      rfl
    · intro mid r hr
      refine ⟨_, hr, ?_⟩
      rw [hfirst]
      exact (candidates_mixed hsized mid.property.kept).imp
        (fun h => congrArg Except.ok h) (fun h => congrArg Except.ok h)
  · intro mid r hr
    refine ⟨_, hr, ?_⟩
    apply attempt
    apply (header_always slot 1 mid.val.flash).mono
    intro r hr
    refine ⟨_, hr, .inr ?_⟩
    rw [candidates_eq]

/-- What a load returns if one commit comes between its operations. -/
def LoadedAfter (sum : Checksum) (slot : SlotGeometry) (bank : Bank) (payload : List Byte)
    (mid : Store) (r : Except StoreError (List Byte)) : Prop :=
  r = .ok payload ∨ exists data seq, Proved sum mid.flash slot (1 - bank) data seq ∧ r = .ok data

theorem tryBanks_switches (hsized : slot.Sized)
    (hproved : Proved sum store.flash slot bank payload seq) (seen : BitVec 32)
    (lastErr : StoreError) :
    (tryBanks sum slot index seen lastErr (candidates store.flash slot)).Always
      (answersOf fun flash => Quiet store slot bank flash
        ∨ exists mid : { mid // Published sum store slot bank mid }, flash = mid.val.flash)
      fun r => r = .ok payload := by
  apply tryBanks_always hsized hproved
  · intro flash hflash
    rcases hflash with hquiet | ⟨mid, hmid⟩
    · exact hquiet.1
    · rw [hmid]
      exact mid.property.kept
  · intro hcandidate flash hflash
    rcases hflash with hquiet | ⟨mid, hmid⟩
    · rcases hquiet.2 with hsame | ⟨hnone, _⟩
      · rw [hsame]
        exact fun _ _ => rfl
      · exact absurd hnone hcandidate
    · exact absurd mid.property.none hcandidate

theorem tryBanks_published (hsized : slot.Sized)
    (mid : { mid // Published sum store slot bank mid }) (seen : BitVec 32) (lastErr : StoreError) :
    (tryBanks sum slot index seen lastErr (candidates mid.val.flash slot)).Always
      (answersOf fun flash => flash = mid.val.flash)
      (LoadedAfter sum slot bank payload mid.val) := by
  rcases mid.property.proved with ⟨data, seq, hproved⟩
  have hsame : forall other flash, flash = mid.val.flash ->
      SameBank mid.val.flash flash slot other := by
    intro other flash hflash
    rw [hflash]
    exact fun _ _ => rfl
  apply (tryBanks_always hsized hproved (hsame _) (fun _ => hsame _) seen lastErr).mono
  intro r hr
  exact .inr ⟨data, seq, hproved, hr⟩

theorem load_switches (hslot : slotGeometry key = some slot) (hindex : slotIndex key = some index)
    (hsized : slot.Sized) (hproved : Proved sum store.flash slot bank payload seq) :
    (load sum key).Switches (answersOf (Quiet store slot bank))
      (fun mid : { mid // Published sum store slot bank mid } =>
        answersOf fun flash => flash = mid.val.flash)
      (fun r => r = .ok payload)
      (fun mid => LoadedAfter sum slot bank payload mid.val) := by
  unfold load
  rw [hslot, hindex]
  constructor
  · intro mid seen _
    apply attempt
    apply (candidateBanks_always slot mid.val.flash).mono
    intro r hr
    exact ⟨_, hr, tryBanks_published hsized mid seen .missing⟩
  · intro seen _
    have hbefore := @tryBanks_switches sum slot index store bank payload seq hsized hproved
      seen .missing
    apply Prog.Switches.attempt
    apply (candidateBanks_switches hsized).mono
    · intro r hr
      refine ⟨_, hr, ?_⟩
      apply Prog.Switches.of_always hbefore
      · exact answersOf_mono fun flash hquiet => .inl hquiet
      · exact fun mid => answersOf_mono fun flash hflash => .inr ⟨mid, hflash⟩
      · exact fun mid r hr => .inl hr
    · intro mid r hr
      rcases hr with hr | hr
      · refine ⟨_, hr, ?_⟩
        apply (hbefore.fewer (answersOf_mono fun flash hflash =>
          .inr ⟨mid, hflash⟩)).mono
        exact fun r hr => .inl hr
      · exact ⟨_, hr, tryBanks_published hsized mid seen .missing⟩

variable {op : StoreOp}

theorem StoreOp.Looks.same (h : op.Looks) (store : Store) :
    (storeMachine.exec op store).1 = store := by
  cases op with
  | read | snapshot | erased => rfl
  | _ => cases h

theorem tryBanks_watches (seen : BitVec 32) (lastErr : StoreError)
    (found : List (Bank × BankHeader)) : (tryBanks sum slot index seen lastErr found).Watches := by
  induction found generalizing lastErr with
  | nil => trivial
  | cons first rest ih =>
    rcases first with ⟨bank, header⟩
    apply Prog.Watches.andThen ((readChunks_looks _ _).widen fun _ h => h.same)
    intro r
    cases r with
    | error e => exact ih e
    | ok payload =>
      change Prog.Watches (if _ then _ else _)
      split
      · exact ih lastErr
      · exact .inr fun _ => ⟨_, rfl⟩

theorem load_watches (sum : Checksum) (key : SliceKey) : (load sum key).Watches := by
  unfold load
  split
  · refine .inl ⟨fun _ => rfl, fun seen => ?_⟩
    apply Prog.Watches.andThen ((candidateBanks_looks _).widen fun _ h => h.same)
    intro r
    cases r with
    | error e => trivial
    | ok found => exact tryBanks_watches _ _ _
  · trivial

/-! ## The writer between two erases -/

section Writer

variable {value : Type}

/-- The flash stays as it is until a bank is erased. -/
def Still : StoreProg value -> Store -> Prop
  | .done _, _ => True
  | .call op next, store => StoreOp.Erases op
      ∨ ((storeMachine.exec op store).1.flash = store.flash
        ∧ Still (next (storeMachine.exec op store).2) (storeMachine.exec op store).1)

/-- Until a bank is erased, the bank in use stays and the other is no candidate, except
that a header may be written and the flash is still from then on. -/
def Filling (sum : Checksum) (slot : SlotGeometry) (bank : Bank) : StoreProg value -> Store -> Prop
  | .done _, _ => True
  | .call op next, store => StoreOp.Erases op
      ∨ (SameBank store.flash (storeMachine.exec op store).1.flash slot bank
        ∧ candidateAt (storeMachine.exec op store).1.flash slot (1 - bank) = none
        ∧ Filling sum slot bank (next (storeMachine.exec op store).2)
          (storeMachine.exec op store).1)
      ∨ (Published sum store slot bank (storeMachine.exec op store).1
        ∧ Still (next (storeMachine.exec op store).2) (storeMachine.exec op store).1)

/-- A point of the writer at which a load may begin. -/
def Ready (sum : Checksum) (slot : SlotGeometry) (prog : StoreProg value) (store : Store) : Prop :=
  exists bank payload seq, Proved sum store.flash slot bank payload seq
    ∧ (Still prog store
      ∨ (candidateAt store.flash slot (1 - bank) = none ∧ Filling sum slot bank prog store))

variable {prog : StoreProg value}

theorem Still.filling (h : Still prog store)
    (hnone : candidateAt store.flash slot (1 - bank) = none) :
    Filling sum slot bank prog store := by
  induction prog generalizing store with
  | done v => trivial
  | call op next ih =>
    rcases h with herases | ⟨hflash, hstill⟩
    · exact .inl herases
    · refine .inr (.inl ⟨?_, ?_, ih _ hstill ?_⟩)
      · intro i _
        rw [hflash]
      · rw [hflash]
        exact hnone
      · rw [hflash]
        exact hnone

theorem Ready.filling (h : Ready sum slot prog store)
    (hnone : candidateAt store.flash slot (1 - bank) = none) :
    Filling sum slot bank prog store := by
  rcases h with ⟨other, payload, seq, hproved, hprog⟩
  have hbank : other = bank := by
    rcases bank_cases bank other with hbank | hbank
    · exact hbank
    · subst hbank
      cases hnone.symm.trans hproved.sound.candidate
  subst hbank
  rcases hprog with hstill | ⟨_, hfilling⟩
  · exact hstill.filling hnone
  · exact hfilling

/-- The writer has not published anything since the load began. -/
def QuietAt (sum : Checksum) (store : Store) (slot : SlotGeometry) (bank : Bank) (after : Store)
    (rest : StoreProg value) : Prop :=
  Quiet store slot bank after.flash
    ∧ ((after.flash = store.flash ∧ Still rest after)
      ∨ (candidateAt store.flash slot (1 - bank) = none ∧ Filling sum slot bank rest after))

/-- The writer has published, and waits to erase the old bank. -/
def SwitchedAt (mid after : Store) (rest : StoreProg value) : Prop :=
  after.flash = mid.flash ∧ Still rest after

variable {next : op.Ret -> StoreProg value}

theorem QuietAt.step {after : Store} (h : QuietAt sum store slot bank after (.call op next))
    (hkeeps : ¬ op.Erases) :
    QuietAt sum store slot bank (after.exec op).1 (next (after.exec op).2)
      ∨ exists mid : { mid // Published sum store slot bank mid },
        SwitchedAt mid.val (after.exec op).1 (next (after.exec op).2) := by
  rcases h with ⟨hsame, ⟨hflash, hstill⟩ | ⟨hnone, hfilling⟩⟩
  · rcases hstill with herases | ⟨hafter, hstill⟩
    · exact absurd herases hkeeps
    · left
      have hafter := hafter.trans hflash
      refine ⟨⟨?_, .inl hafter⟩, .inl ⟨hafter, hstill⟩⟩
      intro i _
      exact congrFun hafter _
  · rcases hfilling with herases | ⟨hkept, hafter, hfilling⟩ | ⟨hpublished, hstill⟩
    · exact absurd herases hkeeps
    · left
      exact ⟨⟨fun i hi => (hkept i hi).trans (hsame.1 i hi), .inr ⟨hnone, hafter⟩⟩,
        .inr ⟨hnone, hfilling⟩⟩
    · right
      exact ⟨⟨_, fun i hi => (hpublished.kept i hi).trans (hsame.1 i hi), hnone,
        hpublished.proved⟩, rfl, hstill⟩

theorem SwitchedAt.step {mid after : Store} (h : SwitchedAt mid after (.call op next))
    (hkeeps : ¬ op.Erases) : SwitchedAt mid (after.exec op).1 (next (after.exec op).2) := by
  rcases h with ⟨hflash, herases | ⟨hafter, hstill⟩⟩
  · exact absurd herases hkeeps
  · exact ⟨hafter.trans hflash, hstill⟩

theorem SwitchedAt.answers {mid after : Store} {rest : StoreProg value}
    (h : SwitchedAt mid after rest) (op : StoreOp) :
    answersOf (fun flash => flash = mid.flash) op (storeMachine.exec op after).2 := by
  apply answersOf_exec
  exact h.1

theorem Ready.load {visited : List Store} {r : Except StoreError (List Byte)}
    (hslot : slotGeometry key = some slot) (hindex : slotIndex key = some index)
    (hsized : slot.Sized) (h : Ready sum slot prog store)
    (hrun : Prog.Beside (fun op => ¬ StoreOp.Erases op) store (Storage.load sum key) prog
      visited r) :
    exists payload moment, r = .ok payload ∧ moment ∈ visited ∧ Current sum key moment payload := by
  rcases h with ⟨bank, payload, seq, hproved, hprog⟩
  have hcurrent : Current sum key store payload := ⟨slot, bank, seq, hslot, hproved⟩
  have hstart : QuietAt sum store slot bank store prog :=
    ⟨⟨fun _ _ => rfl, .inl rfl⟩, hprog.imp_left fun hstill => ⟨rfl, hstill⟩⟩
  have hresult := Prog.Switches.beside (QuietAt sum store slot bank)
    (fun mid : { mid // Published sum store slot bank mid } => SwitchedAt mid.val)
    (fun _ _ _ hkeeps hquiet => hquiet.step hkeeps)
    (fun _ _ _ _ hkeeps hswitched => hswitched.step hkeeps)
    (fun _ _ op hquiet => answersOf_exec hquiet.1 op)
    (fun _ _ _ op hswitched => hswitched.answers op) hrun
    (load_watches sum key) (load_switches hslot hindex hsized hproved) hstart
  rcases hresult with hr | ⟨mid, passed, rest, hmem, hpassed, hr⟩
  · exact ⟨payload, store, hr, hrun.mem_first, hcurrent⟩
  · rcases hr with hr | ⟨data, number, hdata, hr⟩
    · exact ⟨payload, store, hr, hrun.mem_first, hcurrent⟩
    · refine ⟨data, passed, hr, hmem, slot, 1 - bank, number, hslot, ?_⟩
      rw [hpassed.1]
      exact hdata

end Writer

/-! ## All points of the writer -/

def StoreOp.Writes : StoreOp -> Prop
  | .write _ _ => True
  | _ => False

/-- Some bank of the slot can be read. -/
def Readable (sum : Checksum) (slot : SlotGeometry) (store : Store) : Prop :=
  exists bank payload seq, Proved sum store.flash slot bank payload seq

theorem exec_flash (hwrites : ¬ op.Writes) (herases : ¬ op.Erases) (store : Store) :
    (storeMachine.exec op store).1.flash = store.flash := by
  cases op with
  | write => exact absurd trivial hwrites
  | erase => exact absurd trivial herases
  | _ => rfl

theorem Ready.back {value : Type} {next : op.Ret -> StoreProg value}
    (hflash : (storeMachine.exec op store).1.flash = store.flash)
    (h : Ready sum slot (next (storeMachine.exec op store).2) (storeMachine.exec op store).1) :
    Ready sum slot (Prog.call op next : StoreProg value) store := by
  rcases h with ⟨bank, payload, seq, hproved, hrest⟩
  rw [hflash] at hproved
  refine ⟨bank, payload, seq, hproved, ?_⟩
  rcases hrest with hstill | ⟨hnone, hfilling⟩
  · exact .inl (.inr ⟨hflash, hstill⟩)
  · refine .inr ⟨hflash ▸ hnone, .inr (.inl ⟨?_, hnone, hfilling⟩)⟩
    intro i _
    rw [hflash]

/-- A part that writes nothing, and erases only while a bank can be read. -/
theorem throughout_unwritten {value : Type} {prog : StoreProg value}
    {next : value -> StoreProg Unit} {returns : value -> Prop} {lost : Store -> Prop}
    {post : value -> Store -> Prop} (hops : prog.Every (fun op => ¬ StoreOp.Writes op) returns)
    (hsafe : prog.Safely lost post store)
    (hlost : forall after, lost after -> Readable sum slot after)
    (h : (next (prog.run store).2).Throughout (Ready sum slot) (prog.run store).1) :
    (prog.andThen next).Throughout (Ready sum slot) store := by
  induction prog generalizing store with
  | done v => exact h
  | call op rest ih =>
    have hrest := ih _ (hops.2 _) hsafe.2.2 h
    refine ⟨?_, hrest⟩
    by_cases herases : StoreOp.Erases op
    · rcases hlost store hsafe.1 with ⟨bank, payload, seq, hproved⟩
      exact ⟨bank, payload, seq, hproved, .inl (.inl herases)⟩
    · exact Ready.back (exec_flash hops.1 herases store) hrest.here

variable {session : WriteSession} {history : History}

theorem Survives.readable (h : Survives sum store.flash slot history)
    (hlast : history.last ≠ none) : Readable sum slot store := by
  rcases h.proved hlast with ⟨bank, payload, seq, hproved, _⟩
  exact ⟨bank, payload, seq, hproved⟩

theorem append_throughout (hsized : slot.Sized)
    (h : SlotInv sum store.flash (store.memory index) slot index (some session) history)
    (hlast : history.last ≠ none) (chunk : List Byte)
    {next : WriteSession × Except StoreError Unit -> StoreProg Unit}
    (hnext : (next ((append sum session chunk).run store).2).Throughout (Ready sum slot)
      ((append sum session chunk).run store).1) :
    ((append sum session chunk).andThen next).Throughout (Ready sum slot) store := by
  rcases h.opened session rfl with ⟨hopen, _, _⟩
  unfold append at hnext ⊢
  by_cases hfailed : session.failed = true
  · rw [if_pos hfailed] at hnext ⊢
    exact hnext
  · rw [if_neg hfailed] at hnext ⊢
    by_cases hfits : session.written + chunk.length > session.slot.capacity
    · rw [if_pos hfits] at hnext ⊢
      exact hnext
    · rw [if_neg hfits] at hnext ⊢
      refine ⟨?_, hnext⟩
      rcases h.proved hlast with ⟨bank, payload, seq, hproved, _, _, _, htarget⟩
      have htarget := htarget session rfl
      have hfits : session.written + chunk.length <= slot.capacity := by
        rw [<- hopen.slot_eq]
        exact Nat.le_of_not_lt hfits
      rcases appended_kept hsized hopen hfits with ⟨hkept, hheader⟩
      have hbefore := hopen.candidate_none hsized
      have hafter : candidateAt (appended store.flash session chunk) slot session.target
          = none :=
        candidateAt_of_erased hsized.capacity_lt (hheader 11 (by decide))
      rw [htarget] at hbefore hafter
      rw [htarget, one_sub_one_sub] at hkept
      exact ⟨bank, payload, seq, hproved, .inr ⟨hbefore,
        .inr (.inl ⟨hkept, hafter, hnext.here.filling hafter⟩)⟩⟩

def finishCommit (session : WriteSession) : StoreProg (Except StoreError Unit) :=
  (perform (.committed session.index session.target)).andThen fun _ =>
    (eraseStale session).andThen fun _ =>
      (perform (.release session.index)).andThen fun _ => .done (.ok ())

theorem commit_eq (hfailed : session.failed = false) :
    exists rest : Except StoreError Unit -> StoreProg (Except StoreError Unit),
      commit session = .call (.write (session.slot.bankOffset session.target)
        (sessionHeader session).encode) rest ∧ rest (.ok ()) = finishCommit session := by
  unfold commit
  rw [hfailed]
  exact ⟨_, rfl, rfl⟩

theorem finishCommit_unwritten (session : WriteSession) :
    (finishCommit session).Every (fun op => ¬ StoreOp.Writes op) fun _ => True := by
  refine ⟨id, fun _ => ?_⟩
  have herase : (eraseStale session).Every (fun op => ¬ StoreOp.Writes op)
      fun _ => True := by
    unfold eraseStale
    split
    · trivial
    · refine ⟨id, fun r => ?_⟩
      cases r with
      | error e => trivial
      | ok done => exact ⟨id, fun _ => trivial⟩
  apply Prog.Every.andThen herase
  exact fun _ _ => ⟨id, fun _ => trivial⟩

theorem commit_throughout (hsized : slot.Sized)
    (h : SlotInv sum store.flash (store.memory index) slot index (some session) history)
    (hlast : history.last ≠ none) {next : Except StoreError Unit -> StoreProg Unit}
    (hnext : (next ((commit session).run store).2).Throughout (Ready sum slot)
      ((commit session).run store).1) :
    ((commit session).andThen next).Throughout (Ready sum slot) store := by
  have hsafe := commit_safely hsized h
  have hlost : forall after, CommitLost sum slot session history after ->
      Readable sum slot after := fun after hafter => Survives.readable hafter hlast
  rcases h.opened session rfl with ⟨hopen, _, _⟩
  by_cases hfailed : session.failed = true
  · have hops : (commit session).Every (fun op => ¬ StoreOp.Writes op)
        fun _ => True := by
      unfold commit
      rw [if_pos hfailed]
      exact ⟨id, fun _ => trivial⟩
    exact throughout_unwritten hops hsafe hlost hnext
  · have hfailed := Bool.eq_false_of_not_eq_true hfailed
    rcases commit_eq hfailed with ⟨rest, hcommit, hrest⟩
    rw [hcommit] at hsafe hnext ⊢
    have hafter := hsafe.2.2
    change (rest (.ok ())).Safely _ _ _ at hafter
    change (next ((rest (.ok ())).run _).2).Throughout _ ((rest (.ok ())).run _).1 at hnext
    rw [hrest] at hafter hnext
    constructor
    · rcases h.proved hlast with ⟨bank, payload, seq, hproved, _, _, _, htarget⟩
      have htarget := htarget session rfl
      have hstanding := headed_standing hsized hopen
      have hbefore := hopen.candidate_none hsized
      rcases hstanding.proved hsized h hfailed with ⟨hpublished, _⟩
      have hkept := (headed_kept hsized hopen
        (Nat.le_of_eq (sessionHeader session).length_encode)).1
      have hstale : session.stale = some bank := by
        rcases hopen.stale with hstale | ⟨_, hnone⟩
        · rw [hstale, htarget, one_sub_one_sub]
        · rw [htarget, one_sub_one_sub] at hnone
          cases hnone.symm.trans hproved.sound.candidate
      rw [htarget] at hbefore hpublished
      rw [htarget, one_sub_one_sub] at hkept
      refine ⟨bank, payload, seq, hproved, .inr ⟨hbefore, .inr (.inr ⟨?_, ?_⟩)⟩⟩
      · exact ⟨hkept, hbefore, _, _, hpublished⟩
      · change Still ((rest (.ok ())).andThen next) _
        rw [hrest]
        unfold finishCommit eraseStale
        rw [hstale]
        exact .inr ⟨rfl, .inl trivial⟩
    · change ((rest (.ok ())).andThen next).Throughout _ _
      rw [hrest]
      exact throughout_unwritten (finishCommit_unwritten session) hafter hlost hnext

theorem BeginOp.unwritten (h : BeginOp slot index op) : ¬ op.Writes := by
  cases op with
  | write => cases h
  | _ => exact id

/-- Wherever the writer is, the slot is ready for a load. -/
theorem writer_throughout (hslot : slotGeometry key = some slot)
    (hindex : slotIndex key = some index) (calls : List WriterCall) {session : Option WriteSession}
    (h : SlotInv sum store.flash (store.memory index) slot index session history)
    (hlast : history.last ≠ none) (hloaded : history.loaded)
    (hcommits : history.commits + calls.length < 4294967295) :
    (writer sum key session calls).Throughout (Ready sum slot) store := by
  have hsized := sized_of_key hslot
  induction calls generalizing session store history with
  | nil =>
    rcases h.proved hlast with ⟨bank, payload, seq, hproved, _⟩
    exact ⟨bank, payload, seq, hproved, .inl trivial⟩
  | cons call rest ih =>
    rw [length_cons] at hcommits
    cases call with
    | beginWrite =>
      have hsafe := beginWrite_safely hslot hindex hsized h hloaded (by omega)
      have hpost := hsafe.run
      apply throughout_unwritten
        ((beginWrite_begins hslot hindex).widen fun _ hop => hop.unwritten) hsafe
        (fun after hafter => Survives.readable hafter hlast)
      generalize (beginWrite key).run store = result at hpost
      rcases result with ⟨after, r⟩
      cases r with
      | ok opened =>
        have hrest : history.commits + rest.length < 4294967295 := by omega
        exact ih hpost hlast hloaded hrest
      | error e => exact ih hpost hlast hloaded (by omega)
    | append chunk =>
      cases session with
      | none =>
        exact ih h hlast hloaded (by omega)
      | some session =>
        have hpost := (append_safely hsized h chunk).run
        apply append_throughout hsized h hlast
        have hrest : history.commits + rest.length < 4294967295 := by omega
        exact ih hpost hlast hloaded hrest
    | commit =>
      cases session with
      | none =>
        exact ih h hlast hloaded (by omega)
      | some session =>
        have hpost := (commit_safely hsized h).run
        apply commit_throughout hsized h hlast
        generalize (commit session).run store = result at hpost
        rcases result with ⟨after, r⟩
        have hrest : history.commits + 1 + rest.length < 4294967295 := by omega
        cases r with
        | ok done => exact ih hpost (Option.some_ne_none _) hloaded hrest
        | error e => exact ih hpost hlast hloaded hrest

namespace World

/-- While no bank is erased, a load returns a revision that was the current one at some
moment between its first operation and its return. -/
theorem load_beside_writer {start world : World} {calls : List WriterCall} {rest : StoreProg Unit}
    {visited : List Store} {r : Except StoreError (List Byte)} (hslot : (slotGeometry key).isSome)
    (hstart : Start key start) (hrun : Relation.ReflTransGen (Step sum key) start world)
    (hlast : (world.history key).last ≠ none) (hloaded : (world.history key).loaded = true)
    (hcommits : (world.history key).commits + calls.length < 4294967294)
    (hbefore : Prog.Gets (writer sum key (world.sessions key) calls) world.store rest store)
    (hload : Prog.Beside (fun op => ¬ StoreOp.Erases op) store (Storage.load sum key) rest
      visited r) :
    exists payload moment, r = .ok payload ∧ moment ∈ visited ∧ Current sum key moment payload := by
  rcases Option.isSome_iff_exists.mp hslot with ⟨slot, hslot⟩
  rcases slot_cases key with hnone | ⟨_, index, _, hindex⟩
  · cases hnone.1.symm.trans hslot
  · have hinv := (run_keyInv hslot hindex hstart hrun (by omega)).slotInv
    have hpoints := writer_throughout hslot hindex calls hinv hlast hloaded (by omega)
    exact (hpoints.gets hbefore).load hslot hindex (sized_of_key hslot) hload

theorem append_erases_nothing (sum : Checksum) (key : SliceKey) (session : Option WriteSession)
    (chunk : List Byte) : (writer sum key session [.append chunk]).Every
      (fun op => ¬ StoreOp.Erases op) fun _ => True := by
  cases session with
  | none => trivial
  | some session =>
    have hown : (append sum session chunk).Every (fun op => ¬ StoreOp.Erases op)
        fun _ => True := by
      unfold append
      split
      · trivial
      · split
        · trivial
        · refine ⟨id, fun r => ?_⟩
          cases r <;> trivial
    exact hown.andThen fun _ _ => trivial

/-- The second session is appended to when the load has read the headers. -/
theorem append_beside_load : exists visited r,
    Prog.Beside (fun op => ¬ StoreOp.Erases op) secondSession.store
      (Storage.load crc32Le .pollerSettings)
      (writer crc32Le .pollerSettings (secondSession.sessions .pollerSettings)
        [.append [4#8]]) visited r
    ∧ exists payload moment, r = .ok payload ∧ moment ∈ visited
      ∧ Current crc32Le .pollerSettings moment payload := by
  have hwaits : ((Storage.load crc32Le .pollerSettings).advance 3
      secondSession.store).1.isDone = false := by
    decide +kernel
  have hbeside := fun session => Prog.Beside.overtaken 3
    (append_erases_nothing crc32Le .pollerSettings session [4#8]) hwaits
  rcases hbeside (secondSession.sessions .pollerSettings) with ⟨visited, hload⟩
  have hlast : (secondSession.history .pollerSettings).last ≠ none := by decide +kernel
  have hloaded : (secondSession.history .pollerSettings).loaded = true := by
    decide +kernel
  have hcommits : (secondSession.history .pollerSettings).commits
      + [WriterCall.append [4#8]].length < 4294967294 := by
    have hone : (secondSession.history .pollerSettings).commits = 1 := by decide +kernel
    rw [hone]
    decide
  have hslot : (slotGeometry .pollerSettings).isSome := rfl
  exact ⟨visited, _, hload, load_beside_writer hslot (blankWorld_start _)
    secondSession_run hlast hloaded hcommits (.here _ _) hload⟩

/-- The other thread commits when the load has read the headers: the bank that the load
found is erased before it is read, and the slice is reported as missing. -/
theorem overtaken_load_missing : Start .pollerSettings blankWorld
    ∧ Relation.ReflTransGen (Step crc32Le .pollerSettings) blankWorld oneSlice
    ∧ (oneSlice.history .pollerSettings).last = some [1#8, 2#8]
    ∧ (oneSlice.history .pollerSettings).loaded = true
    ∧ exists visited, Prog.Beside (fun _ => True) oneSlice.store
      (Storage.load crc32Le .pollerSettings)
      (writer crc32Le .pollerSettings (oneSlice.sessions .pollerSettings)
        [.beginWrite, .append [3#8], .commit]) visited (.error .missing) := by
  have hlast : (oneSlice.history .pollerSettings).last = some [1#8, 2#8] := by
    decide +kernel
  refine ⟨blankWorld_start _, oneSlice_run, hlast, oneSlice_loaded, ?_⟩
  have hwaits : ((Storage.load crc32Le .pollerSettings).advance 3
      oneSlice.store).1.isDone = false := by
    decide +kernel
  rcases Prog.Beside.overtaken 3 (Prog.Every.anything (writer crc32Le .pollerSettings
    (oneSlice.sessions .pollerSettings) [.beginWrite, .append [3#8], .commit])) hwaits with
    ⟨visited, hload⟩
  refine ⟨visited, ?_⟩
  have hmissing : (((Storage.load crc32Le .pollerSettings).advance 3 oneSlice.store).1.run
      ((writer crc32Le .pollerSettings (oneSlice.sessions .pollerSettings)
        [.beginWrite, .append [3#8], .commit]).run
          ((Storage.load crc32Le .pollerSettings).advance 3 oneSlice.store).2).1).2
      = .error .missing := by
    decide +kernel
  rw [<- hmissing]
  exact hload

end World

end Oxidali.Storage
