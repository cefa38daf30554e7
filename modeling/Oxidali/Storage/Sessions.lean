import Oxidali.Storage.Recovery

/-!
# One call and its slot

What a call of the store leaves in the slot of its key, when it returns and when the
power is lost in it.
-/

namespace Oxidali.Storage

open Words Device Flash List BitVec

/-! ## The word that remembers the bank -/

theorem bankCode_mask (bank : Bank) : bankCode bank &&& servedBankMask = bankCode bank := by
  revert bank
  decide

theorem servedBank_code {word : BitVec 32} {bank : Bank}
    (h : word &&& servedBankMask = bankCode bank) : servedBank word = some bank := by
  unfold servedBank
  rw [h]
  match bank with
  | 0 | 1 => rfl

theorem or_and_mask {a code mask : BitVec 32} (ha : a &&& mask = 0)
    (hcode : code &&& mask = code) : (a ||| code) &&& mask = code := by
  apply eq_of_getLsbD_eq
  intro i _
  have ha : (a &&& mask).getLsbD i = false := by
    rw [ha]
    exact getLsbD_zero
  have hcode : (code &&& mask).getLsbD i = code.getLsbD i := by rw [hcode]
  rw [getLsbD_and] at ha hcode
  rw [getLsbD_and, getLsbD_or, Bool.and_or_distrib_right, ha, hcode]
  rfl

theorem servedBank_read (seen : BitVec 32) (bank : Bank) :
    servedBank (servedRead seen bank) = some bank := by
  apply servedBank_code
  have hclear : seen &&& ~~~ servedBankMask &&& servedBankMask = 0 := by
    rw [BitVec.and_assoc]
    exact and_zero
  exact or_and_mask hclear (bankCode_mask bank)

theorem servedBank_committed (word : BitVec 32) (bank : Bank) :
    servedBank (servedCommitted word bank) = some bank := by
  apply servedBank_code
  have hclear : ((word >>> servedBankBits) + 1) <<< servedBankBits &&& servedBankMask
      = 0 := by
    apply eq_of_toNat_eq
    rw [toNat_and, toNat_shiftLeft]
    change _ &&& (2 ^ 8 - 1) = 0
    rw [Nat.and_two_pow_sub_one_eq_mod, Nat.shiftLeft_eq]
    change _ * 256 % 4294967296 % 256 = 0
    omega
  exact or_and_mask hclear (bankCode_mask bank)

/-! ## What holds of a slot -/

structure History where
  data : List Byte
  commits : Nat
  last : Option (List Byte)
  landed : List (List Byte)
  loaded : Bool

variable {sum : Checksum} {store : Store} {slot : SlotGeometry} {index : Nat}
  {flash other : Flash} {bank : Bank} {history : History} {session : WriteSession}

/-- The payload may be returned: it is that of the last commit that returned, or of a
later one whose header stands in the flash. -/
def History.Allows (history : History) (payload : List Byte) : Prop :=
  forall last, history.last = some last -> payload = last ∨ payload ∈ history.landed

def Bounded (flash : Flash) (slot : SlotGeometry) (commits : Nat) : Prop :=
  forall bank header, candidateAt flash slot bank = some header -> header.seq.toNat <= commits

/-- What the flash holds, whatever is lost with the power. -/
structure Survives (sum : Checksum) (flash : Flash) (slot : SlotGeometry)
    (history : History) : Prop where
  bounded : Bounded flash slot history.commits
  proved : history.last ≠ none -> exists bank payload seq,
    Proved sum flash slot bank payload seq ∧ history.Allows payload

/-- The target of an open session: nothing but what was appended. -/
structure Open (sum : Checksum) (flash : Flash) (slot : SlotGeometry) (index : Nat)
    (session : WriteSession) (history : History) : Prop where
  slot_eq : session.slot = slot
  index_eq : session.index = index
  written_le : session.written <= slot.capacity
  header : Blank flash (slot.bankOffset session.target) headerBytes
  filled : session.failed = false ->
    session.written = history.data.length
      ∧ payloadAt flash slot session.target history.data.length = history.data
      ∧ session.crc = sum.crc32 0 history.data
      ∧ Blank flash (slot.bankOffset session.target + headerBytes + session.written)
        (slot.capacity - session.written)
  stale : session.stale = some (1 - session.target)
    ∨ (session.stale = none ∧ candidateAt flash slot (1 - session.target) = none)
  newer : forall header, candidateAt flash slot (1 - session.target) = some header ->
    header.seq.toNat < session.seq.toNat
  seq_le : session.seq.toNat <= history.commits + 1

/-- What holds of a slot between two calls. -/
structure SlotInv (sum : Checksum) (flash : Flash) (memory : SlotMemory)
    (slot : SlotGeometry) (index : Nat) (session : Option WriteSession)
    (history : History) : Prop where
  bounded : Bounded flash slot history.commits
  erased : forall bank, memory.erased = some bank ->
    Blank flash (slot.bankOffset bank) slot.bankBytes
  opened : forall s, session = some s ->
    Open sum flash slot index s history ∧ memory.writing = true ∧ memory.erased = none
  proved : history.last ≠ none -> exists bank payload seq,
    Proved sum flash slot bank payload seq ∧ history.Allows payload
      ∧ (servedBank memory.served = none ∨ servedBank memory.served = some bank)
      ∧ (history.loaded = true -> servedBank memory.served = some bank)
      ∧ (forall s, session = some s -> s.target = 1 - bank)

variable {memory : SlotMemory}

theorem SlotInv.survives {session : Option WriteSession}
    (h : SlotInv sum flash memory slot index session history) :
    Survives sum flash slot history := by
  refine ⟨h.bounded, fun hlast => ?_⟩
  rcases h.proved hlast with ⟨bank, payload, seq, hproved, hallows, _⟩
  exact ⟨bank, payload, seq, hproved, hallows⟩

/-! ## Beginning a session -/

variable {target : Bank}

theorem prepareBank_safely {lost : Store -> Prop}
    (herased : forall bank, (store.memory index).erased = some bank ->
      Blank store.flash (slot.bankOffset bank) slot.bankBytes) (hlost : lost store)
    (htorn : forall sectors, lost { store with
      flash := store.flash.eraseSectors (slot.bankOffset target) slot.bankBytes sectors })
    (hdone : lost { store with
      flash := store.flash.erase (slot.bankOffset target) slot.bankBytes }) :
    (prepareBank slot index target).Safely lost
      (fun r after => r = .ok () ∧ after.memory = store.memory
        ∧ Blank after.flash (slot.bankOffset target) slot.bankBytes
        ∧ (after.flash = store.flash
          ∨ after.flash = store.flash.erase (slot.bankOffset target) slot.bankBytes))
      store := by
  refine (reads_erased store index).andThen_safely ?_
  by_cases hknown : (store.memory index).erased = some target
  · rw [if_pos hknown]
    exact ⟨hlost, rfl, rfl, herased target hknown, .inl rfl⟩
  · rw [if_neg hknown]
    rcases reads_isErased store (slot.bankOffset target)
      (chunkSizes eraseScanChunkBytes slot.bankBytes) with ⟨blank, hreads, hblank⟩
    rw [chunkSizes_sum] at hblank
    refine hreads.attempt_safely ?_
    cases blank with
    | true => exact ⟨hlost, rfl, rfl, hblank rfl, .inl rfl⟩
    | false =>
      refine ⟨hlost, ?_, hdone, rfl, rfl, ?_, .inr rfl⟩
      · intro after hafter
        rcases hafter with ⟨sectors, hafter⟩
        rw [hafter]
        exact htorn sectors
      · intro i hi
        exact erase_inside (Nat.le_add_right _ _) (by omega)

theorem newest_spec (flash : Flash) (slot : SlotGeometry) :
    match (candidates flash slot).head? with
    | none => forall bank, candidateAt flash slot bank = none
    | some newest => candidateAt flash slot newest.1 = some newest.2
        ∧ forall bank header, candidateAt flash slot bank = some header ->
          header.seq.toNat <= newest.2.seq.toNat := by
  have hsorted := candidates_sorted flash slot
  have hmem : forall bank header, (bank, header) ∈ candidates flash slot
      <-> candidateAt flash slot bank = some header := fun _ _ => mem_candidates
  generalize candidates flash slot = found at hsorted hmem
  cases found with
  | nil =>
    intro bank
    cases hcandidate : candidateAt flash slot bank with
    | none => rfl
    | some header => cases (hmem bank header).mpr hcandidate
  | cons newest rest =>
    refine ⟨(hmem newest.1 newest.2).mp mem_cons_self, ?_⟩
    intro bank header hcandidate
    rcases mem_cons.mp ((hmem bank header).mpr hcandidate) with heq | hrest
    · rw [<- heq]
    · exact (pairwise_cons.mp hsorted).1 _ hrest

/-- The bank that can be read is not the one that is written. -/
def ProvedBeside (sum : Checksum) (flash : Flash) (slot : SlotGeometry) (history : History)
    (target : Bank) : Prop :=
  history.last ≠ none -> exists bank payload seq,
    Proved sum flash slot bank payload seq ∧ history.Allows payload ∧ target = 1 - bank

theorem one_sub_one_sub (bank : Bank) : 1 - (1 - bank) = bank := by
  revert bank
  decide

variable {commits : Nat}

theorem Bounded.change (hsized : slot.Sized) (h : Bounded flash slot commits)
    (hkept : SameBank flash other slot (1 - target))
    (htarget : SameBank flash other slot target
      ∨ candidateAt other slot target = none) : Bounded other slot commits := by
  intro bank header hheader
  by_cases hbank : bank = target
  · subst hbank
    rcases htarget with hsame | hnone
    · rw [hsame.candidateAt_eq hsized] at hheader
      exact h bank header hheader
    · rw [hnone] at hheader
      cases hheader
  · rw [bank_ne_iff.mp hbank, hkept.candidateAt_eq hsized] at hheader
    exact h _ header hheader

theorem ProvedBeside.change (hsized : slot.Sized) (h : ProvedBeside sum flash slot history target)
    (hkept : SameBank flash other slot (1 - target))
    (htarget : SameBank flash other slot target ∨ candidateAt other slot target = none) :
    ProvedBeside sum other slot history target := by
  intro hlast
  rcases h hlast with ⟨bank, payload, seq, hproved, hallows, hbank⟩
  subst hbank
  rw [one_sub_one_sub] at hkept
  refine ⟨bank, payload, seq, ⟨hkept.sound hsized hproved.sound, ?_⟩, hallows, rfl⟩
  rcases htarget with hsame | hnone
  · exact hsame.behind hsized hproved.behind
  · exact behind_of_none hnone

theorem ProvedBeside.survives (h : ProvedBeside sum flash slot history target)
    (hbounded : Bounded flash slot history.commits) : Survives sum flash slot history := by
  refine ⟨hbounded, fun hlast => ?_⟩
  rcases h hlast with ⟨bank, payload, seq, hproved, hallows, _⟩
  exact ⟨bank, payload, seq, hproved, hallows⟩

structure Opened (sum : Checksum) (slot : SlotGeometry) (index : Nat) (history : History)
    (store after : Store) (session : WriteSession) : Prop where
  opened : Open sum after.flash slot index session { history with data := [] }
  bounded : Bounded after.flash slot history.commits
  beside : ProvedBeside sum after.flash slot history session.target
  memory : after.memory = (store.remember index fun memory => { memory with erased := none }).memory
  served : history.last ≠ none -> servedBank (store.memory index).served = some (1 - session.target)

theorem chooseBank_keep {proved newest : Option Bank} {bank : Bank}
    (h : (chooseBank proved newest).keep = some bank) :
    (chooseBank proved newest).target = 1 - bank := by
  unfold chooseBank at h ⊢
  simp only at h ⊢
  rw [h]
  rfl

theorem newest_seq (hbounded : Bounded flash slot commits) (hcommits : commits + 1 < 4294967296) :
    (nextSeq (candidates flash slot)).toNat <= commits + 1
      ∧ forall bank header, candidateAt flash slot bank = some header ->
        header.seq.toNat < (nextSeq (candidates flash slot)).toNat := by
  have hspec := newest_spec flash slot
  unfold nextSeq
  cases hnewest : (candidates flash slot).head? with
  | none =>
    rw [hnewest] at hspec
    refine ⟨Nat.le_add_left 1 commits, ?_⟩
    intro bank header hheader
    rw [hspec bank] at hheader
    cases hheader
  | some newest =>
    rw [hnewest] at hspec
    have hle := hbounded newest.1 newest.2 hspec.1
    have hnext : (newest.2.seq + 1).toNat = newest.2.seq.toNat + 1 := by
      exact Nat.mod_eq_of_lt (by change _ + 1 < _; omega)
    change (newest.2.seq + 1).toNat <= _ ∧ forall bank header, _ -> _ < (newest.2.seq + 1).toNat
    rw [hnext]
    refine ⟨Nat.succ_le_succ hle, ?_⟩
    intro bank header hheader
    exact Nat.lt_succ_of_le (hspec.2 bank header hheader)

/-- What the choice of the banks must say of the slot. -/
structure Chosen (flash : Flash) (slot : SlotGeometry) (commits : Nat)
    (choice : BankChoice) (seq : BitVec 32) : Prop where
  keep : choice.keep = some (1 - choice.target)
    ∨ (choice.keep = none ∧ candidateAt flash slot (1 - choice.target) = none)
  newer : forall header, candidateAt flash slot (1 - choice.target) = some header ->
    header.seq.toNat < seq.toNat
  seq_le : seq.toNat <= commits + 1

theorem chosen_newest (hbounded : Bounded flash slot commits) (hcommits : commits + 1 < 4294967296)
    (proved : Option Bank) :
    Chosen flash slot commits (chooseBank proved ((candidates flash slot).head?.map Prod.fst))
      (nextSeq (candidates flash slot)) := by
  have hseq := newest_seq hbounded hcommits
  have hspec := newest_spec flash slot
  refine ⟨?_, hseq.2 _, hseq.1⟩
  generalize hchoice : chooseBank proved ((candidates flash slot).head?.map Prod.fst) = choice
  cases hkeep : choice.keep with
  | some keep =>
    left
    have htarget := chooseBank_keep (hchoice ▸ hkeep)
    rw [hchoice] at htarget
    rw [htarget, one_sub_one_sub]
  | none =>
    right
    refine ⟨rfl, ?_⟩
    rw [<- hchoice] at hkeep
    have hempty := (Option.or_eq_none_iff.mp hkeep).2
    rw [Option.map_eq_none_iff.mp hempty] at hspec
    exact hspec _

theorem startSession_safely {choice : BankChoice} {seq : BitVec 32} (hsized : slot.Sized)
    (hbounded : Bounded store.flash slot history.commits)
    (herased : forall bank, (store.memory index).erased = some bank ->
      Blank store.flash (slot.bankOffset bank) slot.bankBytes)
    (hbeside : ProvedBeside sum store.flash slot history choice.target)
    (hserved : history.last ≠ none ->
      servedBank (store.memory index).served = some (1 - choice.target))
    (hchosen : Chosen store.flash slot history.commits choice seq) :
    (startSession slot index choice seq).Safely
      (fun after : Store => Survives sum after.flash slot history)
      (fun r after => exists session, r = .ok session
        ∧ Opened sum slot index history store after session) store := by
  have hheader := hsized.header_le
  have hchanged : forall after : Flash, SameBank store.flash after slot (1 - choice.target) ->
      (SameBank store.flash after slot choice.target
        ∨ candidateAt after slot choice.target = none) ->
      Survives sum after slot history := fun after hkept htarget =>
    (hbeside.change hsized hkept htarget).survives (hbounded.change hsized hkept htarget)
  apply Prog.Safely.attempt
  apply (prepareBank_safely herased (hbeside.survives hbounded) ?_ ?_).mono
  · intro r prepared hprepared
    rcases hprepared with ⟨hr, hmemory, hblank, hflash⟩
    have hkept : SameBank store.flash prepared.flash slot (1 - choice.target) := by
      rcases hflash with hsame | herase
      · intro i _
        rw [hsame]
      · rw [herase]
        exact erase_other (Nat.le_refl _) choice.target
    have hnone : candidateAt prepared.flash slot choice.target = none :=
      candidateAt_of_erased hsized.capacity_lt (hblank 11 (by unfold headerBytes at hheader; omega))
    have hsurvives := hchanged prepared.flash hkept (.inr hnone)
    refine ⟨(), hr, hsurvives, fun _ htorn => htorn ▸ hsurvives, hsurvives, _, rfl, ?_⟩
    refine ⟨?_, hbounded.change hsized hkept (.inr hnone),
      hbeside.change hsized hkept (.inr hnone), ?_, hserved⟩
    · refine ⟨rfl, rfl, Nat.zero_le _, ?_, ?_, ?_, ?_, hchosen.seq_le⟩
      · intro i hi
        exact hblank i (by omega)
      · intro _
        refine ⟨rfl, rfl, (sum.nil 0).symm, ?_⟩
        intro i hi
        have hi : i < slot.bankBytes - headerBytes := hi
        have hrest := hblank (headerBytes + i) (by omega)
        rw [<- Nat.add_assoc] at hrest
        exact hrest
      · exact hchosen.keep.imp_right (And.imp_right (hkept.candidateAt_eq hsized).trans)
      · intro header hheader
        exact hchosen.newer header ((hkept.candidateAt_eq hsized).symm.trans hheader)
    · change (prepared.remember index _).memory = _
      unfold Store.remember
      rw [hmemory]
  · intro sectors
    exact hchanged _ (eraseSectors_other choice.target sectors)
      (eraseSectors_candidate hsized choice.target sectors)
  · exact hchanged _ (erase_other (Nat.le_refl _) choice.target)
      (.inr (erased_candidate hsized choice.target))

theorem openSession_safely (hsized : slot.Sized)
    (hbounded : Bounded store.flash slot history.commits)
    (hcommits : history.commits + 1 < 4294967296)
    (herased : forall bank, (store.memory index).erased = some bank ->
      Blank store.flash (slot.bankOffset bank) slot.bankBytes)
    (hproved : history.last ≠ none -> exists bank payload seq,
      Proved sum store.flash slot bank payload seq ∧ history.Allows payload
        ∧ servedBank (store.memory index).served = some bank) :
    (openSession slot index).Safely (fun after : Store => Survives sum after.flash slot history)
      (fun r after => exists session, r = .ok session
        ∧ Opened sum slot index history store after session) store := by
  refine (reads_candidateBanks store slot).attempt_safely ?_
  refine (reads_snapshot store index).andThen_safely ?_
  have htarget : forall bank, servedBank (store.memory index).served = some bank ->
      (chooseBank (servedBank (store.memory index).served)
        ((candidates store.flash slot).head?.map Prod.fst)).target = 1 - bank := by
    intro bank hserved
    apply chooseBank_keep
    rw [hserved]
    rfl
  apply startSession_safely hsized hbounded herased
  · intro hlast
    rcases hproved hlast with ⟨bank, payload, seq, hprovedBank, hallows, hserved⟩
    exact ⟨bank, payload, seq, hprovedBank, hallows, htarget bank hserved⟩
  · intro hlast
    rcases hproved hlast with ⟨bank, payload, seq, _, _, hserved⟩
    rw [htarget bank hserved, one_sub_one_sub]
    exact hserved
  · exact chosen_newest hbounded hcommits _

theorem remember_self (store : Store) (index : Nat) (change : SlotMemory -> SlotMemory) :
    (store.remember index change).memory index = change (store.memory index) :=
  if_pos rfl

def BeginPost (sum : Checksum) (slot : SlotGeometry) (index : Nat) (session : Option WriteSession)
    (history : History) (r : Except StoreError WriteSession) (after : Store) : Prop :=
  match r with
  | .ok opened => SlotInv sum after.flash (after.memory index) slot index (some opened)
      { history with data := [] }
  | .error _ => SlotInv sum after.flash (after.memory index) slot index session history

theorem Opened.slotInv {before after : Store} {opened : WriteSession}
    (h : Opened sum slot index history before after opened)
    (hwriting : (before.memory index).writing) :
    SlotInv sum after.flash (after.memory index) slot index (some opened)
      { history with data := [] } := by
  have hmemory : after.memory index = { before.memory index with erased := none } := by
    rw [h.memory]
    exact remember_self before index _
  rw [hmemory]
  refine ⟨h.bounded, nofun, ?_, ?_⟩
  · intro s hs
    cases hs
    exact ⟨h.opened, hwriting, rfl⟩
  · intro hlast
    rcases h.beside hlast with ⟨bank, payload, seq, hproved, hallows, htarget⟩
    have hserved := h.served hlast
    rw [htarget, one_sub_one_sub] at hserved
    refine ⟨bank, payload, seq, hproved, hallows, .inr hserved, fun _ => hserved, ?_⟩
    intro s hs
    cases hs
    exact htarget

theorem beginWrite_safely {key : SliceKey} {session : Option WriteSession}
    (hslot : slotGeometry key = some slot) (hindex : slotIndex key = some index)
    (hsized : slot.Sized)
    (h : SlotInv sum store.flash (store.memory index) slot index session history)
    (hloaded : history.loaded) (hcommits : history.commits + 1 < 4294967296) :
    (beginWrite key).Safely (fun after : Store => Survives sum after.flash slot history)
      (BeginPost sum slot index session history) store := by
  have hsurvives := h.survives
  unfold beginWrite
  rw [hslot, hindex]
  refine ⟨hsurvives, fun _ htorn => htorn ▸ hsurvives, ?_⟩
  generalize hclaimed : (storeMachine.exec (.claim index) store).1 = claimed
  have hflash : claimed.flash = store.flash := by
    rw [<- hclaimed]
    rfl
  have hmemory : claimed.memory index = { store.memory index with writing := true } := by
    rw [<- hclaimed]
    exact remember_self store index fun memory => { memory with writing := true }
  have hclaimedSurvives : Survives sum claimed.flash slot history := by
    rw [hflash]
    exact hsurvives
  change Prog.Safely _ (if !(store.memory index).writing then _ else _) _ _
  cases hwriting : (store.memory index).writing with
  | true =>
    have hsame : claimed.memory index = store.memory index := by
      rw [hmemory, <- hwriting]
    refine ⟨hclaimedSurvives, ?_⟩
    change SlotInv sum claimed.flash (claimed.memory index) slot index session history
    rw [hflash, hsame]
    exact h
  | false =>
    apply Prog.Safely.andThen
    have hopen : (openSession slot index).Safely
        (fun after : Store => Survives sum after.flash slot history)
        (fun r after => exists opened, r = .ok opened
          ∧ Opened sum slot index history claimed after opened) claimed := by
      apply openSession_safely hsized
      · exact hflash ▸ h.bounded
      · exact hcommits
      · rw [hmemory, hflash]
        exact h.erased
      · intro hlast
        rcases h.proved hlast with ⟨bank, payload, seq, hproved, hallows, _, hserved, _⟩
        refine ⟨bank, payload, seq, hflash ▸ hproved, hallows, ?_⟩
        rw [hmemory]
        exact hserved hloaded
    apply hopen.mono
    intro r after hr
    rcases hr with ⟨opened, hr, hopened⟩
    subst hr
    refine ⟨hopened.beside.survives hopened.bounded, hopened.slotInv ?_⟩
    rw [hmemory]

/-! ## Appending -/

theorem SlotInv.beside (h : SlotInv sum flash memory slot index (some session) history) :
    ProvedBeside sum flash slot history session.target := by
  intro hlast
  rcases h.proved hlast with ⟨bank, payload, seq, hproved, hallows, _, _, htarget⟩
  exact ⟨bank, payload, seq, hproved, hallows, htarget session rfl⟩

theorem Open.candidate_none (hsized : slot.Sized) (h : Open sum flash slot index session history) :
    candidateAt flash slot session.target = none :=
  candidateAt_of_erased hsized.capacity_lt (h.header 11 (by decide))

/-- The session goes on in a target that is still no candidate. -/
theorem SlotInv.goOn {next : WriteSession} {data : List Byte} (hsized : slot.Sized)
    (h : SlotInv sum flash memory slot index (some session) history)
    (hkept : SameBank flash other slot (1 - session.target))
    (htarget : next.target = session.target)
    (hopen : Open sum other slot index next { history with data := data }) :
    SlotInv sum other memory slot index (some next) { history with data := data } := by
  have hnone := hopen.candidate_none hsized
  rw [htarget] at hnone
  rcases h.opened session rfl with ⟨_, hwriting, herased⟩
  refine ⟨h.bounded.change hsized hkept (.inr hnone), ?_, ?_, ?_⟩
  · intro bank hbank
    cases herased.symm.trans hbank
  · intro s hs
    cases hs
    exact ⟨hopen, hwriting, herased⟩
  · intro hlast
    rcases h.proved hlast with
      ⟨bank, payload, seq, hproved, hallows, hserved, hloaded, hbank⟩
    have hbank := hbank session rfl
    rw [hbank, one_sub_one_sub] at hkept
    refine ⟨bank, payload, seq, ⟨hkept.sound hsized hproved.sound, ?_⟩, hallows, hserved,
      hloaded, ?_⟩
    · rw [<- hbank]
      exact behind_of_none hnone
    · intro s hs
      cases hs
      exact htarget.trans hbank

def appended (flash : Flash) (session : WriteSession) (chunk : List Byte) : Flash :=
  flash.write (session.slot.bankOffset session.target + headerBytes + session.written) chunk

theorem appended_kept (hsized : slot.Sized) (h : Open sum flash slot index session history)
    {chunk : List Byte} (hfits : session.written + chunk.length <= slot.capacity) :
    SameBank flash (appended flash session chunk) slot (1 - session.target)
      ∧ Blank (appended flash session chunk) (slot.bankOffset session.target)
        headerBytes := by
  have hheader := hsized.header_le
  unfold SlotGeometry.capacity at hfits
  unfold appended
  rw [h.slot_eq, Nat.add_assoc]
  constructor
  · exact write_other (by omega) session.target
  · intro i hi
    rw [write_outside (by omega)]
    exact h.header i hi

theorem appended_open (hsized : slot.Sized) (h : Open sum flash slot index session history)
    {chunk : List Byte} (hfailed : session.failed = false)
    (hfits : session.written + chunk.length <= slot.capacity) :
    Open sum (appended flash session chunk) slot index
      { session with
        crc := sum.crc32 session.crc chunk
        written := session.written + chunk.length }
      { history with data := history.data ++ chunk } := by
  rcases appended_kept hsized h hfits with ⟨hkept, hheader⟩
  rcases h.filled hfailed with ⟨hwritten, hpayload, hcrc, hblank⟩
  have hcandidate := hkept.candidateAt_eq hsized
  have hnew : (appended flash session chunk).read
      (slot.bankOffset session.target + headerBytes + session.written) chunk.length
      = chunk := by
    unfold appended
    rw [h.slot_eq]
    apply read_write
    intro i hi
    exact hblank i (by omega)
  have hold : payloadAt (appended flash session chunk) slot session.target
      history.data.length = history.data := by
    refine Eq.trans ?_ hpayload
    unfold payloadAt appended
    rw [h.slot_eq]
    apply read_congr
    intro i hi
    rw [write_outside]
    omega
  refine ⟨h.slot_eq, h.index_eq, hfits, hheader, ?_, ?_, ?_, h.seq_le⟩
  · intro _
    refine ⟨?_, ?_, ?_, ?_⟩
    · rw [length_append, hwritten]
    · unfold payloadAt at hold ⊢
      rw [length_append, read_append, hold, <- hwritten, hnew]
    · rw [sum.append, hcrc]
    · intro i hi
      have hi : i < slot.capacity - (session.written + chunk.length) := hi
      change appended flash session chunk (slot.bankOffset session.target + headerBytes
        + (session.written + chunk.length) + i) = erasedByte
      unfold appended
      rw [h.slot_eq, write_outside (by omega)]
      have hrest := hblank (chunk.length + i) (by omega)
      rw [<- hrest]
      congr 1
      omega
  · exact h.stale.imp_right (And.imp_right hcandidate.trans)
  · intro header hheader
    exact h.newer header (hcandidate.symm.trans hheader)

def AppendPost (sum : Checksum) (slot : SlotGeometry) (index : Nat) (history : History)
    (chunk : List Byte) (r : WriteSession × Except StoreError Unit) (after : Store) : Prop :=
  SlotInv sum after.flash (after.memory index) slot index (some r.1)
    { history with data := match r.2 with
      | .ok () => history.data ++ chunk
      | .error _ => history.data }

theorem append_safely (hsized : slot.Sized)
    (h : SlotInv sum store.flash (store.memory index) slot index (some session) history)
    (chunk : List Byte) :
    (append sum session chunk).Safely (fun after : Store => Survives sum after.flash slot history)
      (AppendPost sum slot index history chunk) store := by
  have hsurvives := h.survives
  rcases h.opened session rfl with ⟨hopen, hwriting, herased⟩
  unfold append
  by_cases hfailed : session.failed = true
  · rw [if_pos hfailed]
    exact ⟨hsurvives, h⟩
  · rw [if_neg hfailed]
    have hfailed := Bool.eq_false_of_not_eq_true hfailed
    by_cases hfits : session.written + chunk.length > session.slot.capacity
    · rw [if_pos hfits]
      refine ⟨hsurvives, ?_⟩
      have hgiven : Open sum store.flash slot index { session with failed := true }
          { history with data := history.data } :=
        ⟨hopen.slot_eq, hopen.index_eq, hopen.written_le, hopen.header,
          nofun, hopen.stale, hopen.newer, hopen.seq_le⟩
      exact h.goOn hsized (fun _ _ => rfl) rfl hgiven
    · rw [if_neg hfits]
      have hfits : session.written + chunk.length <= slot.capacity := by
        rw [<- hopen.slot_eq]
        exact Nat.le_of_not_lt hfits
      have hlost : forall bytes : List Byte, session.written + bytes.length <= slot.capacity ->
          Survives sum (appended store.flash session bytes) slot history := by
        intro bytes hbytes
        rcases appended_kept hsized hopen hbytes with ⟨hkept, hheader⟩
        have hnone : candidateAt (appended store.flash session bytes) slot
            session.target = none :=
          candidateAt_of_erased hsized.capacity_lt (hheader 11 (by decide))
        exact (h.beside.change hsized hkept (.inr hnone)).survives
          (h.bounded.change hsized hkept (.inr hnone))
      refine ⟨hsurvives, ?_, hlost chunk hfits, ?_⟩
      · intro after hafter
        rcases hafter with ⟨k, hafter⟩
        have hlength := length_take_le' k chunk
        rw [hafter]
        exact hlost (chunk.take k) (by omega)
      · exact h.goOn hsized (appended_kept hsized hopen hfits).1 rfl
          (appended_open hsized hopen hfailed hfits)

/-! ## Committing -/

def headed (flash : Flash) (session : WriteSession) (bytes : List Byte) : Flash :=
  flash.write (session.slot.bankOffset session.target) bytes

/-- All bytes of the header stand in the flash. -/
def HeaderStands (flash : Flash) (session : WriteSession) : Prop :=
  flash.read (session.slot.bankOffset session.target) headerBytes = (sessionHeader session).encode

instance (flash : Flash) (session : WriteSession) : Decidable (HeaderStands flash session) :=
  inferInstanceAs (Decidable (_ = _))

theorem headed_byte (h : Open sum flash slot index session history) (k : Nat) {i : Nat}
    (hi : i < headerBytes) :
    (headed flash session ((sessionHeader session).encode.take k))
        (slot.bankOffset session.target + i)
      = if i < k then (sessionHeader session).encode.getD i 0 else erasedByte := by
  have hlength := (sessionHeader session).length_encode
  have hencode : i < (sessionHeader session).encode.length := hlength ▸ hi
  have htake : ((sessionHeader session).encode.take k).length
      = min k (sessionHeader session).encode.length := length_take
  unfold headed
  rw [h.slot_eq]
  by_cases hk : i < k
  · rw [if_pos hk, write_inside (by omega) (by omega) (h.header i hi), Nat.add_sub_cancel_left,
      getD_eq_getElem _ _ (by omega), getElem_take, getD_eq_getElem _ _ hencode]
  · rw [if_neg hk, write_outside (by omega)]
    exact h.header i hi

section

variable (hsized : slot.Sized) (h : Open sum flash slot index session history)
include hsized h

/-- What an interrupted write of the header leaves: the whole header, no candidate, or
one whose checksum is not that of the header. -/
theorem headed_cases (k : Nat) :
    HeaderStands (headed flash session ((sessionHeader session).encode.take k)) session
      ∨ candidateAt (headed flash session ((sessionHeader session).encode.take k)) slot
        session.target = none
      ∨ exists crc, crc ≠ session.crc
        ∧ candidateAt (headed flash session ((sessionHeader session).encode.take k)) slot
          session.target = some { sessionHeader session with crc := crc } := by
  have hbytes := fun i => headed_byte h k (i := i)
  generalize headed flash session ((sessionHeader session).encode.take k) = after at hbytes
  by_cases hk : k < 12
  · right
    left
    apply candidateAt_of_erased hsized.capacity_lt
    rw [hbytes 11 (by decide), if_neg (by omega)]
  · have hfirst : forall i, i < 12 ->
        (after.read (slot.bankOffset session.target) headerBytes).getD i 0
          = (sessionHeader session).encode.getD i 0 := by
      intro i hi
      have hheader : i < headerBytes := by
        unfold headerBytes
        omega
      rw [getD_read hheader, hbytes i hheader, if_pos (by omega)]
    have hdecode := BankHeader.decode_of_twelve hfirst
    by_cases hcrc : BankHeader.word
        (after.read (slot.bankOffset session.target) headerBytes) 12 = session.crc
    · left
      unfold HeaderStands
      rw [h.slot_eq]
      exact BankHeader.eq_encode_of_crc (length_read _ _ _) hfirst hcrc
    · right
      right
      refine ⟨_, hcrc, ?_⟩
      have hlen := toNat_length hsized h.written_le
      unfold candidateAt headerAt
      rw [hdecode]
      exact if_pos (hlen ▸ h.written_le)

theorem headed_kept {bytes : List Byte} (hbytes : bytes.length <= headerBytes) :
    SameBank flash (headed flash session bytes) slot (1 - session.target)
      ∧ forall len, payloadAt (headed flash session bytes) slot session.target len
        = payloadAt flash slot session.target len := by
  have hheader := hsized.header_le
  unfold headed
  rw [h.slot_eq]
  constructor
  · have hother : SameBank flash (flash.write (slot.bankOffset session.target + 0) bytes)
        slot (1 - session.target) := write_other (by omega) session.target
    exact hother
  · intro len
    apply read_congr
    intro i _
    apply write_outside
    omega

/-- Under its whole header the bank holds what was appended. -/
theorem stands_sound (hfailed : session.failed = false)
    (hstands : HeaderStands other session) (hpayload : forall len, len <= slot.capacity ->
      payloadAt other slot session.target len = payloadAt flash slot session.target len) :
    Sound sum other slot session.target history.data session.seq := by
  rcases h.filled hfailed with ⟨hwritten, hdata, hcrc, _⟩
  have hlen := toNat_length hsized h.written_le
  have hle : history.data.length <= slot.capacity := hwritten ▸ h.written_le
  refine ⟨?_, (hpayload _ hle).trans hdata, hle⟩
  unfold HeaderStands at hstands
  rw [h.slot_eq] at hstands
  unfold candidateAt headerAt
  rw [hstands, BankHeader.decode_encode]
  refine (if_pos (hlen ▸ h.written_le)).trans ?_
  unfold sessionHeader
  rw [hwritten, hcrc]

end

namespace History

def afterCommit (history : History) : Except StoreError Unit -> History
  | .ok () => { history with
      commits := history.commits + 1
      last := some history.data
      landed := [] }
  | .error _ => { history with commits := history.commits + 1 }

/-- A commit that was cut off counts if its header stands. -/
def lostCommit (history : History) (stands : Prop) [Decidable stands] : History :=
  { history with
    commits := history.commits + 1
    landed := if stands then history.landed ++ [history.data] else history.landed }

end History

theorem Bounded.mono {more : Nat} (h : Bounded flash slot commits) (hle : commits <= more) :
    Bounded flash slot more :=
  fun bank header hheader => Nat.le_trans (h bank header hheader) hle

/-- The whole header stands over what was appended, and the old bank is as it was or
no candidate any more. -/
structure Standing (flash after : Flash) (slot : SlotGeometry) (session : WriteSession) :
    Prop where
  stands : HeaderStands after session
  payload : forall len, len <= slot.capacity ->
    payloadAt after slot session.target len = payloadAt flash slot session.target len
  old : SameBank flash after slot (1 - session.target)
    ∨ candidateAt after slot (1 - session.target) = none

section

variable (hsized : slot.Sized) (hstanding : Standing flash other slot session)
  (h : SlotInv sum flash memory slot index (some session) history)
  (hfailed : session.failed = false)
include hsized hstanding h hfailed

theorem Standing.proved :
    Proved sum other slot session.target history.data session.seq
      ∧ Bounded other slot (history.commits + 1) := by
  have hopen := (h.opened session rfl).1
  have hsound := stands_sound hsized hopen hfailed hstanding.stands hstanding.payload
  constructor
  · refine ⟨hsound, ?_⟩
    rcases hstanding.old with hsame | hnone
    · intro header hheader
      rw [hsame.candidateAt_eq hsized] at hheader
      exact .inl (hopen.newer header hheader)
    · exact behind_of_none hnone
  · intro bank header hheader
    by_cases hbank : bank = session.target
    · subst hbank
      rw [hsound.candidate] at hheader
      cases hheader
      exact hopen.seq_le
    · rw [bank_ne_iff.mp hbank] at hheader
      rcases hstanding.old with hsame | hnone
      · rw [hsame.candidateAt_eq hsized] at hheader
        exact Nat.le_succ_of_le (h.bounded _ header hheader)
      · rw [hnone] at hheader
        cases hheader

/-- What survives if the power is lost with the whole header written. -/
theorem Standing.survives :
    Survives sum other slot (history.lostCommit (HeaderStands other session)) := by
  rcases hstanding.proved hsized h hfailed with ⟨hproved, hbounded⟩
  refine ⟨hbounded, fun _ => ⟨_, _, _, hproved, ?_⟩⟩
  intro last _
  right
  change history.data ∈ if HeaderStands other session then _ else _
  rw [if_pos hstanding.stands]
  exact mem_append_right _ mem_cons_self

end

theorem Standing.erasing {mid after : Flash} (hsized : slot.Sized) (hslot : session.slot = slot)
    (h : Standing flash mid slot session) (hsame : SameBank mid after slot session.target)
    (hold : SameBank mid after slot (1 - session.target)
      ∨ candidateAt after slot (1 - session.target) = none) :
    Standing flash after slot session := by
  have hheader := hsized.header_le
  constructor
  · have hstands := h.stands
    unfold HeaderStands at hstands ⊢
    rw [hslot] at hstands ⊢
    rw [read_congr fun i hi => hsame i (by omega)]
    exact hstands
  · intro len hlen
    rw [hsame.payloadAt_eq hlen, h.payload len hlen]
  · rcases hold with hold | hold
    · rcases h.old with hkept | hnone
      · exact .inl fun i hi => (hold i hi).trans (hkept i hi)
      · exact .inr ((hold.candidateAt_eq hsized).trans hnone)
    · exact .inr hold

theorem History.Allows.mono {more : History} {payload : List Byte} (h : history.Allows payload)
    (hlast : more.last = history.last)
    (hlanded : forall p, p ∈ history.landed -> p ∈ more.landed) : more.Allows payload := by
  intro last hmore
  rcases h last (hlast.symm.trans hmore) with heq | hmem
  · exact .inl heq
  · exact .inr (hlanded payload hmem)

theorem mem_lostCommit {stands : Prop} [Decidable stands] {payload : List Byte}
    (h : payload ∈ history.landed) : payload ∈ (history.lostCommit stands).landed := by
  unfold History.lostCommit
  simp only
  split
  · exact mem_append_left _ h
  · exact h

/-- What survives a header that was written in part. -/
theorem headed_survives (hsized : slot.Sized)
    (h : SlotInv sum flash memory slot index (some session) history)
    (hfailed : session.failed = false) (k : Nat) :
    Survives sum (headed flash session ((sessionHeader session).encode.take k)) slot
      (history.lostCommit (HeaderStands
        (headed flash session ((sessionHeader session).encode.take k)) session)) := by
  have hopen := (h.opened session rfl).1
  have hlength : ((sessionHeader session).encode.take k).length <= headerBytes := by
    have htake := length_take_le' k (sessionHeader session).encode
    rwa [(sessionHeader session).length_encode] at htake
  rcases headed_kept hsized hopen hlength with ⟨hkept, hpayload⟩
  rcases headed_cases hsized hopen k with hstands | hnone | ⟨crc, hcrc, hcandidate⟩
  · have hstanding : Standing flash _ slot session :=
      ⟨hstands, fun len _ => hpayload len, .inl hkept⟩
    exact hstanding.survives hsized h hfailed
  · refine ⟨(h.bounded.change hsized hkept (.inr hnone)).mono (Nat.le_succ _), ?_⟩
    intro hlast
    rcases h.beside.change hsized hkept (.inr hnone) hlast with
      ⟨bank, payload, seq, hproved, hallows, _⟩
    exact ⟨bank, payload, seq, hproved, hallows.mono rfl fun _ => mem_lostCommit⟩
  · generalize headed flash session ((sessionHeader session).encode.take k) = after
      at hkept hpayload hcandidate
    rcases hopen.filled hfailed with ⟨hwritten, hdata, hsum, _⟩
    have hlen := toNat_length hsized hopen.written_le
    constructor
    · intro bank header hheader
      by_cases hbank : bank = session.target
      · subst hbank
        rw [hcandidate] at hheader
        cases hheader
        exact hopen.seq_le
      · rw [bank_ne_iff.mp hbank, hkept.candidateAt_eq hsized] at hheader
        exact Nat.le_succ_of_le (h.bounded _ header hheader)
    · intro hlast
      rcases h.beside hlast with ⟨bank, payload, seq, hproved, hallows, htarget⟩
      have hbank : 1 - session.target = bank := by
        rw [htarget, one_sub_one_sub]
      rw [hbank] at hkept
      refine ⟨bank, payload, seq, ⟨hkept.sound hsized hproved.sound, ?_⟩,
        hallows.mono rfl fun _ => mem_lostCommit⟩
      rw [<- htarget]
      intro header hheader
      rw [hcandidate] at hheader
      cases hheader
      right
      constructor
      · have hcandidate := hproved.sound.candidate
        rw [<- hbank] at hcandidate
        exact hopen.newer _ hcandidate
      · change sum.crc32 0 (payloadAt after slot session.target
          (BitVec.ofNat 32 session.written).toNat) ≠ crc
        rw [hlen, hpayload, hwritten, hdata, <- hsum]
        exact hcrc.symm

theorem Survives.lostCommit (h : Survives sum flash slot history) (stands : Prop)
    [Decidable stands] : Survives sum flash slot (history.lostCommit stands) := by
  refine ⟨h.bounded.mono (Nat.le_succ _), fun hlast => ?_⟩
  rcases h.proved hlast with ⟨bank, payload, seq, hproved, hallows⟩
  exact ⟨bank, payload, seq, hproved, hallows.mono rfl fun _ => mem_lostCommit⟩

theorem release_memory (store : Store) (index : Nat) :
    (store.exec (.release index)).1.memory index = { store.memory index with writing := false } :=
  remember_self store index fun memory => { memory with writing := false }

theorem SlotInv.release {more : History} {session : Option WriteSession}
    (h : SlotInv sum store.flash (store.memory index) slot index session history)
    (hcommits : history.commits <= more.commits) (hlast : more.last = history.last)
    (hlanded : more.landed = history.landed) (hloaded : more.loaded = history.loaded) :
    SlotInv sum store.flash ((store.exec (.release index)).1.memory index) slot index none
      more := by
  rw [release_memory]
  refine ⟨h.bounded.mono hcommits, h.erased, nofun, ?_⟩
  intro hmore
  rcases h.proved (hlast ▸ hmore) with
    ⟨bank, payload, seq, hproved, hallows, hserved, hread, _⟩
  refine ⟨bank, payload, seq, hproved, ?_, hserved, ?_, nofun⟩
  · exact hallows.mono hlast fun _ hmem => hlanded ▸ hmem
  · exact fun hmore => hread (hloaded ▸ hmore)

theorem abort_safely
    (h : SlotInv sum store.flash (store.memory index) slot index (some session) history) :
    (abort session).Safely (fun after : Store => Survives sum after.flash slot history)
      (fun _ after => SlotInv sum after.flash (after.memory index) slot index none history)
      store := by
  have hopen := (h.opened session rfl).1
  have hsurvives := h.survives
  refine ⟨hsurvives, fun _ htorn => htorn ▸ hsurvives, hsurvives, ?_⟩
  rw [hopen.index_eq]
  exact h.release (Nat.le_refl _) rfl rfl rfl

theorem headed_standing (hsized : slot.Sized) (h : Open sum flash slot index session history) :
    Standing flash (headed flash session (sessionHeader session).encode) slot session := by
  have hlength := (sessionHeader session).length_encode
  rcases headed_kept hsized h (Nat.le_of_eq hlength) with ⟨hkept, hpayload⟩
  refine ⟨?_, fun len _ => hpayload len, .inl hkept⟩
  unfold HeaderStands headed
  apply read_write
  intro i hi
  rw [h.slot_eq]
  exact h.header i (hlength ▸ hi)

def CommitPost (sum : Checksum) (slot : SlotGeometry) (index : Nat) (history : History)
    (r : Except StoreError Unit) (after : Store) : Prop :=
  SlotInv sum after.flash (after.memory index) slot index none (history.afterCommit r)

/-- The states of the flash from the header on. -/
def CommitLost (sum : Checksum) (slot : SlotGeometry) (session : WriteSession) (history : History)
    (after : Store) : Prop :=
  Survives sum after.flash slot (history.lostCommit (HeaderStands after.flash session))

section

variable (hsized : slot.Sized) (h : SlotInv sum flash memory slot index (some session) history)
  (hfailed : session.failed = false) (hstanding : Standing flash store.flash slot session)
include hsized h hfailed hstanding

/-- The end of a commit, once the flash is as it will stay. -/
theorem release_commit (herased : forall bank, (store.memory index).erased = some bank ->
      Blank store.flash (slot.bankOffset bank) slot.bankBytes)
    (hserved : servedBank (store.memory index).served = some session.target) :
    ((perform (.release index)).andThen fun _ => Prog.done (.ok ())).Safely
      (CommitLost sum slot session history) (CommitPost sum slot index history) store := by
  rcases hstanding.proved hsized h hfailed with ⟨hproved, hbounded⟩
  have hlost : CommitLost sum slot session history store :=
    hstanding.survives hsized h hfailed
  refine ⟨hlost, fun _ htorn => htorn ▸ hlost, hlost, ?_⟩
  change SlotInv sum store.flash ((store.exec (.release index)).1.memory index) _ _ _ _
  rw [release_memory]
  refine ⟨hbounded, herased, nofun, fun _ => ?_⟩
  refine ⟨session.target, history.data, session.seq, hproved, ?_, .inr hserved,
    fun _ => hserved, nofun⟩
  intro last hlast
  exact .inl (Option.some.inj hlast)

theorem erase_commit (hserved : servedBank (store.memory index).served = some session.target) :
    ((perform (.erase (slot.bankOffset (1 - session.target)) slot.bankBytes)).andThen fun
        | .ok () => perform (.setErased index (some (1 - session.target)))
        | .error _ => Prog.done ()).andThen
      (fun _ => (perform (.release index)).andThen fun _ => Prog.done (.ok ()))
    |>.Safely (CommitLost sum slot session history) (CommitPost sum slot index history)
      store := by
  have hslot := (h.opened session rfl).1.slot_eq
  have htarget : forall after : Flash, SameBank store.flash after slot (1 - (1 - session.target)) ->
      SameBank store.flash after slot session.target := by
    intro after hsame
    rwa [one_sub_one_sub] at hsame
  have herased : Standing flash
      (store.flash.erase (slot.bankOffset (1 - session.target)) slot.bankBytes) slot
      session :=
    hstanding.erasing hsized hslot (htarget _ (erase_other (Nat.le_refl _) (1 - session.target)))
      (.inr (erased_candidate hsized (1 - session.target)))
  have hlost := herased.survives hsized h hfailed
  refine ⟨hstanding.survives hsized h hfailed, ?_, hlost, fun _ htorn => htorn ▸ hlost, ?_⟩
  · intro after hafter
    rcases hafter with ⟨sectors, hafter⟩
    have htorn := hstanding.erasing hsized hslot
      (htarget _ (eraseSectors_other (1 - session.target) sectors))
      (eraseSectors_candidate hsized (1 - session.target) sectors)
    rw [hafter]
    exact htorn.survives hsized h hfailed
  · generalize hmarked : (storeMachine.exec (.setErased index (some (1 - session.target)))
      (storeMachine.exec (.erase (slot.bankOffset (1 - session.target)) slot.bankBytes)
        store).1).1 = marked
    have hmemory : marked.memory index = { store.memory index with
        erased := some (1 - session.target) } := by
      rw [<- hmarked]
      exact remember_self _ index fun memory =>
        { memory with erased := some (1 - session.target) }
    have hflash : marked.flash
        = store.flash.erase (slot.bankOffset (1 - session.target)) slot.bankBytes := by
      rw [<- hmarked]
      rfl
    apply release_commit hsized h hfailed
    · rw [hflash]
      exact herased
    · intro bank hbank
      rw [hmemory] at hbank
      cases hbank
      rw [hflash]
      intro i hi
      exact erase_inside (Nat.le_add_right _ _) (by omega)
    · rw [hmemory]
      exact hserved

end

theorem commit_safely (hsized : slot.Sized)
    (h : SlotInv sum store.flash (store.memory index) slot index (some session) history) :
    (commit session).Safely (CommitLost sum slot session history)
      (CommitPost sum slot index history) store := by
  rcases h.opened session rfl with ⟨hopen, _, hnotErased⟩
  have hsurvives : CommitLost sum slot session history store :=
    h.survives.lostCommit _
  unfold commit
  by_cases hfailed : session.failed = true
  · rw [if_pos hfailed]
    refine ⟨hsurvives, fun _ htorn => htorn ▸ hsurvives, hsurvives, ?_⟩
    rw [hopen.index_eq]
    exact h.release (Nat.le_succ _) rfl rfl rfl
  · rw [if_neg hfailed]
    have hfailed := Bool.eq_false_of_not_eq_true hfailed
    have hstanding := headed_standing hsized hopen
    have hlost := hstanding.survives hsized h hfailed
    refine ⟨hsurvives, ?_, hlost, fun _ htorn => htorn ▸ hlost, ?_⟩
    · intro after hafter
      rcases hafter with ⟨k, hafter⟩
      rw [hafter]
      exact headed_survives hsized h hfailed k
    · generalize hcommitted : (storeMachine.exec
          (.committed session.index session.target) (storeMachine.exec
            (.write (session.slot.bankOffset session.target)
              (sessionHeader session).encode) store).1).1 = committed
      have hmemory : committed.memory index = { store.memory index with
          served := servedCommitted (store.memory index).served session.target } := by
        rw [<- hcommitted, hopen.index_eq]
        exact remember_self _ index fun memory =>
          { memory with served := servedCommitted memory.served session.target }
      have hflash : committed.flash
          = headed store.flash session (sessionHeader session).encode := by
        rw [<- hcommitted]
        rfl
      have hserved : servedBank (committed.memory index).served
          = some session.target := by
        rw [hmemory]
        exact servedBank_committed _ _
      rw [<- hflash] at hstanding
      rcases hopen.stale with hstale | ⟨hstale, _⟩
      · have herase := erase_commit hsized h hfailed hstanding hserved
        unfold eraseStale
        rw [hstale, hopen.index_eq, hopen.slot_eq]
        exact herase
      · unfold eraseStale
        rw [hstale, hopen.index_eq]
        apply release_commit hsized h hfailed hstanding _ hserved
        intro bank hbank
        rw [hmemory] at hbank
        cases hnotErased.symm.trans hbank

end Oxidali.Storage
