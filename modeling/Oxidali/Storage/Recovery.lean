import Oxidali.Storage.Reading

/-!
# Slices survive the loss of power

The header is the last thing that a commit writes and the old bank is erased after
it, so that one bank can be read at every moment.  A session starts only when the
bank to keep has been read, because a torn header may carry the highest number.
-/

namespace Oxidali.Storage

open Words Device List

/-! ## Banks that can be read -/

/-- Banks that fit the length of a header. -/
structure SlotGeometry.Sized (slot : SlotGeometry) : Prop where
  header_le : headerBytes <= slot.bankBytes
  le_large : slot.bankBytes <= 32768

theorem slotAt_sized (index : Nat) : (slotAt index).Sized := by
  rcases slotAt_bankBytes index with h | h
  · constructor
    · rw [h]
      decide
    · exact Nat.le_of_eq h
  · constructor
    · rw [h]
      decide
    · rw [h]
      decide

theorem SlotGeometry.Sized.capacity_lt {slot : SlotGeometry} (h : slot.Sized) :
    slot.capacity < 0xFF000000 := by
  have hlarge := h.le_large
  unfold SlotGeometry.capacity
  omega

/-- A bank that holds the payload under a header of that number. -/
structure Sound (sum : Checksum) (flash : Flash) (slot : SlotGeometry) (bank : Bank)
    (payload : List Byte) (seq : BitVec 32) : Prop where
  candidate : candidateAt flash slot bank = some {
    seq := seq
    len := BitVec.ofNat 32 payload.length
    crc := sum.crc32 0 payload }
  holds : payloadAt flash slot bank payload.length = payload
  length_le : payload.length <= slot.capacity

/-- The other bank is no candidate, or an older one, or one that does not check. -/
def Behind (sum : Checksum) (flash : Flash) (slot : SlotGeometry) (bank : Bank)
    (seq : BitVec 32) : Prop :=
  forall header, candidateAt flash slot bank = some header -> header.seq.toNat < seq.toNat
      ∨ (seq.toNat < header.seq.toNat
        ∧ sum.crc32 0 (payloadAt flash slot bank header.len.toNat) ≠ header.crc)

/-- The payload that `load` returns. -/
structure Proved (sum : Checksum) (flash : Flash) (slot : SlotGeometry) (bank : Bank)
    (payload : List Byte) (seq : BitVec 32) : Prop where
  sound : Sound sum flash slot bank payload seq
  behind : Behind sum flash slot (1 - bank) seq

variable {sum : Checksum} {store : Store} {slot : SlotGeometry} {index : Nat}

theorem bank_ne_iff {bank other : Bank} : other ≠ bank <-> other = 1 - bank := by
  revert bank other
  decide

theorem toNat_length {slot : SlotGeometry} (hsized : slot.Sized) {len : Nat}
    (h : len <= slot.capacity) : (BitVec.ofNat 32 len).toNat = len := by
  have hcapacity := hsized.capacity_lt
  exact Nat.mod_eq_of_lt (by omega)

/-- The memory after a bank was read, if no commit came in between. -/
def servedAfter (store : Store) (index : Nat) (seen : BitVec 32) (bank : Bank) : Store :=
  (store.exec (.readUnlessMoved index seen bank)).1

variable {lost : Store -> Prop} {seq : BitVec 32} {payload : List Byte} {seen : BitVec 32}
variable {post : Except StoreError (List Byte) -> Store -> Prop}

theorem tryBanks_mismatch {bank : Bank} {header : BankHeader} {lastErr : StoreError}
    {rest : List (Bank × BankHeader)}
    (hcrc : sum.crc32 0 (payloadAt store.flash slot bank header.len.toNat) ≠ header.crc)
    (h : (tryBanks sum slot index seen lastErr rest).Safely lost post store) :
    (tryBanks sum slot index seen lastErr ((bank, header) :: rest)).Safely lost post
      store := by
  refine (reads_payload store slot bank header.len.toNat).andThen_safely ?_
  simp only [hcrc, ne_eq, not_false_eq_true, if_true]
  exact h

/-- The candidates of a slot with a bank that can be read: whatever comes first does
not check. -/
theorem candidates_proved {bank : Bank} (h : Proved sum store.flash slot bank payload seq) :
    exists before rest, candidates store.flash slot = before ++ (bank, {
        seq := seq
        len := BitVec.ofNat 32 payload.length
        crc := sum.crc32 0 payload }) :: rest
      ∧ forall other header, (other, header) ∈ before ->
        candidateAt store.flash slot other = some header
          ∧ sum.crc32 0 (payloadAt store.flash slot other header.len.toNat) ≠ header.crc := by
  have hmem := mem_candidates.mpr h.sound.candidate
  rcases eq_append_cons_of_mem hmem with ⟨before, rest, hsplit, hfirst⟩
  refine ⟨before, rest, hsplit, ?_⟩
  intro other header hbefore
  have hall : (other, header) ∈ candidates store.flash slot := by
    rw [hsplit]
    exact mem_append_left _ hbefore
  have hcandidate := mem_candidates.mp hall
  refine ⟨hcandidate, ?_⟩
  have hsorted := candidates_sorted store.flash slot
  rw [hsplit] at hsorted
  have hle := (pairwise_append.mp hsorted).2.2 _ hbefore _ mem_cons_self
  have hother : other = 1 - bank := by
    rw [<- bank_ne_iff]
    intro heq
    subst heq
    rw [h.sound.candidate] at hcandidate
    cases hcandidate
    exact hfirst hbefore
  subst hother
  rcases h.behind header hcandidate with hlt | hnewer
  · exact absurd hle (Nat.not_le.mpr hlt)
  · exact hnewer.2

theorem tryBanks_passes {lastErr : StoreError} {before rest : List (Bank × BankHeader)}
    (hbefore : forall other header, (other, header) ∈ before ->
      sum.crc32 0 (payloadAt store.flash slot other header.len.toNat) ≠ header.crc)
    (h : (tryBanks sum slot index seen lastErr rest).Safely lost post store) :
    (tryBanks sum slot index seen lastErr (before ++ rest)).Safely lost post store := by
  induction before with
  | nil => exact h
  | cons first before ih =>
    rcases first with ⟨other, header⟩
    apply tryBanks_mismatch (hbefore other header mem_cons_self)
    exact ih fun other header hmem => hbefore other header (mem_cons_of_mem _ hmem)

/-- Whatever the banks hold, trying them only remembers one of them. -/
theorem tryBanks_flash (hlost : forall after : Store, after.flash = store.flash -> lost after)
    (seen : BitVec 32) (lastErr : StoreError) (found : List (Bank × BankHeader)) :
    (tryBanks sum slot index seen lastErr found).Safely lost
      (fun _ after => after = store
        ∨ exists bank, after = servedAfter store index seen bank) store := by
  induction found with
  | nil => exact ⟨hlost store rfl, .inl rfl⟩
  | cons first rest ih =>
    rcases first with ⟨bank, header⟩
    by_cases hcrc : sum.crc32 0 (payloadAt store.flash slot bank header.len.toNat) = header.crc
    · refine (reads_payload store slot bank header.len.toNat).andThen_safely ?_
      simp only [hcrc, ne_eq, not_true_eq_false, if_false]
      exact ⟨hlost store rfl, fun _ htorn => htorn ▸ hlost store rfl,
        hlost (servedAfter store index seen bank) rfl, .inr ⟨bank, rfl⟩⟩
    · exact tryBanks_mismatch hcrc ih

section

variable {key : SliceKey} (hslot : slotGeometry key = some slot)
  (hindex : slotIndex key = some index)
include hslot hindex

theorem load_flash (hlost : forall after : Store, after.flash = store.flash -> lost after) :
    (load sum key).Safely lost
      (fun _ after => after = store
        ∨ exists bank, after = servedAfter store index (store.memory index).served bank)
      store := by
  unfold load
  rw [hslot, hindex]
  refine (reads_snapshot store index).andThen_safely ?_
  refine (reads_candidateBanks store slot).attempt_safely ?_
  exact tryBanks_flash hlost _ _ _

theorem load_proved (hsized : slot.Sized) {bank : Bank}
    (h : Proved sum store.flash slot bank payload seq) :
    (load sum key).run store
      = (servedAfter store index (store.memory index).served bank, .ok payload) := by
  rcases candidates_proved h with ⟨before, rest, hsplit, hbefore⟩
  have hsafe : (load sum key).Safely (fun _ => True)
      (fun r after => r = .ok payload
        ∧ after = servedAfter store index (store.memory index).served bank) store := by
    unfold load
    rw [hslot, hindex]
    refine (reads_snapshot store index).andThen_safely ?_
    refine (reads_candidateBanks store slot).attempt_safely ?_
    rw [hsplit]
    apply tryBanks_passes fun other header hmem => (hbefore other header hmem).2
    have hlen := toNat_length hsized h.sound.length_le
    unfold tryBanks
    rw [hlen]
    refine (reads_payload store slot bank payload.length).andThen_safely ?_
    simp only [h.sound.holds, ne_eq, not_true_eq_false, if_false]
    exact ⟨trivial, fun _ htorn => htorn ▸ trivial, trivial, rfl, rfl⟩
  exact Prod.ext hsafe.run.2 hsafe.run.1

end

/-! ## What changes in one bank -/

variable {flash other : Flash} {bank : Bank}

def SameBank (flash other : Flash) (slot : SlotGeometry) (bank : Bank) : Prop :=
  forall i, i < slot.bankBytes ->
    other (slot.bankOffset bank + i) = flash (slot.bankOffset bank + i)

namespace SameBank

theorem headerAt_eq (hsized : slot.Sized) (h : SameBank flash other slot bank) :
    headerAt other slot bank = headerAt flash slot bank := by
  have hheader := hsized.header_le
  unfold headerAt
  rw [Flash.read_congr fun i hi => h i (by omega)]

theorem candidateAt_eq (hsized : slot.Sized) (h : SameBank flash other slot bank) :
    candidateAt other slot bank = candidateAt flash slot bank := by
  unfold candidateAt
  rw [h.headerAt_eq hsized]

theorem payloadAt_eq (h : SameBank flash other slot bank) {len : Nat}
    (hlen : len <= slot.capacity) :
    payloadAt other slot bank len = payloadAt flash slot bank len := by
  unfold SlotGeometry.capacity at hlen
  apply Flash.read_congr
  intro i hi
  rw [Nat.add_assoc]
  exact h (headerBytes + i) (by omega)

theorem sound (hsized : slot.Sized) (h : SameBank flash other slot bank)
    (hsound : Sound sum flash slot bank payload seq) : Sound sum other slot bank payload seq :=
  ⟨(h.candidateAt_eq hsized).trans hsound.candidate,
    (h.payloadAt_eq hsound.length_le).trans hsound.holds, hsound.length_le⟩

end SameBank

theorem candidateAt_len_le {header : BankHeader} (h : candidateAt flash slot bank = some header) :
    header.len.toNat <= slot.capacity := by
  unfold candidateAt at h
  split at h
  · split at h
    · rename_i hle
      cases h
      exact hle
    · cases h
  · cases h

theorem SameBank.behind (hsized : slot.Sized) (h : SameBank flash other slot bank)
    (hbehind : Behind sum flash slot bank seq) : Behind sum other slot bank seq := by
  intro header hheader
  rw [h.candidateAt_eq hsized] at hheader
  rw [h.payloadAt_eq (candidateAt_len_le hheader)]
  exact hbehind header hheader

theorem behind_of_none (h : candidateAt flash slot bank = none) :
    Behind sum flash slot bank seq := by
  intro header hheader
  rw [h] at hheader
  cases hheader

theorem other_outside {i : Nat} (hi : i < slot.bankBytes) (bank : Bank) :
    slot.bankOffset (1 - bank) + i < slot.bankOffset bank
      ∨ slot.bankOffset bank + slot.bankBytes <= slot.bankOffset (1 - bank) + i := by
  match bank with
  | 0 =>
    right
    change slot.offset + 0 * slot.bankBytes + slot.bankBytes <= slot.offset + 1 * slot.bankBytes + i
    omega
  | 1 =>
    left
    change slot.offset + 0 * slot.bankBytes + i < slot.offset + 1 * slot.bankBytes
    omega

theorem erase_other {len : Nat} (hlen : len <= slot.bankBytes) (bank : Bank) :
    SameBank flash (flash.erase (slot.bankOffset bank) len) slot (1 - bank) := by
  intro i hi
  apply Flash.erase_outside
  have hout := other_outside hi bank
  omega

theorem write_other {start : Nat} {bytes : List Byte} (h : start + bytes.length <= slot.bankBytes)
    (bank : Bank) :
    SameBank flash (flash.write (slot.bankOffset bank + start) bytes) slot (1 - bank) := by
  intro i hi
  apply Flash.write_outside
  have hout := other_outside hi bank
  omega

theorem erased_candidate (hsized : slot.Sized) (bank : Bank) :
    candidateAt (flash.erase (slot.bankOffset bank) slot.bankBytes) slot bank = none := by
  have hheader := hsized.header_le
  apply candidateAt_of_erased hsized.capacity_lt
  unfold headerBytes at hheader
  exact Flash.erase_inside (by omega) (by omega)

/-- An interrupted erase leaves the bank as it was or takes its header first. -/
theorem eraseSectors_candidate (hsized : slot.Sized) (bank : Bank) (sectors : Nat) :
    SameBank flash (flash.eraseSectors (slot.bankOffset bank) slot.bankBytes sectors) slot bank
      ∨ candidateAt (flash.eraseSectors (slot.bankOffset bank) slot.bankBytes sectors)
        slot bank = none := by
  have hheader := hsized.header_le
  unfold headerBytes at hheader
  cases sectors with
  | zero =>
    left
    intro i _
    apply Flash.erase_outside
    simp
  | succ sectors =>
    right
    apply candidateAt_of_erased hsized.capacity_lt
    apply Flash.erase_inside (by omega)
    unfold sectorBytes
    omega

theorem eraseSectors_other (bank : Bank) (sectors : Nat) :
    SameBank flash (flash.eraseSectors (slot.bankOffset bank) slot.bankBytes sectors)
      slot (1 - bank) :=
  erase_other (Nat.min_le_right _ _) bank

end Oxidali.Storage
