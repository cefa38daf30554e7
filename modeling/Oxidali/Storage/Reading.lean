import Oxidali.Storage.SliceStore

/-!
# Reading a slot

The parts of the calls that only read are given by their result.
-/

namespace Oxidali.Storage

open Words Device List

variable {value result : Type} {store : Store}

/-- The program only reads, and returns `v`. -/
def Reads (prog : StoreProg value) (store : Store) (v : value) : Prop :=
  forall lost : Store -> Prop, lost store ->
    prog.Safely lost (fun r after => r = v ∧ after = store) store

namespace Reads

theorem done (v : value) : Reads (.done v) store v :=
  fun _ hlost => ⟨hlost, rfl, rfl⟩

theorem andThen_safely {prog : StoreProg value} {v : value} {next : value -> StoreProg result}
    {lost : Store -> Prop} {final : result -> Store -> Prop} (h : Reads prog store v)
    (hnext : (next v).Safely lost final store) : (prog.andThen next).Safely lost final store := by
  apply Prog.Safely.andThen
  apply (h lost hnext.lost_here).mono
  intro r after hr
  rw [hr.1, hr.2]
  exact hnext

variable {next : value -> StoreProg (Except StoreError result)}
  {prog : StoreProg (Except StoreError value)}

theorem attempt_safely {v : value} {lost : Store -> Prop}
    {final : Except StoreError result -> Store -> Prop} (h : Reads prog store (.ok v))
    (hnext : (next v).Safely lost final store) : (prog.attempt next).Safely lost final store :=
  h.andThen_safely hnext

theorem attempt {v : value} {w : Except StoreError result} (h : Reads prog store (.ok v))
    (hnext : Reads (next v) store w) : Reads (prog.attempt next) store w :=
  fun lost hlost => h.attempt_safely (hnext lost hlost)

end Reads

variable (store)

theorem reads_read (offset len : Nat) :
    Reads (perform (.read offset len)) store (.ok (store.flash.read offset len)) :=
  fun _ hlost => ⟨hlost, fun _ htorn => htorn ▸ hlost, hlost, rfl, rfl⟩

theorem reads_snapshot (index : Nat) :
    Reads (perform (.snapshot index)) store (store.memory index).served :=
  fun _ hlost => ⟨hlost, fun _ htorn => htorn ▸ hlost, hlost, rfl, rfl⟩

theorem reads_erased (index : Nat) :
    Reads (perform (.erased index)) store (store.memory index).erased :=
  fun _ hlost => ⟨hlost, fun _ htorn => htorn ▸ hlost, hlost, rfl, rfl⟩

theorem reads_chunks (offset : Nat) (sizes : List Nat) :
    Reads (readChunks offset sizes) store (.ok (store.flash.read offset sizes.sum)) := by
  induction sizes generalizing offset with
  | nil => exact Reads.done _
  | cons size rest ih =>
    rw [sum_cons, Flash.read_append]
    exact (reads_read store offset size).attempt ((ih (offset + size)).attempt (Reads.done _))

variable {store}

theorem chunkSizes_sum (chunk len : Nat) : (chunkSizes chunk len).sum = len := by
  have hsplit := Nat.div_add_mod len chunk
  unfold chunkSizes
  rw [sum_append, sum_replicate_nat, Nat.mul_comm]
  split
  · rename_i hzero
    rw [hzero] at hsplit
    exact hsplit
  · exact hsplit

def payloadAt (flash : Flash) (slot : SlotGeometry) (bank : Bank) (len : Nat) : List Byte :=
  flash.read (slot.bankOffset bank + headerBytes) len

theorem reads_payload (store : Store) (slot : SlotGeometry) (bank : Bank) (len : Nat) :
    Reads (readChunks (slot.bankOffset bank + headerBytes) (chunkSizes ioChunkBytes len))
      store (.ok (payloadAt store.flash slot bank len)) := by
  have hchunks := reads_chunks store (slot.bankOffset bank + headerBytes)
    (chunkSizes ioChunkBytes len)
  rw [chunkSizes_sum] at hchunks
  exact hchunks

/-! ## Headers -/

variable (flash : Flash) (slot : SlotGeometry)

def headerAt (bank : Bank) : Option BankHeader :=
  BankHeader.decode (flash.read (slot.bankOffset bank) headerBytes)

/-- The header of a bank that `load` will try. -/
def candidateAt (bank : Bank) : Option BankHeader :=
  match headerAt flash slot bank with
  | some header => if header.len.toNat <= slot.capacity then some header else none
  | none => none

theorem candidate_eq (bank : Bank) :
    candidate slot bank (headerAt flash slot bank)
      = ((candidateAt flash slot bank).map fun header => (bank, header)).toList := by
  unfold candidate candidateAt
  cases headerAt flash slot bank with
  | none => rfl
  | some header =>
    by_cases hlen : header.len.toNat <= slot.capacity
    · simp only [if_pos hlen, if_neg (Nat.not_lt.mpr hlen)]
      rfl
    · simp only [if_neg hlen, if_pos (Nat.lt_of_not_le hlen)]
      rfl

def candidates : List (Bank × BankHeader) :=
  newestFirst (((candidateAt flash slot 0).map fun header => (0, header)).toList
    ++ ((candidateAt flash slot 1).map fun header => (1, header)).toList)

theorem reads_header (store : Store) (slot : SlotGeometry) (bank : Bank) :
    Reads (header slot bank) store (.ok (headerAt store.flash slot bank)) :=
  (reads_read store _ _).attempt (Reads.done _)

theorem reads_candidateBanks (store : Store) (slot : SlotGeometry) :
    Reads (candidateBanks slot) store (.ok (candidates store.flash slot)) := by
  unfold candidates
  rw [<- candidate_eq, <- candidate_eq]
  exact (reads_header store slot 0).attempt ((reads_header store slot 1).attempt (Reads.done _))

variable {flash : Flash}

theorem mem_candidates {slot : SlotGeometry} {bank : Bank} {header : BankHeader} :
    (bank, header) ∈ candidates flash slot <-> candidateAt flash slot bank = some header := by
  unfold candidates newestFirst
  rw [mem_insertionSort, mem_append]
  simp only [Option.mem_toList, Option.map_eq_some_iff, Prod.mk.injEq]
  constructor
  · intro h
    rcases h with ⟨found, hfound, hbank, hheader⟩ | ⟨found, hfound, hbank, hheader⟩
    · subst hbank hheader
      exact hfound
    · subst hbank hheader
      exact hfound
  · intro h
    match bank with
    | 0 => exact .inl ⟨header, h, rfl, rfl⟩
    | 1 => exact .inr ⟨header, h, rfl, rfl⟩

theorem candidates_sorted (flash : Flash) (slot : SlotGeometry) :
    (candidates flash slot).Pairwise fun a b => b.2.seq.toNat <= a.2.seq.toNat := by
  exact pairwise_insertionSort _ _

/-! ## Erased banks -/

def Blank (flash : Flash) (offset len : Nat) : Prop :=
  forall i, i < len -> flash (offset + i) = erasedByte

theorem blank_append {offset a b : Nat} (hfirst : Blank flash offset a)
    (hsecond : Blank flash (offset + a) b) : Blank flash offset (a + b) := by
  intro i hi
  by_cases h : i < a
  · exact hfirst i h
  · have hrest := hsecond (i - a) (by omega)
    rwa [Nat.add_assoc, Nat.add_sub_cancel' (Nat.le_of_not_lt h)] at hrest

theorem blank_of_read {offset len : Nat}
    (h : ¬ (flash.read offset len).any (fun byte => decide (byte ≠ erasedByte))) :
    Blank flash offset len := by
  intro i hi
  simp only [Flash.read, any_map, any_eq_true, mem_range,
    Function.comp_apply, decide_eq_true_eq, not_exists, not_and, not_not] at h
  exact h i hi

theorem reads_isErased (store : Store) (offset : Nat) (sizes : List Nat) :
    exists blank, Reads (isErased offset sizes) store (.ok blank)
      ∧ (blank -> Blank store.flash offset sizes.sum) := by
  induction sizes generalizing offset with
  | nil => exact ⟨true, Reads.done _, fun _ i hi => absurd hi (Nat.not_lt_zero i)⟩
  | cons size rest ih =>
    by_cases hany : (store.flash.read offset size).any
        (fun byte => decide (byte ≠ erasedByte)) = true
    · refine ⟨false, (reads_read store offset size).attempt ?_, nofun⟩
      rw [if_pos hany]
      exact Reads.done _
    · rcases ih (offset + size) with ⟨blank, hreads, hblank⟩
      refine ⟨blank, (reads_read store offset size).attempt ?_, ?_⟩
      · rw [if_neg hany]
        exact hreads
      · intro h
        exact blank_append (blank_of_read hany) (hblank h)

theorem candidateAt_of_erased {slot : SlotGeometry} {bank : Bank}
    (hcapacity : slot.capacity < 0xFF000000) (h : flash (slot.bankOffset bank + 11) = erasedByte) :
    candidateAt flash slot bank = none := by
  unfold candidateAt
  cases hheader : headerAt flash slot bank with
  | none => rfl
  | some header =>
    have hraw : (flash.read (slot.bankOffset bank) headerBytes).getD 11 0 = erasedByte := by
      exact h
    have hlen := BankHeader.len_of_erased hheader hraw
    exact if_neg (by omega)

end Oxidali.Storage
