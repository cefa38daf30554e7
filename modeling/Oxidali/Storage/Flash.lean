import Oxidali.Lib.Device
import Oxidali.Storage.Layout

/-!
# NOR flash and the header of a bank

A write can only clear bits and an erase sets whole sectors to ones.  An
interrupted write has programmed some first bytes, an interrupted erase has cleared
some first sectors.  A header whose length was not programmed in full reads as one
that is too long for any bank.
-/

namespace Oxidali.Storage

open Words List BitVec

abbrev Flash := Nat -> Byte

def erasedByte : Byte := 0xFF#8

namespace Flash

variable (flash : Flash)

def read (offset len : Nat) : List Byte :=
  (range len).map fun i => flash (offset + i)

def write (offset : Nat) (bytes : List Byte) : Flash := fun at_ =>
  if offset <= at_ ∧ at_ < offset + bytes.length then
    flash at_ &&& bytes.getD (at_ - offset) erasedByte
  else flash at_

def erase (flash : Flash) (offset len : Nat) : Flash := fun at_ =>
  if offset <= at_ ∧ at_ < offset + len then erasedByte else flash at_

/-- An erase that was interrupted after some sectors. -/
def eraseSectors (offset len sectors : Nat) : Flash :=
  flash.erase offset (min (sectors * sectorBytes) len)

variable {flash other : Flash} {offset at_ len : Nat} {bytes : List Byte}

theorem length_read (flash : Flash) (offset len : Nat) : (flash.read offset len).length = len := by
  simp [read]

theorem getD_read {i : Nat} (h : i < len) (fallback : Byte) :
    (flash.read offset len).getD i fallback = flash (offset + i) := by
  simp [read, getD, h]

theorem read_congr (h : forall i, i < len -> other (offset + i) = flash (offset + i)) :
    other.read offset len = flash.read offset len := by
  apply map_congr_left
  intro i hi
  exact h i (mem_range.mp hi)

theorem read_append (flash : Flash) (offset a b : Nat) :
    flash.read offset (a + b) = flash.read offset a ++ flash.read (offset + a) b := by
  unfold read
  rw [range_add, map_append, List.map_map]
  simp [Function.comp_def, Nat.add_assoc]

theorem write_outside (h : at_ < offset ∨ offset + bytes.length <= at_) :
    flash.write offset bytes at_ = flash at_ := by
  unfold write
  rw [if_neg (by omega)]

theorem write_inside (hlow : offset <= at_) (hhigh : at_ < offset + bytes.length)
    (herased : flash at_ = erasedByte) :
    flash.write offset bytes at_ = bytes.getD (at_ - offset) erasedByte := by
  unfold write
  rw [if_pos ⟨hlow, hhigh⟩, herased]
  exact allOnes_and

theorem erase_outside (h : at_ < offset ∨ offset + len <= at_) :
    flash.erase offset len at_ = flash at_ := by
  unfold erase
  rw [if_neg (by omega)]

theorem erase_inside (hlow : offset <= at_) (hhigh : at_ < offset + len) :
    flash.erase offset len at_ = erasedByte := by
  unfold erase
  rw [if_pos ⟨hlow, hhigh⟩]

theorem read_write (herased : forall i, i < bytes.length -> flash (offset + i) = erasedByte) :
    (flash.write offset bytes).read offset bytes.length = bytes := by
  apply ext_getElem (length_read _ _ _)
  intro i hi hbytes
  have hvalue : flash.write offset bytes (offset + i)
      = bytes.getD (offset + i - offset) erasedByte :=
    write_inside (Nat.le_add_right offset i) (by omega) (herased i hbytes)
  simp only [read, getElem_map, getElem_range]
  rw [hvalue, Nat.add_sub_cancel_left, getD_eq_getElem _ _ hbytes]

end Flash

/-! ## Words in little-endian order -/

def leWord (a b c d : Byte) : BitVec 32 :=
  BitVec.ofNat 32 (a.toNat + 256 * b.toNat + 65536 * c.toNat + 16777216 * d.toNat)

def leBytes (word : BitVec 32) : List Byte :=
  [BitVec.ofNat 8 word.toNat, BitVec.ofNat 8 (word.toNat / 256),
    BitVec.ofNat 8 (word.toNat / 65536), BitVec.ofNat 8 (word.toNat / 16777216)]

theorem toNat_leWord (a b c d : Byte) : (leWord a b c d).toNat
    = a.toNat + 256 * b.toNat + 65536 * c.toNat + 16777216 * d.toNat := by
  unfold leWord
  rw [toNat_ofNat]
  omega

theorem leWord_injective {a b c d e f g h : Byte} (heq : leWord a b c d = leWord e f g h) :
    a = e ∧ b = f ∧ c = g ∧ d = h := by
  have hsum := congrArg BitVec.toNat heq
  rw [toNat_leWord, toNat_leWord] at hsum
  refine ⟨eq_of_toNat_eq ?_, eq_of_toNat_eq ?_, eq_of_toNat_eq ?_, eq_of_toNat_eq ?_⟩ <;> omega

theorem leWord_leBytes (word : BitVec 32) :
    leWord (BitVec.ofNat 8 word.toNat) (BitVec.ofNat 8 (word.toNat / 256))
      (BitVec.ofNat 8 (word.toNat / 65536)) (BitVec.ofNat 8 (word.toNat / 16777216)) = word := by
  apply eq_of_toNat_eq
  rw [toNat_leWord]
  simp only [toNat_ofNat]
  omega

/-! ## The header of a bank -/

def bankMagic : BitVec 32 := 0x44534C31#32

structure BankHeader where
  seq : BitVec 32
  len : BitVec 32
  crc : BitVec 32

namespace BankHeader

def word (raw : List Byte) (i : Nat) : BitVec 32 :=
  leWord (raw.getD i 0) (raw.getD (i + 1) 0) (raw.getD (i + 2) 0) (raw.getD (i + 3) 0)

def decode (raw : List Byte) : Option BankHeader :=
  if word raw 0 = bankMagic then
    some {
      seq := word raw 4
      len := word raw 8
      crc := word raw 12 }
  else none

variable (header : BankHeader)

def encode : List Byte :=
  leBytes bankMagic ++ leBytes header.seq ++ leBytes header.len ++ leBytes header.crc

theorem length_encode : header.encode.length = headerBytes :=
  rfl

theorem word_encode :
    word header.encode 0 = bankMagic ∧ word header.encode 4 = header.seq
      ∧ word header.encode 8 = header.len ∧ word header.encode 12 = header.crc :=
  ⟨leWord_leBytes bankMagic, leWord_leBytes header.seq, leWord_leBytes header.len,
    leWord_leBytes header.crc⟩

variable {raw : List Byte}

theorem word_congr {other : List Byte} {i : Nat}
    (h : forall k, i <= k -> k < i + 4 -> raw.getD k 0 = other.getD k 0) :
    word raw i = word other i := by
  unfold word
  rw [h i (by omega) (by omega), h (i + 1) (by omega) (by omega),
    h (i + 2) (by omega) (by omega), h (i + 3) (by omega) (by omega)]

theorem decode_encode (header : BankHeader) : decode header.encode = some header := by
  rcases header.word_encode with ⟨hmagic, hseq, hlen, hcrc⟩
  unfold decode
  rw [if_pos hmagic, hseq, hlen, hcrc]

variable {header : BankHeader}

theorem decode_of_twelve (h : forall i, i < 12 -> raw.getD i 0 = header.encode.getD i 0) :
    decode raw = some { header with crc := word raw 12 } := by
  rcases header.word_encode with ⟨hmagic, hseq, hlen, _⟩
  have hword : forall i, i <= 8 -> word raw i = word header.encode i := by
    intro i hi
    apply word_congr
    intro k _ hk
    exact h k (by omega)
  unfold decode
  rw [hword 0 (by omega), hword 4 (by omega), hword 8 (by omega), hmagic, hseq, hlen, if_pos rfl]

/-- With its checksum the header stands in full. -/
theorem eq_encode_of_crc (hlength : raw.length = headerBytes)
    (h : forall i, i < 12 -> raw.getD i 0 = header.encode.getD i 0)
    (hcrc : word raw 12 = header.crc) : raw = header.encode := by
  have hwords : word raw 12 = word header.encode 12 :=
    hcrc.trans header.word_encode.2.2.2.symm
  rcases leWord_injective hwords with ⟨h12, h13, h14, h15⟩
  have hall : forall i, i < headerBytes -> raw.getD i 0 = header.encode.getD i 0 := by
    intro i hi
    by_cases hlow : i < 12
    · exact h i hlow
    · have hcases : i = 12 ∨ i = 13 ∨ i = 14 ∨ i = 15 := by
        unfold headerBytes at hi
        omega
      rcases hcases with heq | heq | heq | heq
      · exact heq ▸ h12
      · exact heq ▸ h13
      · exact heq ▸ h14
      · exact heq ▸ h15
  apply ext_getElem (hlength.trans header.length_encode.symm)
  intro i hraw hencode
  have hi := hall i (hlength ▸ hraw)
  rwa [getD_eq_getElem _ _ hraw, getD_eq_getElem _ _ hencode] at hi

theorem len_of_erased (h : decode raw = some header) (herased : raw.getD 11 0 = erasedByte) :
    0xFF000000 <= header.len.toNat := by
  unfold decode at h
  split at h
  · cases h
    simp only [word]
    rw [toNat_leWord, herased]
    change _ <= _ + 16777216 * 255
    omega
  · cases h

end BankHeader

end Oxidali.Storage
