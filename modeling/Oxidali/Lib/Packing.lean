import Oxidali.Lib.Words

/-!
# Packing a serial stream into bytes

Bits that arrive one at a time are shifted into a byte, and every eighth one
completes it.  What was in the byte before has left it by then, so the packed
bytes are a function of the stream alone.
-/

namespace Oxidali.Words

open List BitVec

def shiftIn (byte : Byte) (bit : Bool) : Byte :=
  (byte <<< 1) ||| (ofBool bit).setWidth 8

def packByte (bits : List Bool) : Byte := bits.foldl shiftIn 0#8

variable (bits : List Bool)

theorem foldl_shiftIn (byte : Byte) :
    bits.foldl shiftIn byte = byte <<< bits.length ||| packByte bits := by
  induction bits generalizing byte with
  | nil => simp [packByte]
  | cons bit bits ih =>
    simp only [packByte, foldl_cons, length_cons]
    rw [ih (shiftIn byte bit), ih (shiftIn 0#8 bit)]
    simp only [shiftIn, shiftLeft_or_distrib, zero_shiftLeft, zero_or, <- shiftLeft_add,
      Nat.add_comm 1, BitVec.or_assoc]

theorem foldl_shiftIn_eight {bits : List Bool} (h : bits.length = 8)
    (byte : Byte) : bits.foldl shiftIn byte = packByte bits := by
  rw [foldl_shiftIn, h, shiftLeft_eq_zero (Nat.le_refl 8), zero_or]

/-- Packed bytes and the bits of the byte that is being filled. -/
abbrev Packed := List Byte × List Bool

variable (packed : Packed)

def packStep (bit : Bool) : Packed :=
  if packed.2.length = 7
  then (packed.1 ++ [packByte (packed.2 ++ [bit])], [])
  else (packed.1, packed.2 ++ [bit])

theorem length_packStep (bit : Bool) : (packStep packed bit).1.length <= packed.1.length + 1 := by
  unfold packStep
  split <;> simp

theorem length_foldl_packStep :
    (bits.foldl packStep packed).1.length <= packed.1.length + bits.length := by
  induction bits generalizing packed with
  | nil => rfl
  | cons bit bits ih =>
    have hstep := length_packStep packed bit
    have hrest := ih (packStep packed bit)
    rw [length_cons, foldl_cons]
    omega

/-- How many bytes a stream has filled, and how many bits are left over. -/
theorem length_foldl_packStep_eq :
    (bits.foldl packStep ([], [])).1.length = bits.length / 8 ∧
      (bits.foldl packStep ([], [])).2.length = bits.length % 8 := by
  induction bits using reverseRecOn with
  | nil => exact ⟨rfl, rfl⟩
  | append_singleton bits bit ih =>
    rw [foldl_append, foldl_cons, foldl_nil, packStep, ih.2, length_append, length_singleton]
    by_cases hfull : bits.length % 8 = 7
    · rw [if_pos hfull]
      simp only [length_append, length_singleton, length_nil, ih.1]
      omega
    · rw [if_neg hfull]
      simp only [length_append, length_singleton, ih.1, ih.2]
      omega

theorem foldl_packStep_eight {bits : List Bool} (h : bits.length = 8) (bytes : List Byte) :
    bits.foldl packStep (bytes, []) = (bytes ++ [packByte bits], []) := by
  match bits, h with
  | [_, _, _, _, _, _, _, _], _ => simp [packStep]

theorem getLsbD_shiftIn (byte : Byte) (bit : Bool) {i : Nat} (hi : i < 8) :
    (shiftIn byte bit).getLsbD i = if i = 0 then bit else byte.getLsbD (i - 1) := by
  rcases i with _ | i
  · cases bit <;> simp [shiftIn]
  · simp only [shiftIn, getLsbD_or, getLsbD_shiftLeft, getLsbD_setWidth, getLsbD_ofBool]
    simp [hi]

/-- The bit that arrived last is the lowest one. -/
theorem getLsbD_packByte {i : Nat} (hi : i < 8) :
    (packByte bits).getLsbD i = bits.reverse.getD i false := by
  induction bits using reverseRecOn generalizing i with
  | nil => simp [packByte]
  | append_singleton bits bit ih =>
    have hpack : packByte (bits ++ [bit]) = shiftIn (packByte bits) bit := by
      rw [packByte, foldl_append]
      rfl
    rw [hpack, getLsbD_shiftIn _ _ hi, List.reverse_append]
    rcases i with _ | i
    · simp
    · simpa using ih (show i < 8 by omega)

/-!
## The value of packed bytes
-/

theorem toNat_shiftIn (byte : Byte) (bit : Bool) :
    (shiftIn byte bit).toNat = (2 * byte.toNat + bit.toNat) % 256 := by
  revert byte bit
  decide +kernel

theorem toNat_foldl_shiftIn (byte : Byte) :
    (bits.foldl shiftIn byte).toNat =
      bits.foldl (fun acc bit => 2 * acc + bit.toNat) byte.toNat % 256 := by
  have hmod : forall (bits : List Bool) (acc : Nat),
      bits.foldl (fun acc bit => 2 * acc + bit.toNat) (acc % 256) % 256 =
        bits.foldl (fun acc bit => 2 * acc + bit.toNat) acc % 256 := by
    intro bits
    induction bits with
    | nil => simp
    | cons bit bits ih =>
      intro acc
      rw [foldl_cons, foldl_cons, <- ih, <- ih (2 * acc + bit.toNat)]
      congr 2
      omega
  induction bits generalizing byte with
  | nil => simp [Nat.mod_eq_of_lt byte.isLt]
  | cons bit bits ih =>
    rw [foldl_cons, foldl_cons, ih, toNat_shiftIn, hmod]

theorem packByte_bitsOf (value : Nat) : packByte (bitsOf value 8) = BitVec.ofNat 8 value := by
  apply eq_of_toNat_eq
  rw [packByte, toNat_foldl_shiftIn]
  have hvalue := valueOf_bitsOf value 8
  rw [valueOf] at hvalue
  simp [hvalue]

/-- The low bytes of a number, most significant byte first. -/
def bytesOf (value : Nat) : Nat -> List Byte
  | 0 => []
  | count + 1 => BitVec.ofNat 8 (value >>> (8 * count)) :: bytesOf value count

theorem foldl_packStep_bitsOf (value count : Nat) (bytes : List Byte) :
    (bitsOf value (8 * count)).foldl packStep (bytes, []) = (bytes ++ bytesOf value count, []) := by
  induction count generalizing bytes with
  | zero => simp [bitsOf, bytesOf]
  | succ count ih =>
    rw [Nat.mul_succ, bitsOf_add, foldl_append, foldl_packStep_eight (length_bitsOf _ _),
      packByte_bitsOf, ih, bytesOf, List.append_assoc, singleton_append]

end Oxidali.Words
