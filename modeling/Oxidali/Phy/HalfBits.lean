import Oxidali.Lib.Words

/-!
# Half-bit buffers

The transmit buffer of the bit-banged physical layer.  A frame is a start pair,
one pair for each data bit and two stop pairs; a half-bit that is set drives the
line low.
-/

namespace Oxidali.Phy

open Words

def startPair : Byte := 0b10

def onePair : Byte := 0b10

def zeroPair : Byte := 0b01

def stopPair : Byte := 0b00

def pairTopShift : Nat := 6

structure HalfBitBuffer where
  data : Vector Byte 9
  length : Nat

namespace HalfBitBuffer

def maxDataHalfBits : Nat := 72

def empty : HalfBitBuffer :=
  { data := Vector.replicate 9 0, length := 0 }

def pushPair (buffer : HalfBitBuffer) (pair : Byte) : HalfBitBuffer :=
  let shift := wrappingSub u8Max pairTopShift (buffer.length % 8)
  { data :=
      match buffer.data[buffer.length / 8]? with
      | some byte =>
        buffer.data.setIfInBounds (buffer.length / 8) (byte ||| pair <<< shift)
      | none => buffer.data
    length := saturatingAdd u8Max buffer.length 2 }

def dataPair (one : Bool) : Byte :=
  if one then onePair else zeroPair

-- The source counts `remaining` down; a shift past the word reads as zero.
def pushBits (data : BitVec 32) : Nat -> HalfBitBuffer -> HalfBitBuffer
  | 0, buffer => buffer
  | remaining + 1, buffer =>
    let one := (data >>> remaining) &&& 1#32 != 0#32
    pushBits data remaining (buffer.pushPair (dataPair one))

def encode (data : BitVec 32) (bitCount : Nat) : HalfBitBuffer :=
  let started := empty.pushPair startPair
  ((pushBits data bitCount started).pushPair stopPair).pushPair stopPair

/-- The half-bit at an index, read with the mask the transmitter uses. -/
def halfBit (buffer : HalfBitBuffer) (index : Nat) : Bool :=
  match buffer.data[index / 8]? with
  | some byte => byte &&& (0x80#8 >>> (index % 8)) != 0#8
  | none => false

/-!
## The half-bits of an encoded frame

`Holds` says that the buffer is exactly a list of half-bits: every pushed pair
lands behind the ones already there, and nothing behind the end is set.
-/

def pairBits (pair : Byte) : List Bool := [pair.getLsbD 1, pair.getLsbD 0]

structure Holds (buffer : HalfBitBuffer) (halfBits : List Bool) : Prop where
  length_eq : buffer.length = halfBits.length
  even : halfBits.length % 2 = 0
  halfBit_eq : forall index, buffer.halfBit index = halfBits.getD index false

theorem holds_empty : Holds empty [] := by
  refine ⟨rfl, rfl, ?_⟩
  intro index
  simp only [halfBit, empty, Vector.getElem?_replicate]
  by_cases h : index / 8 < 9
  · simp [h]
  · simp [h]

private theorem mask_eq_getLsbD (byte : Byte) {index : Nat} (h : index < 8) :
    (byte &&& (0x80#8 >>> index) != 0#8) = byte.getLsbD (7 - index) := by
  interval_cases index <;> revert byte <;> decide +kernel

variable (buffer : HalfBitBuffer)

theorem halfBit_eq_getLsbD (index : Nat) :
    buffer.halfBit index = ((buffer.data[index / 8]?).getD 0#8).getLsbD (7 - index % 8) := by
  have hlt : index % 8 < 8 := Nat.mod_lt _ (by decide)
  unfold halfBit
  cases buffer.data[index / 8]? with
  | none => simp
  | some byte => simpa using mask_eq_getLsbD byte hlt

private theorem pushPair_getElem? (pair : Byte) (hlen : buffer.length < 72) (place : Nat) :
    ((buffer.pushPair pair).data[place]?).getD 0#8 =
      if buffer.length / 8 = place then
        (buffer.data[place]?).getD 0#8 |||
          pair <<< wrappingSub u8Max pairTopShift (buffer.length % 8)
      else (buffer.data[place]?).getD 0#8 := by
  have hplace : buffer.length / 8 < 9 := by omega
  simp only [pushPair, Vector.getElem?_eq_getElem hplace,
    Vector.getElem?_setIfInBounds, hplace, if_true]
  by_cases h : buffer.length / 8 = place
  · subst h
    simp [Vector.getElem?_eq_getElem hplace]
  · simp [h]

theorem halfBit_pushPair {pair : Byte} (hpair : pair.toNat < 4) (hlen : buffer.length < 72)
    (heven : buffer.length % 2 = 0) (index : Nat) :
    (buffer.pushPair pair).halfBit index =
      (buffer.halfBit index ||
        (index == buffer.length && pair.getLsbD 1 ||
          index == buffer.length + 1 && pair.getLsbD 0)) := by
  have hhigh : forall k, 2 <= k -> pair.getLsbD k = false := by
    intro k hk
    exact Nat.testBit_lt_two_pow (Nat.lt_of_lt_of_le hpair (Nat.pow_le_pow_right Nat.two_pos hk))
  rw [halfBit_eq_getLsbD, halfBit_eq_getLsbD, pushPair_getElem? _ _ hlen]
  have hshift : wrappingSub u8Max pairTopShift (buffer.length % 8) =
      6 - buffer.length % 8 :=
    wrappingSub_of_le (by simp only [pairTopShift]; omega)
  rw [hshift]
  -- Inside the touched byte the pair occupies the two places below the end.
  by_cases hplace : buffer.length / 8 = index / 8
  · rw [if_pos hplace, BitVec.getLsbD_or, BitVec.getLsbD_shiftLeft]
    congr 1
    have hin : 7 - index % 8 < 8 := by omega
    by_cases hfirst : index = buffer.length
    · have hbit : 7 - index % 8 - (6 - buffer.length % 8) = 1 := by omega
      have hge : ¬ 7 - index % 8 < 6 - buffer.length % 8 := by omega
      have hsecond : index ≠ buffer.length + 1 := by omega
      rw [hbit, beq_iff_eq.mpr hfirst, beq_false_of_ne hsecond]
      simp [hge, hin]
    · by_cases hsecond : index = buffer.length + 1
      · have hbit : 7 - index % 8 - (6 - buffer.length % 8) = 0 := by omega
        have hge : ¬ 7 - index % 8 < 6 - buffer.length % 8 := by omega
        rw [hbit, beq_iff_eq.mpr hsecond, beq_false_of_ne hfirst]
        simp [hge, hin]
      · rcases Nat.lt_or_ge index buffer.length with hlt | hge
        · have hbit := hhigh (7 - index % 8 - (6 - buffer.length % 8)) (by omega)
          simp [hbit, hfirst, hsecond]
        · have hlow : 7 - index % 8 < 6 - buffer.length % 8 := by omega
          simp [hlow, hfirst, hsecond]
  · have hfirst : index ≠ buffer.length := by
      intro h
      exact hplace (by rw [h])
    have hsecond : index ≠ buffer.length + 1 := by omega
    simp [hplace, hfirst, hsecond]

theorem pushPair_holds {buffer : HalfBitBuffer} {halfBits : List Bool} {pair : Byte}
    (h : buffer.Holds halfBits) (hpair : pair.toNat < 4)
    (hroom : halfBits.length < 72) : (buffer.pushPair pair).Holds (halfBits ++ pairBits pair) := by
  have hlen := h.length_eq
  have heven := h.even
  constructor
  · rw [List.length_append, <- hlen]
    exact saturatingAdd_of_le (by simp [u8Max]; omega)
  · simp [pairBits]
    omega
  · intro index
    rw [halfBit_pushPair buffer hpair (by omega) (by omega), h.halfBit_eq, hlen]
    rcases Nat.lt_or_ge index halfBits.length with hlt | hge
    · have hfirst : (index == halfBits.length) = false := by simp; omega
      have hsecond : (index == halfBits.length + 1) = false := by simp; omega
      rw [List.getD_append _ _ _ _ hlt, hfirst, hsecond]
      simp
    · obtain ⟨k, rfl⟩ := Nat.exists_eq_add_of_le hge
      match k with
      | 0 | 1 | k + 2 => simp [pairBits]

end HalfBitBuffer

open List

/-- The two half-bits of a data bit: a one falls first, a zero rises first. -/
def bitHalves (one : Bool) : List Bool := [one, !one]

variable (bits : List Bool)

/-- Start pair, one pair for each data bit, two stop pairs. -/
def frameHalfBits : List Bool :=
  [true, false] ++ bits.flatMap bitHalves ++ replicate 4 false

@[simp] theorem length_flatMap_bitHalves : (bits.flatMap bitHalves).length = 2 * bits.length := by
  induction bits with
  | nil => rfl
  | cons one bits ih =>
    simp only [flatMap_cons, length_append, ih, bitHalves, length_cons, length_nil]
    omega

@[simp] theorem length_frameHalfBits : (frameHalfBits bits).length = 2 * bits.length + 6 := by
  simp only [frameHalfBits, length_append, length_flatMap_bitHalves,
    length_cons, length_nil, length_replicate]
  omega

namespace HalfBitBuffer

theorem pairBits_dataPair (one : Bool) : pairBits (dataPair one) = bitHalves one := by
  cases one <;> rfl

variable (data : BitVec 32)

private theorem shifted_bit_eq_testBit (place : Nat) :
    ((data >>> place) &&& 1#32 != 0#32) = data.toNat.testBit place := by
  have hand : ((data >>> place) &&& 1#32).toNat = data.toNat >>> place % 2 := by
    simp [Nat.and_one_is_mod]
  rw [Nat.testBit, Nat.one_and_eq_mod_two, bne, bne, <- hand]
  congr 1
  rw [Bool.eq_iff_iff, beq_iff_eq, beq_iff_eq, <- BitVec.toNat_inj]
  rfl

theorem pushBits_holds (remaining : Nat) {buffer : HalfBitBuffer} {halfBits : List Bool}
    (h : buffer.Holds halfBits) (hroom : halfBits.length + 2 * remaining <= 72) :
    (pushBits data remaining buffer).Holds
      (halfBits ++ (bitsOf data.toNat remaining).flatMap bitHalves) := by
  induction remaining generalizing buffer halfBits with
  | zero => simpa [pushBits, bitsOf] using h
  | succ remaining ih =>
    have hsmall : forall one, (dataPair one).toNat < 4 := by decide
    have hpushed := pushPair_holds h (hsmall (data.toNat.testBit remaining)) (by omega)
    rw [pairBits_dataPair] at hpushed
    have hrest := ih hpushed (by simp [bitHalves]; omega)
    simpa [pushBits, bitsOf, shifted_bit_eq_testBit, append_assoc] using hrest

theorem encode_holds {bitCount : Nat} (hroom : bitCount <= 33) :
    (encode data bitCount).Holds (frameHalfBits (bitsOf data.toNat bitCount)) := by
  have hstartPair : startPair.toNat < 4 := by decide
  have hstopPair : stopPair.toNat < 4 := by decide
  have hstart := pushPair_holds holds_empty hstartPair (by decide)
  have hbits := pushBits_holds data bitCount hstart (by simp [pairBits]; omega)
  have hstop := pushPair_holds hbits hstopPair (by simp [pairBits, -length_flatMap]; omega)
  have hframe := pushPair_holds hstop hstopPair (by simp [pairBits, -length_flatMap]; omega)
  simpa [encode, frameHalfBits, pairBits, startPair, stopPair, replicate, append_assoc] using hframe

end HalfBitBuffer

end Oxidali.Phy
