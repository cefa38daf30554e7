import Mathlib

/-!
# Fixed-width counters and most-significant-bit-first words

Counters of a machine are natural numbers here, with the saturation or the wrap
of their width written out.  Words are lists of bits, most significant bit
first, because that is the order in which serial hardware shifts them.
-/

namespace Oxidali.Words

abbrev Byte := BitVec 8

def u8Max : Nat := 255

def u16Max : Nat := 65535

def u32Max : Nat := 4294967295

variable (limit a b : Nat)

/-- Addition that sticks at the largest value of the width. -/
def saturatingAdd : Nat := min (a + b) limit

/-- Addition that wraps at the largest value of the width. -/
def wrappingAdd : Nat := (a + b) % (limit + 1)

/-- Subtraction of two values of a width that wraps at its largest value. -/
def wrappingSub : Nat :=
  if b <= a then a - b else a + (limit + 1) - b

/-- The signed sixteen-bit value a computation leaves. -/
def wrapI16 (value : Int) : Int := value.bmod 65536

theorem wrapI16_of_small {value : Int} (hlow : -32768 <= value)
    (hhigh : value < 32768) : wrapI16 value = value := by
  unfold wrapI16
  exact Int.bmod_eq_of_le (by omega) (by omega)

variable {limit a b : Nat}

theorem saturatingAdd_of_le (h : a + b <= limit) : saturatingAdd limit a b = a + b := by
  simp [saturatingAdd, h]

theorem wrappingSub_of_le (h : b <= a) : wrappingSub limit a b = a - b := by
  simp [wrappingSub, h]

theorem wrappingAdd_of_le (h : a + b <= limit) : wrappingAdd limit a b = a + b :=
  Nat.mod_eq_of_lt (Nat.lt_succ_of_le h)

/-!
## Bits of a number
-/

/-- The low `width` bits of a number, most significant bit first. -/
def bitsOf (value : Nat) : Nat -> List Bool
  | 0 => []
  | width + 1 => value.testBit width :: bitsOf value width

@[simp] theorem length_bitsOf (value width : Nat) : (bitsOf value width).length = width := by
  induction width with
  | zero => rfl
  | succ width ih => simp [bitsOf, ih]

/-- The number a word stands for. -/
def valueOf (bits : List Bool) : Nat :=
  bits.foldl (fun acc bit => 2 * acc + bit.toNat) 0

theorem foldl_bitsOf (value width acc : Nat) :
    (bitsOf value width).foldl (fun acc bit => 2 * acc + bit.toNat) acc =
      acc * 2 ^ width + value % 2 ^ width := by
  induction width generalizing acc with
  | zero => simp [bitsOf, Nat.mod_one]
  | succ width ih =>
    simp only [bitsOf, List.foldl_cons, ih]
    rw [Nat.mod_pow_succ, Nat.toNat_testBit, Nat.pow_succ]
    ring

theorem valueOf_bitsOf (value width : Nat) : valueOf (bitsOf value width) = value % 2 ^ width := by
  simp [valueOf, foldl_bitsOf]

theorem bitsOf_add (value low high : Nat) :
    bitsOf value (low + high) = bitsOf (value >>> low) high ++ bitsOf value low := by
  induction high with
  | zero => rfl
  | succ high ih =>
    rw [<- Nat.add_assoc, bitsOf, ih, bitsOf, Nat.testBit_shiftRight]
    rfl

end Oxidali.Words
