import Oxidali.Phy.Fsm

/-!
# Decoding a sniffed capture

A completed capture becomes a frame by its decoded length alone: 8, 16 and 24
bits are the three frames of the bus, any other length is unsupported.
-/

namespace Oxidali.Codec

open Words Phy BitVec

inductive SniffedFrame where
  | forward16 (raw : BitVec 16)
  | backward8 (raw : Byte)
  | forward24 (raw : Vector Byte 3)
  | unsupportedLength (length : Nat)
  | decodeFailed

structure SniffedDecode where
  frame : SniffedFrame
  phaseTicks : Int
  score : Nat

def backwardFrameBitLengths : BitLengths := BitLengths.ofList [8]

variable (event : RxCompletedEvent)

def tryDecode (preferred : BitLengths) : Option PhaseDecode :=
  (BestPhaseSearch.new preferred).run (SampleWindow.ofCapture event.samples event.sampleCount)

def sniffedFromDecoded (dlen : Nat) (out : Vector Byte 8) : SniffedFrame :=
  match dlen with
  | 8 => .backward8 out[0]
  | 16 => .forward16 ((out[0].setWidth 16 <<< 8) ||| out[1].setWidth 16)
  | 24 => .forward24 #v[out[0], out[1], out[2]]
  | other => .unsupportedLength other

def sniffedOf (found : Option PhaseDecode) : SniffedDecode :=
  match found with
  | none => { frame := .decodeFailed, phaseTicks := 0, score := 0 }
  | some result =>
    { frame := sniffedFromDecoded result.bitLen result.data
      phaseTicks := result.phaseTicks
      score := result.score }

def decodeSniffedWithPhase : SniffedDecode :=
  match event.isrDecode with
  | .decoded found => sniffedOf found
  | .notDecoded => sniffedOf (tryDecode event sniffedBitLengths)

def decodeBackwardByte : Option Byte :=
  match tryDecode event backwardFrameBitLengths with
  | none => none
  | some result => if result.bitLen = 8 then some result.data[0] else none

def SniffedFrame.IsFrame : SniffedFrame -> Prop
  | .forward16 _ => True
  | .backward8 _ => True
  | .forward24 _ => True
  | .unsupportedLength _ => False
  | .decodeFailed => False

instance : DecidablePred SniffedFrame.IsFrame
  | .forward16 _ => inferInstanceAs (Decidable True)
  | .backward8 _ => inferInstanceAs (Decidable True)
  | .forward24 _ => inferInstanceAs (Decidable True)
  | .unsupportedLength _ => inferInstanceAs (Decidable False)
  | .decodeFailed => inferInstanceAs (Decidable False)

theorem sniffedBitLengths_contains (length : Nat) :
    sniffedBitLengths.contains length <-> length = 8 ∨ length = 16 ∨ length = 24 := by
  rcases Nat.lt_or_ge length 32 with hlt | hge
  · interval_cases length <;> decide
  · have hshift : (1#32 <<< length) = 0#32 := by
      apply eq_of_toNat_eq
      rw [toNat_shiftLeft, Nat.shiftLeft_eq, toNat_ofNat]
      exact Nat.mod_eq_zero_of_dvd (Dvd.dvd.mul_left (Nat.pow_dvd_pow 2 hge) _)
    simp only [BitLengths.contains, hshift, and_zero]
    constructor
    · intro h
      cases h
    · omega

theorem sniffedFromDecoded_isFrame (dlen : Nat) (out : Vector Byte 8) :
    (sniffedFromDecoded dlen out).IsFrame <-> sniffedBitLengths.contains dlen := by
  rw [sniffedBitLengths_contains]
  unfold sniffedFromDecoded
  split <;> simp_all [SniffedFrame.IsFrame]

end Oxidali.Codec
