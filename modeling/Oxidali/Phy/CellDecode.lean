import Oxidali.Lib.Packing
import Oxidali.Phy.Manchester

/-!
# Reading a capture made of whole data cells

An undisturbed frame is captured as one byte for each of its bits, the start bit
first, and recessive bytes behind them.  On such a window a reading depends only
on the cell it starts in, the neighbours of that cell and the offset inside it.
-/

namespace Oxidali.Phy

open Words SampleWindow List

/-- Eight samples of a data bit; `none` is the recessive line behind the frame. -/
def cellByte : Option Bool -> Byte
  | some true => 0x0F
  | some false => 0xF0
  | none => 0xFF

/-- The weight of a data bit that is read in place. -/
def cellWeight (one : Bool) : Nat := if one then 25 else 24

/-- The window shows the cells, then at least three recessive bytes. -/
structure CellWindow (window : SampleWindow) (cells : List Bool) : Prop where
  byte_eq : forall k, k <= cells.length + 2 -> window.byte k = some (cellByte cells[k]?)
  bits_ge : 8 * (cells.length + 2) <= window.bits

variable (out : PhaseDecode) (cells : List Bool)

def cellPeek (position : Nat) : Byte :=
  joinBytes (cellByte cells[position / 8]?) (cellByte cells[position / 8 + 1]?) (position % 8)

variable {phaseTicks : Int} {bitpos : Nat}

theorem SampleWindow.shifted_eq {position : Int} (hsmall : bitpos <= 1000)
    (hposition : bitpos + phaseTicks = position) (hrange : -1000 <= position ∧ position <= 1000) :
    wrapI16 (wrapI16 bitpos + phaseTicks) = position := by
  have hinner : wrapI16 bitpos = bitpos :=
    wrapI16_of_small (by omega) (by omega)
  rw [hinner, hposition, wrapI16_of_small (by omega) (by omega)]

namespace CellWindow

variable {window : SampleWindow} {cells : List Bool}

theorem peek8_eq (h : CellWindow window cells) (position : Nat)
    (hposition : bitpos + phaseTicks = position) (hsmall : bitpos <= 1000)
    (hrange : position < 8 * (cells.length + 2)) :
    window.peek8 bitpos phaseTicks = cellPeek cells position := by
  have hbits := h.bits_ge
  have hle := window.bits_le
  have hshifted := shifted_eq hsmall hposition (by omega)
  have hnext : saturatingAdd u16Max (position / 8) 1 = position / 8 + 1 :=
    saturatingAdd_of_le (by simp only [u16Max]; omega)
  simp only [peek8, hshifted, Int.natCast_nonneg, if_true, Int.toNat_natCast, hnext]
  rw [h.byte_eq _ (by omega), h.byte_eq _ (by omega)]
  rfl

theorem weightedPeekAround_eq (h : CellWindow window cells) (position : Nat)
    (hposition : bitpos + phaseTicks = position + 1) (hpos : 0 < bitpos) (hsmall : bitpos < 1000)
    (hrange : position + 2 < 8 * (cells.length + 2)) :
    window.weightedPeekAround bitpos phaseTicks =
      weighPeeks (cellPeek cells position) (cellPeek cells (position + 1))
        (cellPeek cells (position + 2)) := by
  have hearly : wrappingSub u16Max bitpos 1 = bitpos - 1 :=
    wrappingSub_of_le hpos
  have hlate : saturatingAdd u16Max bitpos 1 = bitpos + 1 :=
    saturatingAdd_of_le (by simp only [u16Max]; omega)
  simp only [weightedPeekAround, hearly, hlate]
  rw [h.peek8_eq position (by omega) (by omega) (by omega),
    h.peek8_eq (position + 1) (by omega) (by omega) (by omega),
    h.peek8_eq (position + 2) (by omega) (by omega) (by omega)]

end CellWindow

theorem cellPeek_eq (k : Nat) {offset : Nat} (hoffset : offset < 8) :
    cellPeek cells (8 * k + offset) = joinBytes (cellByte cells[k]?) (cellByte cells[k + 1]?)
        offset := by
  have hdiv : (8 * k + offset) / 8 = k := by omega
  have hmod : (8 * k + offset) % 8 = offset := by omega
  rw [cellPeek, hdiv, hmod]

/-!
## Readings in place

Once the position is on a cell boundary it stays on one: every cell is read with
the largest weight there is, and the first recessive byte ends the frame.
-/

def PhaseDecode.pushCells : PhaseDecode :=
  cells.foldl (fun out one => out.push (cellWeight one)) out

theorem PhaseDecode.bitLen_pushCells {out : PhaseDecode} {cells : List Bool}
    (h : out.bitLen + cells.length <= u8Max) :
    (out.pushCells cells).bitLen = out.bitLen + cells.length := by
  induction cells generalizing out with
  | nil => rfl
  | cons one cells ih =>
    rw [length_cons] at h
    have hpush : (out.push (cellWeight one)).bitLen = out.bitLen + 1 :=
      saturatingAdd_of_le (by omega)
    have hrest := ih (by rw [hpush]; omega)
    rw [length_cons]
    exact hrest.trans (by omega)

@[simp] theorem PhaseDecode.phaseTicks_pushCells :
    (out.pushCells cells).phaseTicks = out.phaseTicks := by
  induction cells generalizing out with
  | nil => rfl
  | cons one cells ih => exact ih (out.push (cellWeight one))

@[simp] theorem PhaseDecode.phaseTicks_finish : out.finish.phaseTicks = out.phaseTicks := by
  unfold PhaseDecode.finish
  split <;> rfl

@[simp] theorem PhaseDecode.data_finish : out.finish.data = out.data := by
  unfold PhaseDecode.finish
  split <;> rfl

/-- The bytes of a reading hold the data bits, the start bit left out. -/
structure PhaseDecode.Collected (out : PhaseDecode) (packed : Packed) :
    Prop where
  bitLen : out.bitLen = 8 * packed.1.length + packed.2.length + 1
  pending_lt : packed.2.length < 8
  bytes : forall k, k < packed.1.length -> out.data[k]? = packed.1[k]?
  pending : packed.2 ≠ [] -> out.data[packed.1.length]? = some (packByte packed.2)

theorem PhaseDecode.Collected.push {out : PhaseDecode} {packed : Packed} (h : out.Collected packed)
    (hroom : packed.1.length < 4) {weight : Nat} {one : Bool} (hweight : weight % 2 = one.toNat) :
    (out.push weight).Collected (packStep packed one) := by
  have hlt := h.pending_lt
  have hbit : BitVec.ofNat 8 (weight % 2) = (BitVec.ofBool one).setWidth 8 := by
    rw [hweight]
    cases one <;> decide
  have hplace : (out.bitLen - 1) / 8 = packed.1.length := by
    rw [h.bitLen]
    omega
  have hoffset : (out.bitLen - 1) % 8 = packed.2.length := by
    rw [h.bitLen]
    omega
  have hin : packed.1.length < 8 := by omega
  have hlength : (out.push weight).bitLen = out.bitLen + 1 :=
    saturatingAdd_of_le (by rw [h.bitLen]; simp only [u8Max]; omega)
  -- The byte being filled ends up as the pending bits and the new one.
  have hdata : (out.push weight).data =
      out.data.setIfInBounds packed.1.length (packByte (packed.2 ++ [one])) := by
    simp only [PhaseDecode.push, pushDecodedBit, hplace, hoffset, hbit]
    rw [if_neg (by rw [h.bitLen]; omega), Vector.getElem?_eq_getElem hin]
    simp only [packByte, foldl_append, foldl_cons, foldl_nil, shiftIn]
    congr 3
    by_cases hpending : packed.2 = []
    · simp [hpending]
    · have hnonzero : packed.2.length ≠ 0 := by simpa using hpending
      have hbyte := h.pending hpending
      rw [Vector.getElem?_eq_getElem hin, Option.some.injEq] at hbyte
      rw [if_neg hnonzero, hbyte, packByte]
  by_cases hfull : packed.2.length = 7
  · simp only [packStep, hfull, if_true]
    refine ⟨?_, by simp, ?_, by simp⟩
    · simp
      omega
    · intro k hk
      simp only [length_append, length_singleton] at hk
      rw [hdata, Vector.getElem?_setIfInBounds]
      by_cases hlast : packed.1.length = k
      · simp [<- hlast, hin]
      · rw [if_neg hlast, h.bytes k (by omega), getElem?_append_left (by omega)]
  · simp only [packStep, hfull, if_false]
    refine ⟨?_, by simp; omega, ?_, ?_⟩
    · rw [hlength, h.bitLen]
      simp
      omega
    · intro k hk
      rw [hdata, Vector.getElem?_setIfInBounds, if_neg (Nat.ne_of_gt hk)]
      exact h.bytes k hk
    · intro _
      rw [hdata, Vector.getElem?_setIfInBounds, if_pos rfl, if_pos hin]

theorem PhaseDecode.Collected.pushCells {bits : List Bool} {out : PhaseDecode} {packed : Packed}
    (h : out.Collected packed) (hroom : 8 * packed.1.length + packed.2.length + bits.length <= 32) :
    (out.pushCells bits).Collected (bits.foldl packStep packed) := by
  induction bits generalizing out packed with
  | nil => exact h
  | cons one bits ih =>
    rw [length_cons] at hroom
    have hstep := h.push (by omega) (show cellWeight one % 2 = one.toNat by
      cases one <;> rfl)
    have hbits := hstep.bitLen
    have hlength : (out.push (cellWeight one)).bitLen = out.bitLen + 1 :=
      saturatingAdd_of_le (by rw [h.bitLen]; simp only [u8Max]; omega)
    rw [hlength, h.bitLen] at hbits
    exact ih hstep (by omega)

private theorem weighPeeks_inPlace (prev one : Bool) (next : Option Bool) :
    weighPeeks (joinBytes (cellByte (some prev)) (cellByte (some one)) 7)
        (joinBytes (cellByte (some one)) (cellByte next) 0)
        (joinBytes (cellByte (some one)) (cellByte next) 1) =
      { weight := cellWeight one, advance := ⟨8, by decide⟩, stop := .none } := by
  revert prev one next
  decide

private theorem stop_behind_frame (early centre : Byte) :
    (weighPeeks early centre (joinBytes (cellByte none) (cellByte none) 1)).stop =
        .idle := by
  have hstop : peekStop (joinBytes (cellByte none) (cellByte none) 1) = .idle := by
    decide
  unfold weighPeeks
  grind

namespace CellWindow

variable {window : SampleWindow} {cells : List Bool}

theorem readings_inside (h : CellWindow window cells) (bitpos k offset : Nat) (phaseTicks : Int)
    (hposition : bitpos + phaseTicks = (8 * k + (offset + 1) : Nat)) (hoffset : offset < 6)
    (hpos : 0 < bitpos) (hsmall : bitpos < 1000) (hk : k < cells.length + 2) :
    window.readings phaseTicks bitpos = weighPeeks
        (joinBytes (cellByte cells[k]?) (cellByte cells[k + 1]?) offset)
        (joinBytes (cellByte cells[k]?) (cellByte cells[k + 1]?) (offset + 1))
        (joinBytes (cellByte cells[k]?) (cellByte cells[k + 1]?) (offset + 2)) := by
  rw [readings, h.weightedPeekAround_eq (8 * k + offset) (by omega) hpos hsmall
    (by omega), Nat.add_assoc, Nat.add_assoc, cellPeek_eq _ _ (by omega),
    cellPeek_eq _ _ (by omega), cellPeek_eq _ _ (by omega)]

theorem readings_aligned (h : CellWindow window cells) (k : Nat)
    (hposition : bitpos + phaseTicks = (8 * (k + 1) : Nat)) (hpos : 0 < bitpos)
    (hsmall : bitpos < 1000) (hk : k < cells.length) :
    window.readings phaseTicks bitpos = weighPeeks
        (joinBytes (cellByte cells[k]?) (cellByte cells[k + 1]?) 7)
        (joinBytes (cellByte cells[k + 1]?) (cellByte cells[k + 2]?) 0)
        (joinBytes (cellByte cells[k + 1]?) (cellByte cells[k + 2]?) 1) := by
  rw [readings, h.weightedPeekAround_eq (8 * k + 7) (by omega) hpos hsmall (by omega)]
  rw [cellPeek_eq _ k (by omega), show 8 * k + 7 + 1 = 8 * (k + 1) + 0 by omega,
    cellPeek_eq _ (k + 1) (by omega), show 8 * k + 7 + 2 = 8 * (k + 1) + 1 by omega,
    cellPeek_eq _ (k + 1) (by omega)]

/-- From a cell boundary on, the loop reads exactly the cells that are left. -/
theorem decodeLoop_aligned (h : CellWindow window cells) (hcells : cells.length <= 32)
    (hphase : -2 <= phaseTicks ∧ phaseTicks <= 2) (rest : List Bool) (k : Nat) (out : PhaseDecode)
    (bitpos : Nat) (hrest : cells.drop (k + 1) = rest) (hk : k < cells.length)
    (hposition : bitpos + phaseTicks = (8 * (k + 1) : Nat))
    (hroom : out.bitLen + rest.length <= manchesterRxMaxDecodedBits) :
    decodeLoop window.bits_le (window.readings phaseTicks) manchesterRxMaxDecodedBits out bitpos =
      (out.pushCells rest).finish := by
  have hbits := h.bits_ge
  induction rest generalizing k out bitpos with
  | nil =>
    have hend : k + 1 = cells.length := by
      have := drop_eq_nil_iff.mp hrest
      omega
    have hlast : cells[k + 1]? = none ∧ cells[k + 2]? = none := by
      constructor <;> exact getElem?_eq_none (by omega)
    have hread := h.readings_aligned k hposition (by omega) (by omega) hk
    rw [hlast.1, hlast.2] at hread
    apply decodeLoop_of_idle
    · omega
    · simpa using hroom
    · rw [hread]
      exact stop_behind_frame _ _
  | cons one rest ih =>
    obtain ⟨hnext, hdrop⟩ : cells[k + 1]? = some one ∧ cells.drop (k + 2) = rest := by
      have hget := congrArg head? hrest
      have htail := congrArg tail hrest
      simpa using And.intro hget htail
    have hlt : k + 1 < cells.length := (List.getElem?_eq_some_iff.mp hnext).1
    have hread := h.readings_aligned k hposition (by omega) (by omega) hk
    rw [hnext, getElem?_eq_getElem hk, weighPeeks_inPlace] at hread
    rw [length_cons] at hroom
    have hpush : (out.push (cellWeight one)).bitLen = out.bitLen + 1 :=
      saturatingAdd_of_le (by
        simp only [manchesterRxMaxDecodedBits, u8Max] at *; omega)
    rw [decodeLoop_of_read _ _ (by omega) (by omega) hread rfl]
    exact ih (k + 1) _ _ hdrop hlt (by push_cast; omega) (by rw [hpush]; omega)

/-!
## The near phases

At phase 0 and up to two ticks early, or one late, the first reading pulls the
position onto a cell boundary before the frame ends.
-/

private theorem weighPeeks_one_late (one : Bool) (next : Option Bool) :
    weighPeeks (joinBytes (cellByte (some one)) (cellByte next) 0)
        (joinBytes (cellByte (some one)) (cellByte next) 1)
        (joinBytes (cellByte (some one)) (cellByte next) 2) =
      { weight := cellWeight one, advance := ⟨7, by decide⟩, stop := .none } := by
  revert one next
  decide

private theorem weighPeeks_start_late (next : Option Bool) :
    exists weight, weighPeeks (joinBytes (cellByte (some true)) (cellByte next) 1)
          (joinBytes (cellByte (some true)) (cellByte next) 2)
          (joinBytes (cellByte (some true)) (cellByte next) 3) =
        { weight, advance := ⟨7, by decide⟩, stop := .none } := by
  rcases next with _ | one
  · exact ⟨21, by decide⟩
  · cases one
    · exact ⟨21, by decide⟩
    · exact ⟨17, by decide⟩

variable {bits : List Bool}

-- Before the window the line is taken to be what its first sample is.
private theorem peek8_before (h : CellWindow window (true :: bits)) (hsmall : bitpos <= 1000)
    (hposition : bitpos + phaseTicks = -1 ∨ bitpos + phaseTicks = -2) :
    window.peek8 bitpos phaseTicks = if bitpos + phaseTicks = -1 then 0x07#8 else 0x03#8 := by
  have hbits := h.bits_ge
  have hbyte : window.byte 0 = some 0x0F#8 := h.byte_eq 0 (by omega)
  have hin : forall n, n < 8 -> ¬ window.bits <= n := by
    simp only [length_cons] at hbits
    omega
  rcases hposition with hposition | hposition
  · have hshifted := shifted_eq hsmall hposition (by decide)
    simp [peek8, hshifted, hposition, range, range.loop, sampleBit, hbyte, hin]
  · have hshifted := shifted_eq hsmall hposition (by decide)
    simp [peek8, hshifted, hposition, range, range.loop, sampleBit, hbyte, hin]

/-- The first reading of a near phase, and the position it leaves. -/
private theorem readings_first (h : CellWindow window (true :: bits)) :
    window.readings (-2) 1 =
        { weight := cellWeight true, advance := ⟨9, by decide⟩, stop := .none } ∧
      window.readings (-1) 1 =
        { weight := cellWeight true, advance := ⟨8, by decide⟩, stop := .none } := by
  have hat0 : cellPeek (true :: bits) 0 =
      joinBytes (cellByte (some true)) (cellByte bits[0]?) 0 := by
    simp [cellPeek]
  have hat1 : cellPeek (true :: bits) 1 =
      joinBytes (cellByte (some true)) (cellByte bits[0]?) 1 := by
    simp [cellPeek]
  have hearly : wrappingSub u16Max 1 1 = 0 := rfl
  have hlate : saturatingAdd u16Max 1 1 = 2 := rfl
  simp only [readings, weightedPeekAround, hearly, hlate]
  constructor
  · rw [peek8_before h (by decide) (by decide), peek8_before h (by decide) (by decide),
      h.peek8_eq 0 (by decide) (by decide) (by omega), hat0]
    cases bits[0]? with
    | none => decide
    | some one => cases one <;> decide
  · rw [peek8_before h (by decide) (by decide), h.peek8_eq 0 (by decide) (by decide) (by omega),
      h.peek8_eq 1 (by decide) (by decide) (by simp only [length_cons]; omega), hat0, hat1]
    cases bits[0]? with
    | none => decide
    | some one => cases one <;> decide

/-- A first reading that lands on the first data bit leaves only readings in
place behind it. -/
private theorem decodePhase_of_first (h : CellWindow window (true :: bits))
    (hlen : bits.length <= 31) {weight : Nat} {advance : Advance}
    (hread : window.readings phaseTicks 1 = ⟨weight, advance, .none⟩)
    (hlands : 1 + (advance.val : Int) + phaseTicks = 8) :
    window.decodePhase manchesterRxMaxDecodedBits phaseTicks =
      (((PhaseDecode.failed phaseTicks).push weight).pushCells bits).finish := by
  have hbits := h.bits_ge
  simp only [length_cons] at hbits
  rw [decodePhase, decodeLoop_of_read _ _ (by omega) (Nat.zero_le _) hread rfl]
  exact h.decodeLoop_aligned (by simp only [length_cons] at *; omega) (by omega) bits 0 _ _ rfl
    (by simp) (by push_cast; omega)
    (by simp [PhaseDecode.push, PhaseDecode.failed, saturatingAdd, u8Max,
      manchesterRxMaxDecodedBits]; omega)

theorem decodePhase_zero (h : CellWindow window (true :: bits)) (hlen : bits.length <= 31) :
    window.decodePhase manchesterRxMaxDecodedBits 0 =
      ((PhaseDecode.failed 0).pushCells (true :: bits)).finish := by
  have hread := h.readings_inside 1 0 0 0 (by rfl) (by decide) (by decide) (by decide) (by omega)
  rw [getElem?_cons_zero, weighPeeks_one_late] at hread
  exact h.decodePhase_of_first hlen hread rfl

private theorem bitLen_read {weight : Nat} (hpos : 0 < bits.length) (hlen : bits.length <= 31) :
    (((PhaseDecode.failed phaseTicks).push weight).pushCells bits).finish.bitLen = bits.length := by
  have hlength : (((PhaseDecode.failed phaseTicks).push weight).pushCells
      bits).bitLen = 1 + bits.length :=
    PhaseDecode.bitLen_pushCells
      (by simp [PhaseDecode.push, PhaseDecode.failed, saturatingAdd, u8Max];
          omega)
  simp only [PhaseDecode.finish, hlength]
  rw [if_pos (by omega)]
  simp

section

variable (h : CellWindow window (true :: bits)) (hpos : 0 < bits.length) (hlen : bits.length <= 31)
include h hpos hlen

theorem decodePhase_early_bitLen (hphase : phaseTicks = -2 ∨ phaseTicks = -1 ∨ phaseTicks = 0) :
    (window.decodePhase manchesterRxMaxDecodedBits phaseTicks).bitLen =
      bits.length := by
  rcases hphase with rfl | rfl | rfl
  · rw [h.decodePhase_of_first hlen h.readings_first.1 rfl]
    exact bitLen_read hpos hlen
  · rw [h.decodePhase_of_first hlen h.readings_first.2 rfl]
    exact bitLen_read hpos hlen
  · rw [h.decodePhase_zero hlen]
    exact bitLen_read hpos hlen

/-- One tick late, the first reading is early and the second is in place. -/
theorem decodePhase_one_late_bitLen :
    (window.decodePhase manchesterRxMaxDecodedBits 1).bitLen = bits.length := by
  have hbits := h.bits_ge
  obtain ⟨one, rest, rfl⟩ := exists_cons_of_length_pos hpos
  have hfirst := h.readings_inside 1 0 1 1 (by rfl) (by decide) (by decide) (by decide) (by omega)
  obtain ⟨weight, hweight⟩ := weighPeeks_start_late (some one)
  rw [getElem?_cons_zero, getElem?_cons_succ, getElem?_cons_zero, hweight] at hfirst
  have hsecond := h.readings_inside 8 1 0 1 (by rfl) (by decide) (by decide) (by decide) (by omega)
  rw [getElem?_cons_succ, getElem?_cons_zero, weighPeeks_one_late] at hsecond
  have hread : window.decodePhase manchesterRxMaxDecodedBits 1 =
      (((PhaseDecode.failed 1).push weight).pushCells (one :: rest)).finish := by
    rw [decodePhase, decodeLoop_of_read _ _ (by omega)
      (Nat.zero_le _) hfirst (show 1 + 7 = 8 from rfl)]
    have hroom : ((PhaseDecode.failed 1).push weight).bitLen <=
        manchesterRxMaxDecodedBits := show 1 <= 32 by decide
    rw [decodeLoop_of_read _ _ (by omega) hroom hsecond (show 8 + 7 = 15 from rfl)]
    rw [length_cons] at hlen
    exact h.decodeLoop_aligned (by simp only [length_cons] at *; omega) (by decide) rest 1 _ _ rfl
      (by simp) (by rfl)
      (by simp [PhaseDecode.push, PhaseDecode.failed, saturatingAdd, u8Max,
        manchesterRxMaxDecodedBits]; omega)
  rw [hread]
  exact bitLen_read hpos hlen

end

end CellWindow

end Oxidali.Phy
