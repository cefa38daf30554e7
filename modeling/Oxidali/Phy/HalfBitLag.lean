import Oxidali.Phy.CellDecode

/-!
# Reading two ticks late

At the latest phase the position starts in the middle of the start bit and may
stay in the middle of cells for the whole frame.  It then reads the boundaries
between bits instead of the bits, and a frame can end one reading early.  The
states below are the offsets the position can have, told by the bits read so
far; `halfBitSlip` is the set of frames read one bit short.
-/

namespace Oxidali.Phy

open Words SampleWindow List

inductive Lag where
  | ones
  | zero
  | zeros
  | loneOne
  | loneOneZero
  | twoZeros
  | slipped
  | held
  deriving DecidableEq

namespace Lag

def next : Lag -> Bool -> Lag
  | ones, true => ones
  | ones, false => zero
  | zero, true => held
  | zero, false => zeros
  | zeros, true => loneOne
  | zeros, false => zeros
  | loneOne, true => ones
  | loneOne, false => loneOneZero
  | loneOneZero, true => slipped
  | loneOneZero, false => twoZeros
  | twoZeros, true => slipped
  | twoZeros, false => zeros
  | slipped, _ => slipped
  | held, _ => held

/-- Whether a frame that ends here is read one bit short. -/
def slips : Lag -> Bool
  | ones => true
  | loneOne => true
  | slipped => true
  | _ => false

/-- The position is still between the offsets 3 and 6 of a cell. -/
def live : Lag -> Bool
  | slipped => false
  | held => false
  | _ => true

def offset : Lag -> Nat
  | zero => 3
  | loneOne => 5
  | loneOneZero => 6
  | twoZeros => 5
  | _ => 4

/-- The bit of the cell the position is in. -/
def bit : Lag -> Bool
  | ones => true
  | loneOne => true
  | _ => false

def readLength (width : Nat) (lag : Lag) : Nat :=
  if lag = held then 0 else if lag.slips then width - 1 else width

theorem foldl_slipped (bits : List Bool) : bits.foldl next slipped = slipped :=
  foldl_fixed' (fun _ => rfl) bits

theorem foldl_held (bits : List Bool) : bits.foldl next held = held :=
  foldl_fixed' (fun _ => rfl) bits

/-- The reading at the offset of a live state. -/
def peek (lag : Lag) (next : Option Bool) : WeightedPeek :=
  weighPeeks (joinBytes (cellByte (some lag.bit)) (cellByte next) (lag.offset - 1))
    (joinBytes (cellByte (some lag.bit)) (cellByte next) lag.offset)
    (joinBytes (cellByte (some lag.bit)) (cellByte next) (lag.offset + 1))

end Lag

/-- Frames that the latest phase reads one bit short. -/
def halfBitSlip : List Bool -> Bool
  | true :: rest => (rest.foldl Lag.next Lag.ones).slips
  | _ => false

namespace Lag

variable (lag : Lag)

theorem peek_live (one : Bool) (hlive : lag.live) (hnext : (lag.next one).live) :
    (lag.peek (some one)).stop = .none ∧ lag.offset + (lag.peek (some one)).advance.val =
        8 + (lag.next one).offset := by
  revert hlive hnext
  cases lag <;> cases one <;> decide

theorem peek_held (one : Bool) (hlive : lag.live)
    (hnext : lag.next one = held) : (lag.peek (some one)).stop = .held := by
  revert hlive hnext
  cases lag <;> cases one <;> decide

/-- The position leaves the middle of a cell at a one only, towards its end. -/
theorem peek_slipped (one : Bool) (hlive : lag.live) (hnext : lag.next one = slipped) :
    one ∧ (lag.peek (some one)).stop = .none ∧
      (lag.offset + (lag.peek (some one)).advance.val = 8 + 6 ∨
        lag.offset + (lag.peek (some one)).advance.val = 8 + 7) := by
  revert hlive hnext
  cases lag <;> cases one <;> decide

theorem peek_end_slips (hlive : lag.live) (hslips : lag.slips) : (lag.peek none).stop = .idle := by
  revert hlive hslips
  cases lag <;> decide

/-- At the end of a frame that is read in full one more reading fits. -/
theorem peek_end_full (hlive : lag.live) (hslips : lag.slips = false) :
    (lag.peek none).stop = .none ∧ 8 + 4 <= lag.offset + (lag.peek none).advance.val ∧
      lag.offset + (lag.peek none).advance.val <= 8 + 5 := by
  revert hlive hslips
  cases lag <;> decide

end Lag

/-!
## The late phase over a whole frame
-/

namespace CellWindow

variable {window : SampleWindow} {cells : List Bool} {out : PhaseDecode}

private theorem finish_bitLen (h : 1 < out.bitLen) : out.finish.bitLen = out.bitLen - 1 := by
  simp [PhaseDecode.finish, h]

private theorem push_bitLen (weight : Nat) (h : out.bitLen <= manchesterRxMaxDecodedBits) :
    (out.push weight).bitLen = out.bitLen + 1 :=
  saturatingAdd_of_le (by simp only [manchesterRxMaxDecodedBits, u8Max] at *; omega)

variable {k : Nat}

private theorem drop_cons {cells rest : List Bool} {one : Bool}
    (h : cells.drop k = one :: rest) : cells[k]? = some one ∧ cells.drop (k + 1) = rest := by
  have hget := congrArg head? h
  have htail := congrArg tail h
  simpa using And.intro hget htail

private theorem readings_cellEnd (h : CellWindow window cells) (bitpos k : Nat) {cell : Bool}
    (hposition : bitpos + 2 = 8 * k + 7) (hcells : cells.length <= 32) (hk : k < cells.length)
    (hcell : cells[k]? = some cell) :
    window.readings 2 bitpos = weighPeeks
        (joinBytes (cellByte (some cell)) (cellByte cells[k + 1]?) 6)
        (joinBytes (cellByte (some cell)) (cellByte cells[k + 1]?) 7)
        (joinBytes (cellByte cells[k + 1]?) (cellByte cells[k + 2]?) 0) := by
  rw [readings, h.weightedPeekAround_eq (8 * k + 6) (by omega) (by omega) (by omega) (by omega)]
  rw [cellPeek_eq _ k (by omega), show 8 * k + 6 + 1 = 8 * k + 7 by omega,
    cellPeek_eq _ k (by omega), show 8 * k + 6 + 2 = 8 * (k + 1) + 0 by omega,
    cellPeek_eq _ (k + 1) (by omega), hcell]

-- One sample before a boundary the late reading is the next cell in place.
private theorem weighPeeks_cellEnd (cell one : Bool) (next : Option Bool) :
    weighPeeks (joinBytes (cellByte (some cell)) (cellByte (some one)) 6)
        (joinBytes (cellByte (some cell)) (cellByte (some one)) 7)
        (joinBytes (cellByte (some one)) (cellByte next) 0) =
      { weight := cellWeight one, advance := ⟨9, by decide⟩, stop := .none } := by
  revert cell one next
  decide

private theorem weighPeeks_cellEnd_last (cell : Bool) :
    (weighPeeks (joinBytes (cellByte (some cell)) (cellByte none) 6)
        (joinBytes (cellByte (some cell)) (cellByte none) 7)
        (joinBytes (cellByte none) (cellByte none) 0)).stop =
      .idle := by
  revert cell
  decide

variable {bitpos : Nat}

/-- From the last sample of a cell on, the next cell is read for this one and
the frame comes out one bit short. -/
theorem decodeLoop_cellEnd (h : CellWindow window cells) (hcells : cells.length <= 32) {cell : Bool}
    (hcell : cells[k]? = some cell) (hposition : bitpos + 2 = 8 * k + 7) (hout : out.bitLen = k)
    (hk : 1 < k) :
    (decodeLoop window.bits_le (window.readings 2) manchesterRxMaxDecodedBits
      out bitpos).bitLen = cells.length - 2 := by
  have hbits := h.bits_ge
  have hlt : k < cells.length := (List.getElem?_eq_some_iff.mp hcell).1
  have hread := h.readings_cellEnd bitpos k hposition hcells hlt hcell
  have hroom : out.bitLen <= manchesterRxMaxDecodedBits := by
    simp only [manchesterRxMaxDecodedBits]
    omega
  cases hrest : cells.drop (k + 1) with
  | nil =>
    have hend := drop_eq_nil_iff.mp hrest
    have hnone : cells[k + 1]? = none ∧ cells[k + 2]? = none := by
      constructor <;> exact getElem?_eq_none (by omega)
    rw [hnone.1, hnone.2] at hread
    rw [decodeLoop_of_idle _ _ (by omega) hroom (by rw [hread]; exact weighPeeks_cellEnd_last cell),
      finish_bitLen (by omega)]
    omega
  | cons one rest =>
    obtain ⟨hone, hdrop⟩ := drop_cons hrest
    have hlt' := (List.getElem?_eq_some_iff.mp hone).1
    have hlength : rest.length = cells.length - (k + 2) := by
      rw [<- hdrop, length_drop]
    rw [hone, weighPeeks_cellEnd] at hread
    have hpush := push_bitLen (cellWeight one) hroom
    rw [decodeLoop_of_read _ _ (by omega) hroom hread rfl]
    rw [h.decodeLoop_aligned hcells (by decide) rest (k + 1) _ _ hdrop hlt' (by push_cast; omega)
      (by rw [hpush]; simp only [manchesterRxMaxDecodedBits]; omega)]
    have htotal : ((out.push (cellWeight one)).pushCells rest).bitLen =
        cells.length - 1 := by
      rw [PhaseDecode.bitLen_pushCells (by rw [hpush]; simp only [u8Max]; omega)]
      omega
    rw [finish_bitLen (by omega), htotal]
    omega

private theorem weighPeeks_beforeEnd (next : Option Bool) :
    let peek := weighPeeks (joinBytes (cellByte (some true)) (cellByte next) 5)
      (joinBytes (cellByte (some true)) (cellByte next) 6)
      (joinBytes (cellByte (some true)) (cellByte next) 7)
    if next.isSome then peek.stop = .none ∧ peek.advance.val = 9 else peek.stop = .idle := by
  revert next
  decide

/-- Two samples before the end of a one the position only drifts further. -/
theorem decodeLoop_beforeEnd (h : CellWindow window cells) (hcells : cells.length <= 32)
    (hcell : cells[k]? = some true) (hposition : bitpos + 2 = 8 * k + 6) (hout : out.bitLen = k)
    (hk : 1 < k) :
    (decodeLoop window.bits_le (window.readings 2) manchesterRxMaxDecodedBits
      out bitpos).bitLen = cells.length - 2 := by
  have hbits := h.bits_ge
  have hlt : k < cells.length := (List.getElem?_eq_some_iff.mp hcell).1
  have hread := h.readings_inside bitpos k 5 2 (by omega) (by decide)
    (by omega) (by omega) (by omega)
  have hweigh := weighPeeks_beforeEnd cells[k + 1]?
  have hroom : out.bitLen <= manchesterRxMaxDecodedBits := by
    simp only [manchesterRxMaxDecodedBits]
    omega
  simp only [hcell] at hread
  rw [<- hread] at hweigh
  cases hnext : cells[k + 1]? with
  | none =>
    have hend := getElem?_eq_none_iff.mp hnext
    rw [hnext] at hweigh
    rw [decodeLoop_of_idle _ _ (by omega) hroom (by simpa using hweigh), finish_bitLen (by omega)]
    omega
  | some one =>
    rw [hnext] at hweigh
    obtain ⟨hstop, hadvance⟩ := by simpa using hweigh
    rw [decodeLoop_of_none _ _ (by omega) hroom hstop rfl]
    exact h.decodeLoop_cellEnd hcells hnext (by omega)
      (by rw [push_bitLen _ hroom, hout]) (by omega)

theorem readings_lag (h : CellWindow window cells) (hcells : cells.length <= 32) {lag : Lag}
    (hlive : lag.live) (hcell : cells[k]? = some lag.bit)
    (hposition : bitpos + 2 = 8 * k + lag.offset) :
    window.readings 2 bitpos = lag.peek cells[k + 1]? := by
  have hoffset : 3 <= lag.offset ∧ lag.offset <= 6 := by
    revert hlive
    cases lag <;> decide
  have hlt : k < cells.length := (List.getElem?_eq_some_iff.mp hcell).1
  rw [h.readings_inside bitpos k (lag.offset - 1) 2 (by omega) (by omega)
    (by omega) (by omega) (by omega), hcell, Lag.peek]
  have hsucc : lag.offset - 1 + 1 = lag.offset := by omega
  have hsucc' : lag.offset - 1 + 2 = lag.offset + 1 := by omega
  rw [hsucc, hsucc']

-- Behind the frame every offset reads recessive samples only.
private theorem stop_recessive (offset : Nat) (h : offset < 6) :
    (weighPeeks (joinBytes (cellByte none) (cellByte none) offset)
        (joinBytes (cellByte none) (cellByte none) (offset + 1))
        (joinBytes (cellByte none) (cellByte none) (offset + 2))).stop = .idle := by
  interval_cases offset <;> decide

private theorem decodeLoop_lag_end (h : CellWindow window cells) (hcells : cells.length <= 32)
    (hmin : 3 <= cells.length) {lag : Lag} (hlive : lag.live) (hend : k + 1 = cells.length)
    (hcell : cells[k]? = some lag.bit) (hposition : bitpos + 2 = 8 * k + lag.offset)
    (hout : out.bitLen = k) :
    (decodeLoop window.bits_le (window.readings 2) manchesterRxMaxDecodedBits
      out bitpos).bitLen = lag.readLength (cells.length - 1) := by
  have hbits := h.bits_ge
  have hoffset : lag.offset <= 6 := by cases lag <;> decide
  have hread := h.readings_lag hcells hlive hcell hposition
  rw [getElem?_eq_none (by omega)] at hread
  have hroom : out.bitLen <= manchesterRxMaxDecodedBits := by
    simp only [manchesterRxMaxDecodedBits]
    omega
  have hheld : lag ≠ .held := by
    intro hlag
    rw [hlag] at hlive
    cases hlive
  cases hslips : lag.slips with
  | true =>
    have hstop := lag.peek_end_slips hlive hslips
    rw [decodeLoop_of_idle _ _ (by omega) hroom (by rw [hread, hstop]), finish_bitLen (by omega)]
    simp only [Lag.readLength, hheld, hslips, if_true, if_false]
    omega
  | false =>
    obtain ⟨hstop, hlow, hhigh⟩ := lag.peek_end_full hlive hslips
    rw [<- hread] at hstop hlow hhigh
    rw [decodeLoop_of_none _ _ (by omega) hroom hstop rfl]
    -- The reading behind the frame finds the line idle.
    have hbehind := h.readings_inside (bitpos + (window.readings 2 bitpos).advance.val) (k + 1)
      (lag.offset + (window.readings 2 bitpos).advance.val - 9) 2
      (by omega) (by omega) (by omega) (by omega) (by omega)
    rw [getElem?_eq_none (by omega), getElem?_eq_none (by omega)] at hbehind
    have hpush := push_bitLen (window.readings 2 bitpos).weight hroom
    rw [decodeLoop_of_idle _ _ (by omega)
      (by rw [hpush]; simp only [manchesterRxMaxDecodedBits]; omega)
      (by rw [hbehind]; exact stop_recessive _ (by omega)),
      finish_bitLen (by omega), hpush]
    simp only [Lag.readLength, hheld, hslips, if_false, Bool.false_eq_true]
    omega

/-- What the late phase reads is told by running the states over the frame. -/
theorem decodeLoop_lag (h : CellWindow window cells) (hcells : cells.length <= 32)
    (hmin : 3 <= cells.length) (rest : List Bool) {lag : Lag} (hlive : lag.live) (hk : 1 <= k)
    (hrest : cells.drop (k + 1) = rest) (hcell : cells[k]? = some lag.bit)
    (hposition : bitpos + 2 = 8 * k + lag.offset) (hout : out.bitLen = k) :
    (decodeLoop window.bits_le (window.readings 2) manchesterRxMaxDecodedBits out bitpos).bitLen =
        (rest.foldl Lag.next lag).readLength (cells.length - 1) := by
  induction rest generalizing lag k bitpos out with
  | nil =>
    have hlt : k < cells.length := (List.getElem?_eq_some_iff.mp hcell).1
    have hend := drop_eq_nil_iff.mp hrest
    exact h.decodeLoop_lag_end hcells hmin hlive (by omega) hcell hposition hout
  | cons one rest ih =>
    have hbits := h.bits_ge
    have hoffset : lag.offset <= 6 := by cases lag <;> decide
    obtain ⟨hone, hdrop⟩ := drop_cons hrest
    have hlt : k + 1 < cells.length := (List.getElem?_eq_some_iff.mp hone).1
    have hread := h.readings_lag hcells hlive hcell hposition
    rw [hone] at hread
    have hroom : out.bitLen <= manchesterRxMaxDecodedBits := by
      simp only [manchesterRxMaxDecodedBits]
      omega
    have hpush := push_bitLen (window.readings 2 bitpos).weight hroom
    rw [foldl_cons]
    by_cases hnext : (lag.next one).live = true
    · obtain ⟨hstop, hadvance⟩ := lag.peek_live one hlive hnext
      have hbit : (lag.next one).bit = one := by
        revert hlive hnext
        cases lag <;> cases one <;> decide
      rw [<- hread] at hstop hadvance
      rw [decodeLoop_of_none _ _ (by omega) hroom hstop rfl]
      exact ih hnext (by omega) hdrop (by rw [hone, hbit]) (by omega) (by rw [hpush, hout])
    · cases hlag : lag.next one with
      | held =>
        have hstop := lag.peek_held one hlive hlag
        rw [<- hread] at hstop
        rw [decodeLoop_of_held _ _ (by omega) hroom hstop, Lag.foldl_held]
        rfl
      | slipped =>
        obtain ⟨rfl, hstop, hadvance⟩ := lag.peek_slipped one hlive hlag
        rw [<- hread] at hstop hadvance
        rw [decodeLoop_of_none _ _ (by omega) hroom hstop rfl, Lag.foldl_slipped]
        rcases hadvance with hadvance | hadvance
        · exact h.decodeLoop_beforeEnd hcells hone (by omega) (by rw [hpush, hout]) (by omega)
        · exact h.decodeLoop_cellEnd hcells hone (by omega) (by rw [hpush, hout]) (by omega)
      | _ =>
        rw [hlag] at hnext
        exact absurd rfl hnext

private theorem weighPeeks_start_two_late (one : Bool) :
    let peek := weighPeeks (joinBytes (cellByte (some true)) (cellByte (some one)) 2)
      (joinBytes (cellByte (some true)) (cellByte (some one)) 3)
      (joinBytes (cellByte (some true)) (cellByte (some one)) 4)
    if one then peek.stop = .none ∧ peek.advance.val = 9 else peek.stop = .idle := by
  cases one <;> decide

variable {bits : List Bool}

/-- Two ticks late, a frame is read in full, one bit short or not at all, and
one bit short exactly for the frames of `halfBitSlip`. -/
theorem decodePhase_two_late_bitLen (h : CellWindow window (true :: bits)) (hmin : 2 <= bits.length)
    (hlen : bits.length <= 31) :
    let decoded := window.decodePhase manchesterRxMaxDecodedBits 2
    if halfBitSlip bits then decoded.bitLen = bits.length - 1
    else decoded.bitLen = 0 ∨ decoded.bitLen = bits.length := by
  have hbits := h.bits_ge
  obtain ⟨one, rest, rfl⟩ := exists_cons_of_length_pos (Nat.lt_of_lt_of_le Nat.two_pos hmin)
  have hread := h.readings_inside 1 0 2 2 (by rfl) (by decide) (by decide) (by decide) (by omega)
  have hstart := weighPeeks_start_two_late one
  simp only [getElem?_cons_zero, getElem?_cons_succ] at hread
  rw [<- hread] at hstart
  rw [decodePhase]
  cases one with
  | false =>
    rw [decodeLoop_of_idle _ _ (by omega) (Nat.zero_le _) (by simpa using hstart)]
    exact .inl rfl
  | true =>
    obtain ⟨hstop, hadvance⟩ := by simpa using hstart
    have hrun : (decodeLoop window.bits_le (window.readings 2) manchesterRxMaxDecodedBits
        ((PhaseDecode.failed 2).push (window.readings 2 1).weight) 10).bitLen =
          (rest.foldl Lag.next Lag.ones).readLength (rest.length + 1) :=
      h.decodeLoop_lag (by simp only [length_cons] at *; omega)
        (by simp only [length_cons] at *; omega) rest rfl
        (show 1 <= 1 from Nat.le_refl 1) rfl rfl rfl rfl
    rw [decodeLoop_of_none _ _ (by omega) (Nat.zero_le _) hstop (show _ = 10 by rw [hadvance])]
    simp only [hrun, halfBitSlip, length_cons]
    generalize rest.foldl Lag.next Lag.ones = lag
    cases lag <;> simp [Lag.slips, Lag.readLength]

end CellWindow

end Oxidali.Phy
