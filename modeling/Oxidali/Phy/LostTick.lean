import Oxidali.Phy.Capture

/-!
# Reading a capture that lost one tick

A capture without one of its samples is no longer made of whole cells: one half
of one data bit is a sample short and everything behind it stands one sample
earlier.  The decoder at phase 0 is on the first sample of a cell or one behind
it, and one lost sample moves it from the first place to the second at most.
-/

namespace Oxidali.Phy

open Words SampleWindow List BitVec

variable (levels : List Bool) (position : Nat)

/-- Eight samples from a position on, recessive behind the last one. -/
def byteAt : Byte :=
  packByte ((range 8).map (fun i => levels.getD (position + i) true))

theorem getLsbD_byteAt {i : Nat} (hi : i < 8) :
    (byteAt levels position).getLsbD i = levels.getD (position + (7 - i)) true := by
  have hlt : 7 - i < 8 := by omega
  rw [byteAt, getLsbD_packByte _ hi, getD_eq_getElem?_getD, getElem?_reverse (by simpa using hi)]
  simp [hlt]

theorem joinBytes_byteAt {shift : Nat} (hshift : shift < 8) :
    joinBytes (byteAt levels position) (byteAt levels (position + 8))
      shift = byteAt levels (position + shift) := by
  apply eq_of_getLsbD_eq
  intro i hi
  simp only [joinBytes, getLsbD_setWidth, getLsbD_or, getLsbD_shiftLeft, getLsbD_ushiftRight]
  have hwide : i < 16 := by omega
  rcases Nat.lt_or_ge i shift with hlow | hhigh
  · have hnext : 8 - shift + i < 8 := by omega
    have hnext' : 8 - shift + i < 16 := by omega
    rw [getLsbD_byteAt _ _ hi, getLsbD_byteAt _ _ hnext,
      show position + 8 + (7 - (8 - shift + i)) = position + shift + (7 - i) by
        omega]
    simp [hi, hlow, hwide, hnext']
  · have hfirst : i - shift < 8 := by omega
    have hout : 8 <= 8 - shift + i := by omega
    rw [getLsbD_byteAt _ _ hi, getLsbD_byteAt _ _ hfirst, getLsbD_of_ge _ _ hout,
      show position + (7 - (i - shift)) = position + shift + (7 - i) by omega]
    simp [hi, hwide, Nat.not_lt.mpr hhigh, show i - shift < 16 by omega]

variable {position : Nat}

theorem byteAt_congr {levels others : List Bool} {place : Nat} (h : forall i, i < 8 ->
      levels.getD (position + i) true = others.getD (place + i) true) :
    byteAt levels position = byteAt others place := by
  unfold byteAt
  congr 1
  apply map_congr_left
  intro i hi
  exact h i (mem_range.mp hi)

/-- The first `count` bytes of the window, and the pad behind them, show the
samples. -/
structure TickWindow (window : SampleWindow) (levels : List Bool)
    (count : Nat) : Prop where
  byte_eq : forall k, k <= count -> window.byte k = some (byteAt levels (8 * k))
  bits_ge : 8 * count <= window.bits

/-- The reading of the samples from the one before the position on. -/
def weighAt (samples : List Bool) : WeightedPeek :=
  weighPeeks (byteAt samples 0) (byteAt samples 1) (byteAt samples 2)

theorem weighAt_congr {samples others : List Bool}
    (h : forall i, i < 10 -> samples.getD i true = others.getD i true) :
    weighAt samples = weighAt others := by
  have hbyte : forall place, place <= 2 -> byteAt samples place = byteAt others place := by
    intro place hplace
    apply byteAt_congr
    intro i hi
    exact h _ (by omega)
  rw [weighAt, weighAt, hbyte 0 (by decide), hbyte 1 (by decide), hbyte 2 (by decide)]

namespace TickWindow

variable {window : SampleWindow} {levels : List Bool} {count : Nat}

theorem peek8_eq (h : TickWindow window levels count) (hrange : position < 8 * count) :
    window.peek8 position 0 = byteAt levels position := by
  have hbits := h.bits_ge
  have hle := window.bits_le
  have hshifted := shifted_eq (show position <= 1000 by omega)
    (show (position : Int) + 0 = position by omega) (by omega)
  have hnext : saturatingAdd u16Max (position / 8) 1 = position / 8 + 1 :=
    saturatingAdd_of_le (by simp only [u16Max]; omega)
  simp only [peek8, hshifted, Int.natCast_nonneg, if_true, Int.toNat_natCast, hnext]
  rw [h.byte_eq _ (by omega), h.byte_eq _ (by omega)]
  simp only [Nat.mul_succ]
  rw [joinBytes_byteAt _ _ (Nat.mod_lt _ (by decide)), Nat.div_add_mod]

theorem readings_eq (h : TickWindow window levels count) (hrange : position + 2 < 8 * count) :
    window.readings 0 (position + 1) = weighAt (levels.drop position) := by
  have hbits := h.bits_ge
  have hle := window.bits_le
  have hearly : wrappingSub u16Max (position + 1) 1 = position :=
    wrappingSub_of_le (by omega)
  have hlate : saturatingAdd u16Max (position + 1) 1 = position + 2 :=
    saturatingAdd_of_le (by simp only [u16Max]; omega)
  have hdrop : forall place, byteAt (levels.drop position) place =
      byteAt levels (position + place) := by
    intro place
    apply byteAt_congr
    intro i _
    simp [getD_eq_getElem?_getD, Nat.add_assoc]
  rw [readings, weightedPeekAround, hearly, hlate, h.peek8_eq (by omega), h.peek8_eq (by omega),
    h.peek8_eq hrange, weighAt, hdrop, hdrop, hdrop]
  rfl

end TickWindow

/-!
## Cells with a sample missing
-/

/-- The half of a data bit that lost a sample. -/
inductive Loss where
  | none
  | first
  | second
  deriving DecidableEq

def cellTicks (one : Bool) : Loss -> List Bool
  | .none => bitLevels one
  | .first => replicate 3 (!one) ++ replicate 4 one
  | .second => replicate 4 (!one) ++ replicate 3 one

theorem length_cellTicks (one : Bool) (loss : Loss) :
    7 <= (cellTicks one loss).length ∧ (cellTicks one loss).length <= 8 := by
  cases loss <;> simp [cellTicks, bitLevels]

variable (cells : List (Bool × Loss))

def lossyTicks : List Bool :=
  cells.flatMap (fun cell => cellTicks cell.1 cell.2)

theorem length_lossyTicks : (lossyTicks cells).length <= 8 * cells.length := by
  induction cells with
  | nil => exact Nat.zero_le _
  | cons cell cells ih =>
    have hcell := (length_cellTicks cell.1 cell.2).2
    rw [lossyTicks, flatMap_cons, length_append, length_cons]
    rw [lossyTicks] at ih
    omega

/-- No cell lost a sample. -/
def Whole : Prop :=
  forall cell, cell ∈ cells -> cell.2 = .none

/-- At most one cell lost a sample, and it lost one. -/
def LostOne : List (Bool × Loss) -> Prop
  | [] => True
  | cell :: cells => (cell.2 = .none ∧ LostOne cells) ∨ Whole cells

variable {cells : List (Bool × Loss)}

theorem LostOne.tail {cell : Bool × Loss} (h : LostOne (cell :: cells)) : LostOne cells := by
  rcases h with ⟨_, hlater⟩ | hwhole
  · exact hlater
  · cases cells with
    | nil => exact True.intro
    | cons cell cells =>
      exact .inr (fun other hmem => hwhole other (mem_cons_of_mem _ hmem))

theorem LostOne.whole {cell : Bool × Loss} (h : LostOne (cell :: cells))
    (hcell : cell.2 ≠ .none) : Whole cells := by
  rcases h with ⟨hnone, _⟩ | hwhole
  · exact absurd hnone hcell
  · exact hwhole

theorem lossyTicks_opens (cells : List (Bool × Loss)) (idle : Nat) :
    exists first, forall i, i < 3 ->
      (lossyTicks cells ++ replicate idle true).getD i true = first := by
  cases cells with
  | nil =>
    refine ⟨true, ?_⟩
    intro i _
    simp only [lossyTicks, flatMap_nil, nil_append, getD_eq_getElem?_getD, getElem?_replicate]
    split <;> rfl
  | cons cell cells =>
    refine ⟨!cell.1, ?_⟩
    intro i hi
    have hlong : i < (cellTicks cell.1 cell.2).length :=
      Nat.lt_of_lt_of_le (by omega) (length_cellTicks cell.1 cell.2).1
    rw [lossyTicks, flatMap_cons, List.append_assoc, getD_append _ _ _ _ hlong]
    obtain rfl | rfl | rfl : i = 0 ∨ i = 1 ∨ i = 2 := by omega
    · cases cell.2 <;> rfl
    · cases cell.2 <;> rfl
    · cases cell.2 <;> rfl

theorem weighAt_opens {near behind : List Bool} {first : Bool} (hnear : 7 <= near.length)
    (hopens : forall i, i < 3 -> behind.getD i true = first) :
    weighAt (near ++ behind) = weighAt (near ++ replicate 3 first) := by
  apply weighAt_congr
  intro i hi
  rcases Nat.lt_or_ge i near.length with hlt | hge
  · rw [getD_append _ _ _ _ hlt, getD_append _ _ _ _ hlt]
  · rw [getD_append_right _ _ _ _ hge, getD_append_right _ _ _ _ hge,
      hopens _ (by omega), getD_replicate _ (by omega)]

/-- What one reading does: the bit of the cell, and a position on the first
sample of the next cell, or, once a sample was lost, one behind it. -/
structure ReadsCell (peek : WeightedPeek) (one : Bool) (loss : Loss)
    (lead : List Bool) : Prop where
  stop : peek.stop = .none
  weight : peek.weight % 2 = one.toNat
  advance : peek.advance.val + 1 = lead.length + (cellTicks one loss).length ∨
    loss ≠ .none ∧ peek.advance.val = lead.length + (cellTicks one loss).length

instance (peek : WeightedPeek) (one : Bool) (loss : Loss) (lead : List Bool) :
    Decidable (ReadsCell peek one loss lead) :=
  decidable_of_iff (peek.stop = .none ∧ peek.weight % 2 = one.toNat ∧
      (peek.advance.val + 1 = lead.length + (cellTicks one loss).length ∨ loss ≠ .none ∧
          peek.advance.val = lead.length + (cellTicks one loss).length))
    ⟨fun h => ⟨h.1, h.2.1, h.2.2⟩, fun h => ⟨h.stop, h.weight, h.advance⟩⟩

theorem readsCell_inPlace (before one first : Bool) (loss : Loss) :
    ReadsCell (weighAt ([before] ++ cellTicks one loss ++
      replicate 3 first)) one loss [before] := by
  revert before one first
  cases loss <;> decide

theorem readsCell_late (one first : Bool) :
    ReadsCell (weighAt (cellTicks one .none ++ replicate 3 first)) one .none [] := by
  revert one first
  decide

theorem readsCell_start (first : Bool) (loss : Loss) :
    ReadsCell (weighAt (cellTicks true loss ++ replicate 3 first)) true loss [] := by
  revert first
  cases loss <;> decide

/-!
## The loop
-/

namespace TickWindow

variable {window : SampleWindow} {levels : List Bool} {count : Nat} {idle : Nat} {lead : List Bool}

theorem reads_lossy (h : TickWindow window levels count)
    {one : Bool} {loss : Loss} (hdrop : levels.drop position =
      lead ++ lossyTicks ((one, loss) :: cells) ++ replicate idle true)
    (hrange : position + 2 < 8 * count) (hcell : forall first, ReadsCell
      (weighAt (lead ++ cellTicks one loss ++ List.replicate 3 first)) one loss
      lead) : ReadsCell (window.readings 0 (position + 1)) one loss lead := by
  rcases lossyTicks_opens cells idle with ⟨first, hopens⟩
  have hlong : 7 <= (lead ++ cellTicks one loss).length := by
    rw [length_append]
    exact Nat.le_add_left_of_le (length_cellTicks one loss).1
  have hsplit : levels.drop position = lead ++ cellTicks one loss ++
      (lossyTicks cells ++ replicate idle true) := by
    rw [hdrop, lossyTicks, lossyTicks, flatMap_cons]
    simp only [List.append_assoc]
  rw [h.readings_eq hrange, hsplit, weighAt_opens hlong hopens]
  exact hcell first

/-- The samples from the position a reading leaves on: the cell that was read is
behind, with its last sample kept when the reading is in place. -/
theorem drop_lossy {one : Bool} {loss : Loss} {peek : WeightedPeek}
    (hdrop : levels.drop position =
      lead ++ lossyTicks ((one, loss) :: cells) ++ replicate idle true)
    (hread : ReadsCell peek one loss lead) (hlost : LostOne ((one, loss) :: cells)) :
    exists kept : List Bool, levels.drop (position + peek.advance.val) =
          kept ++ lossyTicks cells ++ replicate idle true ∧
        (kept.length = 1 ∨ kept = [] ∧ Whole cells) ∧ peek.advance.val + kept.length =
          lead.length + (cellTicks one loss).length := by
  have hsplit : levels.drop position = (lead ++ cellTicks one loss) ++
      (lossyTicks cells ++ replicate idle true) := by
    rw [hdrop, lossyTicks, lossyTicks, flatMap_cons]
    simp only [List.append_assoc]
  refine ⟨(lead ++ cellTicks one loss).drop peek.advance.val, ?_, ?_, ?_⟩
  · rw [<- drop_drop, hsplit, drop_append_of_le_length, List.append_assoc]
    rw [length_append]
    rcases hread.advance with hplace | ⟨_, hlate⟩ <;> omega
  · rcases hread.advance with hplace | ⟨hshorter, hlate⟩
    · left
      rw [length_drop, length_append]
      omega
    · right
      refine ⟨drop_eq_nil_of_le ?_, hlost.whole hshorter⟩
      rw [length_append]
      omega
  · rw [length_drop, length_append]
    rcases hread.advance with hplace | ⟨_, hlate⟩ <;> omega

theorem stops_behind (h : TickWindow window levels count)
    (hlead : lead.length <= 1) (hdrop : levels.drop position =
      lead ++ lossyTicks [] ++ replicate idle true)
    (hrange : position + 2 < 8 * count) : (window.readings 0 (position + 1)).stop = .idle := by
  have hpad : weighAt (levels.drop position) = weighAt lead := by
    apply weighAt_congr
    intro i _
    rw [hdrop, lossyTicks, flatMap_nil, append_nil]
    rcases Nat.lt_or_ge i lead.length with hlt | hge
    · rw [getD_append _ _ _ _ hlt]
    · rw [getD_append_right _ _ _ _ hge, getD_eq_default _ _ hge,
        getD_eq_getElem?_getD, getElem?_replicate]
      split <;> rfl
  rw [h.readings_eq hrange, hpad]
  match lead, hlead with
  | [], _ => decide
  | [before], _ => cases before <;> decide

/-- From the first sample of a cell on, or one behind it when every cell that is
left is whole, the loop reads exactly the bits that are left. -/
theorem decodeLoop_lossy (h : TickWindow window levels count) (cells : List (Bool × Loss))
    (lead : List Bool) (position : Nat) (out : PhaseDecode) (packed : Packed)
    (hlead : lead.length = 1 ∨ lead = [] ∧ Whole cells) (hlost : LostOne cells)
    (hdrop : levels.drop position = lead ++ lossyTicks cells ++ replicate idle true)
    (hrange : position + lead.length + 8 * cells.length + 8 <= 8 * count)
    (hout : out.Collected packed)
    (hroom : 8 * packed.1.length + packed.2.length + cells.length <= 31) :
    exists final : PhaseDecode,
      decodeLoop window.bits_le (window.readings 0) manchesterRxMaxDecodedBits
          out (position + 1) = final.finish ∧
        final.Collected ((cells.map Prod.fst).foldl packStep packed) := by
  have hbits := h.bits_ge
  have hfits : out.bitLen <= manchesterRxMaxDecodedBits := by
    rw [hout.bitLen]
    simp only [manchesterRxMaxDecodedBits]
    omega
  induction cells generalizing lead position out packed with
  | nil =>
    have hshort : lead.length <= 1 := by
      rcases hlead with hone | ⟨rfl, _⟩
      · omega
      · exact Nat.zero_le _
    refine ⟨out, ?_, hout⟩
    apply decodeLoop_of_idle _ _ _ hfits
    · exact h.stops_behind hshort hdrop (by omega)
    · omega
  | cons cell cells ih =>
    rcases cell with ⟨one, loss⟩
    rw [length_cons] at hrange hroom
    have hcell : forall first, ReadsCell
        (weighAt (lead ++ cellTicks one loss ++ List.replicate 3 first)) one
        loss lead := by
      intro first
      rcases hlead with hone | ⟨rfl, hwhole⟩
      · rcases length_eq_one_iff.mp hone with ⟨before, rfl⟩
        exact readsCell_inPlace before one first loss
      · have hnone : loss = .none := hwhole _ mem_cons_self
        subst hnone
        exact readsCell_late one first
    have hread := h.reads_lossy hdrop (by omega) hcell
    rcases drop_lossy hdrop hread hlost with ⟨kept, hkept, hnext, hplace⟩
    have hshort := length_cellTicks one loss
    have hpushed := hout.push (by omega) hread.weight
    have hsize := hpushed.bitLen
    have hpush : (out.push (window.readings 0 (position + 1)).weight).bitLen =
        out.bitLen + 1 :=
      saturatingAdd_of_le (by
        simp only [manchesterRxMaxDecodedBits, u8Max] at *; omega)
    rw [hpush, hout.bitLen] at hsize
    rw [decodeLoop_of_none _ _ (by omega) hfits hread.stop (Nat.add_right_comm position 1 _)]
    exact ih kept _ _ (packStep packed one) hnext hlost.tail hkept (by omega) hpushed (by omega)
      (by rw [hpush, hout.bitLen]; simp only [manchesterRxMaxDecodedBits]; omega)

/-- At phase 0 a capture of whole cells but one, which lost a sample, is read as
if it had not. -/
theorem decodePhase_lossy (h : TickWindow window levels count) {loss : Loss}
    (hlost : LostOne ((true, loss) :: cells)) (hlevels : levels =
      lossyTicks ((true, loss) :: cells) ++ replicate idle true)
    (hcount : cells.length + 2 <= count) (hlen : cells.length <= 31) :
    exists final : PhaseDecode, window.decodePhase manchesterRxMaxDecodedBits 0 = final.finish ∧
        final.Collected ((cells.map Prod.fst).foldl packStep ([], [])) := by
  have hbits := h.bits_ge
  have hdrop : levels.drop 0 =
      [] ++ lossyTicks ((true, loss) :: cells) ++ replicate idle true :=
    hlevels
  have hread := h.reads_lossy hdrop (by omega) (fun first => readsCell_start first loss)
  rcases drop_lossy hdrop hread hlost with ⟨kept, hkept, hnext, hplace⟩
  have hshort := length_cellTicks true loss
  have hstart : ((PhaseDecode.failed 0).push
      (window.readings 0 (0 + 1)).weight).Collected ([], []) :=
    ⟨rfl, by decide, by simp, by simp⟩
  rw [decodePhase, decodeLoop_of_none _ _ (by omega)
    (Nat.zero_le _) hread.stop (Nat.add_right_comm 0 1 _)]
  exact h.decodeLoop_lossy cells kept _ _ _ hnext hlost.tail hkept
    (by simp only [length_nil] at hplace; omega) hstart
    (by simpa using hlen)

end TickWindow

/-!
## Losing a tick
-/

theorem eraseIdx_bitLevels (one : Bool) {place : Nat} (h : place < 8) :
    (bitLevels one).eraseIdx place = cellTicks one (if place < 4 then .first else .second) := by
  have hall : forall (one : Bool) (place : Fin 8), (bitLevels one).eraseIdx place.val =
        cellTicks one (if place.val < 4 then .first else .second) := by
    decide
  exact hall one ⟨place, h⟩

theorem lossyTicks_whole (bits : List Bool) :
    lossyTicks (bits.map (fun one => (one, Loss.none))) = bits.flatMap bitLevels := by
  rw [lossyTicks, flatMap_map]
  rfl

/-- Without one tick a frame and the line behind it are cells that lost one
sample at most. -/
theorem eraseIdx_levels (bits : List Bool) (idle place : Nat) :
    exists (cells : List (Bool × Loss)) (rest : Nat),
      (bits.flatMap bitLevels ++ replicate idle true).eraseIdx place =
          lossyTicks cells ++ replicate rest true ∧
        cells.map Prod.fst = bits ∧ LostOne cells := by
  induction bits generalizing place with
  | nil =>
    simp only [flatMap_nil, nil_append]
    rcases Nat.lt_or_ge place idle with hlt | hge
    · refine ⟨[], idle - 1, ?_, rfl, True.intro⟩
      rw [eraseIdx_replicate, if_pos hlt]
      rfl
    · refine ⟨[], idle, ?_, rfl, True.intro⟩
      rw [eraseIdx_replicate, if_neg (Nat.not_lt.mpr hge)]
      rfl
  | cons one bits ih =>
    have hlength : (bitLevels one).length = 8 := by simp [bitLevels]
    rw [flatMap_cons, List.append_assoc]
    rcases Nat.lt_or_ge place 8 with hlt | hge
    · refine ⟨(one, if place < 4 then .first else .second) ::
        bits.map (fun one => (one, Loss.none)), idle, ?_, ?_, .inr ?_⟩
      · rw [eraseIdx_append_of_lt_length (by omega), eraseIdx_bitLevels one hlt, lossyTicks,
          flatMap_cons, <- lossyTicks, lossyTicks_whole, List.append_assoc]
      · rw [map_cons, List.map_map]
        exact congrArg _ (List.map_id bits)
      · intro cell hmem
        rcases mem_map.mp hmem with ⟨_, _, rfl⟩
        rfl
    · rcases ih (place - 8) with ⟨cells, rest, hrest, hbits, hlost⟩
      refine ⟨(one, .none) :: cells, rest, ?_, by rw [map_cons, hbits], .inl ⟨rfl, hlost⟩⟩
      rw [eraseIdx_append_of_length_le (by omega), hlength, hrest,
        lossyTicks, lossyTicks, flatMap_cons, List.append_assoc]
      rfl

end Oxidali.Phy
