import Oxidali.Lib.Words

/-!
# The weighted Manchester decoder

Samples are packed most significant bit first, eight to a data bit.  The decoder
reads eight samples around its position, keeps the reading whose two halves
differ most, and lets the position follow it by one tick either way.  A capture
is read at phase 0 first; four shifted phases are tried only when that reading
does not have a preferred length.
-/

namespace Oxidali.Phy

open Words

def daliRxSampleBufLen : Nat := 64

def manchesterRxMaxDecodedBits : Nat := 32

def manchesterRxMinDecodedBits : Nat := 3

def phaseScanCount : Nat := 4

def peekIdle : Byte := 0xFF

def peekHeld : Byte := 0x00

inductive PeekStop where
  | none
  | idle
  | held
  deriving DecidableEq

/-- A set of frame lengths, as the mask the source keeps. -/
structure BitLengths where
  mask : BitVec 32

namespace BitLengths

def ofList (lengths : List Nat) : BitLengths :=
  { mask := lengths.foldl (fun mask length => mask ||| (1#32 <<< length)) 0 }

def contains (lengths : BitLengths) (length : Nat) : Bool :=
  lengths.mask &&& (1#32 <<< length) != 0#32

end BitLengths

def sniffedBitLengths : BitLengths := BitLengths.ofList [8, 16, 24]

structure PhaseDecode where
  bitLen : Nat
  phaseTicks : Int
  score : Nat
  data : Vector Byte 8
  deriving DecidableEq

def PhaseDecode.failed (phaseTicks : Int) : PhaseDecode :=
  { bitLen := 0, phaseTicks, score := 0, data := Vector.replicate 8 0 }

/-- The copied samples, one recessive pad byte behind them. -/
structure SampleWindow where
  bytes : Vector Byte 66
  len : Nat
  bits : Nat
  bits_le : bits <= 512

/-!
## Weights
-/

variable (sample : Byte)

def bitWeight (bit : Nat) (weight : Int) : Int :=
  if (sample >>> bit) &&& 1#8 != 0#8 then weight else -weight

/-- How far the two halves of eight samples differ; odd when the line rises. -/
def sampleWeight : Nat :=
  let first := bitWeight sample 7 1 + bitWeight sample 6 2 +
    bitWeight sample 5 2 + bitWeight sample 4 1
  let second := bitWeight sample 3 1 + bitWeight sample 2 2 +
    bitWeight sample 1 2 + bitWeight sample 0 1
  let w := (first - second) * 2
  if w < 0 then (-w + 1).toNat else w.toNat

/-- How far one reading moves the position: a data bit, one tick either way. -/
abbrev Advance := { ticks : Nat // 7 <= ticks ∧ ticks <= 9 }

structure WeightedPeek where
  weight : Nat
  advance : Advance
  stop : PeekStop
  deriving DecidableEq

def peekStop : PeekStop :=
  if sample = peekIdle then .idle
  else if sample = peekHeld then .held
  else .none

/-- The best of three neighbouring readings.  Ties keep the centre, and whether
the line has stopped is judged on the late reading only. -/
def weighPeeks (early centre late : Byte) : WeightedPeek :=
  let afterEarly : Nat × Advance :=
    if sampleWeight centre < sampleWeight early
    then (sampleWeight early, ⟨7, by decide⟩)
    else (sampleWeight centre, ⟨8, by decide⟩)
  if afterEarly.1 < sampleWeight late
  then ⟨sampleWeight late, ⟨9, by decide⟩, peekStop late⟩
  else ⟨afterEarly.1, afterEarly.2, peekStop late⟩

namespace SampleWindow

/-- `of_capture` of the source; its copy loop fills the first `n` places. -/
def ofCapture (samples : Vector Byte 64) (sampleCount : Nat) : SampleWindow :=
  let n := min sampleCount daliRxSampleBufLen
  { bytes := Vector.ofFn fun i =>
      if i.val < n then (samples[i.val]?).getD 0
      else if i.val = n then peekIdle else 0
    len := n + 1
    bits := n * 8
    bits_le := by
      have h : n <= 64 := Nat.min_le_right _ _
      omega }

variable (window : SampleWindow)

def byte (pos : Nat) : Option Byte :=
  if window.len <= pos then none else window.bytes[pos]?

def sampleBit (bitpos : Int) : Byte :=
  if bitpos < 0 then (window.byte 0).getD peekIdle >>> 7
  else
    let bitpos := bitpos.toNat
    if window.bits <= bitpos then 1
    else ((window.byte (bitpos / 8)).getD peekIdle <<< (bitpos % 8)) >>> 7

/-- Eight samples that straddle two neighbouring bytes. -/
def joinBytes (first next : Byte) (shift : Nat) : Byte :=
  ((first.setWidth 16 <<< shift) ||| (next.setWidth 16 >>> (8 - shift))).setWidth 8

def peek8 (bitpos : Nat) (phaseTicks : Int) : Byte :=
  let shifted := wrapI16 (wrapI16 bitpos + phaseTicks)
  if 0 <= shifted then
    let pos := shifted.toNat / 8
    let shift := shifted.toNat % 8
    match window.byte pos, window.byte (saturatingAdd u16Max pos 1) with
    | none, _ => peekIdle
    | some first, some next => joinBytes first next shift
    | some first, none => joinBytes first 0 shift
  else
    (List.range 8).foldl
      (fun sample offset => (sample <<< 1) ||| window.sampleBit (shifted + offset)) 0

def weightedPeekAround (bitpos : Nat) (phaseTicks : Int) : WeightedPeek :=
  weighPeeks (window.peek8 (wrappingSub u16Max bitpos 1) phaseTicks)
    (window.peek8 bitpos phaseTicks) (window.peek8 (saturatingAdd u16Max bitpos 1) phaseTicks)

end SampleWindow

/-!
## One phase
-/

-- The first reading is the start bit and is not kept.
def pushDecodedBit (data : Vector Byte 8) (bitLen weight : Nat) : Vector Byte 8 :=
  if bitLen = 0 then data
  else
    let index := bitLen - 1
    match data[index / 8]? with
    | none => data
    | some byte =>
      let cleared := if index % 8 = 0 then 0#8 else byte
      data.setIfInBounds (index / 8) ((cleared <<< 1) ||| BitVec.ofNat 8 (weight % 2))

def PhaseDecode.push (out : PhaseDecode) (weight : Nat) : PhaseDecode :=
  { out with
    score := saturatingAdd u16Max out.score weight
    data := pushDecodedBit out.data out.bitLen weight
    bitLen := saturatingAdd u8Max out.bitLen 1 }

/-- The reading without its start bit. -/
def PhaseDecode.finish (out : PhaseDecode) : PhaseDecode :=
  if 1 < out.bitLen then { out with bitLen := out.bitLen - 1 } else out

theorem decodeLoop_decreasing {bits bitpos : Nat} (advance : Advance) (hbits : bits <= 512)
    (h : saturatingAdd u16Max bitpos 1 < bits) :
    bits - saturatingAdd u16Max bitpos advance.val < bits - bitpos := by
  simp only [saturatingAdd, u16Max] at *
  omega

/-- The loop of `decode_phase`, over the readings a window gives. -/
def decodeLoop {bits : Nat} (hbits : bits <= 512) (peek : Nat -> WeightedPeek) (maxOutBits : Nat)
    (out : PhaseDecode) (bitpos : Nat) : PhaseDecode :=
  if _hmore : saturatingAdd u16Max bitpos 1 < bits then
    if maxOutBits < out.bitLen then out.finish
    else
      match (peek bitpos).stop with
      | .idle => out.finish
      | .held => PhaseDecode.failed out.phaseTicks
      | .none =>
        decodeLoop hbits peek maxOutBits (out.push (peek bitpos).weight)
          (saturatingAdd u16Max bitpos (peek bitpos).advance.val)
  else out.finish
termination_by bits - bitpos
decreasing_by exact decodeLoop_decreasing (peek bitpos).advance hbits _hmore

section DecodeLoop

variable {bits : Nat} (hbits : bits <= 512) (peek : Nat -> WeightedPeek)
  {maxOutBits bitpos : Nat} {out : PhaseDecode}

section

variable (hmore : bitpos + 1 < bits) (hroom : out.bitLen <= maxOutBits)
include hmore hroom

theorem decodeLoop_of_read {weight next : Nat} {advance : Advance}
    (hread : peek bitpos = ⟨weight, advance, .none⟩) (hnext : bitpos + advance.val = next) :
    decodeLoop hbits peek maxOutBits out bitpos =
      decodeLoop hbits peek maxOutBits (out.push weight) next := by
  have hone : saturatingAdd u16Max bitpos 1 = bitpos + 1 :=
    saturatingAdd_of_le (by simp only [u16Max]; omega)
  have hsum : saturatingAdd u16Max bitpos advance.val = next :=
    (saturatingAdd_of_le (by simp only [u16Max]; omega)).trans hnext
  rw [decodeLoop, hone, dif_pos hmore, if_neg (Nat.not_lt.mpr hroom), hread]
  simp only [hsum]

theorem decodeLoop_of_none {next : Nat} (hstop : (peek bitpos).stop = .none)
    (hnext : bitpos + (peek bitpos).advance.val = next) :
    decodeLoop hbits peek maxOutBits out bitpos =
      decodeLoop hbits peek maxOutBits (out.push (peek bitpos).weight) next := by
  apply decodeLoop_of_read hbits peek hmore hroom _ hnext
  rw [<- hstop]

theorem decodeLoop_of_idle (hstop : (peek bitpos).stop = .idle) :
    decodeLoop hbits peek maxOutBits out bitpos = out.finish := by
  have hone : saturatingAdd u16Max bitpos 1 = bitpos + 1 :=
    saturatingAdd_of_le (by simp only [u16Max]; omega)
  rw [decodeLoop, hone, dif_pos hmore, if_neg (Nat.not_lt.mpr hroom), hstop]

theorem decodeLoop_of_held (hstop : (peek bitpos).stop = .held) :
    decodeLoop hbits peek maxOutBits out bitpos = PhaseDecode.failed out.phaseTicks := by
  have hone : saturatingAdd u16Max bitpos 1 = bitpos + 1 :=
    saturatingAdd_of_le (by simp only [u16Max]; omega)
  rw [decodeLoop, hone, dif_pos hmore, if_neg (Nat.not_lt.mpr hroom), hstop]

end

end DecodeLoop

namespace SampleWindow

def readings (window : SampleWindow) (phaseTicks : Int) (bitpos : Nat) : WeightedPeek :=
  window.weightedPeekAround bitpos phaseTicks

def decodePhase (window : SampleWindow) (maxOutBits : Nat) (phaseTicks : Int) : PhaseDecode :=
  decodeLoop window.bits_le (window.readings phaseTicks) maxOutBits
    (PhaseDecode.failed phaseTicks) 1

end SampleWindow

/-!
## The best of five phases
-/

/-- The phases tried after phase 0: -2, -1, 1 and 2 ticks. -/
def scanPhase (index : Nat) : Int :=
  let offset : Int := (index % 4 : Nat) - 2
  if 0 <= offset then offset + 1 else offset

/-- A readable length first, then the score, then the smaller shift. -/
def isBetterDecode (candidate current : PhaseDecode) (preferred : BitLengths) : Bool :=
  let candidatePreferred := preferred.contains candidate.bitLen
  if candidatePreferred != preferred.contains current.bitLen then
    candidatePreferred
  else if candidate.score ≠ current.score then
    current.score < candidate.score
  else if candidate.phaseTicks.natAbs ≠ current.phaseTicks.natAbs then
    candidate.phaseTicks.natAbs < current.phaseTicks.natAbs
  else candidate.phaseTicks = 0 && current.phaseTicks ≠ 0

inductive IsrDecode where
  | notDecoded
  | decoded (found : Option PhaseDecode)
  deriving DecidableEq

inductive PhaseSearch where
  | searching
  | done (found : Option PhaseDecode)

def accepted (found : Option PhaseDecode) : Option PhaseDecode :=
  match found with
  | some decode =>
    if manchesterRxMinDecodedBits <= decode.bitLen then some decode else none
  | none => none

/-- What the best reading becomes when a phase has been read. -/
def keepBetter (preferred : BitLengths) (best : Option PhaseDecode)
    (candidate : PhaseDecode) : Option PhaseDecode :=
  if candidate.bitLen = 0 then best
  else
    match best with
    | none => some candidate
    | some current =>
      if isBetterDecode candidate current preferred
      then some candidate else some current

structure BestPhaseSearch where
  preferred : BitLengths
  step : Nat
  best : Option PhaseDecode

namespace BestPhaseSearch

variable (preferred : BitLengths)

def new : BestPhaseSearch :=
  { preferred, step := 0, best := none }

variable (decodePhase : Int -> PhaseDecode)

/-- One phase of the search, over the reading each phase gives. -/
def stepWith (search : BestPhaseSearch) : BestPhaseSearch × PhaseSearch :=
  if search.step = 0 then
    let first := decodePhase 0
    ({ search with step := 1 },
      if search.preferred.contains first.bitLen then .done (accepted (some first)) else .searching)
  else if phaseScanCount < search.step then
    (search, .done (accepted search.best))
  else
    let best := keepBetter search.preferred search.best (decodePhase (scanPhase (search.step - 1)))
    let next := saturatingAdd u8Max search.step 1
    ({ search with step := next, best },
      if phaseScanCount < next then .done (accepted best) else .searching)

variable {search : BestPhaseSearch}

theorem stepWith_searching {decodePhase : Int -> PhaseDecode}
    (h : (search.stepWith decodePhase).2 = .searching) :
    (search.stepWith decodePhase).1.step = search.step + 1 ∧ search.step < phaseScanCount := by
  revert h
  simp only [stepWith, saturatingAdd, u8Max, phaseScanCount]
  grind

def runWith (decodePhase : Int -> PhaseDecode) (search : BestPhaseSearch) : Option PhaseDecode :=
  match _hstep : (search.stepWith decodePhase).2 with
  | .done found => found
  | .searching => runWith decodePhase (search.stepWith decodePhase).1
termination_by phaseScanCount + 1 - search.step
decreasing_by
  have hnext := stepWith_searching _hstep
  omega

theorem runWith_of_done {decodePhase : Int -> PhaseDecode} {next : BestPhaseSearch}
    {found : Option PhaseDecode} (h : search.stepWith decodePhase = (next, .done found)) :
    search.runWith decodePhase = found := by
  rw [runWith]
  split <;> simp_all

theorem runWith_of_searching {decodePhase : Int -> PhaseDecode} {next : BestPhaseSearch}
    (h : search.stepWith decodePhase = (next, .searching)) :
    search.runWith decodePhase = next.runWith decodePhase := by
  rw [runWith]
  split <;> simp_all

private theorem runWith_scan (best : Option PhaseDecode) {step : Nat} (hpos : 0 < step)
    (hlt : step < phaseScanCount) :
    runWith decodePhase { preferred, step, best } = runWith decodePhase
        { preferred, step := step + 1
          best := keepBetter preferred best (decodePhase (scanPhase (step - 1))) } := by
  apply runWith_of_searching
  simp only [phaseScanCount] at hlt
  have hnext : saturatingAdd u8Max step 1 = step + 1 :=
    saturatingAdd_of_le (by simp only [u8Max]; omega)
  have hnot : ¬ phaseScanCount < step := by simp only [phaseScanCount]; omega
  have hmore : ¬ phaseScanCount < step + 1 := by
    simp only [phaseScanCount]
    omega
  simp [stepWith, hnext, hnot, hmore, Nat.ne_of_gt hpos]

/-- The search reads phase 0 alone when that has a preferred length, and the
best of the four shifted phases otherwise. -/
theorem runWith_new :
    (new preferred).runWith decodePhase = if preferred.contains (decodePhase 0).bitLen
      then accepted (some (decodePhase 0))
      else
        accepted (([-2, -1, 1, 2].map decodePhase).foldl (keepBetter preferred) none) := by
  by_cases hfirst : preferred.contains (decodePhase 0).bitLen = true
  · rw [if_pos hfirst]
    have hdone : (new preferred).stepWith decodePhase =
        ({ preferred, step := 1, best := none }, .done (accepted (some (decodePhase 0)))) := by
      simp [stepWith, new, hfirst]
    exact runWith_of_done hdone
  · have hstart : (new preferred).stepWith decodePhase =
        ({ preferred, step := 1, best := none }, .searching) := by
      simp [stepWith, new, hfirst]
    rw [if_neg hfirst, runWith_of_searching hstart, runWith_scan _ _ _ (by decide) (by decide),
      runWith_scan _ _ _ (by decide) (by decide), runWith_scan _ _ _ (by decide) (by decide)]
    exact runWith_of_done rfl

def run (search : BestPhaseSearch) (window : SampleWindow) : Option PhaseDecode :=
  search.runWith (window.decodePhase manchesterRxMaxDecodedBits)

end BestPhaseSearch

theorem keepBetter_cases (preferred : BitLengths) (best : Option PhaseDecode)
    (candidate : PhaseDecode) :
    keepBetter preferred best candidate = best ∨ candidate.bitLen ≠ 0 ∧
        keepBetter preferred best candidate = some candidate := by
  unfold keepBetter
  grind

variable {preferred : BitLengths}

theorem foldl_keepBetter_mem {candidates : List PhaseDecode} {best : Option PhaseDecode}
    {found : PhaseDecode} (h : candidates.foldl (keepBetter preferred) best = some found) :
    best = some found ∨ found ∈ candidates := by
  refine List.foldlRecOn (motive := fun kept : Option PhaseDecode => kept = some found ->
    best = some found ∨ found ∈ candidates) _ _ .inl ?_ h
  intro kept hkept candidate hmem hnext
  rcases keepBetter_cases preferred kept candidate with hsame | ⟨_, hnew⟩
  · exact hkept (hsame.symm.trans hnext)
  · cases hnew.symm.trans hnext
    exact .inr hmem

theorem keepBetter_preferred {best : Option PhaseDecode} {candidate : PhaseDecode}
    (hzero : preferred.contains 0 = false)
    (h : preferred.contains candidate.bitLen ∨ exists current, best = some current ∧
        preferred.contains current.bitLen) :
    exists found, keepBetter preferred best candidate = some found ∧
      preferred.contains found.bitLen := by
  by_cases hlen : candidate.bitLen = 0
  · rcases h with hcandidate | ⟨current, hbest, hcurrent⟩
    · simp [hlen, hzero] at hcandidate
    · exact ⟨current, by simp [keepBetter, hlen, hbest], hcurrent⟩
  · cases best with
    | none =>
      rcases h with hcandidate | ⟨current, hbest, _⟩
      · exact ⟨candidate, by simp [keepBetter, hlen], hcandidate⟩
      · cases hbest
    | some current =>
      simp only [keepBetter, hlen, if_false, isBetterDecode]
      grind

/-- A preferred length among the candidates is never lost to an unreadable
one, whatever their scores. -/
theorem foldl_keepBetter_preferred (candidates : List PhaseDecode) (best : Option PhaseDecode)
    (hzero : preferred.contains 0 = false)
    (h : (exists current, best = some current ∧ preferred.contains current.bitLen) ∨
      exists candidate, candidate ∈ candidates ∧ preferred.contains candidate.bitLen) :
    exists found, candidates.foldl (keepBetter preferred) best = some found ∧
      preferred.contains found.bitLen := by
  induction candidates generalizing best with
  | nil =>
    rcases h with hbest | ⟨_, hmem, _⟩
    · exact hbest
    · cases hmem
  | cons candidate candidates ih =>
    rcases h with hbest | ⟨chosen, hmem, hchosen⟩
    · exact ih _ (.inl (keepBetter_preferred hzero (.inr hbest)))
    · rcases List.mem_cons.mp hmem with rfl | hlater
      · exact ih _ (.inl (keepBetter_preferred hzero (.inl hchosen)))
      · exact ih _ (.inr ⟨chosen, hlater, hchosen⟩)

end Oxidali.Phy
