import Oxidali.Dali.BusUnit

/-!
# Changes that need a frame sent twice

A frame changes what the unit keeps over a power cycle only when it is the
second of a pair of identical frames, or programs the short address of a unit
that the search has selected.
-/

namespace Oxidali.Dali.BusUnit

open Words

/-! ## What one frame can do -/

/-- The work on the frame leaves alone what `feed` decided about it. -/
structure Kept (step next : Step) : Prop where
  twice : next.twice = step.twice
  pendingTwice : next.unit.pendingTwice = step.unit.pendingTwice
  revision : next.unit.revision = step.unit.revision

structure Quiet (step next : Step) : Prop extends Kept step next where
  nvm : next.unit.nvm = step.unit.nvm
  wireSequence : next.unit.wireSequence = step.unit.wireSequence
  nvmChanged : next.effects.nvmChanged = step.effects.nvmChanged

/-- The short address is one that a device can have. -/
def ShortValid (nvm : BusUnitNvm) : Prop :=
  forall address, nvm.shortAddress = some address -> address.toNat <= maxShortAddress

/-- A change of the non-volatile record is counted and told, and is made only if
`allowed`. -/
structure Acts (allowed : Prop) (step next : Step) : Prop extends Kept step next where
  counted : (next.unit.nvm = step.unit.nvm ∧ next.unit.wireSequence = step.unit.wireSequence
      ∧ next.effects.nvmChanged = step.effects.nvmChanged)
    ∨ (allowed ∧ next.unit.nvm ≠ step.unit.nvm
      ∧ next.unit.wireSequence = step.unit.wireSequence + 1 ∧ next.effects.nvmChanged = true)
  valid : ShortValid step.unit.nvm -> ShortValid next.unit.nvm

theorem Acts.weaken {allowed other : Prop} {step next : Step} (hacts : Acts allowed step next)
    (h : allowed -> other) : Acts other step next :=
  ⟨hacts.toKept, hacts.counted.imp_right (And.imp_left h), hacts.valid⟩

namespace Quiet

variable {allowed : Prop} {step mid next : Step}

theorem refl (step : Step) : Quiet step step :=
  ⟨⟨rfl, rfl, rfl⟩, rfl, rfl, rfl⟩

theorem acts (h : Quiet step next) : Acts allowed step next :=
  ⟨h.toKept, .inl ⟨h.nvm, h.wireSequence, h.nvmChanged⟩, fun hvalid => h.nvm ▸ hvalid⟩

theorem thenActs (h : Quiet step mid) (hacts : Acts allowed mid next) : Acts allowed step next := by
  constructor
  · exact ⟨hacts.twice.trans h.twice, hacts.pendingTwice.trans h.pendingTwice,
      hacts.revision.trans h.revision⟩
  · have hcounted := hacts.counted
    rw [h.nvm, h.wireSequence, h.nvmChanged] at hcounted
    exact hcounted
  · exact fun hvalid => hacts.valid (h.nvm ▸ hvalid)

theorem afterActs (hacts : Acts allowed step mid) (h : Quiet mid next) :
    Acts allowed step next := by
  constructor
  · exact ⟨h.twice.trans hacts.twice, h.pendingTwice.trans hacts.pendingTwice,
      h.revision.trans hacts.revision⟩
  · have hcounted := hacts.counted
    rw [<- h.nvm, <- h.wireSequence, <- h.nvmChanged] at hcounted
    exact hcounted
  · exact fun hvalid => h.nvm ▸ hacts.valid hvalid

end Quiet

namespace Step

variable {allowed : Prop}

theorem setNvm_acts (h : allowed) (step : Step) (change : BusUnitNvm -> BusUnitNvm)
    (hvalid : forall nvm, ShortValid nvm -> ShortValid (change nvm)) :
    Acts allowed step (step.setNvm change) := by
  unfold setNvm
  by_cases hchange : change step.unit.nvm = step.unit.nvm
  · rw [if_neg (not_not_intro hchange)]
    exact ⟨⟨rfl, rfl, rfl⟩, .inl ⟨hchange, rfl, rfl⟩, hvalid _⟩
  · rw [if_pos hchange]
    exact ⟨⟨rfl, rfl, rfl⟩, .inr ⟨h, hchange, rfl, rfl⟩, hvalid _⟩

theorem setNvm_acts_elsewhere (h : allowed) (step : Step) {change : BusUnitNvm -> BusUnitNvm}
    (hshort : forall nvm, (change nvm).shortAddress = nvm.shortAddress) :
    Acts allowed step (step.setNvm change) :=
  setNvm_acts h step change fun nvm hvalid address haddress =>
    hvalid address (hshort nvm ▸ haddress)

theorem shortAddressOperand_valid {value : Byte} {address : Option Byte}
    (h : shortAddressOperand value = some address) (nvm : BusUnitNvm) :
    ShortValid { nvm with shortAddress := address } := by
  intro short hshort
  have haddress : address = some short := hshort
  subst haddress
  unfold shortAddressOperand at h
  split at h
  · cases h
  · split at h
    · rename_i hle
      cases h
      exact hle
    · cases h

variable (step : Step)

theorem stopIdentification_quiet : Quiet step step.stopIdentification := by
  unfold stopIdentification
  split
  · exact ⟨⟨rfl, rfl, rfl⟩, rfl, rfl, rfl⟩
  · exact .refl step

theorem disableWrite_quiet : Quiet step step.disableWrite :=
  ⟨⟨rfl, rfl, rfl⟩, rfl, rfl, rfl⟩

theorem quiescent_quiet (start : Bool) : Quiet step (step.quiescent start) := by
  refine ⟨⟨rfl, rfl, rfl⟩, rfl, rfl, ?_⟩
  unfold quiescent
  cases start || step.unit.isQuiescent with
  | true | false => rfl

theorem changeGroups_acts (h : allowed) (step : Step) (shift : Nat) (add : Bool) :
    Acts allowed step (step.changeGroups shift add) := by
  unfold changeGroups
  split
  · exact setNvm_acts_elsewhere h step fun _ => rfl
  · exact (Quiet.refl step).acts

theorem control_acts (h : allowed) {step next : Step} {command : Device103Command}
    (hcontrol : step.control command = some next) : Acts allowed step next := by
  cases command with
  | identifyDevice | resetPowerCycleSeen =>
    cases hcontrol
    exact Quiet.acts ⟨⟨rfl, rfl, rfl⟩, rfl, rfl, rfl⟩
  | reset =>
    cases hcontrol
    have hchanged : Acts allowed step (step.setNvm fun nvm =>
        { nvm with deviceGroups := 0, randomAddress := factoryRandomAddress }) :=
      setNvm_acts_elsewhere h step fun _ => rfl
    unfold reset
    generalize (step.setNvm fun nvm =>
      { nvm with deviceGroups := 0, randomAddress := factoryRandomAddress }) = changed
      at hchanged ⊢
    refine Quiet.afterActs (Quiet.afterActs hchanged ?_) (quiescent_quiet _ false)
    exact ⟨⟨rfl, rfl, rfl⟩, rfl, rfl, rfl⟩
  | setShortAddress =>
    simp only [control] at hcontrol
    split at hcontrol
    · rename_i hoperand
      cases hcontrol
      rcases Option.bind_eq_some_iff.mp hoperand with ⟨value, _, hvalue⟩
      exact setNvm_acts h step _ fun nvm _ => shortAddressOperand_valid hvalue nvm
    · cases hcontrol
      exact (Quiet.refl step).acts
  | enableWriteMemory =>
    cases hcontrol
    exact Quiet.acts ⟨⟨rfl, rfl, rfl⟩, rfl, rfl, rfl⟩
  | setOperatingMode =>
    cases hcontrol
    unfold operatingMode
    split
    · exact setNvm_acts_elsewhere h step fun _ => rfl
    · exact (Quiet.refl step).acts
  | _ => cases hcontrol

theorem configure_acts (h : allowed) (step : Step) (command : Device103Command) :
    Acts allowed step (step.configure command) := by
  cases command with
  | enableApplicationController | disableApplicationController =>
    unfold configure
    exact setNvm_acts_elsewhere h step fun _ => rfl
  | startQuiescentMode => exact (quiescent_quiet step true).acts
  | stopQuiescentMode => exact (quiescent_quiet step false).acts
  | enablePowerCycleNotification | disablePowerCycleNotification =>
    unfold configure
    exact setNvm_acts_elsewhere h step fun _ => rfl
  | addToDeviceGroups0To15 | addToDeviceGroups16To31 | removeFromDeviceGroups0To15
  | removeFromDeviceGroups16To31 => exact changeGroups_acts h step _ _
  | _ => exact (Quiet.refl step).acts

theorem query_quiet (command : Device103Command) : Quiet step (step.query command) := by
  unfold query
  split
  · exact .refl step
  · exact ⟨⟨rfl, rfl, rfl⟩, rfl, rfl, rfl⟩

theorem ite_quiet {p : Prop} [Decidable p] {step yes no : Step} (hyes : Quiet step yes)
    (hno : Quiet step no) : Quiet step (if p then yes else no) := by
  split
  · exact hyes
  · exact hno

theorem device_acts (command : Device103Command) :
    Acts (step.twice) step (step.device command) := by
  unfold device
  have hwrite : Quiet step
      (if keepsWriteEnabledOnDevice command then step else step.disableWrite) :=
    ite_quiet (.refl step) step.disableWrite_quiet
  generalize (if keepsWriteEnabledOnDevice command then step else step.disableWrite)
    = ready at hwrite ⊢
  refine hwrite.thenActs ?_
  simp only
  split
  · exact (query_quiet ready command).acts
  · split
    · rename_i htwice
      have hallowed : step.twice := hwrite.twice ▸ htwice
      have hstop : Quiet ready
          (if command ≠ .identifyDevice then ready.stopIdentification else ready) :=
        ite_quiet ready.stopIdentification_quiet (.refl ready)
      generalize (if command ≠ .identifyDevice then ready.stopIdentification
        else ready) = stopped at hstop ⊢
      refine hstop.thenActs ?_
      cases hcontrol : stopped.control command with
      | some acted => exact control_acts hallowed hcontrol
      | none => exact configure_acts hallowed stopped command
    · exact (Quiet.refl ready).acts

theorem initialise_quiet (data : Byte) : Quiet step (step.initialise data) :=
  ite_quiet (.refl step) ⟨⟨rfl, rfl, rfl⟩, rfl, rfl, rfl⟩

theorem writeMemory_quiet : Quiet step step.writeMemory :=
  ite_quiet ⟨⟨rfl, rfl, rfl⟩, rfl, rfl, rfl⟩ (.refl step)

theorem directWrite_quiet (offset : Byte) : Quiet step (step.directWrite offset) :=
  ite_quiet ⟨⟨rfl, rfl, rfl⟩, rfl, rfl, rfl⟩ (.refl step)

theorem withdraw_quiet : Quiet step step.withdraw :=
  ite_quiet ⟨⟨rfl, rfl, rfl⟩, rfl, rfl, rfl⟩ (.refl step)

theorem testFrame_quiet (data : Byte) : Quiet step (step.testFrame data) := by
  refine ite_quiet (.refl step) (ite_quiet (.refl step) ?_)
  generalize step.unit.dtr2.or (if data &&& 0x20#8 ≠ 0 then some 0 else none) = dtr2
  rcases step.unit.dtr0 with _ | dtr0
  · exact .refl step
  · rcases step.unit.dtr1 with _ | dtr1
    · exact .refl step
    · rcases dtr2 with _ | dtr2
      · exact .refl step
      · exact ⟨⟨rfl, rfl, rfl⟩, rfl, rfl, rfl⟩

theorem randomise_acts (entropy : BitVec 32) : Acts (step.twice) step (step.randomise entropy) := by
  unfold randomise
  split
  · exact (Quiet.refl step).acts
  · rename_i hready
    exact setNvm_acts_elsewhere (by simp_all) step fun _ => rfl

end Step

/-- PROGRAM SHORT ADDRESS for a unit that is initialising and selected. -/
structure Programs (unit : Device103Unit) (bytes : FrameBytes) : Prop where
  special : bytes.address = 0xC1#8
  command : Special103Command.fromSelector bytes.instanceByte.toNat = some .programShortAddress
  initialising : unit.initialising = true
  selected : unit.selected = true

namespace Step

variable (step : Step)

/-- A search finds the unit as before. -/
structure SameSearch (step next : Step) : Prop where
  initialising : next.unit.initialising = step.unit.initialising
  selected : next.unit.selected = step.unit.selected

theorem stopIdentification_search : SameSearch step step.stopIdentification := by
  unfold stopIdentification
  split <;> exact ⟨rfl, rfl⟩

theorem search_acts (command : Special103Command) (data : Byte) :
    Acts (command = .programShortAddress ∧ step.unit.initialising
      ∧ step.unit.selected) step (step.search command data) := by
  unfold search
  split
  · exact (Quiet.refl step).acts
  · rename_i hinit
    cases command with
    | withdraw => exact (withdraw_quiet step).acts
    | programShortAddress =>
      simp only [programShortAddress]
      split
      · rename_i hselected
        split
        · rename_i hoperand
          exact setNvm_acts ⟨trivial, by simpa using hinit, hselected⟩ step _
            fun nvm _ => shortAddressOperand_valid hoperand nvm
        · exact (Quiet.refl step).acts
      · exact (Quiet.refl step).acts
    | searchAddrH | searchAddrM | searchAddrL =>
      exact Quiet.acts ⟨⟨rfl, rfl, rfl⟩, rfl, rfl, rfl⟩
    | _ => exact (Quiet.refl step).acts

theorem special_acts (command : Special103Command) (data : Byte) (entropy : BitVec 32) :
    Acts (step.twice ∨ (command = .programShortAddress
      ∧ step.unit.initialising ∧ step.unit.selected)) step (step.special command data entropy) := by
  unfold special
  have hwrite : Quiet step
      (if keepsWriteEnabled command then step else step.disableWrite) :=
    ite_quiet (.refl step) step.disableWrite_quiet
  have hsame : SameSearch step
      (if keepsWriteEnabled command then step else step.disableWrite) := by
    split <;> exact ⟨rfl, rfl⟩
  generalize (if keepsWriteEnabled command then step else step.disableWrite)
    = ready at hwrite hsame ⊢
  refine hwrite.thenActs ?_
  simp only
  have hstop : Quiet ready
      (if stopsIdentification command && (ready.twice || !command.sendTwice)
        then ready.stopIdentification else ready) :=
    ite_quiet ready.stopIdentification_quiet (.refl ready)
  have hsearch : SameSearch step
      (if stopsIdentification command && (ready.twice || !command.sendTwice)
        then ready.stopIdentification else ready) := by
    split
    · exact ⟨ready.stopIdentification_search.1.trans hsame.1,
        ready.stopIdentification_search.2.trans hsame.2⟩
    · exact hsame
  generalize (if stopsIdentification command && (ready.twice || !command.sendTwice)
    then ready.stopIdentification else ready) = stopped at hstop hsearch ⊢
  refine hstop.thenActs ?_
  have htwice : stopped.twice = step.twice := hstop.twice.trans hwrite.twice
  have hrandomise := randomise_acts stopped entropy
  have hfound := search_acts stopped command data
  rw [htwice] at hrandomise
  rw [hsearch.1, hsearch.2] at hfound
  cases command with
  | terminate => exact Quiet.acts ⟨⟨rfl, rfl, rfl⟩, rfl, rfl, rfl⟩
  | initialise => exact (initialise_quiet stopped data).acts
  | randomise => exact hrandomise.weaken .inl
  | writeMemoryLocation | writeMemoryLocationNoReply =>
    exact (writeMemory_quiet stopped).acts
  | dtr0 | dtr1 | dtr2 => exact Quiet.acts ⟨⟨rfl, rfl, rfl⟩, rfl, rfl, rfl⟩
  | sendTestframe => exact (testFrame_quiet stopped data).acts
  | _ => exact hfound.weaken .inr

theorem frame_acts (bytes : FrameBytes) (entropy : BitVec 32) :
    Acts (step.twice ∨ Programs step.unit bytes) step (step.frame bytes entropy) := by
  unfold frame
  split
  · rename_i hspecial
    cases hselector : Special103Command.fromSelector bytes.instanceByte.toNat with
    | none => exact (Quiet.refl step).acts
    | some command =>
      refine (special_acts step command bytes.data entropy).weaken ?_
      intro hallowed
      rcases hallowed with htwice | ⟨hcommand, hinitialising, hselected⟩
      · exact .inl htwice
      · exact .inr ⟨hspecial, hselector.trans (congrArg some hcommand), hinitialising, hselected⟩
  · split
    · exact (step.stopIdentification_quiet.thenActs
        (directWrite_quiet step.stopIdentification bytes.instanceByte).acts)
    · split
      · exact step.stopIdentification_quiet.thenActs (Quiet.acts ⟨⟨rfl, rfl, rfl⟩, rfl, rfl, rfl⟩)
      · split
        · exact step.stopIdentification_quiet.thenActs (Quiet.acts ⟨⟨rfl, rfl, rfl⟩, rfl, rfl, rfl⟩)
        · split
          · cases Device103Command.fromOpcode bytes.data.toNat with
            | none => exact (Quiet.refl step).acts
            | some command => exact (device_acts step command).weaken Or.inl
          · exact (Quiet.refl step).acts

end Step

/-! ## What one call can do -/

namespace Device103Unit

/-- The unit takes the frame for the second of a pair. -/
def Executes (unit : Device103Unit) (bytes : FrameBytes) (nowMs : BitVec 32) : Prop :=
  unit.isHydrated = true ∧ (unit.secondOfPair bytes nowMs).1 = true

def opened (unit : Device103Unit) (bytes : FrameBytes) (nowMs : BitVec 32) : Step where
  unit := (unit.secondOfPair bytes nowMs).2
  nowMs := nowMs
  twice := (unit.secondOfPair bytes nowMs).1
  effects := {}

variable {unit : Device103Unit}

theorem feed_forward24 (h : unit.isHydrated) (bytes : FrameBytes) (nowMs entropy : BitVec 32) :
    (unit.feed (.forward24 bytes) nowMs entropy).1
      = ((unit.opened bytes nowMs).frame bytes entropy).unit := by
  simp only [feed, h, Bool.not_true]
  rfl

theorem feed_acts (unit : Device103Unit) (bytes : FrameBytes) (nowMs entropy : BitVec 32) :
    Acts ((unit.secondOfPair bytes nowMs).1 ∨ Programs unit bytes)
      (unit.opened bytes nowMs) ((unit.opened bytes nowMs).frame bytes entropy) := by
  refine (Step.frame_acts _ bytes entropy).weaken (Or.imp_right ?_)
  intro hprograms
  exact ⟨hprograms.special, hprograms.command, hprograms.initialising, hprograms.selected⟩

theorem feed_pendingTwice (h : unit.isHydrated) (bytes : FrameBytes) (nowMs entropy : BitVec 32) :
    (unit.feed (.forward24 bytes) nowMs entropy).1.pendingTwice
      = if (unit.secondOfPair bytes nowMs).1 then none else some (bytes, nowMs) := by
  rw [feed_forward24 h, (feed_acts unit bytes nowMs entropy).pendingTwice]
  rfl

theorem feed_unhydrated (h : unit.isHydrated = false) (bytes : FrameBytes)
    (nowMs entropy : BitVec 32) :
    (unit.feed (.forward24 bytes) nowMs entropy).1 = unit.lostCapture := by
  simp [feed, h]

/-- A frame changes the non-volatile record only as a second frame, or by
programming a selected unit. -/
theorem feed_nvm {frame : UnitFrame} {nowMs entropy : BitVec 32}
    (h : (unit.feed frame nowMs entropy).1.nvm ≠ unit.nvm) :
    exists bytes, frame = .forward24 bytes ∧ (Executes unit bytes nowMs ∨ Programs unit bytes) := by
  cases frame with
  | other => exact absurd rfl h
  | forward24 bytes =>
    refine ⟨bytes, rfl, ?_⟩
    cases hhydrated : unit.isHydrated with
    | false =>
      rw [feed_unhydrated hhydrated] at h
      exact absurd rfl h
    | true =>
      rw [feed_forward24 hhydrated] at h
      rcases (feed_acts unit bytes nowMs entropy).counted with hsame | hallowed
      · exact absurd hsame.1 h
      · exact hallowed.1.imp_left fun hsecond => ⟨hhydrated, hsecond⟩

theorem tick_kept (unit : Device103Unit) (nowMs entropy : BitVec 32) :
    (unit.tick nowMs entropy).1.nvm = unit.nvm
      ∧ (unit.tick nowMs entropy).1.wireSequence = unit.wireSequence
      ∧ (unit.tick nowMs entropy).1.revision = unit.revision
      ∧ (unit.tick nowMs entropy).1.pendingTwice = unit.pendingTwice := by
  unfold tick powerOnStep
  cases unit.powerOn with
  | done => exact ⟨rfl, rfl, rfl, rfl⟩
  | pending => cases unit.isHydrated <;> exact ⟨rfl, rfl, rfl, rfl⟩
  | notifying atMs =>
    simp only
    cases passed nowMs atMs <;> exact ⟨rfl, rfl, rfl, rfl⟩

theorem hydrate_pendingTwice (unit : Device103Unit) (snapshot : BusUnitSnapshot) :
    (unit.hydrate snapshot).1.pendingTwice = unit.pendingTwice := by
  unfold hydrate
  simp only
  split <;> split <;> rfl

end Device103Unit

/-! ## Histories of calls -/

inductive Call where
  | feed (frame : UnitFrame) (nowMs entropy : BitVec 32)
  | tick (nowMs entropy : BitVec 32)
  | hydrate (snapshot : BusUnitSnapshot)
  | lostCapture

def Call.apply (unit : Device103Unit) : Call -> Device103Unit
  | .feed frame nowMs entropy => (unit.feed frame nowMs entropy).1
  | .tick nowMs entropy => (unit.tick nowMs entropy).1
  | .hydrate snapshot => (unit.hydrate snapshot).1
  | .lostCapture => unit.lostCapture

variable (calls : List Call)

def unitAt (n : Nat) : Device103Unit :=
  (calls.take n).foldl Call.apply .new

def Call.Silent : Call -> Prop
  | .feed _ _ _ => False
  | .tick _ _ => True
  | .hydrate _ => True
  | .lostCapture => False

def FedAt (n : Nat) (bytes : FrameBytes) (nowMs : BitVec 32) : Prop :=
  exists entropy, calls[n]? = some (.feed (.forward24 bytes) nowMs entropy)

/-- Between the two calls no frame is fed and none is lost. -/
def SilentBetween (i j : Nat) : Prop :=
  forall k call, i < k -> k < j -> calls[k]? = some call -> call.Silent

/-- Calls `i` and `j` feed the same 24-bit frame within the span, nothing is
heard between them, and the unit takes the second for a repetition. -/
structure Pair (calls : List Call) (i j : Nat) : Prop where
  lt : i < j
  frames : exists bytes first second, FedAt calls i bytes first
    ∧ FedAt calls j bytes second ∧ second - first < sendTwiceSpanMs
    ∧ (unitAt calls j).Executes bytes second
  silent : SilentBetween calls i j

variable {calls : List Call} {i j n : Nat} {bytes : FrameBytes} {nowMs : BitVec 32}

theorem unitAt_succ {call : Call} (h : calls[n]? = some call) :
    unitAt calls (n + 1) = call.apply (unitAt calls n) := by
  unfold unitAt
  rw [List.take_add_one, h, Option.toList_some, List.foldl_append]
  rfl

theorem unitAt_end (h : calls[n]? = none) : unitAt calls (n + 1) = unitAt calls n := by
  unfold unitAt
  rw [List.take_add_one, h, Option.toList_none, List.append_nil]

/-- What is pending was fed last, and was not a second frame itself. -/
structure PendingFrom (calls : List Call) (n : Nat) (bytes : FrameBytes)
    (nowMs : BitVec 32) (i : Nat) : Prop where
  lt : i < n
  fed : FedAt calls i bytes nowMs
  first : ¬ (unitAt calls i).Executes bytes nowMs
  silent : SilentBetween calls i n

theorem PendingFrom.extend (h : PendingFrom calls n bytes nowMs i)
    (hcall : forall call, calls[n]? = some call -> call.Silent) :
    PendingFrom calls (n + 1) bytes nowMs i := by
  refine ⟨Nat.lt_succ_of_lt h.lt, h.fed, h.first, ?_⟩
  intro k call hik hkn hk
  rcases Nat.lt_succ_iff_lt_or_eq.mp hkn with hlt | rfl
  · exact h.silent k call hik hlt hk
  · exact hcall call hk

theorem pendingFrom_of_feed {frame : UnitFrame} {entropy at_ : BitVec 32}
    (hcall : calls[n]? = some (.feed frame at_ entropy))
    (hpending : ((unitAt calls n).feed frame at_ entropy).1.pendingTwice = some (bytes, nowMs)) :
    PendingFrom calls (n + 1) bytes nowMs n := by
  cases frame with
  | other => cases hpending
  | forward24 other =>
    cases hhydrated : (unitAt calls n).isHydrated with
    | false =>
      rw [Device103Unit.feed_unhydrated hhydrated] at hpending
      cases hpending
    | true =>
      rw [Device103Unit.feed_pendingTwice hhydrated] at hpending
      cases hsecond : ((unitAt calls n).secondOfPair other at_).1 with
      | true =>
        rw [hsecond] at hpending
        cases hpending
      | false =>
        rw [hsecond] at hpending
        cases hpending
        refine ⟨Nat.lt_succ_self n, ⟨entropy, hcall⟩, ?_, ?_⟩
        · intro hexecutes
          rw [hexecutes.2] at hsecond
          cases hsecond
        · intro k call hnk hkn
          exact absurd (Nat.lt_succ_iff.mp hkn) (Nat.not_le_of_lt hnk)

theorem exists_pendingFrom (calls : List Call) (n : Nat) :
    forall bytes nowMs, (unitAt calls n).pendingTwice = some (bytes, nowMs) ->
      exists i, PendingFrom calls n bytes nowMs i := by
  induction n with
  | zero =>
    intro bytes nowMs h
    cases h
  | succ n ih =>
    intro bytes nowMs h
    cases hcall : calls[n]? with
    | none =>
      rw [unitAt_end hcall] at h
      rcases ih bytes nowMs h with ⟨i, hi⟩
      exact ⟨i, hi.extend fun call hsome => by rw [hcall] at hsome; cases hsome⟩
    | some call =>
      rw [unitAt_succ hcall] at h
      have hextend : (unitAt calls n).pendingTwice = some (bytes, nowMs) ->
          call.Silent -> exists i, PendingFrom calls (n + 1) bytes nowMs i := by
        intro hpending hsilent
        rcases ih bytes nowMs hpending with ⟨i, hi⟩
        refine ⟨i, hi.extend ?_⟩
        intro other hother
        rw [hcall] at hother
        cases hother
        exact hsilent
      cases call with
      | feed frame at_ entropy => exact ⟨n, pendingFrom_of_feed hcall h⟩
      | tick at_ entropy =>
        exact hextend (((unitAt calls n).tick_kept at_ entropy).2.2.2 ▸ h) trivial
      | hydrate snapshot =>
        exact hextend ((unitAt calls n).hydrate_pendingTwice snapshot ▸ h) trivial
      | lostCapture => cases h

theorem Device103Unit.Executes.pending {unit : Device103Unit} (h : unit.Executes bytes nowMs) :
    exists first, unit.pendingTwice = some (bytes, first) ∧ nowMs - first < sendTwiceSpanMs := by
  have hsecond := h.2
  unfold Device103Unit.secondOfPair at hsecond
  cases hpending : unit.pendingTwice with
  | none =>
    rw [hpending] at hsecond
    cases hsecond
  | some pending =>
    rcases pending with ⟨first, at_⟩
    simp only [hpending, decide_eq_true_eq] at hsecond
    rcases hsecond with ⟨rfl, hspan⟩
    exact ⟨at_, rfl, hspan⟩

theorem exists_pair (hfed : FedAt calls j bytes nowMs)
    (hexecutes : (unitAt calls j).Executes bytes nowMs) :
    exists i first, Pair calls i j ∧ FedAt calls i bytes first
      ∧ ¬ (unitAt calls i).Executes bytes first := by
  rcases hexecutes.pending with ⟨first, hpending, hspan⟩
  rcases exists_pendingFrom calls j bytes first hpending with ⟨i, hi⟩
  exact ⟨i, first, ⟨hi.lt, ⟨bytes, first, nowMs, hi.fed, hfed, hspan, hexecutes⟩,
    hi.silent⟩, hi.fed, hi.first⟩

/-! ## Pairs do not overlap -/

theorem FedAt.unique {other : FrameBytes} {at_ : BitVec 32} (h : FedAt calls n bytes nowMs)
    (hother : FedAt calls n other at_) : other = bytes ∧ at_ = nowMs := by
  rcases h with ⟨entropy, h⟩
  rcases hother with ⟨entropy', hother⟩
  rw [h] at hother
  cases hother
  exact ⟨rfl, rfl⟩

theorem FedAt.not_between (h : FedAt calls n bytes nowMs) (hi : i < n) (hj : n < j)
    (hsilent : SilentBetween calls i j) : False := by
  rcases h with ⟨entropy, h⟩
  exact hsilent n _ hi hj h

namespace Pair

variable {k : Nat}

section

variable (h : Pair calls i j)
include h

theorem fed_first : exists bytes nowMs, FedAt calls i bytes nowMs := by
  rcases h.frames with ⟨bytes, first, _, hfirst, _⟩
  exact ⟨bytes, first, hfirst⟩

theorem fed_second :
    exists bytes nowMs, FedAt calls j bytes nowMs ∧ (unitAt calls j).Executes bytes nowMs := by
  rcases h.frames with ⟨bytes, _, second, _, hsecond, _, hexecutes⟩
  exact ⟨bytes, second, hsecond, hexecutes⟩

theorem first_unique (hk : Pair calls k j) : i = k := by
  rcases h.fed_first with ⟨_, _, hfed⟩
  rcases hk.fed_first with ⟨_, _, hfedk⟩
  rcases Nat.lt_trichotomy i k with hlt | heq | hgt
  · exact absurd hk.lt (fun hkj => hfedk.not_between hlt hkj h.silent)
  · exact heq
  · exact absurd h.lt (fun hij => hfed.not_between hgt hij hk.silent)

theorem second_unique (hk : Pair calls i k) : j = k := by
  rcases h.fed_second with ⟨_, _, hfed, _⟩
  rcases hk.fed_second with ⟨_, _, hfedk, _⟩
  rcases Nat.lt_trichotomy j k with hlt | heq | hgt
  · exact absurd hlt (fun hjk => hfed.not_between h.lt hjk hk.silent)
  · exact heq
  · exact absurd hgt (fun hkj => hfedk.not_between hk.lt hkj h.silent)

theorem not_chained (hk : Pair calls j k) : False := by
  rcases h.fed_second with ⟨bytes, nowMs, hfed, hexecutes⟩
  rcases hk.fed_second with ⟨_, _, hfedk, hexecutesk⟩
  rcases exists_pair hfedk hexecutesk with ⟨m, first, hm, hfedm, hnot⟩
  have hmj : m = j := hm.first_unique hk
  subst hmj
  rcases hfed.unique hfedm with ⟨rfl, rfl⟩
  exact hnot hexecutes

end

end Pair

/-- In every history, a call that changes the non-volatile record programs the
address of a selected unit or ends a pair, and no call is in two pairs. -/
theorem nvm_changed_by_pair (calls : List Call) :
    (forall j frame nowMs entropy, calls[j]? = some (.feed frame nowMs entropy) ->
      (unitAt calls (j + 1)).nvm ≠ (unitAt calls j).nvm ->
      (exists bytes, frame = .forward24 bytes ∧ Programs (unitAt calls j) bytes)
        ∨ exists i, Pair calls i j)
    ∧ (forall i j i' j', Pair calls i j -> Pair calls i' j' ->
      i = i' ∨ i = j' ∨ j = i' ∨ j = j' -> i = i' ∧ j = j') := by
  constructor
  · intro j frame nowMs entropy hcall hchanged
    rw [unitAt_succ hcall] at hchanged
    rcases Device103Unit.feed_nvm hchanged with ⟨bytes, rfl, hexecutes | hprograms⟩
    · rcases exists_pair ⟨entropy, hcall⟩ hexecutes with ⟨i, _, hpair, _⟩
      exact .inr ⟨i, hpair⟩
    · exact .inl ⟨bytes, rfl, hprograms⟩
  · intro i j i' j' hpair hpair' hshared
    rcases hshared with rfl | rfl | rfl | rfl
    · exact ⟨rfl, hpair.second_unique hpair'⟩
    · exact (hpair'.not_chained hpair).elim
    · exact (hpair.not_chained hpair').elim
    · exact ⟨hpair.first_unique hpair', rfl⟩

def disableFrame : FrameBytes where
  address := 0xFF
  instanceByte := 0xFE
  data := 0x17

def threeInARow : List Call :=
  [.hydrate { nvm := factoryNvm, revision := 1, acknowledgedWireSequence := 0 },
    .feed (.forward24 disableFrame) 0 0, .feed (.forward24 disableFrame) 60 0,
    .feed (.forward24 disableFrame) 120 0]

/-- Of three identical frames the second acts, as the end of a pair; the third
is not in a pair with it. -/
theorem threeInARow_acts_once : (exists i, Pair threeInARow i 2) ∧ ¬ Pair threeInARow 2 3 := by
  have hchanged : (unitAt threeInARow 3).nvm ≠ (unitAt threeInARow 2).nvm := by
    decide +kernel
  have hpair : exists i, Pair threeInARow i 2 := by
    rcases (nvm_changed_by_pair threeInARow).1 2 _ _ _ rfl hchanged with
      ⟨bytes, hbytes, hprograms⟩ | hpair
    · cases hbytes
      exact absurd hprograms.special (by decide)
    · exact hpair
  refine ⟨hpair, ?_⟩
  intro hthird
  rcases hpair with ⟨i, hsecond⟩
  have hsame := (nvm_changed_by_pair threeInARow).2 i 2 2 3 hsecond hthird (.inr (.inr (.inl rfl)))
  cases hsame.2

end Oxidali.Dali.BusUnit
