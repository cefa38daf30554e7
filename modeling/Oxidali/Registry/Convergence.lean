import Oxidali.Registry.Agreement

/-!
# Convergence of the registry and the unit

Whole runs keep the agreement as long as the compared numbers are close together.
The marks of the operator's commands are never taken off, so that one of them can
come to look newer than the revision that the unit holds.
-/

namespace Oxidali.Registry

open Words Dali Dali.BusUnit DaliSettingsRecord Device103Unit RunWhile List

namespace Net

variable {net : Net} {taken : BusUnitNvm}

/-! ## Whole runs -/

theorem apply_agrees (h : Agrees net taken) (hrecent : Recent net) (event : Event) :
    exists taken, Agrees (net.apply event) taken := by
  cases event with
  | patch body => exact ⟨taken, patch_agrees h body⟩
  | frame frame atMs entropy => exact ⟨taken, observe_agrees h frame atMs entropy⟩
  | lostCapture => exact ⟨taken, h.of_wire rfl rfl rfl rfl (.inr rfl)⟩
  | poll adopt nowMs entropy =>
    rcases poll_cases h hrecent adopt nowMs entropy with hadopts | hstays
    · exact ⟨_, hadopts.1⟩
    · exact ⟨_, hstays.1⟩
  | deliver => exact ⟨taken, deliver_agrees h hrecent⟩
  | repeat_ index => exact ⟨taken, repeat_agrees h index⟩
  | lose index => exact ⟨taken, lose_agrees h index⟩

theorem run_agrees {start : Net} (hfresh : Fresh start)
    (hrun : RunWhile Recent start net) : exists taken, Agrees net taken := by
  induction hrun with
  | refl => exact ⟨_, hfresh.agrees⟩
  | step _ hrecent event ih =>
    rcases ih with ⟨taken, hagrees⟩
    exact apply_agrees hagrees hrecent event

theorem Agrees.settled (h : Agrees net taken) (hrecent : Recent net) (hsettled : net.Settled) :
    net.wire.unit.nvm = net.registry.nvm
      ∧ forall field, get net.registry.nvm field = net.history.expected field := by
  have hall := acknowledged_of_eq h.counted hrecent hsettled.1
  have hfields : forall field, get net.registry.nvm field
      = net.history.expected field := by
    intro field
    rw [h.registry, h.known hall, h.merged]
  have hrevisions : net.history.adoptedAt = net.history.revisions := by
    have hrevision := hsettled.2
    have hnear := hrecent.outstanding
    unfold Outstanding at hnear
    rw [h.counted.revision, h.counted.busUnitRevision] at hrevision
    exact (ofNat_eq_iff h.counted.adoptedAt_le (by omega)).mp (Option.some.inj hrevision)
  refine ⟨nvm_ext fun field => ?_, hfields⟩
  rw [hfields, <- h.merged]
  have hmoved := h.marked.moved_le field
  rw [<- hrevisions] at hmoved
  exact (laterThan_of_le hmoved _).symm

/-- Adoption never overwrites a change that the registry has not acknowledged, and
once everything is delivered and adopted both sides hold the expected values. -/
theorem registry_and_unit_converge {start : Net} (hfresh : Fresh start)
    (hrun : RunWhile Recent start net) (hrecent : Recent net) :
    (forall adopt nowMs entropy,
        (net.apply (.poll adopt nowMs entropy)).wire.unit.nvm ≠ net.wire.unit.nvm
          ∨ (net.apply (.poll adopt nowMs entropy)).wire.unit.revision ≠ net.wire.unit.revision ->
        net.history.acknowledged = net.history.made)
      ∧ (net.Settled -> net.wire.unit.nvm = net.registry.nvm
          ∧ forall field, get net.registry.nvm field = net.history.expected field) := by
  rcases run_agrees hfresh hrun with ⟨taken, hagrees⟩
  constructor
  · intro adopt nowMs entropy hadopts
    rcases poll_cases hagrees hrecent adopt nowMs entropy with hall | hstays
    · exact hall.2
    · rcases hadopts with hnvm | hrevision
      · exact absurd hstays.2.1 hnvm
      · exact absurd hstays.2.2 hrevision
  · exact hagrees.settled hrecent

theorem Recent.of_small (hrevisions : net.history.revisions < 0x7FFFFFFF)
    (hmade : net.history.made < 0x7FFFFFFF)
    (hadopted : net.history.adoptedAt <= 0x80000001) : Recent net := by
  constructor
  · unfold Outstanding
    omega
  · omega
  · exact fun _ _ _ _ => Nat.le_trans (Nat.sub_le _ _) hadopted
  · intro at_ _
    omega

def idleWire (revision : BitVec 32) (nvm : BusUnitNvm) : BusUnitWire where
  unit := { new with
    nvm := nvm
    revision := some revision
    powerOn := .done }
  adopted := some nvm
  unacknowledged := none
  reportedAtMs := 0

def hydratedNet : Net where
  registry := default
  wire := idleWire 0 factoryNvm
  flight := []
  history := {
    start := factoryNvm
    revisions := 0
    adoptedAt := 0
    made := 0
    acknowledged := 0
    appliedAt := none
    operatorLast := fun _ => none
    wireLast := fun _ => none }

theorem hydratedNet_fresh : Fresh hydratedNet := by
  constructor
  case valid => exact nofun
  case moved => exact nofun
  all_goals first | rfl | exact fun _ => rfl

def disableFrames : List Event :=
  [.frame (.forward24 disableFrame) 0 0, .frame (.forward24 disableFrame) 10 0]

/-- The wire stops the application controller while the operator sets the address. -/
def bothSides : List Event :=
  disableFrames ++ [.patch { deviceShortAddress := some 5#8 }, .deliver, .poll true 20 0]

theorem bothSides_converge :
    (bothSides.foldl apply hydratedNet).Settled ∧ (bothSides.foldl apply hydratedNet).wire.unit.nvm
        = (bothSides.foldl apply hydratedNet).registry.nvm
      ∧ (bothSides.foldl apply hydratedNet).registry.nvm.applicationActive = false
      ∧ (bothSides.foldl apply hydratedNet).registry.nvm.shortAddress = some 5#8 := by
  have hsettled : (bothSides.foldl apply hydratedNet).Settled := by
    exact ⟨rfl, rfl⟩
  have hrun : RunWhile Recent hydratedNet (bothSides.foldl apply hydratedNet) := by
    simp only [bothSides, disableFrames, cons_append, nil_append, foldl_cons, foldl_nil]
    refine step (step (step (step (step refl ?_ _) ?_ _) ?_ _) ?_ _) ?_ _ <;>
      exact Recent.of_small (by decide +kernel) (by decide +kernel) (by decide +kernel)
  have hrecent : Recent (bothSides.foldl apply hydratedNet) :=
    Recent.of_small (by decide +kernel) (by decide +kernel) (by decide +kernel)
  have hconverge := (registry_and_unit_converge hydratedNet_fresh hrun hrecent).2 hsettled
  exact ⟨hsettled, hconverge.1, rfl, rfl⟩

/-! ## A mark that is never taken off -/

variable {nvm : BusUnitNvm} {revision : BitVec 32}

theorem poll_idleWire {snapshot : BusUnitSnapshot} (hnewer : isNewer snapshot.revision revision)
    (hack : snapshot.acknowledgedWireSequence = 0) (hvalid : ShortValid snapshot.nvm) :
    (idleWire revision nvm).poll (some snapshot) 0 0
      = (idleWire snapshot.revision snapshot.nvm, none) := by
  have hfilter := BusUnitWire.shortAddress_filter hvalid
  simp [BusUnitWire.poll, BusUnitWire.hydrate, hydrate, idleWire, hnewer, hack, hfilter, new, tick,
    powerOnStep, expired, initialising, BusUnitWire.resendNvm]

theorem isNewer_next (n : Nat) : isNewer (BitVec.ofNat 32 (n + 1)) (BitVec.ofNat 32 n) := by
  rw [isNewer_ofNat (by omega) (by omega)]
  exact decide_eq_true (Nat.lt_succ_self n)

def stoppedNvm (short : Option Byte) : BusUnitNvm :=
  { factoryNvm with
    applicationActive := false
    shortAddress := short }

/-- The operator stopped the application controller at revision 1 and set the short
address at revision `n`; the unit has adopted revision `m`. -/
def stoppedNet (n m : Nat) (short adopted : Option Byte) : Net where
  registry := { default with
    nvm := stoppedNvm short
    setBy := fun
      | .applicationActive | .shortAddress => .operator
      | _ => .unrecorded
    busUnitRevision := BitVec.ofNat 32 n
    operatorMovedAt := fun
      | .applicationActive => some 1
      | .shortAddress => some (BitVec.ofNat 32 n)
      | _ => none }
  wire := idleWire (BitVec.ofNat 32 m) (stoppedNvm adopted)
  flight := []
  history := { hydratedNet.history with
    revisions := n
    adoptedAt := m
    operatorLast := fun
      | .applicationActive => some (1, false)
      | .shortAddress => some (n, short)
      | _ => none }

variable {short next : Option Byte}

theorem patch_stopped (n : Nat) {address : Byte}
    (hnext : (if address.toNat <= maxShortAddress then some address else none) = next)
    (hne : next ≠ short) :
    (stoppedNet n n short short).apply (.patch { deviceShortAddress := some address })
      = stoppedNet (n + 1) n next short := by
  have hpatched : patched (stoppedNvm short) { deviceShortAddress := some address }
      = stoppedNvm next := by
    simp only [patched, hnext]
    rfl
  have hchanged : stoppedNvm next ≠ stoppedNvm short :=
    fun h => hne (congrArg BusUnitNvm.shortAddress h)
  have hrevision := BitVec.ofNat_add (n := 32) n 1
  simp only [apply, patch, applyPatch, stoppedNet, hpatched, if_pos hchanged, hrevision]
  congr 2 <;> funext field <;> cases field <;> simp [differs, get, stoppedNvm, hne]

theorem poll_stopped (n : Nat) (hvalid : ShortValid (stoppedNvm next)) :
    (stoppedNet (n + 1) n next short).apply (.poll true 0 0)
      = stoppedNet (n + 1) (n + 1) next next := by
  have hpoll : (stoppedNet (n + 1) n next short).wire.poll
      (some (stoppedNet (n + 1) n next short).registry.busUnitSnapshot) 0 0
      = (idleWire (BitVec.ofNat 32 (n + 1)) (stoppedNvm next), none) :=
    poll_idleWire (isNewer_next n) rfl hvalid
  have hne : (idleWire (BitVec.ofNat 32 (n + 1)) (stoppedNvm next)).unit.revision
      ≠ (stoppedNet (n + 1) n next short).wire.unit.revision := by
    intro h
    have hnewer := isNewer_next n
    rw [Option.some.inj h] at hnewer
    simp [isNewer] at hnewer
  simp only [apply, poll, if_true, hpoll, decide_eq_true hne]
  rfl

theorem set_stopped {n : Nat} (address : Byte)
    (hrun : RunWhile Outstanding hydratedNet (stoppedNet n n short short))
    (hnext : (if address.toNat <= maxShortAddress then some address else none) = next)
    (hne : next ≠ short) (hvalid : ShortValid (stoppedNvm next)) :
    RunWhile Outstanding hydratedNet (stoppedNet (n + 1) (n + 1) next next) := by
  have houtstanding : forall m, m - n <= 1 -> m - n < 0x7FFFFFFF := by omega
  have hpatched := step hrun (houtstanding n (by omega))
    (.patch { deviceShortAddress := some address })
  rw [patch_stopped n hnext hne] at hpatched
  have hpolled := step hpatched (houtstanding (n + 1) (by omega)) (.poll true 0 0)
  rwa [poll_stopped n hvalid] at hpolled

attribute [ext] Net DaliSettingsRecord History

/-- Round after round the operator deletes the short address and sets it again. -/
theorem run_stopped (rounds : Nat) :
    RunWhile Outstanding hydratedNet
      (stoppedNet (2 * rounds + 2) (2 * rounds + 2) (some 5#8) (some 5#8)) := by
  induction rounds with
  | zero =>
    let start : Net := (((hydratedNet.apply (.patch { applicationActive := some false })).apply
      (.poll true 0 0)).apply (.patch { deviceShortAddress := some 5#8 })).apply (.poll true 0 0)
    have hstart : start = stoppedNet 2 2 (some 5#8) (some 5#8) := by
      apply Net.ext
      · apply DaliSettingsRecord.ext <;> first | rfl | (funext field; cases field <;> rfl)
      · decide +kernel
      · rfl
      · apply History.ext <;> first | rfl | (funext field; cases field <;> rfl)
    rw [<- hstart]
    refine step (step (step (step refl ?_ _) ?_ _) ?_ _) ?_ _ <;>
      (unfold Outstanding; decide +kernel)
  | succ rounds ih =>
    have hdeleted := set_stopped 0xFF ih rfl nofun nofun
    refine set_stopped 5 hdeleted rfl nofun ?_
    rintro address ⟨⟩
    decide

def enableFrame : FrameBytes where
  address := 0xFF
  instanceByte := 0xFE
  data := 0x16

/-- Of a run with at most one revision outstanding at any time.  The operator stopped
the controller at revision 1, the unit adopted that and 2^31 + 2 revisions after it,
and only then the wire enabled the controller: the registry takes the old mark for a
newer one and the change on the wire is lost. -/
theorem old_mark_overrules_wire :
    exists net, Fresh hydratedNet ∧ RunWhile Outstanding hydratedNet net
      ∧ Outstanding net ∧ net.Settled ∧ net.flight = []
      ∧ net.history.operatorLast .applicationActive = some (1, false)
      ∧ net.history.wireLast .applicationActive = some (0x80000003, true)
      ∧ get net.registry.nvm .applicationActive = false
      ∧ net.history.expected .applicationActive = true := by
  have hrun := set_stopped 0xFF (run_stopped 0x40000000) rfl nofun nofun
  have hfirst := step hrun (by unfold Outstanding; decide) (.frame (.forward24 enableFrame) 0 0)
  have hsecond := step hfirst (by unfold Outstanding; decide +kernel)
    (.frame (.forward24 enableFrame) 10 0)
  have hdelivered := step hsecond (by unfold Outstanding; decide +kernel) .deliver
  have hpolled := step hdelivered (by unfold Outstanding; decide +kernel) (.poll true 0 0)
  refine ⟨_, hydratedNet_fresh, hpolled, ?_, ?_, rfl, by decide +kernel⟩
  · unfold Outstanding
    decide +kernel
  · unfold Settled
    decide +kernel

end Net

end Oxidali.Registry
