import Oxidali.Registry.Evidence

/-!
# What the registry and the unit agree on

A report under way that the registry has not seen was made under the revision that
the unit still holds, because a snapshot is adopted only once every change is
acknowledged.  Hence the registry always merges against what it last knew of this
very revision, and no change of either side is lost.
-/

namespace Oxidali.Registry

open Words Dali Dali.BusUnit DaliSettingsRecord List

/-! ## The invariant -/

namespace Net

/-- What the registry knows of the unit under the revision that the unit holds. -/
def known (net : Net) (taken : BusUnitNvm) : BusUnitNvm :=
  match net.registry.wireApplied with
  | some (_, observed) =>
    if net.history.appliedAt = some net.history.adoptedAt then observed else taken
  | none => taken

/-- A report under way is an old one, or of the revision that the unit holds. -/
structure Underway (net : Net) (taken : BusUnitNvm) (sent : Sent) : Prop where
  acknowledged_le : net.history.acknowledged <= sent.count
  le_made : sent.count <= net.history.made
  wireSequence : sent.body.wireSequence = BitVec.ofNat 32 sent.count
  valid : ShortValid sent.body.observed
  current : net.history.acknowledged < sent.count ->
    sent.body.adopted = taken ∧ sent.body.adoptedRevision = BitVec.ofNat 32 net.history.adoptedAt
      ∧ (sent.count = net.history.made -> sent.body.observed = net.wire.unit.nvm)

/-- The counters of the program are those of the history. -/
structure Counted (net : Net) : Prop where
  busUnitRevision : net.registry.busUnitRevision = BitVec.ofNat 32 net.history.revisions
  revision : net.wire.unit.revision = some (BitVec.ofNat 32 net.history.adoptedAt)
  wireSequence : net.wire.unit.wireSequence = BitVec.ofNat 32 net.history.made
  wireAcknowledged :
    net.registry.wireAcknowledged = BitVec.ofNat 32 net.history.acknowledged
  adoptedAt_le : net.history.adoptedAt <= net.history.revisions
  acknowledged_le : net.history.acknowledged <= net.history.made

/-- The marks of the registry are those of the history. -/
structure Marked (net : Net) : Prop where
  marks : forall field, net.registry.operatorMovedAt field
    = (net.history.operatorLast field).map fun last => BitVec.ofNat 32 last.1
  moved_le : forall field moved value,
    net.history.operatorLast field = some (moved, value) -> moved <= net.history.revisions
  under_le : forall field under value,
    net.history.wireLast field = some (under, value) -> under <= net.history.adoptedAt
  applied : net.registry.wireApplied.map Prod.fst = net.history.appliedAt.map (BitVec.ofNat 32)
  applied_le : forall at_, net.history.appliedAt = some at_ -> at_ <= net.history.adoptedAt

structure Agrees (net : Net) (taken : BusUnitNvm) : Prop where
  counted : Counted net
  marked : Marked net
  adopted : net.wire.adopted = some taken
  validUnit : ShortValid net.wire.unit.nvm
  validRegistry : ShortValid net.registry.nvm
  unacknowledged : net.wire.unacknowledged = none ∨ net.wire.unacknowledged = net.wire.evidence
  flight : forall sent, sent ∈ net.flight -> Underway net taken sent
  inOrder : net.flight.Pairwise fun earlier later => earlier.count <= later.count
  known : net.history.acknowledged = net.history.made -> net.known taken = net.wire.unit.nvm
  registry : forall field, get net.registry.nvm field
    = laterThan (net.history.operatorLast field) net.history.adoptedAt (get (net.known taken) field)
  merged : forall field,
    laterThan (net.history.operatorLast field) net.history.adoptedAt
      (get net.wire.unit.nvm field) = net.history.expected field

variable {net : Net} {taken : BusUnitNvm}

theorem Agrees.evidence (h : Agrees net taken) :
    net.wire.evidence = some {
      adopted := taken
      adoptedRevision := BitVec.ofNat 32 net.history.adoptedAt
      observed := net.wire.unit.nvm
      wireSequence := BitVec.ofNat 32 net.history.made } := by
  unfold BusUnitWire.evidence
  rw [h.adopted, h.counted.revision, <- h.counted.wireSequence]

theorem Fresh.agrees (h : Fresh net) : Agrees net net.registry.nvm := by
  have hknown : net.known net.registry.nvm = net.registry.nvm := by
    unfold Net.known
    rw [h.wireApplied]
  have hlater : forall field, laterThan (net.history.operatorLast field)
      net.history.adoptedAt (get net.registry.nvm field) = get net.registry.nvm field := by
    intro field
    unfold laterThan
    split
    · rename_i moved value hlast
      have hmoved := (h.moved field moved value hlast).1
      rw [if_neg (Nat.not_lt.mpr (h.adoptedAt ▸ hmoved))]
    · rfl
  constructor
  · constructor
    · exact h.busUnitRevision
    · rw [h.revision, h.busUnitRevision, h.adoptedAt]
    · exact h.wireSequence
    · rw [h.wireAcknowledged, h.wireSequence, h.acknowledged]
    · exact Nat.le_of_eq h.adoptedAt
    · exact Nat.le_of_eq h.acknowledged
  · constructor
    · exact h.marks
    · exact fun field moved value hlast => (h.moved field moved value hlast).1
    · exact fun field under value hlast => nomatch (h.wireLast field).symm.trans hlast
    · rw [h.wireApplied, h.appliedAt]
      rfl
    · exact fun at_ hat => nomatch h.appliedAt.symm.trans hat
  · exact h.adopted
  · exact h.nvm ▸ h.valid
  · exact h.valid
  · exact .inl h.unacknowledged
  · exact fun sent hsent => nomatch h.flight ▸ hsent
  · rw [h.flight]
    exact List.Pairwise.nil
  · exact fun _ => hknown.trans h.nvm.symm
  · intro field
    rw [hknown, hlater]
  · intro field
    rw [h.nvm, hlater]
    unfold History.expected
    rw [h.wireLast]
    split
    · rename_i hlast
      cases hlast
    · split
      · rename_i value hlast
        exact (h.moved field _ _ hlast).2.symm
      · rw [h.start]

/-! ## The operator's command -/

theorem get_eq_of_not_differs {a b : BusUnitNvm} {field : UnitField}
    (h : ¬ differs a b field) : get a field = get b field := by
  simpa [differs] using h

theorem ne_of_differs {a b : BusUnitNvm} {field : UnitField} (h : differs a b field) : a ≠ b := by
  intro heq
  subst heq
  simp [differs] at h

theorem patched_valid {nvm : BusUnitNvm} (h : ShortValid nvm) (body : DaliSettingsUpdateCommand) :
    ShortValid (patched nvm body) := by
  intro address haddress
  unfold patched at haddress
  split at haddress
  · split at haddress
    · rename_i hle
      cases haddress
      exact hle
    · cases haddress
  · exact h address haddress

theorem laterThan_of_lt {α : Type} {since moved : Nat} (h : since < moved)
    (value other : α) : laterThan (some (moved, value)) since other = value :=
  if_pos h

theorem patch_revisions (net : Net) (body : DaliSettingsUpdateCommand) :
    net.history.revisions <= (net.patch body).history.revisions := by
  unfold patch
  simp only
  split
  · exact Nat.le_succ _
  · exact Nat.le_refl _

theorem patch_busUnitRevision (h : Counted net) (body : DaliSettingsUpdateCommand) :
    (net.patch body).registry.busUnitRevision
      = BitVec.ofNat 32 (net.patch body).history.revisions := by
  by_cases hsame : patched net.registry.nvm body = net.registry.nvm
  · simp [patch, applyPatch, hsame, h.busUnitRevision]
  · simp [patch, applyPatch, hsame, h.busUnitRevision, BitVec.ofNat_add]

/-- A field that moves is marked with the revision that the command makes. -/
theorem patch_field (h : Counted net) (body : DaliSettingsUpdateCommand) (field : UnitField) :
    ((net.patch body).history.operatorLast field = net.history.operatorLast field
        ∧ (net.patch body).registry.operatorMovedAt field = net.registry.operatorMovedAt field
        ∧ get (net.patch body).registry.nvm field = get net.registry.nvm field)
      ∨ ((net.patch body).history.operatorLast field
          = some ((net.patch body).history.revisions, get (net.patch body).registry.nvm field)
        ∧ (net.patch body).registry.operatorMovedAt field
          = some (BitVec.ofNat 32 (net.patch body).history.revisions)
        ∧ net.history.revisions < (net.patch body).history.revisions) := by
  have hrevision := patch_busUnitRevision h body
  by_cases hdiffers : differs (patched net.registry.nvm body) net.registry.nvm field = true
  · have hne := ne_of_differs hdiffers
    refine .inr ⟨if_pos hdiffers, ?_, ?_⟩
    · rw [<- hrevision]
      exact if_pos hdiffers
    · simp [patch, applyPatch, hne]
  · exact .inl ⟨if_neg hdiffers, if_neg hdiffers, get_eq_of_not_differs hdiffers⟩

theorem patch_marked (hcounted : Counted net) (h : Marked net)
    (body : DaliSettingsUpdateCommand) : Marked (net.patch body) := by
  constructor
  · intro field
    rcases patch_field hcounted body field with hkept | hmoved
    · rw [hkept.1, hkept.2.1, h.marks]
    · rw [hmoved.1, hmoved.2.1]
      rfl
  · intro field moved value hlast
    rcases patch_field hcounted body field with hkept | hmoved
    · rw [hkept.1] at hlast
      exact Nat.le_trans (h.moved_le field moved value hlast) (patch_revisions net body)
    · rw [hmoved.1] at hlast
      cases hlast
      exact Nat.le_refl _
  · exact h.under_le
  · exact h.applied
  · exact h.applied_le

/-- The field keeps its value, or holds the new value of the operator. -/
theorem patch_expected (h : Agrees net taken) (body : DaliSettingsUpdateCommand)
    (field : UnitField) :
    ((net.patch body).history.operatorLast field = net.history.operatorLast field
        ∧ (net.patch body).history.expected field = net.history.expected field)
      ∨ (forall other, laterThan ((net.patch body).history.operatorLast field)
            net.history.adoptedAt other = (net.patch body).history.expected field) := by
  rcases patch_field h.counted body field with hkept | hmoved
  · refine .inl ⟨hkept.1, ?_⟩
    unfold History.expected
    rw [hkept.1]
    rfl
  · refine .inr fun other => ?_
    have hnew := Nat.lt_of_le_of_lt h.counted.adoptedAt_le hmoved.2.2
    unfold History.expected
    rw [hmoved.1, laterThan_of_lt hnew]
    split
    · rename_i under value hlast
      have hunder := h.marked.under_le field under value hlast
      exact (laterThan_of_lt (Nat.lt_of_le_of_lt hunder hnew) _ _).symm
    · rfl

theorem patch_agrees (h : Agrees net taken) (body : DaliSettingsUpdateCommand) :
    Agrees (net.patch body) taken := by
  constructor
  · exact ⟨patch_busUnitRevision h.counted body, h.counted.revision, h.counted.wireSequence,
      h.counted.wireAcknowledged, Nat.le_trans h.counted.adoptedAt_le (patch_revisions net body),
      h.counted.acknowledged_le⟩
  · exact patch_marked h.counted h.marked body
  · exact h.adopted
  · exact h.validUnit
  · exact patched_valid h.validRegistry body
  · exact h.unacknowledged
  · intro sent hsent
    have hsent := h.flight sent hsent
    exact ⟨hsent.acknowledged_le, hsent.le_made, hsent.wireSequence, hsent.valid, hsent.current⟩
  · exact h.inOrder
  · exact h.known
  · intro field
    rcases patch_field h.counted body field with hkept | hmoved
    · rw [hkept.1, hkept.2.2]
      exact h.registry field
    · have hnew := Nat.lt_of_le_of_lt h.counted.adoptedAt_le hmoved.2.2
      rw [hmoved.1]
      exact (laterThan_of_lt hnew _ _).symm
  · intro field
    rcases patch_expected h body field with hkept | hmoved
    · rw [hkept.1, hkept.2]
      exact h.merged field
    · exact hmoved _

/-! ## Frames on the wire -/

theorem differs_self (nvm : BusUnitNvm) (field : UnitField) : differs nvm nvm field = false := by
  simp [differs]

variable {wire : BusUnitWire}

theorem Agrees.of_wire (h : Agrees net taken) (hnvm : wire.unit.nvm = net.wire.unit.nvm)
    (hadopted : wire.adopted = net.wire.adopted)
    (hrevision : wire.unit.revision = net.wire.unit.revision)
    (hsequence : wire.unit.wireSequence = net.wire.unit.wireSequence)
    (hunack : wire.unacknowledged = none ∨ wire.unacknowledged = net.wire.unacknowledged) :
    Agrees { net with wire := wire } taken := by
  have hevidence : wire.evidence = net.wire.evidence := by
    unfold BusUnitWire.evidence
    rw [hnvm, hadopted, hrevision, hsequence]
  constructor
  · exact ⟨h.counted.busUnitRevision, hrevision.trans h.counted.revision,
      hsequence.trans h.counted.wireSequence, h.counted.wireAcknowledged,
      h.counted.adoptedAt_le, h.counted.acknowledged_le⟩
  · exact ⟨h.marked.marks, h.marked.moved_le, h.marked.under_le, h.marked.applied,
      h.marked.applied_le⟩
  · exact hadopted.trans h.adopted
  · exact hnvm ▸ h.validUnit
  · exact h.validRegistry
  · rcases hunack with hnone | hsame
    · exact .inl hnone
    · rw [hsame, hevidence]
      exact h.unacknowledged
  · intro sent hsent
    have hsent := h.flight sent hsent
    refine ⟨hsent.acknowledged_le, hsent.le_made, hsent.wireSequence, hsent.valid, ?_⟩
    rw [hnvm]
    exact hsent.current
  · exact h.inOrder
  · rw [hnvm]
    exact h.known
  · exact h.registry
  · rw [hnvm]
    exact h.merged

theorem Agrees.of_flight (h : Agrees net taken) {flight : List Sent}
    (hflight : forall sent, sent ∈ flight -> Underway net taken sent)
    (hinOrder : flight.Pairwise fun earlier later => earlier.count <= later.count) :
    Agrees { net with flight := flight } taken := by
  constructor
  · exact ⟨h.counted.busUnitRevision, h.counted.revision, h.counted.wireSequence,
      h.counted.wireAcknowledged, h.counted.adoptedAt_le, h.counted.acknowledged_le⟩
  · exact ⟨h.marked.marks, h.marked.moved_le, h.marked.under_le, h.marked.applied,
      h.marked.applied_le⟩
  · exact h.adopted
  · exact h.validUnit
  · exact h.validRegistry
  · exact h.unacknowledged
  · intro sent hsent
    have hsent := hflight sent hsent
    exact ⟨hsent.acknowledged_le, hsent.le_made, hsent.wireSequence, hsent.valid, hsent.current⟩
  · exact hinOrder
  · exact h.known
  · exact h.registry
  · exact h.merged

variable {report : Option BusUnitEvidence}

/-- A report of the unit as it stands goes behind all others. -/
theorem Agrees.send (h : Agrees net taken) (hreport : report = none ∨ report = net.wire.evidence) :
    Agrees { net with flight := net.send report } taken := by
  rcases hreport with hnone | hcurrent
  · apply h.of_flight
    · simpa [Net.send, hnone] using h.flight
    · simpa [Net.send, hnone] using h.inOrder
  · rw [h.evidence] at hcurrent
    apply h.of_flight
    · intro sent hsent
      rw [Net.send, hcurrent] at hsent
      rcases mem_append.mp hsent with hold | hnew
      · exact h.flight sent hold
      · cases mem_singleton.mp hnew
        exact ⟨h.counted.acknowledged_le, Nat.le_refl _, rfl, h.validUnit,
          fun _ => ⟨rfl, rfl, fun _ => rfl⟩⟩
    · rw [Net.send, hcurrent]
      apply pairwise_append.mpr
      refine ⟨h.inOrder, pairwise_singleton _ _, ?_⟩
      intro earlier hearlier later hlater
      cases mem_singleton.mp hlater
      exact (h.flight earlier hearlier).le_made

def changedBy (net : Net) (wire : BusUnitWire) : Net :=
  { net with
    wire := wire
    history := { net.history with
      made := net.history.made + 1
      wireLast := fun field =>
        if differs wire.unit.nvm net.wire.unit.nvm field then
          some (net.history.adoptedAt, get wire.unit.nvm field)
        else net.history.wireLast field } }

section

variable (h : Agrees net taken)
include h

theorem changedBy_expected (wire : BusUnitWire) (field : UnitField) :
    laterThan (net.history.operatorLast field) net.history.adoptedAt
      (get wire.unit.nvm field) = (net.changedBy wire).history.expected field := by
  unfold History.expected changedBy
  by_cases hdiffers : differs wire.unit.nvm net.wire.unit.nvm field = true
  · simp only [if_pos hdiffers]
  · simp only [if_neg hdiffers]
    rw [get_eq_of_not_differs hdiffers]
    exact h.merged field

theorem changedBy_agrees (hobserves : BusUnitWire.Observes net.wire wire wire.evidence)
    (hsequence : wire.unit.wireSequence = net.wire.unit.wireSequence + 1)
    (hunack : wire.unacknowledged = wire.evidence) : Agrees (net.changedBy wire) taken := by
  have hle := h.counted.acknowledged_le
  constructor
  · refine ⟨h.counted.busUnitRevision, hobserves.revision.trans h.counted.revision, ?_,
      h.counted.wireAcknowledged, h.counted.adoptedAt_le, Nat.le_succ_of_le hle⟩
    exact hsequence.trans (h.counted.wireSequence ▸ (BitVec.ofNat_add _ 1).symm)
  · refine ⟨h.marked.marks, h.marked.moved_le, ?_, h.marked.applied, h.marked.applied_le⟩
    intro field under value hlast
    unfold changedBy at hlast
    simp only at hlast
    split at hlast
    · cases hlast
      exact Nat.le_refl _
    · exact h.marked.under_le field under value hlast
  · exact hobserves.adopted.trans h.adopted
  · exact hobserves.valid h.validUnit
  · exact h.validRegistry
  · exact .inr hunack
  · intro sent hsent
    have hsent := h.flight sent hsent
    refine ⟨hsent.acknowledged_le, Nat.le_succ_of_le hsent.le_made,
      hsent.wireSequence, hsent.valid, ?_⟩
    intro hcount
    have hcurrent := hsent.current hcount
    refine ⟨hcurrent.1, hcurrent.2.1, fun hlast => ?_⟩
    exact absurd hlast (Nat.ne_of_lt (Nat.lt_succ_of_le hsent.le_made))
  · exact h.inOrder
  · intro hall
    exact absurd hall (Nat.ne_of_lt (Nat.lt_succ_of_le hle))
  · exact h.registry
  · exact changedBy_expected h wire

theorem observe_agrees (frame : UnitFrame)
    (atMs entropy : BitVec 32) : Agrees (net.observe frame atMs entropy) taken := by
  have hobserves := net.wire.observe_observes frame atMs entropy
  rcases hobserves.counted with hquiet | hchanged
  · have hsame : net.observe frame atMs entropy
        = { net with wire := (net.wire.observe frame atMs entropy).1 } := by
      simp [observe, send, hquiet.1, hquiet.2.2.2, differs_self]
    rw [hsame]
    exact h.of_wire hquiet.1 hobserves.adopted hobserves.revision hquiet.2.1 (.inr hquiet.2.2.1)
  · have hreport := hchanged.2.2.2
    rw [hreport] at hobserves
    have hagrees := changedBy_agrees h hobserves hchanged.2.1 hchanged.2.2.1
    have hsent := hagrees.send (.inr hreport)
    unfold observe
    simp only [decide_eq_true hchanged.1, if_true]
    exact hsent

/-! ## Polls -/

theorem stays_agrees (hstays : BusUnitWire.Stays net.wire wire report) :
    Agrees { net with
      wire := wire
      flight := net.send report } taken := by
  have hwire := h.of_wire hstays.nvm hstays.adopted hstays.revision
    hstays.wireSequence hstays.unacknowledged
  apply hwire.send
  have hevidence : wire.evidence = net.wire.evidence := by
    unfold BusUnitWire.evidence
    rw [hstays.nvm, hstays.adopted, hstays.revision, hstays.wireSequence]
  rcases hstays.report with hnone | hsame
  · exact .inl hnone
  · rw [hsame]
    rw [hevidence]
    exact h.unacknowledged

end

/-- The registry's count is the unit's, so every change was acknowledged. -/
theorem acknowledged_of_eq (h : Counted net) (hrecent : Recent net)
    (hack : net.registry.wireAcknowledged = net.wire.unit.wireSequence) :
    net.history.acknowledged = net.history.made := by
  rw [h.wireAcknowledged, h.wireSequence] at hack
  have hnear := hrecent.reports
  exact (ofNat_eq_iff h.acknowledged_le (by omega)).mp hack

theorem adopted_lt (h : Counted net) (hrecent : Recent net)
    (hnewer : isNewer net.registry.busUnitRevision (BitVec.ofNat 32 net.history.adoptedAt)) :
    net.history.adoptedAt < net.history.revisions := by
  have hle := h.adoptedAt_le
  rw [h.busUnitRevision, isNewer_ofNat hrecent.outstanding (by omega)] at hnewer
  exact of_decide_eq_true hnewer

theorem laterThan_of_le {α : Type} {last : Option (Nat × α)} {since : Nat}
    (h : forall moved value, last = some (moved, value) -> moved <= since) (other : α) :
    laterThan last since other = other := by
  unfold laterThan
  split
  · rename_i moved value
    exact if_neg (Nat.not_lt.mpr (h moved value rfl))
  · rfl

theorem adopts_agrees (h : Agrees net taken) (hrecent : Recent net)
    (hadopts : BusUnitWire.Adopts net.wire net.registry.busUnitSnapshot wire report) :
    Agrees { net with
      wire := wire
      flight := net.send report
      history := { net.history with adoptedAt := net.history.revisions } }
      net.registry.nvm := by
  have hnvm : wire.unit.nvm = net.registry.nvm := hadopts.nvm h.validRegistry
  have hall := acknowledged_of_eq h.counted hrecent hadopts.acknowledged
  have hlt := adopted_lt h.counted hrecent (hadopts.newer _ h.counted.revision)
  have hsend : net.send report = net.flight := by
    rw [hadopts.report]
    exact append_nil _
  have hlater : forall field, laterThan (net.history.operatorLast field)
      net.history.revisions (get net.registry.nvm field) = get net.registry.nvm field :=
    fun field => laterThan_of_le (h.marked.moved_le field) _
  generalize hnext : ({ net with
      wire := wire
      flight := net.send report
      history := { net.history with adoptedAt := net.history.revisions } } : Net) = next
  have hknown : next.known net.registry.nvm = net.registry.nvm := by
    subst hnext
    unfold Net.known
    split
    · rw [if_neg]
      intro happlied
      have happlied := h.marked.applied_le _ happlied
      exact absurd hlt (Nat.not_lt.mpr happlied)
    · rfl
  have hvalues : forall field, laterThan (next.history.operatorLast field)
      next.history.adoptedAt (get next.wire.unit.nvm field)
        = next.history.expected field := by
    intro field
    subst hnext
    -- the registry holds what the two sides have agreed on
    have hregistry := h.registry field
    rw [h.known hall, h.merged] at hregistry
    rw [hnvm, hlater]
    exact hregistry
  subst hnext
  constructor
  · exact ⟨h.counted.busUnitRevision, hadopts.revision.trans
      (congrArg some h.counted.busUnitRevision),
      hadopts.wireSequence.trans h.counted.wireSequence, h.counted.wireAcknowledged,
      Nat.le_refl _, h.counted.acknowledged_le⟩
  · refine ⟨h.marked.marks, h.marked.moved_le, ?_, h.marked.applied, ?_⟩
    · exact fun field under value hlast =>
        Nat.le_trans (h.marked.under_le field under value hlast) h.counted.adoptedAt_le
    · exact fun at_ happlied =>
        Nat.le_trans (h.marked.applied_le at_ happlied) h.counted.adoptedAt_le
  · exact hadopts.adopted.trans (congrArg some hnvm)
  · exact hnvm ▸ h.validRegistry
  · exact h.validRegistry
  · exact .inl hadopts.unacknowledged
  · intro sent hsent
    have hsent := h.flight sent (hsend ▸ hsent)
    refine ⟨hsent.acknowledged_le, hsent.le_made, hsent.wireSequence, hsent.valid, ?_⟩
    intro hcount
    have hcount := Nat.lt_of_lt_of_le hcount hsent.le_made
    exact absurd hall (Nat.ne_of_lt hcount)
  · exact hsend ▸ h.inOrder
  · exact fun _ => hknown.trans hnvm.symm
  · intro field
    rw [hknown]
    exact (hlater field).symm
  · exact hvalues

theorem poll_cases (h : Agrees net taken) (hrecent : Recent net) (adopt : Bool)
    (nowMs entropy : BitVec 32) :
    (Agrees (net.poll adopt nowMs entropy) net.registry.nvm
        ∧ net.history.acknowledged = net.history.made)
      ∨ (Agrees (net.poll adopt nowMs entropy) taken
        ∧ (net.poll adopt nowMs entropy).wire.unit.nvm = net.wire.unit.nvm
        ∧ (net.poll adopt nowMs entropy).wire.unit.revision = net.wire.unit.revision) := by
  have hcalls : BusUnitWire.Adopts net.wire net.registry.busUnitSnapshot
        (net.poll adopt nowMs entropy).wire
        (net.wire.poll (if adopt then some net.registry.busUnitSnapshot else none) nowMs entropy).2
      ∨ BusUnitWire.Stays net.wire (net.poll adopt nowMs entropy).wire
        (net.wire.poll (if adopt then some net.registry.busUnitSnapshot else none)
          nowMs entropy).2 := by
    cases adopt with
    | true => exact net.wire.poll_some net.registry.busUnitSnapshot nowMs entropy
    | false => exact .inr (net.wire.poll_none nowMs entropy)
  rcases hcalls with hadopts | hstays
  · refine .inl ⟨?_, acknowledged_of_eq h.counted hrecent hadopts.acknowledged⟩
    have hagrees := adopts_agrees h hrecent hadopts
    have hchanged : (net.poll adopt nowMs entropy).wire.unit.revision
        ≠ net.wire.unit.revision := by
      rw [hadopts.revision, h.counted.revision]
      intro hsame
      have hnewer := hadopts.newer _ h.counted.revision
      rw [Option.some.inj hsame] at hnewer
      simp [isNewer] at hnewer
    unfold poll at hagrees hchanged ⊢
    simp only [decide_eq_true hchanged, if_true]
    exact hagrees
  · refine .inr ⟨?_, hstays.nvm, hstays.revision⟩
    have hagrees := stays_agrees h hstays
    have hsame := hstays.revision
    change (net.wire.poll (if adopt then some net.registry.busUnitSnapshot else none)
      nowMs entropy).1.unit.revision = _ at hsame
    unfold poll at hagrees ⊢
    simp only [hsame, ne_eq, not_true_eq_false, decide_false] at hagrees ⊢
    exact hagrees

/-! ## Reports that arrive -/

variable {body : BusUnitEvidence}

section

variable (h : Agrees net taken) (hrecent : Recent net)
include h hrecent

theorem wireBase_eq (hadopted : body.adopted = taken)
    (hrevision : body.adoptedRevision = BitVec.ofNat 32 net.history.adoptedAt) :
    net.registry.wireBase body = net.known taken := by
  have happlied := h.marked.applied
  unfold wireBase known
  cases hwire : net.registry.wireApplied with
  | none => exact hadopted
  | some applied =>
    rw [hwire] at happlied
    cases hat : net.history.appliedAt with
    | none =>
      rw [hat] at happlied
      cases happlied
    | some at_ =>
      rw [hat] at happlied
      have hfirst : applied.1 = BitVec.ofNat 32 at_ := Option.some.inj happlied
      have hiff := ofNat_eq_iff (h.marked.applied_le at_ hat) (hrecent.applied at_ hat)
      simp only [hrevision, hadopted, hfirst, hiff, Option.some.injEq]

/-- The registry takes a mark for newer exactly if it is. -/
theorem held_eq (field : UnitField) :
    net.registry.held (BitVec.ofNat 32 net.history.adoptedAt) field
      = (net.history.operatorLast field).any
        fun last => decide (net.history.adoptedAt < last.1) := by
  unfold held
  rw [h.marked.marks]
  cases hlast : net.history.operatorLast field with
  | none => rfl
  | some last =>
    have hle := h.marked.moved_le field last.1 last.2 hlast
    have hnear := hrecent.outstanding
    unfold Outstanding at hnear
    exact isNewer_ofNat (by omega) (hrecent.moves field last.1 last.2 hlast)

/-- A held field keeps the operator's value; another one follows the wire. -/
theorem merge_field (hadopted : body.adopted = taken)
    (hrevision : body.adoptedRevision = BitVec.ofNat 32 net.history.adoptedAt) (field : UnitField) :
    get (net.registry.applyWire body).nvm field
      = laterThan (net.history.operatorLast field) net.history.adoptedAt
        (get body.observed field) := by
  have hregistry := h.registry field
  have hheld := held_eq h hrecent field
  rw [get_applyWire]
  unfold wireMayMove
  rw [wireBase_eq h hrecent hadopted hrevision, hrevision, hheld]
  unfold laterThan at hregistry ⊢
  cases hlast : net.history.operatorLast field with
  | none =>
    rw [hlast] at hregistry
    by_cases hdiffers : differs body.observed (net.known taken) field = true
    · simp [hdiffers]
    · simpa [hdiffers, get_eq_of_not_differs hdiffers] using hregistry
  | some last =>
    rw [hlast] at hregistry
    by_cases hnewer : net.history.adoptedAt < last.1
    · simpa [hnewer] using hregistry
    · by_cases hdiffers : differs body.observed (net.known taken) field = true
      · simp [hdiffers, hnewer]
      · simpa [hdiffers, get_eq_of_not_differs hdiffers] using hregistry

end

theorem applyWire_valid {record : DaliSettingsRecord} (hrecord : ShortValid record.nvm)
    (hbody : ShortValid body.observed) : ShortValid (record.applyWire body).nvm := by
  have hshort := record.get_applyWire body .shortAddress
  intro address haddress
  change (record.applyWire body).nvm.shortAddress = _ at hshort
  rw [haddress] at hshort
  split at hshort
  · exact hbody address hshort.symm
  · exact hrecord address hshort.symm

theorem deliver_agrees (h : Agrees net taken) (hrecent : Recent net) :
    Agrees net.deliver taken := by
  unfold deliver
  cases hflight : net.flight with
  | nil => exact h
  | cons sent rest =>
    have hsent := h.flight sent (hflight ▸ mem_cons_self)
    have horder := h.inOrder
    rw [hflight] at horder
    have hrest : forall other, other ∈ rest -> Underway net taken other :=
      fun other hother => h.flight other (hflight ▸ mem_cons_of_mem _ hother)
    have hreports := hrecent.reports
    have hmade := hsent.le_made
    have hack := hsent.acknowledged_le
    have hnewer : isNewer sent.body.wireSequence net.registry.wireAcknowledged
        = decide (net.history.acknowledged < sent.count) := by
      rw [hsent.wireSequence, h.counted.wireAcknowledged]
      exact isNewer_ofNat (by omega) (by omega)
    unfold applyBusUnitEvidence
    simp only [hnewer, decide_eq_true_eq]
    split
    · rename_i hcount
      rcases hsent.current hcount with ⟨hadopted, hrevision, hobserved⟩
      have hmarks := net.registry.moveFields_marks (net.registry.wireBase sent.body)
        sent.body everyUnitField
      constructor
      · refine ⟨?_, h.counted.revision, h.counted.wireSequence, hsent.wireSequence,
          Nat.le_succ_of_le h.counted.adoptedAt_le, hsent.le_made⟩
        have hrevisions := BitVec.ofNat_add (n := 32) net.history.revisions 1
        rw [<- h.counted.busUnitRevision, <- hmarks.2] at hrevisions
        exact hrevisions.symm
      · refine ⟨?_, ?_, h.marked.under_le, congrArg some hrevision, ?_⟩
        · intro field
          exact (congrFun hmarks.1 field).trans (h.marked.marks field)
        · exact fun field moved value hlast =>
            Nat.le_succ_of_le (h.marked.moved_le field moved value hlast)
        · intro at_ hat
          cases hat
          exact Nat.le_refl _
      · exact h.adopted
      · exact h.validUnit
      · exact applyWire_valid h.validRegistry hsent.valid
      · exact h.unacknowledged
      · intro other hother
        have hunder := hrest other hother
        have hle : sent.count <= other.count :=
          (pairwise_cons.mp horder).1 other hother
        exact ⟨hle, hunder.le_made, hunder.wireSequence, hunder.valid,
          fun hlt => hunder.current (Nat.lt_of_le_of_lt hack hlt)⟩
      · exact (pairwise_cons.mp horder).2
      · intro hall
        exact (if_pos rfl).trans (hobserved hall)
      · intro field
        have hmerge := merge_field h hrecent hadopted hrevision field
        have hknown : Net.known { net with
            registry := net.registry.applyWire sent.body
            flight := rest
            history := { net.history with
              revisions := net.history.revisions + 1
              acknowledged := sent.count
              appliedAt := some net.history.adoptedAt } } taken
            = sent.body.observed := if_pos rfl
        rw [hknown]
        exact hmerge
      · exact h.merged
    · exact h.of_flight hrest (pairwise_cons.mp horder).2

/-! ## Reports repeated and lost -/

theorem pairwise_repeat {α : Type} {r : α -> α -> Prop} (hrefl : forall a, r a a) {items : List α}
    (h : items.Pairwise r) (index : Nat) :
    (items.take (index + 1) ++ items.drop index).Pairwise r := by
  induction items generalizing index with
  | nil => simp
  | cons head rest ih =>
    rcases pairwise_cons.mp h with ⟨hhead, hrest⟩
    cases index with
    | zero =>
      refine pairwise_cons.mpr ⟨?_, h⟩
      intro other hother
      rcases mem_cons.mp hother with heq | hmem
      · exact heq ▸ hrefl head
      · exact hhead other hmem
    | succ index =>
      refine pairwise_cons.mpr ⟨?_, ih hrest index⟩
      intro other hother
      rcases mem_append.mp hother with hmem | hmem
      · exact hhead other (mem_of_mem_take hmem)
      · exact hhead other (mem_of_mem_drop hmem)

theorem repeat_agrees (h : Agrees net taken) (index : Nat) :
    Agrees (net.apply (.repeat_ index)) taken := by
  apply h.of_flight
  · intro sent hsent
    rcases mem_append.mp hsent with hmem | hmem
    · exact h.flight sent (mem_of_mem_take hmem)
    · exact h.flight sent (mem_of_mem_drop hmem)
  · exact pairwise_repeat (fun (sent : Sent) => Nat.le_refl sent.count) h.inOrder index

theorem lose_agrees (h : Agrees net taken) (index : Nat) :
    Agrees (net.apply (.lose index)) taken := by
  have hsublist := eraseIdx_sublist net.flight index
  apply h.of_flight
  · exact fun sent hsent => h.flight sent (hsublist.subset hsent)
  · exact h.inOrder.sublist hsublist

end Net

end Oxidali.Registry
