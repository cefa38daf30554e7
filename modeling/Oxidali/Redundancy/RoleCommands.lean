import Oxidali.Redundancy.ArbitrationWorker
import Oxidali.Registry.DaliSettings

/-!
# Role commands under way

The worker takes the line over in its own state at once, and the flag of the registry
follows when the role command is applied.  A turn in between reads the old flag, and takes
it for a change that somebody else has made.
-/

namespace Oxidali.Redundancy

open Registry Dali.BusUnit List

def mover : BusUnitSetter -> ApplicationActiveMover
  | .unrecorded => .unmoved
  | .operator | .redundancy => .command
  | .wire => .wire

def publishedRole : Publication -> Option Bool
  | .role active => some active
  | _ => none

def publishedReason : Publication -> Option TransitionReason
  | .transition record => some record.reason
  | _ => none

/-- `queue` are the role commands under way.  `commanded` says that a settings command of
somebody else has changed the flag since the last recorded transition. -/
structure Node where
  worker : WorkerState := .new
  record : DaliSettingsRecord
  queue : List Bool := []
  commanded : Bool := false

inductive NodeOp where
  | turn (input : TurnInput)
  | roleApplied
  | command (body : DaliSettingsUpdateCommand)
  | wire (body : BusUnitEvidence)

namespace Node

variable (node : Node)

/-- The flag and who moved it are read from the registry. -/
def turn (input : TurnInput) : Turn :=
  runTurn (dispatchArbitrationEvent node.worker input.event) { input with
    applicationActive := node.record.nvm.applicationActive
    movedBy := mover (node.record.setBy .applicationActive) }

def reasons (input : TurnInput) : List TransitionReason :=
  (node.turn input).published.filterMap publishedReason

def step : NodeOp -> Node
  | .turn input =>
    { node with
      worker := (node.turn input).state
      queue := node.queue ++ (node.turn input).published.filterMap publishedRole
      commanded := node.commanded && (node.reasons input).isEmpty }
  | .roleApplied =>
    match node.queue with
    | [] => node
    | active :: rest =>
      { node with
        record := node.record.applyPatch { applicationActive := some active, byRedundancy := true }
        queue := rest }
  | .command body =>
    let record := node.record.applyPatch { body with byRedundancy := false }
    { node with
      record := record
      commanded := node.commanded || differs record.nvm node.record.nvm .applicationActive }
  | .wire body => { node with record := node.record.applyBusUnitEvidence body }

/-- No role command is under way, the one of this turn is accepted, and redundancy is not
switched off while the worker is active. -/
structure InTime (node : Node) (input : TurnInput) : Prop where
  applied : node.queue = []
  accepted : isRoleAction (node.turn input).action -> input.roleQueued = true
  enabled : node.worker.fsm = .active -> input.settings.enabled = true

def Prompt : Node -> List NodeOp -> Prop
  | _, [] => True
  | node, op :: rest =>
    (forall input, op = .turn input -> node.InTime input) ∧ Prompt (node.step op) rest

/-- The flag is what the worker takes it for, or will be, or somebody else has moved it. -/
def Aligned : Prop :=
  isSettling node.worker.fsm ∨ node.commanded ∨ node.queue = [isActive node.worker.fsm]
    ∨ node.queue = [] ∧ (node.record.setBy .applicationActive = .wire
      ∨ node.record.nvm.applicationActive = isActive node.worker.fsm)

end Node

/-! ## What a turn publishes -/

theorem arbitrationStep_follows (state : ArbitrationState) (nowMs : Nat)
    (settings : RedundancySettingsView) (flag : Bool) (verdict : Option Bool) :
    let step := arbitrationStep state nowMs settings flag verdict
    step = (.active, .claim .peerSilent) ∨ step = (.passive 0, .standDown .peerAnswered)
      ∨ isRoleAction step.2 = false
        ∧ (isSettling step.1 ∧ (state = .active -> settings.enabled = false)
          ∨ isActive step.1 = flag) := by
  unfold arbitrationStep
  split
  · simp_all [isSettling, isRoleAction]
  · cases state <;> simp only [listeningTurn, passiveTurn, activeTurn] <;> repeat' split
    all_goals simp_all [isSettling, isActive, isRoleAction]

variable (state : WorkerState) (input : TurnInput)

theorem recordFollowed_published {action : ArbitrationAction} (h : isRoleAction action = false)
    (prev next : ArbitrationState) :
    let followed := (recordFollowed state input prev next action).2
    followed.filterMap publishedRole = []
      ∧ (.manual ∈ followed.filterMap publishedReason -> isActive prev ≠ isActive next
        ∧ (isSettling prev -> isSettling next) ∧ input.movedBy ≠ .wire) := by
  unfold recordFollowed
  dsimp only
  split
  · exact ⟨rfl, nofun⟩
  · refine ⟨rfl, fun hmanual => ?_⟩
    simp only [filterMap_cons, publishedReason, filterMap_nil, mem_singleton] at hmanual
    split at hmanual
    · cases hmanual
    · split at hmanual
      · cases hmanual
      · simp_all

theorem act_published {action : ArbitrationAction} (h : isRoleAction action = false) :
    (act state input action).2.filterMap publishedRole = []
      ∧ (act state input action).2.filterMap publishedReason = [] := by
  cases action with
  | idle => exact ⟨rfl, rfl⟩
  | probe =>
    simp only [act, probeWhenDue]
    split <;> [split; skip] <;> exact ⟨rfl, rfl⟩
  | claim reason | standDown reason => cases h

theorem inactive_of_settling {state : ArbitrationState} (h : isSettling state) :
    isActive state = false := by
  cases state with
  | active => cases h
  | _ => rfl

theorem runTurn_follows {state : WorkerState} {input : TurnInput}
    (h : isRoleAction (runTurn state input).action -> input.roleQueued = true) :
    let turn := runTurn state input
    let roles := turn.published.filterMap publishedRole
    let reasons := turn.published.filterMap publishedReason
    (isSettling turn.state.fsm ∨ roles = [isActive turn.state.fsm]
        ∨ roles = [] ∧ input.applicationActive = isActive turn.state.fsm)
      ∧ (isRoleAction turn.action -> reasons.length = 1)
      ∧ (.manual ∈ reasons -> (state.fsm = .active -> input.settings.enabled = true) ->
        isSettling state.fsm = false ∧ input.movedBy ≠ .wire
          ∧ input.applicationActive ≠ isActive state.fsm) := by
  have hstep := arbitrationStep_follows state.fsm input.nowMs input.settings
    input.applicationActive state.verdict
  simp only [(runTurn_state state input).1]
  simp only [runTurn] at h ⊢
  generalize arbitrationStep state.fsm input.nowMs input.settings input.applicationActive
    state.verdict = step at *
  rcases hstep with rfl | rfl | ⟨haction, hfollows⟩
  iterate 2
    · simp only [act, setRole, h rfl]
      exact ⟨.inr (.inl rfl), fun _ => rfl, by rintro (_ | ⟨_, ⟨⟩⟩)⟩
  · simp only [filterMap_append, act_published _ _ haction, nil_append]
    refine ⟨?_, fun hrole => ?_, ?_⟩
    · rcases hfollows with hsettling | hactive
      · exact .inl hsettling.1
      · exact .inr (.inr ⟨(recordFollowed_published _ input haction _ _).1, hactive.symm⟩)
    · cases haction.symm.trans hrole
    · intro hmanual henabled
      rcases (recordFollowed_published _ input haction _ _).2 hmanual with ⟨hmoved, hstill, hmover⟩
      rcases hfollows with ⟨hsettling, hdisabled⟩ | hactive
      · rw [inactive_of_settling hsettling, ne_eq, Bool.not_eq_false, isActive,
          decide_eq_true_iff] at hmoved
        cases (henabled hmoved).symm.trans (hdisabled hmoved)
      · refine ⟨Bool.eq_false_iff.mpr fun hsettling => hmoved ?_, hmover,
          fun hflag => hmoved (hactive.trans hflag).symm⟩
        rw [inactive_of_settling hsettling, inactive_of_settling (hstill hsettling)]

/-! ## The flag and the worker -/

/-- The flag is as it was, or the wire has moved it. -/
def WireMoves (before after : DaliSettingsRecord) : Prop :=
  after.setBy .applicationActive = .wire
    ∨ after.setBy .applicationActive = before.setBy .applicationActive
      ∧ after.nvm.applicationActive = before.nvm.applicationActive

theorem moveFields_flag (base : BusUnitNvm) (body : BusUnitEvidence) (fields : List UnitField) :
    forall record : DaliSettingsRecord, WireMoves record (record.moveFields base body fields) := by
  induction fields with
  | nil => exact fun _ => .inr ⟨rfl, rfl⟩
  | cons field rest ih =>
    intro record
    unfold DaliSettingsRecord.moveFields
    rw [foldl_cons]
    split
    · rcases ih (record.setFromWire body.observed field) with hwire | ⟨hsetter, hflag⟩
      · exact .inl hwire
      · cases field with
        | applicationActive => exact .inl hsetter
        | _ => exact .inr ⟨hsetter, hflag⟩
    · exact ih record

theorem evidence_flag (record : DaliSettingsRecord) (body : BusUnitEvidence) :
    WireMoves record (record.applyBusUnitEvidence body) := by
  unfold DaliSettingsRecord.applyBusUnitEvidence
  split
  · exact moveFields_flag _ body everyUnitField record
  · exact .inr ⟨rfl, rfl⟩

namespace Node

variable {node : Node}

theorem aligned_turn (h : node.InTime input) : Aligned (node.step (.turn input)) := by
  unfold Aligned
  simp only [step, h.applied, nil_append]
  rcases (runTurn_follows h.accepted).1 with hsettling | hrole | ⟨hnone, hflag⟩
  · exact .inl hsettling
  · exact .inr (.inr (.inl hrole))
  · exact .inr (.inr (.inr ⟨hnone, .inr hflag⟩))

theorem Aligned.step (h : Aligned node) {op : NodeOp}
    (hturn : forall input, op = .turn input -> node.InTime input) : Aligned (node.step op) := by
  cases op with
  | turn input => exact aligned_turn input (hturn input rfl)
  | roleApplied =>
    unfold Aligned at h
    cases hqueue : node.queue with
    | nil =>
      simp only [Node.step, hqueue]
      exact h
    | cons active rest =>
      simp only [Node.step, hqueue] at h ⊢
      refine h.imp_right (Or.imp_right fun h => .inr ?_)
      rcases h with hrole | ⟨hnone, _⟩
      · cases hrole
        exact ⟨rfl, .inr rfl⟩
      · cases hnone
  | command body =>
    cases hdiffers : differs (node.record.applyPatch { body with byRedundancy := false }).nvm
      node.record.nvm .applicationActive with
    | true => exact .inr (.inl (by simp only [Node.step, hdiffers, Bool.or_true]))
    | false =>
      refine h.imp_right (Or.imp (fun h => ?_) (Or.imp_right fun h => ⟨h.1, ?_⟩))
      · simp only [Node.step, h, Bool.true_or]
      · refine h.2.imp (fun hwire => ?_) fun hflag => ?_
        · exact (if_neg (Bool.eq_false_iff.mp hdiffers)).trans hwire
        · exact (not_not.mp (of_decide_eq_false hdiffers)).trans hflag
  | wire body =>
    refine h.imp_right (Or.imp_right (Or.imp_right fun h => ⟨h.1, ?_⟩))
    rcases evidence_flag node.record body with hwire | ⟨hsetter, hflag⟩
    · exact .inl hwire
    · exact h.2.imp hsetter.trans hflag.trans

theorem run_aligned (ops : List NodeOp) :
    forall node : Node, Aligned node -> Prompt node ops -> Aligned (ops.foldl step node) := by
  induction ops with
  | nil => exact fun _ h _ => h
  | cons op rest ih => exact fun node h hprompt => ih _ (h.step hprompt.1) hprompt.2

/-- If every role command is applied before the next turn, a transition is put down to an
operator only when a settings command has changed the flag since the last one. -/
theorem manual_if_commanded (record : DaliSettingsRecord) (ops : List NodeOp)
    (hprompt : Prompt { record := record } ops) (input : TurnInput)
    (h : (ops.foldl step { record := record }).InTime input) :
    let node := ops.foldl step { record := record }
    (.manual ∈ node.reasons input -> node.commanded = true)
      ∧ (isRoleAction (node.turn input).action -> (node.reasons input).length = 1) := by
  have haligned := run_aligned ops _ (.inl rfl) hprompt
  generalize ops.foldl step { record := record } = node at *
  have hfollows := (runTurn_follows h.accepted).2
  refine ⟨fun hmanual => ?_, hfollows.1⟩
  rw [dispatch_fsm] at hfollows
  rcases hfollows.2 hmanual h.enabled with ⟨hstill, hmover, hmoved⟩
  rcases haligned with hsettling | hcommanded | hqueue | ⟨_, hwire | hflag⟩
  · cases hstill.symm.trans hsettling
  · exact hcommanded
  · cases h.applied.symm.trans hqueue
  · rw [hwire] at hmover
    exact absurd rfl hmover
  · exact absurd hflag hmoved

def operatorTakesOver : List NodeOp :=
  [.command { applicationActive := some false }, .turn (standbyTurn true .other 0),
    .command { applicationActive := some true }]

theorem operator_recorded :
    let node := operatorTakesOver.foldl step { record := .default }
    .manual ∈ node.reasons (standbyTurn true .other 400) ∧ node.commanded = true := by
  refine ⟨by decide, (manual_if_commanded .default operatorTakesOver ⟨nofun, ?_, nofun, trivial⟩
    (standbyTurn true .other 400) ⟨rfl, nofun, nofun⟩).1 (by decide)⟩
  rintro _ ⟨⟩
  exact ⟨rfl, nofun, nofun⟩

/-- Two probes stay unanswered, and the role command is or is not accepted. -/
def takesOver (accepted : Bool) : List NodeOp :=
  [.command { applicationActive := some false }, .turn (standbyTurn true .other 0),
    .turn (standbyTurn true (.arbitrationProbed false) 400),
    .turn { standbyTurn true (.arbitrationProbed false) 800 with roleQueued := accepted }]

/-- The turn after a takeover comes before the role command, or there is none: it puts the
flag it reads down to an operator. -/
theorem takeover_taken_back :
    let node accepted := (takesOver accepted).foldl step { record := .default }
    (node true).queue = [true] ∧ (node true).commanded = false
      ∧ (node true).reasons (standbyTurn true .other 1200) = [.manual]
      ∧ (node false).queue = [] ∧ (node false).commanded = false
      ∧ (node false).reasons (standbyTurn true .other 1200) = [.manual] := by
  decide

end Node

end Oxidali.Redundancy
