import Oxidali.Redundancy.Arbitration

/-!
# The arbitration worker

The worker keeps the state machine and the newest verdict on a probe.  Before a
turn at most one event reaches it; the turn reads the settings and the role it
has at that moment, makes one step and acts on it.
-/

namespace Oxidali.Redundancy

open Words

/-! ## Turns of the worker -/

inductive ApplicationActiveMover where
  | unmoved
  | command
  | wire
deriving DecidableEq

structure RecordedTransition where
  nowActive : Bool
  reason : TransitionReason
  detectedAtMs : Nat
  completedAtMs : Nat
  lastPeerAnswerMs : Nat
  missedProbes : Nat

structure WorkerState where
  fsm : ArbitrationState
  verdict : Option Bool
  lastPeerAnswerMs : Nat
  missed : Nat
  lastProbeMs : Option Nat
  probePending : Bool
  handoverSent : Bool

namespace WorkerState

def new : WorkerState where
  fsm := .disabled
  verdict := none
  lastPeerAnswerMs := 0
  missed := 0
  lastProbeMs := none
  probePending := false
  handoverSent := false

def noteVerdict (state : WorkerState) (owned : Bool) : WorkerState :=
  { state with verdict := some owned }

end WorkerState

/-- The events the worker takes note of; it also wakes up on others. -/
inductive WorkerEvent where
  | arbitrationProbed (owned : Bool)
  | handoverSent
  | other

def dispatchArbitrationEvent (state : WorkerState) : WorkerEvent -> WorkerState
  | .arbitrationProbed owned => state.noteVerdict owned
  | .handoverSent => { state with handoverSent := true }
  | .other => state

/-- What the worker reads and is told during a turn. -/
structure TurnInput where
  event : WorkerEvent
  settings : RedundancySettingsView
  applicationActive : Bool
  movedBy : ApplicationActiveMover
  nowMs : Nat
  completedAtMs : Nat
  adapterEnabled : Bool
  roleQueued : Bool

/-- What the worker publishes on the bus. -/
inductive Publication where
  | probe
  | role (active : Bool)
  | transition (record : RecordedTransition)

def isActive (state : ArbitrationState) : Bool :=
  state = .active

variable (state : WorkerState)

def probeDue (nowMs probeIntervalMs : Nat) : Bool :=
  match state.lastProbeMs with
  | none => true
  | some last => probeIntervalMs <= wrappingSub u32Max nowMs last

variable (input : TurnInput)

def probeWhenDue : WorkerState × List Publication :=
  if probeDue state input.nowMs input.settings.probeIntervalMs then
    ({ state with probePending := false, lastProbeMs := some input.nowMs },
      if input.adapterEnabled then [.probe] else [])
  else ({ state with probePending := true }, [])

def setRole (active : Bool) (reason : TransitionReason) : List Publication :=
  if input.roleQueued then
    [.role active, .transition {
      nowActive := active
      reason := reason
      detectedAtMs := input.nowMs
      completedAtMs := input.completedAtMs
      lastPeerAnswerMs := state.lastPeerAnswerMs
      missedProbes := state.missed }]
  else []

def act : ArbitrationAction -> WorkerState × List Publication
  | .idle => (state, [])
  | .probe => probeWhenDue state input
  | .claim reason => (state, setRole state input true reason)
  | .standDown reason => (state, setRole state input false reason)

def isSettling : ArbitrationState -> Bool
  | .listening _ => true
  | .disabled => true
  | _ => false

def isRoleAction : ArbitrationAction -> Bool
  | .claim _ => true
  | .standDown _ => true
  | _ => false

def recordFollowed (state : WorkerState) (input : TurnInput) (prev next : ArbitrationState)
    (action : ArbitrationAction) : WorkerState × List Publication :=
  let settled := isSettling prev && !isSettling next
  if isRoleAction action || (!settled && isActive prev == isActive next) then
    (state, [])
  else
    let reason : TransitionReason :=
      if settled then .boot
      else if state.handoverSent || input.movedBy == .wire then .handover
      else .manual
    ({ state with handoverSent := false }, [.transition {
      nowActive := isActive next
      reason := reason
      detectedAtMs := input.nowMs
      completedAtMs := input.nowMs
      lastPeerAnswerMs := state.lastPeerAnswerMs
      missedProbes := 0 }])

structure Turn where
  state : WorkerState
  action : ArbitrationAction
  published : List Publication

def runTurn (state : WorkerState) (input : TurnInput) : Turn :=
  let verdict := state.verdict
  let heard := { state with
    verdict := none
    lastPeerAnswerMs :=
      if verdict = some true then input.nowMs else state.lastPeerAnswerMs }
  let (next, action) := arbitrationStep state.fsm input.nowMs input.settings
    input.applicationActive verdict
  let counted := match next, action with
    | _, .claim _ => nextMissed state.missed
    | .passive missed, _ => missed
    | _, _ => 0
  let (acted, done) := act { heard with missed := counted, fsm := next } input action
  let settled := match action with
    | .claim _ => { acted with missed := 0 }
    | _ => acted
  let (recorded, followed) := recordFollowed settled input state.fsm next action
  { state := recorded, action := action, published := done ++ followed }

variable (state : WorkerState) (input : TurnInput)

theorem act_kept (action : ArbitrationAction) :
    (act state input action).1.fsm = state.fsm
      ∧ (act state input action).1.verdict = state.verdict := by
  cases action with
  | idle => exact ⟨rfl, rfl⟩
  | probe =>
    simp only [act, probeWhenDue]
    cases probeDue state input.nowMs input.settings.probeIntervalMs <;> exact ⟨rfl, rfl⟩
  | claim reason | standDown reason => exact ⟨rfl, rfl⟩

theorem recordFollowed_kept (prev next : ArbitrationState) (action : ArbitrationAction) :
    (recordFollowed state input prev next action).1.fsm = state.fsm
      ∧ (recordFollowed state input prev next action).1.verdict = state.verdict := by
  unfold recordFollowed
  dsimp only
  split <;> exact ⟨rfl, rfl⟩

theorem runTurn_state :
    (runTurn state input).state.fsm
      = (arbitrationStep state.fsm input.nowMs input.settings
        input.applicationActive state.verdict).1
      ∧ (runTurn state input).state.verdict = none := by
  simp only [runTurn, recordFollowed_kept]
  split <;> exact act_kept _ _ _

theorem runTurn_action :
    (runTurn state input).action
      = (arbitrationStep state.fsm input.nowMs input.settings
        input.applicationActive state.verdict).2 :=
  rfl

/-! ## Histories

The newest turn stands first. -/

def TurnInput.verdict : Option Bool :=
  match input.event with
  | .arbitrationProbed owned => some owned
  | _ => none

def turn (state : WorkerState) (input : TurnInput) : Turn :=
  runTurn (dispatchArbitrationEvent state input.event) input

def after : List TurnInput -> WorkerState
  | [] => .new
  | input :: past => (turn (after past) input).state

/-- The unowned verdicts since the last owned one. -/
def silences : List TurnInput -> Nat
  | [] => 0
  | input :: past =>
    match input.verdict with
    | some true => 0
    | some false => silences past + 1
    | none => silences past

/-- The turn does not drop an owned verdict that should restart a count: the
worker waits passively without the standby role, and keeps its count. -/
def Heeds (state : WorkerState) (input : TurnInput) : Prop :=
  forall missed, state.fsm = .passive missed -> 0 < missed ->
    input.settings.enabled = true -> input.applicationActive = false ->
    input.settings.standbyRole = false -> input.verdict ≠ some true

def AllHeeded : List TurnInput -> Prop
  | [] => True
  | input :: past => Heeds (after past) input ∧ AllHeeded past

theorem after_verdict (past : List TurnInput) : (after past).verdict = none := by
  cases past with
  | nil => rfl
  | cons input past => exact (runTurn_state _ _).2

theorem dispatch_fsm (event : WorkerEvent) :
    (dispatchArbitrationEvent state event).fsm = state.fsm := by
  cases event <;> rfl

theorem dispatch_verdict {state : WorkerState} (h : state.verdict = none) (input : TurnInput) :
    (dispatchArbitrationEvent state input.event).verdict = input.verdict := by
  unfold TurnInput.verdict
  cases input.event with
  | arbitrationProbed owned => rfl
  | handoverSent | other => exact h

theorem nextMissed_le (missed : Nat) : nextMissed missed <= missed + 1 :=
  Nat.min_le_left _ _

/-- The count never exceeds the silences since the last owned verdict. -/
theorem missed_le_silences {past : List TurnInput} (hheeded : AllHeeded past) :
    forall missed, (after past).fsm = .passive missed -> missed <= silences past := by
  induction past with
  | nil =>
    intro missed h
    cases h
  | cons input past ih =>
    intro missed h
    have hpast := ih hheeded.2
    rw [after, turn, (runTurn_state _ _).1, dispatch_fsm,
      dispatch_verdict (after_verdict past)] at h
    rcases arbitrationStep_missed h with hzero | ⟨hunowned, before, hbefore, hnext⟩
      | ⟨hkept, hquiet⟩
    · rw [hzero]
      exact Nat.zero_le _
    · have hle := hpast before hbefore
      have hmissed := nextMissed_le before
      rw [silences, hunowned, hnext]
      exact Nat.le_trans hmissed (Nat.succ_le_succ hle)
    · have hle := hpast missed hkept
      rcases Nat.eq_zero_or_pos missed with hzero | hpos
      · rw [hzero]
        exact Nat.zero_le _
      · have hnot : input.verdict ≠ some true := by
          rcases hquiet with hnone | ⟨henabled, hinactive, hrole⟩
          · rw [hnone]
            exact nofun
          · exact hheeded.1 missed hkept hpos henabled hinactive hrole
        unfold silences
        split
        · contradiction
        · exact Nat.le_succ_of_le hle
        · exact hle

/-- Without a dropped owned verdict in its past, a worker claims the line only
after as many silences as the settings of that turn ask for. -/
theorem claim_after_silences (past : List TurnInput) (hheeded : AllHeeded past)
    (hclaim : (turn (after past) input).action = .claim .peerSilent) :
    max 1 input.settings.takeoverAfterMissed <= silences (input :: past) := by
  rw [turn, runTurn_action, dispatch_fsm, dispatch_verdict (after_verdict past)] at hclaim
  rcases arbitrationStep_claim hclaim with ⟨missed, hpassive, hunowned, hreached⟩
  have hcount := missed_le_silences hheeded missed hpassive
  rw [silences, hunowned, Nat.max_comm]
  calc max input.settings.takeoverAfterMissed 1
      <= nextMissed missed := hreached
    _ <= missed + 1 := nextMissed_le missed
    _ <= silences past + 1 := Nat.succ_le_succ hcount

/-! ## A verdict that is dropped -/

def standbySettings : RedundancySettingsView where
  enabled := true
  standbyRole := true
  probeIntervalMs := 400
  takeoverAfterMissed := 2
  bootListenMs := 0

def standbyTurn (standbyRole : Bool) (event : WorkerEvent) (nowMs : Nat) : TurnInput where
  event := event
  settings := { standbySettings with standbyRole := standbyRole }
  applicationActive := false
  movedBy := .unmoved
  nowMs := nowMs
  completedAtMs := nowMs
  adapterEnabled := true
  roleQueued := true

/-- An owned verdict between the silences starts the count again. -/
theorem claim_after_silences_two :
    let past := [standbyTurn true (.arbitrationProbed false) 1200,
      standbyTurn true (.arbitrationProbed true) 800,
      standbyTurn true (.arbitrationProbed false) 400, standbyTurn true .other 0]
    let input := standbyTurn true (.arbitrationProbed false) 1600
    (turn (after past) input).action = .claim .peerSilent ∧ 2 <= silences (input :: past) := by
  intro past input
  have hclaim : (turn (after past) input).action = .claim .peerSilent := by decide
  refine ⟨hclaim, claim_after_silences _ _ ?_ hclaim⟩
  exact ⟨nofun, nofun, nofun, nofun, trivial⟩

/-- One silence, then an owned verdict while the standby role is switched off,
then one more silence: the line is claimed. -/
theorem claim_after_one_silence :
    let past := [standbyTurn false (.arbitrationProbed true) 800,
      standbyTurn true (.arbitrationProbed false) 400, standbyTurn true .other 0]
    let input := standbyTurn true (.arbitrationProbed false) 1200
    (turn (after past) input).action = .claim .peerSilent ∧ silences (input :: past) = 1
      ∧ max 1 input.settings.takeoverAfterMissed = 2 := by
  decide

end Oxidali.Redundancy
