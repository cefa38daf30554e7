import Oxidali.Lib.Words

/-!
# Redundancy arbitration

Two application controllers share a line.  The standby probes the one that owns
it and takes the line over when enough probes in a row stay unanswered.  Times
are counted in milliseconds modulo `2 ^ 32`.
-/

namespace Oxidali.Redundancy

open Words

structure RedundancySettingsView where
  enabled : Bool
  standbyRole : Bool
  probeIntervalMs : Nat
  takeoverAfterMissed : Nat
  bootListenMs : Nat

inductive TransitionReason where
  | peerSilent
  | peerAnswered
  | manual
  | handover
  | boot
deriving DecidableEq

inductive ArbitrationState where
  | disabled
  | listening (untilMs : Nat)
  | passive (missed : Nat)
  | active
deriving DecidableEq

inductive ArbitrationAction where
  | idle
  | probe
  | claim (reason : TransitionReason)
  | standDown (reason : TransitionReason)
deriving DecidableEq

def u32Max : Nat := 2 ^ 32 - 1

/-- `u8::saturating_add(1)`. -/
def nextMissed (missed : Nat) : Nat :=
  min (missed + 1) 255

/-! ## One step of the state machine -/

def listeningTurn (untilMs nowMs : Nat) (settings : RedundancySettingsView)
    (applicationActive : Bool) : ArbitrationState × ArbitrationAction :=
  -- the difference is read as a signed number
  if 0 < wrappingSub u32Max untilMs nowMs ∧ wrappingSub u32Max untilMs nowMs < 2 ^ 31 then
    (.listening untilMs, .idle)
  else if applicationActive then (.active, .idle)
  else if settings.standbyRole then (.passive 0, .probe)
  else (.passive 0, .idle)

def passiveTurn (missed : Nat) (settings : RedundancySettingsView) (applicationActive : Bool)
    (verdict : Option Bool) : ArbitrationState × ArbitrationAction :=
  if applicationActive then (.active, .idle)
  else if !settings.standbyRole then (.passive missed, .idle)
  else
    match verdict with
    | some true => (.passive 0, .probe)
    | some false =>
      if max settings.takeoverAfterMissed 1 <= nextMissed missed then
        (.active, .claim .peerSilent)
      else (.passive (nextMissed missed), .probe)
    | none => (.passive missed, .probe)

def activeTurn (settings : RedundancySettingsView) (applicationActive : Bool)
    (verdict : Option Bool) : ArbitrationState × ArbitrationAction :=
  if !applicationActive then (.passive 0, .idle)
  else if !settings.standbyRole then (.active, .idle)
  else
    match verdict with
    | some true => (.passive 0, .standDown .peerAnswered)
    | _ => (.active, .probe)

def arbitrationStep (state : ArbitrationState) (nowMs : Nat) (settings : RedundancySettingsView)
    (applicationActive : Bool) (verdict : Option Bool) : ArbitrationState × ArbitrationAction :=
  if !settings.enabled then (.disabled, .idle)
  else
    match state with
    | .disabled =>
      listeningTurn (wrappingAdd u32Max nowMs settings.bootListenMs) nowMs settings
        applicationActive
    | .listening untilMs => listeningTurn untilMs nowMs settings applicationActive
    | .passive missed => passiveTurn missed settings applicationActive verdict
    | .active => activeTurn settings applicationActive verdict

/-! ## What a step can do -/

variable {settings : RedundancySettingsView} {applicationActive : Bool}

theorem listeningTurn_missed {untilMs nowMs missed : Nat}
    (h : (listeningTurn untilMs nowMs settings applicationActive).1
      = .passive missed) : missed = 0 := by
  unfold listeningTurn at h
  split at h <;> [skip; split at h] <;> [skip; skip; split at h] <;> cases h <;> rfl

variable {verdict : Option Bool}

theorem activeTurn_missed {missed : Nat}
    (h : (activeTurn settings applicationActive verdict).1 = .passive missed) : missed = 0 := by
  unfold activeTurn at h
  split at h <;> [skip; split at h] <;> [skip; skip; split at h] <;> cases h <;> rfl

/-- A claim is made by a passive standby on a probe that nobody answered. -/
theorem arbitrationStep_claim {state : ArbitrationState} {nowMs : Nat} {reason : TransitionReason}
    (h : (arbitrationStep state nowMs settings applicationActive verdict).2 = .claim reason) :
    exists missed, state = .passive missed ∧ verdict = some false
      ∧ max settings.takeoverAfterMissed 1 <= nextMissed missed := by
  unfold arbitrationStep at h
  split at h
  · cases h
  · cases state with
    | disabled | listening untilMs =>
      simp only [listeningTurn] at h
      split at h <;> [skip; split at h] <;> [skip; skip; split at h] <;> cases h
    | active =>
      simp only [activeTurn] at h
      split at h <;> [skip; split at h] <;> [skip; skip; split at h] <;> cases h
    | passive missed =>
      simp only [passiveTurn] at h
      split at h
      · cases h
      · split at h
        · cases h
        · cases verdict with
          | none => cases h
          | some owned =>
            cases owned with
            | true => cases h
            | false =>
              simp only at h
              split at h
              · exact ⟨missed, rfl, rfl, by assumption⟩
              · cases h

theorem arbitrationStep_missed {state : ArbitrationState} {nowMs missed : Nat}
    (h : (arbitrationStep state nowMs settings applicationActive verdict).1 = .passive missed) :
    missed = 0
      ∨ (verdict = some false ∧ exists before, state = .passive before ∧ missed = nextMissed before)
      ∨ (state = .passive missed
        ∧ (verdict = none ∨ (settings.enabled ∧ applicationActive = false
          ∧ settings.standbyRole = false))) := by
  unfold arbitrationStep at h
  split at h
  · cases h
  · rename_i henabled
    cases state with
    | disabled | listening untilMs => exact .inl (listeningTurn_missed h)
    | active => exact .inl (activeTurn_missed h)
    | passive before =>
      simp only [passiveTurn] at h
      split at h
      · cases h
      · rename_i hactive
        split at h
        · rename_i hstandby
          cases h
          exact .inr (.inr ⟨rfl, .inr (by simp_all)⟩)
        · cases verdict with
          | none =>
            cases h
            exact .inr (.inr ⟨rfl, .inl rfl⟩)
          | some owned =>
            cases owned with
            | true =>
              cases h
              exact .inl rfl
            | false =>
              simp only at h
              split at h
              · cases h
              · cases h
                exact .inr (.inl ⟨rfl, before, rfl, rfl⟩)

end Oxidali.Redundancy
