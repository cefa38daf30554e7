/-!
# Announcing an entity to Home Assistant

A session remembers the hash of the config it has announced for an entity, and skips an
announcement with that hash.  A lamp is announced by two publishes, its config and its
availability, and the hash is remembered when both were accepted.
-/

namespace Oxidali.Mqtt

inductive Entity where
  | lamp
  | group
  | input
  | sceneSelect

inductive Gate where
  | force
  | ifChanged
  | ifAnnounced
deriving DecidableEq

inductive Announced where
  | skipped
  | published
  | refused
deriving DecidableEq

def Announced.ofDelivered (delivered : Bool) : Announced :=
  if delivered then .published else .refused

def discoveryRetraction : String := ""

/-- What concerns one entity: the hash the session holds, the payload the client has
accepted last on the discovery topic, and how many publishes it was asked for. -/
structure HaOut where
  announced : Option (BitVec 64) := none
  config : Option String
  asked : Nat
deriving DecidableEq

namespace HaOut

section

variable (accepts : Nat -> Bool) (configHash : String -> BitVec 64) (out : HaOut)

/-- A publish on another topic.  `accepts` tells which publishes the client accepts. -/
def publish : HaOut × Bool :=
  ({ out with asked := out.asked + 1 }, accepts out.asked)

def publishConfig (payload : String) : HaOut × Bool :=
  let sent := out.publish accepts
  (if sent.2 then { sent.1 with config := some payload } else sent.1, sent.2)

def forget : HaOut × Bool :=
  ({ out with announced := none }, out.announced.isSome)

def clearLampRetained : HaOut × Bool :=
  let availability := out.publish accepts
  let state := availability.1.publish accepts
  (state.1, availability.2 && state.2)

def clearPairedTopics : Entity -> HaOut × Bool
  | .lamp => out.clearLampRetained accepts
  | _ => (out, true)

variable (entity : Entity)

def deliver (payload : String) : HaOut × Bool :=
  let config := out.publishConfig accepts payload
  if !config.2 then (config.1, false)
  else
    match entity with
    | .lamp => config.1.publish accepts
    | _ => (config.1, true)

def retract (gate : Gate) : HaOut × Announced :=
  let forgotten := out.forget
  if !forgotten.2 && gate == .ifAnnounced then (forgotten.1, .skipped)
  else
    let retracted := forgotten.1.publishConfig accepts discoveryRetraction
    let cleared := retracted.1.clearPairedTopics accepts entity
    (cleared.1, .ofDelivered (retracted.2 && cleared.2))

/-- `built` is the payload that `build_discovery` makes of the registry. -/
def announce (built : Option String) (gate : Gate) : HaOut × Announced :=
  match built with
  | none => (out.forget.1, .skipped)
  | some payload =>
    if payload == discoveryRetraction then out.retract accepts entity gate
    else if gate != .force && out.announced == some (configHash payload) then (out, .skipped)
    else
      let delivered := out.deliver accepts entity payload
      (if delivered.2 then { delivered.1 with announced := some (configHash payload) }
        else delivered.1,
        .ofDelivered delivered.2)

end

variable {accepts : Nat -> Bool} {configHash : String -> BitVec 64} {out : HaOut}
  {entity : Entity} {gate : Gate} {built : Option String} {payload : String}

/-- A hash that is held is that of the config the client accepted last. -/
def Held (configHash : String -> BitVec 64) (out : HaOut) : Prop :=
  forall hash, out.announced = some hash ->
    exists payload, out.config = some payload ∧ configHash payload = hash

/-- Where the announcement publishes the config of a lamp and the client accepts it, the
client accepts the availability behind it. -/
def Undivided (accepts : Nat -> Bool) (configHash : String -> BitVec 64) (out : HaOut)
    (gate : Gate) : Entity -> Option String -> Prop
  | .lamp, some payload => payload ≠ discoveryRetraction ->
      (gate ≠ .force -> out.announced ≠ some (configHash payload)) ->
      accepts out.asked = true -> accepts (out.asked + 1) = true
  | _, _ => True

/-- What a session may come to while every announcement is undivided. -/
inductive Reached (accepts : Nat -> Bool) (configHash : String -> BitVec 64)
    (entity : Entity) : HaOut -> Prop
  | begin (config : Option String) (asked : Nat) :
      Reached accepts configHash entity { config, asked }
  | forget {out : HaOut} : Reached accepts configHash entity out ->
      Reached accepts configHash entity out.forget.1
  | announce {out : HaOut} (built : Option String) (gate : Gate) :
      Reached accepts configHash entity out ->
      Undivided accepts configHash out gate entity built ->
      Reached accepts configHash entity (out.announce accepts configHash entity built gate).1

theorem announced_retract : (out.retract accepts entity gate).1.announced = none := by
  have hconfig : (out.forget.1.publishConfig accepts discoveryRetraction).1.announced = none := by
    simp only [publishConfig]
    split <;> rfl
  simp only [retract]
  split
  · rfl
  · cases entity <;> exact hconfig

theorem Held.announce (h : out.Held configHash)
    (hwhole : Undivided accepts configHash out gate entity built) :
    (out.announce accepts configHash entity built gate).1.Held configHash := by
  cases built with
  | none => exact nofun
  | some payload =>
    unfold HaOut.announce
    by_cases hretracts : payload = discoveryRetraction
    · simp only [hretracts, beq_self_eq_true, if_true]
      intro hash hheld
      cases announced_retract.symm.trans hheld
    · simp only [beq_iff_eq, hretracts, if_false]
      split
      · exact h
      next hpublishes =>
        cases haccepts : accepts out.asked with
        | false =>
          simp only [deliver, publishConfig, publish, haccepts]
          exact h
        | true =>
          have hdelivered : (out.deliver accepts entity payload).2 = true := by
            have hdue : gate ≠ .force -> out.announced ≠ some (configHash payload) := by
              simpa using hpublishes
            cases entity with
            | lamp => simpa [deliver, publishConfig, publish, haccepts] using
                hwhole hretracts hdue haccepts
            | _ => simp [deliver, publishConfig, publish, haccepts]
          rw [hdelivered]
          intro hash hheld
          refine ⟨payload, ?_, Option.some.inj hheld⟩
          simp only [deliver, publishConfig, publish, haccepts]
          cases entity <;> rfl

theorem Reached.held (h : Reached accepts configHash entity out) : out.Held configHash := by
  induction h with
  | begin config asked => exact nofun
  | forget _ _ => exact nofun
  | announce built gate _ hwhole ih => exact ih.announce hwhole

/-- Within a session a hash that is held is that of the config on the broker, and an
announcement that is skipped has the hash of that config. -/
theorem announced_config_on_broker (h : Reached accepts configHash entity out) :
    out.Held configHash ∧ (payload ≠ discoveryRetraction ->
      (out.announce accepts configHash entity (some payload) gate).2 = .skipped ->
        exists other, out.config = some other ∧ configHash other = configHash payload) := by
  refine ⟨h.held, ?_⟩
  intro hconfig hskipped
  simp only [HaOut.announce, beq_iff_eq, hconfig, if_false] at hskipped
  split at hskipped
  case isTrue hsame =>
    rw [Bool.and_eq_true, beq_iff_eq] at hsame
    exact h.held _ hsame.2
  case isFalse =>
    unfold Announced.ofDelivered at hskipped
    split at hskipped <;> cases hskipped

/-! ## An availability that is refused -/

def lengthHash (payload : String) : BitVec 64 := payload.length

/-- A lamp is announced, its config changes, and it changes back. -/
def renamedBack (accepts : Nat -> Bool) : HaOut × Announced :=
  let first := (announce accepts lengthHash ⟨none, none, 0⟩ .lamp (some "hall") .ifChanged).1
  let second := (first.announce accepts lengthHash .lamp (some "lobby") .ifChanged).1
  second.announce accepts lengthHash .lamp (some "hall") .ifChanged

/-- The second config is refused. -/
theorem renamed_back_on_broker :
    (renamedBack fun publish => publish != 2).1.Held lengthHash := by
  refine (@announced_config_on_broker (fun publish => publish != 2) lengthHash _ .lamp .force ""
    ?_).1
  exact .announce _ _ (.announce _ _ (.announce _ _ (.begin _ _) fun _ _ _ => rfl)
    fun _ _ => nofun) fun _ hdue => absurd rfl (hdue nofun)

/-- The availability behind the second config is refused: the session still holds the hash
of the first one, and skips it although the broker has the second. -/
theorem skipped_config_differs :
    renamedBack (fun publish => publish != 3)
        = (⟨some (lengthHash "hall"), some "lobby", 4⟩, .skipped)
      ∧ lengthHash "lobby" ≠ lengthHash "hall" := by
  decide

end HaOut

end Oxidali.Mqtt
