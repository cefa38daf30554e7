import Mathlib

/-!
# Workers that turn and the lease they back

The unit answers on the bus only under a lease.  A supervisor renews it as long as
every worker has reported a turn not long ago.  All stamps are milliseconds in 32
bits that wrap, and a stamp may be used some time after the clock was read, so that a
younger stamp may meet an older reading.
-/

namespace Oxidali.Redundancy

open List Option BitVec

abbrev Stamp := BitVec 32

def clockReadSkewMs : Nat := 100

def leaseTtlMs : Nat := 3000

/-! ## Beats -/

structure LivenessBeat where
  name : String
  lastMs : Stamp
  seen : Bool
  staleAfterMs : Stamp

namespace LivenessBeat

def new (name : String) (staleAfterMs : Stamp) : LivenessBeat where
  name := name
  lastMs := 0
  seen := false
  staleAfterMs := staleAfterMs

variable (self : LivenessBeat) (nowMs : Stamp)

def beat : LivenessBeat :=
  { self with
    lastMs := nowMs
    seen := true }

def ageMs : Option Stamp :=
  if self.seen then
    let delta := nowMs - self.lastMs
    let ahead := -delta
    some (if ahead.toNat <= clockReadSkewMs then 0 else delta)
  else none

def isFresh : Bool :=
  match self.ageMs nowMs with
  | some age => age.toNat <= self.staleAfterMs.toNat
  | none => false

end LivenessBeat

/-- `LivenessWatch`: the registered beats in the order of their registration. -/
abbrev LivenessWatch := List LivenessBeat

def LivenessWatch.stale (watch : LivenessWatch) (nowMs : Stamp) : Option String :=
  (watch.find? fun beat => !beat.isFresh nowMs).map LivenessBeat.name

/-! ## The lease -/

/-- The part of `AnswerInputs` that says until when the unit may answer. -/
structure AnswerInputs where
  leaseUntilMs : Stamp
deriving DecidableEq

namespace AnswerInputs

def new : AnswerInputs where
  leaseUntilMs := 0

variable (inputs : AnswerInputs)

def leaseRemainingMs (nowMs : Stamp) : Nat :=
  let remaining := (inputs.leaseUntilMs - nowMs).toNat
  if remaining <= leaseTtlMs then remaining
  else if remaining <= leaseTtlMs + clockReadSkewMs then leaseTtlMs
  else 0

def leaseAlive (nowMs : Stamp) : Bool :=
  inputs.leaseRemainingMs nowMs > 0

def extendLease (nowMs ttlMs : Stamp) : AnswerInputs :=
  let ttl := min ttlMs.toNat leaseTtlMs
  if ttl > inputs.leaseRemainingMs nowMs then
    { inputs with leaseUntilMs := nowMs + BitVec.ofNat 32 ttl }
  else inputs

end AnswerInputs

/-! ## The supervisor -/

inductive SupervisorTurn where
  | defend
  | workerStale (name : String)

structure SupervisorCounters where
  defended : BitVec 32
  stoodDownWorkerStale : BitVec 32

def SupervisorCounters.record (counters : SupervisorCounters) : SupervisorTurn -> SupervisorCounters
  | .defend => { counters with defended := counters.defended + 1 }
  | .workerStale _ =>
    { counters with stoodDownWorkerStale := counters.stoodDownWorkerStale + 1 }

structure SupervisorInputs where
  answerInputs : AnswerInputs
  watch : LivenessWatch
  counters : SupervisorCounters
  leaseTtlMs : Stamp

def runSupervisorTick (inputs : SupervisorInputs) (nowMs : Stamp) :
    SupervisorInputs × SupervisorTurn :=
  let turn := match inputs.watch.stale nowMs with
    | some name => SupervisorTurn.workerStale name
    | none => .defend
  let answerInputs := match turn with
    | .defend => inputs.answerInputs.extendLease nowMs inputs.leaseTtlMs
    | .workerStale _ => inputs.answerInputs
  ({ inputs with
    answerInputs := answerInputs
    counters := inputs.counters.record turn }, turn)

/-! ## Histories -/

/-- One of the workers reports a turn, or the supervisor makes one. -/
inductive LivenessEvent where
  | beat (worker : Nat)
  | tick

/-- A turn of the supervisor: when it took effect, how it ended, and when each worker
had last reported by then. -/
structure Finding where
  takenAt : Nat
  turn : SupervisorTurn
  beaten : Nat -> Option Nat

/-- The inputs, and the uptime at which things took effect. -/
structure Uptime where
  inputs : SupervisorInputs
  now : Nat
  beaten : Nat -> Option Nat
  extended : Nat
  findings : List Finding

/-- A reading of the clock that takes effect `lag` milliseconds later. -/
def reading (takenAt lag : Nat) : Stamp :=
  BitVec.ofNat 32 (takenAt - lag)

namespace Uptime

def boot (workers : List (String × Stamp)) (ttl : Stamp) : Uptime where
  inputs := {
    answerInputs := AnswerInputs.new
    watch := workers.map fun worker => LivenessBeat.new worker.1 worker.2
    counters := {
      defended := 0
      stoodDownWorkerStale := 0 }
    leaseTtlMs := ttl }
  now := 0
  beaten := fun _ => none
  extended := 0
  findings := []

def beat (up : Uptime) (takenAt lag worker : Nat) : Uptime :=
  { up with
    inputs := { up.inputs with
      watch := up.inputs.watch.modify worker fun beat => beat.beat (reading takenAt lag) }
    now := takenAt
    beaten := Function.update up.beaten worker (some takenAt) }

/-- The lease counts as extended when its end is moved. -/
def tick (up : Uptime) (takenAt lag : Nat) : Uptime :=
  let result := runSupervisorTick up.inputs (reading takenAt lag)
  { inputs := result.1
    now := takenAt
    beaten := up.beaten
    extended := if result.1.answerInputs = up.inputs.answerInputs then up.extended else takenAt
    findings := ⟨takenAt, result.2, up.beaten⟩ :: up.findings }

def after (up : Uptime) (takenAt lag : Nat) : LivenessEvent -> Uptime
  | .beat worker => up.beat takenAt lag worker
  | .tick => up.tick takenAt lag

end Uptime

/-- How long a worker may stay silent, or a lease unextended. -/
def silenceLimitMs : Nat := 4294967296 - 6200

/-- Events take effect one after the other, each soon after its reading, and no worker
that has ever reported stays silent for too long. -/
inductive Reached (workers : List (String × Stamp)) (ttl : Stamp) : Uptime -> Prop where
  | boot : Reached workers ttl (Uptime.boot workers ttl)
  | step {up : Uptime} {takenAt lag : Nat} (event : LivenessEvent) :
      Reached workers ttl up -> up.now <= takenAt -> lag <= clockReadSkewMs ->
      lag <= takenAt ->
      (forall worker beaten, up.beaten worker = some beaten -> takenAt < beaten + silenceLimitMs) ->
      Reached workers ttl (up.after takenAt lag event)

/-! ## Stamps and uptimes -/

theorem reading_sub {a b : Nat} (hle : b <= a) (hlt : a - b < 4294967296) :
    (BitVec.ofNat 32 a - BitVec.ofNat 32 b).toNat = a - b := by
  rw [toNat_sub, toNat_ofNat, toNat_ofNat]
  omega

/-- The stamp of a worker is a reading of the time at which it is known to have
reported. -/
structure Stamped (beat : LivenessBeat) (beaten : Option Nat) (now : Nat) : Prop where
  beaten : beat.seen = true -> exists takenAt lag, beaten = some takenAt
    ∧ takenAt <= now ∧ lag <= clockReadSkewMs ∧ lag <= takenAt ∧ beat.lastMs = reading takenAt lag

variable {takenAt : Nat} {beat : LivenessBeat}

theorem Stamped.fresh {beaten : Option Nat} {now lag : Nat} (h : Stamped beat beaten now)
    (hnow : now <= takenAt) (hlag : lag <= clockReadSkewMs) (hle : lag <= takenAt)
    (hsilent : forall reported, beaten = some reported -> takenAt < reported + silenceLimitMs)
    (hfresh : beat.isFresh (reading takenAt lag)) :
    exists reported, beaten = some reported
      ∧ takenAt <= reported + (beat.staleAfterMs.toNat + clockReadSkewMs) := by
  unfold LivenessBeat.isFresh LivenessBeat.ageMs at hfresh
  by_cases hseen : beat.seen = true
  · rcases h.beaten hseen with ⟨reported, since, hbeaten, hbefore, hsince, hsinceLe, hstamp⟩
    have hsilent := hsilent reported hbeaten
    refine ⟨reported, hbeaten, ?_⟩
    rw [if_pos hseen, hstamp] at hfresh
    simp only [decide_eq_true_eq] at hfresh
    unfold clockReadSkewMs at hlag hsince hfresh ⊢
    unfold silenceLimitMs at hsilent
    unfold reading at hfresh
    by_cases horder : reported - since <= takenAt - lag
    · have hdelta := reading_sub horder (by omega)
      by_cases hahead : (-(BitVec.ofNat 32 (takenAt - lag)
          - BitVec.ofNat 32 (reported - since))).toNat <= 100
      · rw [toNat_neg, hdelta] at hahead
        omega
      · rw [if_neg hahead, hdelta] at hfresh
        omega
    · omega
  · rw [if_neg hseen] at hfresh
    cases hfresh

/-! ## The lease is backed -/

/-- A turn of the supervisor that found all workers turning. -/
structure Finding.Backs (finding : Finding) (watch : LivenessWatch) : Prop where
  defends : finding.turn = .defend
  beaten : forall worker beat, watch[worker]? = some beat ->
    exists reported, finding.beaten worker = some reported
      ∧ finding.takenAt <= reported + (beat.staleAfterMs.toNat + clockReadSkewMs)

/-- The limits of the workers, which never change. -/
def limits (watch : LivenessWatch) : List Stamp :=
  watch.map LivenessBeat.staleAfterMs

theorem Finding.Backs.congr {finding : Finding} {watch other : LivenessWatch}
    (h : finding.Backs watch) (hlimits : limits other = limits watch) : finding.Backs other := by
  refine ⟨h.defends, ?_⟩
  intro worker beat hbeat
  have hlimit : (limits other)[worker]? = some beat.staleAfterMs := by
    unfold limits
    rw [getElem?_map, hbeat]
    rfl
  rw [hlimits] at hlimit
  unfold limits at hlimit
  rw [getElem?_map] at hlimit
  rcases map_eq_some_iff.mp hlimit with ⟨old, hold, hsame⟩
  rw [<- hsame]
  exact h.beaten worker old hold

structure Backed (up : Uptime) : Prop where
  stamped : forall worker beat, up.inputs.watch[worker]? = some beat ->
    Stamped beat (up.beaten worker) up.now
  extended_le : up.extended <= up.now
  lease : (up.extended = 0 ∧ up.inputs.answerInputs.leaseUntilMs = 0)
    ∨ exists finding lag ttl, finding ∈ up.findings ∧ finding.takenAt = up.extended
      ∧ finding.Backs up.inputs.watch ∧ lag <= clockReadSkewMs ∧ lag <= up.extended
      ∧ ttl <= leaseTtlMs
      ∧ up.inputs.answerInputs.leaseUntilMs = reading up.extended lag + BitVec.ofNat 32 ttl

theorem Stamped.later {beaten : Option Nat} {now : Nat} (h : Stamped beat beaten now)
    (hnow : now <= takenAt) : Stamped beat beaten takenAt := by
  refine ⟨fun hseen => ?_⟩
  rcases h.beaten hseen with ⟨reported, lag, hbeaten, hle, hrest⟩
  exact ⟨reported, lag, hbeaten, Nat.le_trans hle hnow, hrest⟩

theorem limits_modify (watch : LivenessWatch) (worker : Nat) (now : Stamp) :
    limits (watch.modify worker fun beat => beat.beat now) = limits watch := by
  unfold limits
  apply ext_getElem?
  intro i
  rw [getElem?_map, getElem?_map, getElem?_modify]
  cases watch[i]? with
  | none => rfl
  | some beat =>
    by_cases h : worker = i
    · simp only [h, if_true, Option.map_some]
      rfl
    · simp only [h, if_false]
      rfl

theorem beat_backed {up : Uptime} {lag worker : Nat} (h : Backed up) (hnow : up.now <= takenAt)
    (hlag : lag <= clockReadSkewMs) (hle : lag <= takenAt) :
    Backed (up.beat takenAt lag worker) := by
  have hlimits := limits_modify up.inputs.watch worker (reading takenAt lag)
  refine ⟨?_, Nat.le_trans h.extended_le hnow, ?_⟩
  · intro other beat hbeat
    change (up.inputs.watch.modify worker _)[other]? = some beat at hbeat
    rw [getElem?_modify] at hbeat
    rcases map_eq_some_iff.mp hbeat with ⟨old, hold, hnew⟩
    by_cases hworker : worker = other
    · subst hworker
      simp only [if_true] at hnew
      subst hnew
      refine ⟨fun _ => ⟨takenAt, lag, ?_, Nat.le_refl _, hlag, hle, rfl⟩⟩
      exact Function.update_self ..
    · simp only [hworker, if_false] at hnew
      subst hnew
      have hkept : (up.beat takenAt lag worker).beaten other = up.beaten other :=
        Function.update_of_ne (Ne.symm hworker) _ _
      rw [hkept]
      exact (h.stamped other old hold).later hnow
  · rcases h.lease with hnone | ⟨finding, since, ttl, hmem, htaken, hbacks, hrest⟩
    · exact .inl hnone
    · exact .inr ⟨finding, since, ttl, hmem, htaken, hbacks.congr hlimits, hrest⟩

theorem stale_none {watch : LivenessWatch} {now : Stamp} (h : watch.stale now = none) {worker : Nat}
    (hbeat : watch[worker]? = some beat) : beat.isFresh now := by
  have hall := find?_eq_none.mp (map_eq_none_iff.mp h) beat (mem_of_getElem? hbeat)
  simpa using hall

theorem runSupervisorTick_cases (inputs : SupervisorInputs) (now : Stamp) :
    (inputs.watch.stale now = none ∧ (runSupervisorTick inputs now).2 = .defend
      ∧ (runSupervisorTick inputs now).1.answerInputs
        = inputs.answerInputs.extendLease now inputs.leaseTtlMs)
    ∨ (runSupervisorTick inputs now).1.answerInputs = inputs.answerInputs := by
  unfold runSupervisorTick
  cases hstale : inputs.watch.stale now with
  | none => exact .inl ⟨rfl, rfl, rfl⟩
  | some name => exact .inr rfl

theorem extendLease_cases (inputs : AnswerInputs) (now ttl : Stamp) :
    inputs.extendLease now ttl = inputs ∨ exists given, given <= leaseTtlMs
        ∧ (inputs.extendLease now ttl).leaseUntilMs = now + BitVec.ofNat 32 given := by
  unfold AnswerInputs.extendLease
  by_cases h : min ttl.toNat leaseTtlMs > inputs.leaseRemainingMs now
  · simp only [h, if_true]
    exact .inr ⟨_, Nat.min_le_right _ _, rfl⟩
  · simp only [h, if_false, true_or]

theorem tick_backed {up : Uptime} {lag : Nat} (h : Backed up) (hnow : up.now <= takenAt)
    (hlag : lag <= clockReadSkewMs) (hle : lag <= takenAt)
    (hsilent : forall worker beaten, up.beaten worker = some beaten ->
      takenAt < beaten + silenceLimitMs) : Backed (up.tick takenAt lag) := by
  have hstamped : forall worker beat, up.inputs.watch[worker]? = some beat ->
      Stamped beat (up.beaten worker) takenAt :=
    fun worker beat hbeat => (h.stamped worker beat hbeat).later hnow
  by_cases hkept : (runSupervisorTick up.inputs (reading takenAt lag)).1.answerInputs
      = up.inputs.answerInputs
  · have hextended : (up.tick takenAt lag).extended = up.extended := if_pos hkept
    refine ⟨hstamped, ?_, ?_⟩
    · rw [hextended]
      exact Nat.le_trans h.extended_le hnow
    · rw [hextended]
      change (_ ∧ (runSupervisorTick up.inputs (reading takenAt lag)).1.answerInputs.leaseUntilMs
        = _) ∨ exists finding since ttl, _ ∧ _ ∧ _ ∧ _ ∧ _ ∧ _
          ∧ (runSupervisorTick up.inputs (reading takenAt lag)).1.answerInputs.leaseUntilMs = _
      rw [hkept]
      rcases h.lease with hnone | ⟨finding, since, ttl, hmem, hrest⟩
      · exact .inl hnone
      · exact .inr ⟨finding, since, ttl, mem_cons_of_mem _ hmem, hrest⟩
  · have hextended : (up.tick takenAt lag).extended = takenAt := if_neg hkept
    rcases runSupervisorTick_cases up.inputs (reading takenAt lag) with
      ⟨hfresh, hturn, hextends⟩ | hsame
    · rcases extendLease_cases up.inputs.answerInputs (reading takenAt lag)
        up.inputs.leaseTtlMs with hsame | ⟨ttl, httl, huntil⟩
      · exact absurd (hextends.trans hsame) hkept
      · refine ⟨hstamped, Nat.le_of_eq hextended, .inr ?_⟩
        refine ⟨⟨takenAt, _, up.beaten⟩, lag, ttl, mem_cons_self, hextended.symm,
          ⟨hturn, ?_⟩, hlag, hextended.symm ▸ hle, httl, ?_⟩
        · intro worker beat hbeat
          exact (h.stamped worker beat hbeat).fresh hnow hlag hle (hsilent worker)
            (stale_none hfresh hbeat)
        · rw [hextended]
          exact (congrArg AnswerInputs.leaseUntilMs hextends).trans huntil
    · exact absurd hsame hkept

theorem reached_backed {workers : List (String × Stamp)} {ttl : Stamp} {up : Uptime}
    (h : Reached workers ttl up) : Backed up := by
  induction h with
  | boot =>
    refine ⟨?_, Nat.le_refl 0, .inl ⟨rfl, rfl⟩⟩
    intro worker beat hbeat
    change (workers.map fun worker => LivenessBeat.new worker.1 worker.2)[worker]?
      = some beat at hbeat
    rw [getElem?_map] at hbeat
    rcases map_eq_some_iff.mp hbeat with ⟨given, _, hnew⟩
    subst hnew
    exact ⟨nofun⟩
  | step event _ hnow hlag hle hsilent ih =>
    cases event with
    | beat worker => exact beat_backed ih hnow hlag hle
    | tick => exact tick_backed ih hnow hlag hle hsilent

/-- An end of the lease that counts as ahead of the reading is ahead of it. -/
theorem leaseRemainingMs_pos {inputs : AnswerInputs} {now : Stamp} (h : inputs.leaseAlive now) :
    0 < (inputs.leaseUntilMs - now).toNat
      ∧ (inputs.leaseUntilMs - now).toNat <= leaseTtlMs + clockReadSkewMs := by
  unfold AnswerInputs.leaseAlive AnswerInputs.leaseRemainingMs at h
  simp only [gt_iff_lt, decide_eq_true_eq] at h
  split at h
  · omega
  · split at h
    · omega
    · omega

/-- Whenever the lease is alive, the supervisor has seen all workers turning within the
life of a lease. -/
theorem alive_lease_backed {workers : List (String × Stamp)} {ttl : Stamp} {up : Uptime}
    {now lag : Nat} (hreached : Reached workers ttl up) (hnow : up.now <= now)
    (hlag : lag <= clockReadSkewMs) (hle : lag <= now)
    (hextended : now < up.extended + silenceLimitMs)
    (halive : up.inputs.answerInputs.leaseAlive (reading now lag) = true) :
    exists finding, finding ∈ up.findings ∧ finding.turn = .defend
      ∧ finding.takenAt <= now ∧ now <= finding.takenAt + (leaseTtlMs + clockReadSkewMs)
      ∧ forall worker beat, up.inputs.watch[worker]? = some beat ->
        exists reported, finding.beaten worker = some reported
          ∧ finding.takenAt <= reported + (beat.staleAfterMs.toNat + clockReadSkewMs) := by
  have hbacked := reached_backed hreached
  have hle_now := Nat.le_trans hbacked.extended_le hnow
  rcases leaseRemainingMs_pos halive with ⟨hpos, hbound⟩
  unfold silenceLimitMs at hextended
  rcases hbacked.lease with ⟨hzero, huntil⟩
    | ⟨finding, since, given, hmem, htaken, hbacks, hsince, hsinceLe, hgiven, huntil⟩
  · -- the end of the lease that the unit boots with lies a whole turn of the clock ahead
    rw [huntil] at hpos hbound
    change 0 < (4294967296 - (now - lag) % 4294967296 + 0) % 4294967296 at hpos
    change (4294967296 - (now - lag) % 4294967296 + 0) % 4294967296 <= 3000 + 100 at hbound
    omega
  · refine ⟨finding, hmem, hbacks.defends, htaken ▸ hle_now, ?_, hbacks.beaten⟩
    unfold leaseTtlMs clockReadSkewMs at *
    rw [huntil] at hpos hbound
    unfold reading at hpos hbound
    rw [<- ofNat_add] at hpos hbound
    rw [toNat_sub, toNat_ofNat, toNat_ofNat] at hpos hbound
    omega

def defendedUptime : Uptime :=
  ((Uptime.boot [("registry", 3000#32)] 3000#32).after 1000 0 (.beat 0)).after 1500 20
    .tick

theorem defendedUptime_backed : defendedUptime.inputs.answerInputs.leaseAlive
      (reading 4400 0) = true
    ∧ exists finding, finding ∈ defendedUptime.findings ∧ finding.turn = .defend
      ∧ finding.takenAt <= 4400 ∧ 4400 <= finding.takenAt + (leaseTtlMs + clockReadSkewMs)
      ∧ forall worker beat, defendedUptime.inputs.watch[worker]? = some beat ->
        exists reported, finding.beaten worker = some reported
          ∧ finding.takenAt <= reported + (beat.staleAfterMs.toNat + clockReadSkewMs) := by
  have hbeat : Reached [("registry", 3000#32)] 3000#32
      ((Uptime.boot [("registry", 3000#32)] 3000#32).after 1000 0 (.beat 0)) :=
    .step (.beat 0) .boot (Nat.zero_le _) (Nat.zero_le _) (Nat.zero_le _) nofun
  have htick : Reached [("registry", 3000#32)] 3000#32 defendedUptime := by
    refine .step .tick hbeat (by decide) (by decide) (by decide) ?_
    intro worker beaten hbeaten
    by_cases hworker : worker = 0
    · subst hworker
      cases hbeaten
      decide
    · change Function.update (fun _ => none) 0 (some 1000) worker = some beaten at hbeaten
      rw [Function.update_of_ne hworker] at hbeaten
      cases hbeaten
  have halive : defendedUptime.inputs.answerInputs.leaseAlive (reading 4400 0) = true := by
    decide
  exact ⟨halive, alive_lease_backed htick (by decide) (by decide) (by decide) (by decide) halive⟩

end Oxidali.Redundancy
