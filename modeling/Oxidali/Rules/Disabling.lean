import Oxidali.Lib.Since
import Oxidali.Rules.Moves

/-!
# Continuations of a disabled rule

Disabling a rule drops what it has pending, but not what a tick has already taken
out of the table to resume it.  As long as no continuation of a batch disables the
rule of a later one in it, nothing that a rule scheduled before it was disabled is
ever resumed.
-/

namespace Oxidali.Rules

open Engine List

/-! ## The journal -/

/-- No continuation is resumed that was scheduled before its rule was disabled.
The journal has its newest mark first. -/
def NoneResumed (journal : List Mark) : Prop :=
  forall newer middle older rule seq,
    journal = newer ++ .fired rule seq :: (middle ++ .disabled rule :: older) ->
      .scheduled rule seq ∉ older

/-- Scheduled, and the rule has not been disabled since. -/
def Live (rule : String) (seq : Nat) (journal : List Mark) : Prop :=
  Since (fun past => exists older, past = .scheduled rule seq :: older)
    (fun mark => mark ≠ .disabled rule) journal

def SameSeq (newer older : Mark) : Prop :=
  exists rule rule' seq, newer = .scheduled rule seq ∧ older = .scheduled rule' seq

/-- No number is given out twice. -/
def NumberedOnce (journal : List Mark) : Prop :=
  journal.Pairwise fun newer older => ¬ SameSeq newer older

variable {rule : String}

theorem Live.not_disabled {seq : Nat} {journal middle older : List Mark} (h : Live rule seq journal)
    (honce : NumberedOnce journal)
    (hsplit : journal = middle ++ .disabled rule :: older) : .scheduled rule seq ∉ older := by
  intro hmem
  rcases h with ⟨newer, past, hjournal, ⟨before, rfl⟩, hkeep⟩
  rw [hsplit] at hjournal honce
  rcases append_eq_append_iff.mp hjournal with ⟨rest, hnewer, hrest⟩ | ⟨rest, hmiddle, hrest⟩
  · -- the disabling is among the newer marks
    cases rest with
    | nil => cases hrest
    | cons mark rest =>
      cases hrest
      exact hkeep (.disabled rule) (by simp [hnewer]) rfl
  · -- the scheduling is newer than the disabling, and there is an older one
    cases rest with
    | nil => cases hrest
    | cons mark rest =>
      cases hrest
      rw [NumberedOnce, hmiddle, append_assoc] at honce
      have hpair := (pairwise_append.mp honce).2.1
      rw [cons_append, pairwise_cons] at hpair
      exact hpair.1 (.scheduled rule seq) (mem_append_right _ (mem_cons_of_mem _ hmem))
        ⟨rule, rule, seq, rfl, rfl⟩

theorem noneResumed_cons {mark : Mark} {journal : List Mark} (h : NoneResumed journal)
    (hmark : forall rule seq, mark = .fired rule seq -> forall middle older,
      journal = middle ++ .disabled rule :: older -> .scheduled rule seq ∉ older) :
    NoneResumed (mark :: journal) := by
  intro newer middle older rule seq hsplit
  cases newer with
  | nil =>
    cases hsplit
    exact hmark rule seq rfl middle older rfl
  | cons first newer =>
    cases hsplit
    exact h newer middle older rule seq rfl

/-! ## The state of the engine -/

structure Orderly (state : ExecState) : Prop where
  live : forall cont, cont ∈ state.vol.continuations -> Live cont.rule cont.seq state.journal
  given : forall rule seq, .scheduled rule seq ∈ state.journal -> seq <= state.vol.seq
  once : NumberedOnce state.journal
  noneResumed : NoneResumed state.journal

namespace Orderly

variable {before after : ExecState}

theorem shrink (h : Orderly before)
    (hcontinuations : forall cont, cont ∈ after.vol.continuations ->
      cont ∈ before.vol.continuations) (hseq : after.vol.seq = before.vol.seq)
    (hjournal : after.journal = before.journal) : Orderly after := by
  constructor
  · intro cont hcont
    rw [hjournal]
    exact h.live cont (hcontinuations cont hcont)
  · rw [hjournal, hseq]
    exact h.given
  · rw [hjournal]
    exact h.once
  · rw [hjournal]
    exact h.noneResumed

theorem untouched (h : Orderly before) (hsame : Untouched before after) : Orderly after :=
  h.shrink (fun _ hcont => hsame.continuations ▸ hcont) hsame.seq hsame.journal

theorem mark {state : ExecState} (h : Orderly state) (mark : Mark)
    (hschedules : forall rule seq, mark ≠ .scheduled rule seq)
    (hdisables : forall cont, cont ∈ state.vol.continuations -> mark ≠ .disabled cont.rule)
    (hfires : forall rule seq, mark = .fired rule seq -> forall middle older,
      state.journal = middle ++ .disabled rule :: older ->
        .scheduled rule seq ∉ older) : Orderly (state.note mark) := by
  constructor
  · intro cont hcont
    exact Since.cons (hdisables cont hcont) (h.live cont hcont)
  · intro rule seq hmem
    rcases mem_cons.mp hmem with heq | hold
    · exact absurd heq.symm (hschedules rule seq)
    · exact h.given rule seq hold
  · refine pairwise_cons.mpr ⟨?_, h.once⟩
    rintro older _ ⟨rule, rule', seq, heq, _⟩
    exact hschedules rule seq heq
  · exact noneResumed_cons h.noneResumed hfires

theorem disable (h : Orderly before) {idx : Nat} {other : String}
    (hsame : Untouched (flipRuleBit idx other false before) after) : Orderly after := by
  have hkept : Orderly { before with vol := { before.vol with
      continuations := before.vol.continuations.filter fun cont => cont.rule ≠ other } } :=
    h.shrink (fun _ hcont => (mem_filter.mp hcont).1) rfl rfl
  refine (hkept.mark (.disabled other) (fun _ _ => Mark.noConfusion) ?_
    (fun _ _ heq => Mark.noConfusion heq)).untouched
    ⟨hsame.continuations, hsame.seq, hsame.chain, hsame.journal⟩
  intro cont hcont heq
  have hother := of_decide_eq_true (mem_filter.mp hcont).2
  exact hother (Mark.disabled.inj heq).symm

theorem schedule (h : Orderly before) {cont : Continuation} (hseq : cont.seq = before.vol.seq + 1)
    (hcontinuations : after.vol.continuations = before.vol.continuations ++ [cont])
    (hnext : after.vol.seq = cont.seq)
    (hjournal : after.journal = .scheduled cont.rule cont.seq :: before.journal) :
    Orderly after := by
  constructor
  · intro other hother
    rw [hcontinuations] at hother
    rw [hjournal]
    rcases mem_append.mp hother with hold | hnew
    · exact Since.cons Mark.noConfusion (h.live other hold)
    · rw [mem_singleton.mp hnew]
      exact Since.intro ⟨before.journal, rfl⟩
  · intro rule seq hmem
    rw [hjournal] at hmem
    rw [hnext, hseq]
    rcases mem_cons.mp hmem with heq | hold
    · exact Nat.le_of_eq ((Mark.scheduled.inj heq).2.trans hseq)
    · exact Nat.le_succ_of_le (h.given rule seq hold)
  · rw [hjournal]
    refine pairwise_cons.mpr ⟨?_, h.once⟩
    rintro older hmem ⟨rule, rule', seq, heq, rfl⟩
    have hgiven := h.given rule' seq hmem
    rw [<- (Mark.scheduled.inj heq).2, hseq] at hgiven
    exact Nat.not_succ_le_self _ hgiven
  · rw [hjournal]
    exact noneResumed_cons h.noneResumed fun _ _ heq => Mark.noConfusion heq

end Orderly

variable {before after : ExecState}

theorem Turn.orderly {depth : Nat} (h : Turn rule depth before after) (hbefore : Orderly before) :
    Orderly after := by
  cases h with
  | quiet hsame => exact hbefore.untouched hsame
  | disable idx other hsame => exact hbefore.disable hsame
  | schedule cont hrule hdepth hseq hcontinuations hnext hchain hjournal =>
    exact hbefore.schedule hseq hcontinuations hnext (hrule ▸ hjournal)
  | stop mark hmark hcontinuations hseq hchain hjournal =>
    refine (hbefore.mark mark ?_ ?_ ?_).untouched ⟨hcontinuations, hseq, hchain, hjournal⟩
    all_goals rcases hmark with rfl | rfl
    all_goals intros
    all_goals simp_all

theorem Move.orderly {nowMs depth : Nat} (h : Move nowMs depth before after)
    (hbefore : Orderly before) : Orderly after := by
  cases h with
  | quiet hsame => exact hbefore.untouched hsame
  | evaluate rule hsame =>
    exact (hbefore.mark (.evaluated rule depth) (fun _ _ => Mark.noConfusion)
      (fun _ _ => Mark.noConfusion) (fun _ _ heq => Mark.noConfusion heq)).untouched hsame
  | turn rule hdepth hturn => exact hturn.orderly hbefore
  | emit effect hdepth =>
    rcases recordEffectChain_kept effect depth nowMs before with ⟨hcontinuations, hseq⟩
    refine (hbefore.mark (.emitted effect depth nowMs) (fun _ _ => Mark.noConfusion)
      (fun _ _ => Mark.noConfusion) (fun _ _ heq => Mark.noConfusion heq)).shrink
      ?_ hseq rfl
    intro cont hcont
    exact hcontinuations ▸ hcont

theorem Moves.orderly {nowMs depth : Nat} (h : Moves nowMs depth before after)
    (hbefore : Orderly before) : Orderly after := by
  induction h with
  | refl => exact hbefore
  | tail _ hmove ih => exact hmove.orderly ih

/-! ## One batch -/

/-- No continuation of the batch disables the rule of a later one. -/
def Undisturbed (env : ExecEnv) : List Continuation -> Handled -> Prop
  | [], _ => True
  | cont :: rest, handled =>
    (forall later, later ∈ rest -> .disabled later.rule
        ∉ marksSince handled.1 (resume env cont handled).1)
      ∧ Undisturbed env rest (resume env cont handled)

theorem Live.grow {seq : Nat} (h : Live rule seq before.journal) (hgrows : Grows before after)
    (hkept : .disabled rule ∉ marksSince before after) : Live rule seq after.journal := by
  rcases hgrows with ⟨marks, hmarks⟩
  rw [marksSince_eq hmarks] at hkept
  rw [hmarks]
  exact Since.append (fun mark hmark heq => hkept (heq ▸ hmark)) h

variable (env : ExecEnv)

theorem resume_orderly {cont : Continuation} {handled : Handled} (h : Orderly handled.1)
    (hdepth : cont.depth <= maxChainDepth)
    (hlive : Live cont.rule cont.seq handled.1.journal) : Orderly (resume env cont handled).1 := by
  rcases resume_moves env hdepth handled with ⟨fired, hfired, hmoves⟩
  have hmarked : Orderly (handled.1.note (.fired cont.rule cont.seq)) := by
    apply h.mark _ (fun _ _ => Mark.noConfusion) (fun _ _ => Mark.noConfusion)
    intro rule seq heq middle older hsplit
    rcases Mark.fired.inj heq with ⟨rfl, rfl⟩
    exact hlive.not_disabled h.once hsplit
  exact Moves.orderly hmoves (hmarked.untouched hfired)

theorem batch_orderly (batch : List Continuation) :
    forall handled, Orderly handled.1 ->
      (forall cont, cont ∈ batch -> cont.depth <= maxChainDepth
        ∧ Live cont.rule cont.seq handled.1.journal) ->
      Undisturbed env batch handled ->
      Orderly (batch.foldl (fun handled cont => resume env cont handled) handled).1 := by
  induction batch with
  | nil => exact fun _ h _ _ => h
  | cons cont rest ih =>
    intro handled h hbatch hundisturbed
    have hfirst := hbatch cont (mem_cons_self ..)
    refine ih _ (resume_orderly env h hfirst.1 hfirst.2) ?_ hundisturbed.2
    intro later hlater
    have hnext := hbatch later (mem_cons_of_mem _ hlater)
    exact ⟨hnext.1, hnext.2.grow (resume_grows env hfirst.1 handled) (hundisturbed.1 later hlater)⟩

theorem fireContinuations_orderly {handled : Handled} (h : Orderly handled.1)
    (hshallow : Shallow handled.1)
    (hundisturbed : Undisturbed env (dueBatch env handled.1)
      (withoutDue env handled.1, handled.2)) : Orderly (fireContinuations env handled).1 := by
  have hwithout : Orderly (withoutDue env handled.1) :=
    h.shrink (fun _ hcont => (mem_filter.mp hcont).1) rfl rfl
  refine batch_orderly env _ (withoutDue env handled.1, handled.2) hwithout ?_ hundisturbed
  intro cont hcont
  have hmem := (mem_filter.mp ((insertionSortBy_mem resumedLater).mp hcont)).1
  exact ⟨hshallow cont hmem, h.live cont hmem⟩

/-! ## Whole runs -/

def tickUndisturbed (engine : Engine) (world : WorldSnapshot) : Prop :=
  match engine.rules with
  | none => True
  | some rules =>
    let env : ExecEnv := { world := world, rules := rules }
    let state := engine.pruned world.nowMs
    Undisturbed env (dueBatch env state) (withoutDue env state, [])

/-- In no tick of the run a continuation disables the rule of a later one. -/
def UndisturbedRun : Engine -> List EngineCall -> Prop
  | _, [] => True
  | engine, call :: rest =>
    (match call with
      | .handle .tick world => tickUndisturbed engine world
      | _ => True)
    ∧ UndisturbedRun (engine.after call) rest

theorem handle_orderly {engine : Engine} {input : EngineInput} {world : WorldSnapshot}
    (h : Orderly engine.state) (hshallow : Shallow engine.state)
    (htick : input = .tick -> tickUndisturbed engine world) :
    Orderly (engine.handle input world).1.state ∧ Shallow (engine.handle input world).1.state := by
  have hpruned : Orderly (engine.pruned world.nowMs) :=
    h.shrink (fun _ hcont => hcont) rfl rfl
  have hprunedShallow : Shallow (engine.pruned world.nowMs) := hshallow
  constructor
  · refine handle_keeps hpruned Moves.orderly ?_
    intro hinput rules hrules
    have hundisturbed := htick hinput
    rw [tickUndisturbed, hrules] at hundisturbed
    exact fireContinuations_orderly _ hpruned hprunedShallow hundisturbed
  · exact handle_keeps hprunedShallow Moves.shallow
      fun _ _ _ => fireContinuations_shallow _ hprunedShallow

theorem flipRuleBit_orderly {idx : Nat} {value : Bool} {state : ExecState} (h : Orderly state)
    (hshallow : Shallow state) :
    Orderly (flipRuleBit idx rule value state) ∧ Shallow (flipRuleBit idx rule value state) := by
  have hturn := (flipRuleBit_primTurn idx rule value state).turn rule 0
  exact ⟨hturn.orderly h, hturn.shallow (Nat.zero_le _) hshallow⟩

theorem run_orderly (calls : List EngineCall) :
    forall engine : Engine, Orderly engine.state -> Shallow engine.state ->
      UndisturbedRun engine calls -> Orderly (engine.afterAll calls).state := by
  induction calls with
  | nil => exact fun _ h _ _ => h
  | cons call rest ih =>
    intro engine h hshallow hrun
    have hcall : Orderly (engine.after call).state
        ∧ Shallow (engine.after call).state := by
      cases call with
      | handle input world =>
        apply handle_orderly h hshallow
        intro hinput
        subst hinput
        exact hrun.1
      | setRules set nowMs =>
        exact ⟨h.shrink nofun rfl rfl, nofun⟩
      | setRuleEnabled name on =>
        simp only [Engine.after, setRuleEnabled]
        split
        · exact ⟨h, hshallow⟩
        · exact flipRuleBit_orderly h hshallow
    exact ih _ hcall.1 hcall.2 hrun.2

theorem new_orderly (nowMs : Nat) : Orderly (new nowMs).state := by
  constructor
  · intro cont hcont
    cases hcont
  · intro rule seq hmem
    cases hmem
  · exact List.Pairwise.nil
  · intro newer middle older rule seq hsplit
    cases newer with
    | nil | cons mark newer => cases hsplit

def waitingRule (name : String) (delayMs : Nat) (action : StateAction) : Rule where
  name := name
  enabled := true
  cooldownMs := 0
  holdHcl := true
  triggers := [.httpTrigger]
  conditions := []
  actions := [.wait delayMs, .prim (.state action)]

/-- `a` disables `b` after a second, `b` writes to the log after `delayMs`. -/
def disablingSet (delayMs : Nat) : RuleSet where
  langId := 1
  blocks := []
  rules := [waitingRule "a" 1000 (.ruleDisable "b"),
    waitingRule "b" delayMs (.log "late")]

def disablingRun (delayMs : Nat) : List EngineCall := [.setRules (some (disablingSet delayMs)) 0,
  .handle (.runRule "a" false) { nowMs := 0 },
  .handle (.runRule "b" false) { nowMs := 0 },
  .handle .tick { nowMs := 1000 },
  .handle .tick { nowMs := 2000 }]

/-- Both waits end in the same tick: `b` is resumed after `a` has disabled it. -/
theorem disabled_resumed_in_same_tick :
    validate (disablingSet 1000) = .ok ()
      ∧ ¬ NoneResumed ((new 0).afterAll (disablingRun 1000)).state.journal := by
  refine ⟨rfl, ?_⟩
  intro h
  have hjournal : ((new 0).afterAll (disablingRun 1000)).state.journal
      = [.emitted (.log "late") 0 1000] ++ .fired "b" 2 :: ([] ++ .disabled "b"
        :: [.fired "a" 1, .scheduled "b" 2, .evaluated "b" 0, .scheduled "a" 1,
          .evaluated "a" 0]) := by
    decide +kernel
  exact h _ _ _ _ _ hjournal (by decide)

/-- If no tick resumes a continuation that disables the rule of one due later in
the same tick, no rule is ever resumed from before it was disabled. -/
theorem disabled_never_resumed (nowMs : Nat) (calls : List EngineCall)
    (h : UndisturbedRun (new nowMs) calls) :
    NoneResumed ((new nowMs).afterAll calls).state.journal := by
  have hshallow : Shallow (new nowMs).state := by
    intro cont hcont
    cases hcont
  exact (run_orderly calls _ (new_orderly nowMs) hshallow h).noneResumed

/-- The wait of `b` ends a second later: it is dropped in time. -/
theorem disabled_never_resumed_later :
    UndisturbedRun (new 0) (disablingRun 2000)
      ∧ Mark.disabled "b"
          ∈ ((new 0).afterAll (disablingRun 2000)).state.journal
      ∧ NoneResumed ((new 0).afterAll (disablingRun 2000)).state.journal := by
  have h : UndisturbedRun (new 0) (disablingRun 2000) := by
    refine ⟨trivial, trivial, trivial, ⟨?_, trivial⟩, trivial, trivial⟩
    intro later hlater
    cases hlater
  exact ⟨h, by decide +kernel, disabled_never_resumed 0 (disablingRun 2000) h⟩

end Oxidali.Rules
