import Oxidali.Rules.Documents
import Oxidali.Rules.Expand

/-!
# Revisions and the clients that read them

A commit names the revision its client has seen.  The check keeps a client from
overwriting what it has not seen as long as no revision is given out twice: a
restart must find the revision that the worker has, and the number must not wrap.
-/

namespace Oxidali.Rules

open Words RulesWorker List

/-! ## What is written is read back -/

theorem textBanks_flatten {source : List Byte}
    (h : source.length <= maxRulesSourceBytes) : (textBanks source).flatten = source := by
  have hmax : maxRulesSourceBytes = 3 * rulesBankBytes := by rfl
  have hbanks : textBanks source = [source.take rulesBankBytes,
      (source.drop rulesBankBytes).take rulesBankBytes,
      (source.drop (2 * rulesBankBytes)).take rulesBankBytes] := by
    simp [textBanks, rulesTextBanks, range_succ]
  have hlast : (source.drop (2 * rulesBankBytes)).take rulesBankBytes
      = source.drop (2 * rulesBankBytes) := by
    apply take_of_length_le
    rw [length_drop]
    omega
  rw [hbanks, hlast]
  have hdrop : source.drop (2 * rulesBankBytes)
      = (source.drop rulesBankBytes).drop rulesBankBytes := by
    rw [drop_drop, Nat.two_mul]
  rw [hdrop]
  simp only [flatten_cons, flatten_nil, append_nil, take_append_drop]

theorem writeBank_getD (held : Option (List Byte)) (bytes : List Byte) :
    (writeBank held bytes).getD [] = bytes := by
  unfold writeBank
  split
  · rename_i h
    rw [h.1, h.2]
  · rfl

theorem writeBanks_flatten {texts : List (Option (List Byte))} {banks : List (List Byte)}
    (h : texts.length = banks.length) :
    ((zipWith writeBank texts banks).filterMap id).flatten = banks.flatten := by
  induction texts generalizing banks with
  | nil =>
    rw [eq_nil_of_length_eq_zero h.symm]
    rfl
  | cons held rest ih =>
    cases banks with
    | nil => cases h
    | cons bytes banks =>
      have hrest := ih (Nat.succ.inj h)
      have hbank := writeBank_getD held bytes
      rw [zipWith_cons_cons, flatten_cons, <- hrest]
      cases hwritten : writeBank held bytes with
      | none | some written =>
        rw [hwritten] at hbank
        rw [<- hbank]
        rfl

variable {doc : RulesDocument}

theorem reassemble_writeBanks {slices : Slices} (hbanks : slices.texts.length = rulesTextBanks)
    (hsource : doc.source.length <= maxRulesSourceBytes) :
    reassemble (manifestOf doc) (writeBanks slices doc).texts = some doc.source := by
  have hlength : slices.texts.length = (textBanks doc.source).length := by
    rw [hbanks, textBanks, length_map, length_range]
  have htotal : (manifestOf doc).totalLen = doc.source.length := by
    apply Nat.min_eq_left
    exact Nat.le_trans hsource (by decide)
  unfold reassemble
  rw [writeBanks, writeBanks_flatten hlength, textBanks_flatten hsource, htotal]
  rw [if_neg (Nat.not_lt.mpr hsource), if_neg (Nat.lt_irrefl _), take_of_length_le (Nat.le_refl _)]
  exact if_neg fun h => h rfl

/-! ## The worker -/

section Worker

variable {Names : Type} (compiler : RuleCompiler Names)

/-- A document that comes back as it was written. -/
structure Storable (doc : RulesDocument) : Prop where
  source : doc.source.length <= maxRulesSourceBytes
  utf8 : compiler.utf8 doc.source = true

/-- The banks hold nothing, or a document that loads. -/
structure Loadable (slices : Slices) : Prop where
  banks : slices.texts.length = rulesTextBanks
  manifest : forall manifest, slices.manifest = some manifest ->
    manifest.version = rulesManifestVersion ∧ manifest.langId = compiler.langId
      ∧ exists source, reassemble manifest slices.texts = some source ∧ compiler.utf8 source = true

structure Kept (worker : RulesWorker) : Prop where
  storable : Storable compiler worker.document
  lang : worker.document.compiled.isSome = true -> worker.document.langId = compiler.langId
  loadable : Loadable compiler worker.slices

def persistedRevision (slices : Slices) : BitVec 32 :=
  (slices.manifest.map RulesManifest.revision).getD 0

variable {compiler}

theorem persist_loadable {slices : Slices} (h : Loadable compiler slices)
    (hdoc : Storable compiler doc) (hlang : doc.langId = compiler.langId) :
    Loadable compiler (writeBanks slices doc) := by
  constructor
  · rw [writeBanks, length_zipWith, h.banks, textBanks, length_map, length_range, Nat.min_self]
  · intro manifest hmanifest
    cases hmanifest
    exact ⟨rfl, hlang, doc.source, reassemble_writeBanks h.banks hdoc.source, hdoc.utf8⟩

theorem reassemble_length {manifest : RulesManifest} {banks : List (Option (List Byte))}
    {source : List Byte} (h : reassemble manifest banks = some source) :
    source.length <= maxRulesSourceBytes := by
  unfold reassemble at h
  dsimp only at h
  split at h
  · cases h
  · rename_i htotal
    split at h
    · cases h
    · split at h
      · cases h
      · cases h
        exact Nat.le_trans (length_take_le _ _) (Nat.le_of_not_lt htotal)

theorem default_storable (diagnostic : Option Diagnostic) :
    Storable compiler { diagnostic := diagnostic } :=
  ⟨Nat.zero_le _, compiler.utf8_nil⟩

variable {worker : RulesWorker}

theorem restart_kept (h : Kept compiler worker) (names : Names) :
    Kept compiler (worker.restart compiler names)
      ∧ (worker.restart compiler names).document.revision = persistedRevision worker.slices := by
  unfold restart hydrate
  unfold loadDocument persistedRevision
  cases hmanifest : worker.slices.manifest with
  | none =>
    refine ⟨⟨default_storable none, ?_, h.loadable⟩, rfl⟩
    intro hcompiled
    cases hcompiled
  | some manifest =>
    rcases h.loadable.manifest manifest hmanifest with
      ⟨hversion, hlang, source, hsource, hutf8⟩
    have hstorable : forall doc : RulesDocument, doc.source = source ->
        Storable compiler doc := by
      intro doc hdoc
      exact ⟨hdoc ▸ reassemble_length hsource, hdoc ▸ hutf8⟩
    simp only [hsource, hutf8, hversion, hlang, Bool.not_true, ne_eq,
      not_true_eq_false, if_false, Bool.false_eq_true]
    cases compiler.compile names source with
    | error error | ok set => exact ⟨⟨hstorable _ rfl, fun _ => rfl, h.loadable⟩, rfl⟩

theorem tryCommit_ok {correlationId : Nat} {commit : RuleCommit} {names : Names}
    (h : worker.tryCommit compiler correlationId commit names = .ok doc) :
    Storable compiler doc ∧ doc.langId = compiler.langId
      ∧ commit.baseRevision = worker.document.revision
      ∧ doc.revision = worker.document.revision + 1 := by
  unfold tryCommit at h
  dsimp only at h
  split at h
  · cases h
  · split at h
    · cases h
    · rename_i chunks _
      split at h
      · cases h
      · rename_i hintegrity
        split at h
        · cases h
        · rename_i hbase
          split at h
          · cases h
          · rename_i hlang
            split at h
            · cases h
            · rename_i hutf8
              split at h
              · cases h
              · cases h
                rw [not_or, not_or] at hintegrity
                refine ⟨⟨Nat.le_of_not_lt hintegrity.2.1, ?_⟩, not_not.mp hlang,
                  not_not.mp hbase, rfl⟩
                simpa using hutf8

/-! ## Runs -/

/-- What reaches the worker, with the names known at the time. -/
inductive WorkerStep (Names : Type) where
  | stage (correlationId : Nat) (chunk : RuleStage)
  | commit (correlationId : Nat) (commit : RuleCommit) (names : Names)
  | enable (name : String) (enabled : Bool)
  | recompile (names : Names)
  | restart (names : Names)

variable (compiler worker)

def RulesWorker.step : WorkerStep Names -> RulesWorker
  | .stage correlationId chunk => worker.onStage correlationId chunk
  | .commit correlationId commit names =>
    worker.onCommit compiler correlationId commit names
  | .enable name enabled => worker.onEnable name enabled
  | .recompile names => worker.recompileInPlace compiler names
  | .restart names => worker.restart compiler names

def RulesWorker.run (steps : List (WorkerStep Names)) : RulesWorker :=
  steps.foldl (step compiler) worker

/-- A commit is accepted or a toggle is applied. -/
def Applies : WorkerStep Names -> Prop
  | .commit correlationId commit names => exists doc,
      worker.tryCommit compiler correlationId commit names = .ok doc
  | .enable name enabled => exists doc, worker.document.setEnabled name enabled = some doc
  | _ => False

def NothingApplied : RulesWorker -> List (WorkerStep Names) -> Prop
  | _, [] => True
  | worker, step :: rest =>
    ¬ Applies compiler worker step ∧ NothingApplied (worker.step compiler step) rest

/-- A restart finds the revision of the worker, and the number does not wrap. -/
def Numbered (worker : RulesWorker) : WorkerStep Names -> Prop
  | .restart _ => persistedRevision worker.slices = worker.document.revision
  | _ => worker.document.revision.toNat < 2 ^ 32 - 1

def NumberedRun : RulesWorker -> List (WorkerStep Names) -> Prop
  | _, [] => True
  | worker, step :: rest =>
    Numbered worker step ∧ NumberedRun (worker.step compiler step) rest

variable {compiler worker}

theorem toNat_next {revision : BitVec 32} (h : revision.toNat < 2 ^ 32 - 1) :
    (revision + 1).toNat = revision.toNat + 1 := by
  have hone : (1 : BitVec 32).toNat = 1 := by rfl
  exact Nat.mod_eq_of_lt (by omega)

theorem setEnabled_some {changed : RulesDocument} {name : String} {enabled : Bool}
    (h : doc.setEnabled name enabled = some changed) :
    doc.compiled.isSome ∧ changed.source = doc.source
      ∧ changed.langId = doc.langId ∧ changed.revision = doc.revision + 1 := by
  unfold RulesDocument.setEnabled at h
  cases hcompiled : doc.compiled with
  | none =>
    rw [hcompiled] at h
    cases h
  | some set =>
    rcases Option.bind_eq_some_iff.mp h with ⟨set', hset, hrest⟩
    rcases Option.bind_eq_some_iff.mp hrest with ⟨changed', _, hdoc⟩
    cases hdoc
    exact ⟨rfl, rfl, rfl, rfl⟩

/-- How a step moves the revision. -/
structure Advances (worker : RulesWorker) (applied : Prop) (next : RulesWorker) : Prop where
  le : worker.document.revision.toNat <= next.document.revision.toNat
  lt : applied -> worker.document.revision.toNat < next.document.revision.toNat

theorem advances_same {next : RulesWorker} {applied : Prop}
    (h : next.document.revision = worker.document.revision) (happlied : ¬ applied) :
    Advances worker applied next :=
  ⟨Nat.le_of_eq (by rw [h]), fun h => absurd h happlied⟩

theorem advances_next {next : RulesWorker} {applied : Prop}
    (hroom : worker.document.revision.toNat < 2 ^ 32 - 1)
    (h : next.document.revision = worker.document.revision + 1) : Advances worker applied next := by
  have hnext : worker.document.revision.toNat < next.document.revision.toNat := by
    rw [h, toNat_next hroom]
    exact Nat.lt_succ_self _
  exact ⟨Nat.le_of_lt hnext, fun _ => hnext⟩

theorem persist_kept (hloadable : Loadable compiler worker.slices) (hdoc : Storable compiler doc)
    (hlang : doc.langId = compiler.langId) : Kept compiler (worker.persist doc) :=
  ⟨hdoc, fun _ => hlang, persist_loadable hloadable hdoc hlang⟩

section

variable (h : Kept compiler worker) (hroom : worker.document.revision.toNat < 2 ^ 32 - 1)
include h hroom

theorem onCommit_kept {correlationId : Nat} {commit : RuleCommit} {names : Names} :
    Kept compiler (worker.onCommit compiler correlationId commit names)
      ∧ Advances worker (Applies compiler worker (.commit correlationId commit names))
          (worker.onCommit compiler correlationId commit names) := by
  unfold onCommit Applies
  cases htry : worker.tryCommit compiler correlationId commit names with
  | error message =>
    refine ⟨⟨h.storable, h.lang, h.loadable⟩, advances_same rfl ?_⟩
    rintro ⟨doc, hdoc⟩
    rw [htry] at hdoc
    cases hdoc
  | ok doc =>
    rcases tryCommit_ok htry with ⟨hdoc, hlang, _, hrevision⟩
    exact ⟨persist_kept h.loadable hdoc hlang, advances_next hroom hrevision⟩

theorem onEnable_kept {name : String} {enabled : Bool} :
    Kept compiler (worker.onEnable name enabled)
      ∧ Advances worker (Applies compiler worker (.enable name enabled))
          (worker.onEnable name enabled) := by
  unfold onEnable Applies
  cases hset : worker.document.setEnabled name enabled with
  | none =>
    refine ⟨h, advances_same rfl ?_⟩
    rintro ⟨doc, hdoc⟩
    rw [hset] at hdoc
    cases hdoc
  | some doc =>
    rcases setEnabled_some hset with ⟨hcompiled, hsource, hlang, hrevision⟩
    have hdoc : Storable compiler doc :=
      ⟨hsource ▸ h.storable.source, hsource ▸ h.storable.utf8⟩
    exact ⟨persist_kept h.loadable hdoc (hlang.trans (h.lang hcompiled)),
      advances_next hroom hrevision⟩

theorem recompileInPlace_kept {names : Names} :
    Kept compiler (worker.recompileInPlace compiler names)
      ∧ Advances worker False (worker.recompileInPlace compiler names) := by
  unfold recompileInPlace
  dsimp only
  split
  · exact ⟨h, advances_same rfl id⟩
  · rename_i hlang
    split
    · exact ⟨h, advances_same rfl id⟩
    · refine ⟨⟨⟨h.storable.source, h.storable.utf8⟩, fun _ => not_not.mp hlang, h.loadable⟩, ?_⟩
      by_cases hmoved : (recompiled compiler worker.document names).1 ≠ worker.document.compiled
      · apply advances_next hroom
        simp only [decide_eq_true hmoved, if_true]
      · apply advances_same _ id
        simp only [decide_eq_false hmoved, Bool.false_eq_true, if_false]

end

theorem step_kept (h : Kept compiler worker) (step : WorkerStep Names)
    (hnumbered : Numbered worker step) :
    Kept compiler (worker.step compiler step)
      ∧ Advances worker (Applies compiler worker step) (worker.step compiler step) := by
  cases step with
  | stage correlationId chunk =>
    exact ⟨⟨h.storable, h.lang, h.loadable⟩, advances_same rfl id⟩
  | commit correlationId commit names => exact onCommit_kept h hnumbered
  | enable name enabled => exact onEnable_kept h hnumbered
  | recompile names => exact recompileInPlace_kept h hnumbered
  | restart names =>
    rcases restart_kept h names with ⟨hkept, hrevision⟩
    exact ⟨hkept, advances_same (hrevision.trans hnumbered) id⟩

theorem run_kept (steps : List (WorkerStep Names)) :
    forall worker, Kept compiler worker -> NumberedRun compiler worker steps ->
      Kept compiler (worker.run compiler steps) := by
  induction steps with
  | nil => exact fun _ h _ => h
  | cons step rest ih =>
    intro worker h hrun
    exact ih _ (step_kept h step hrun.1).1 hrun.2

/-- Revisions do not fall, and rise with every change that is applied. -/
theorem run_advances (steps : List (WorkerStep Names)) :
    forall worker, Kept compiler worker -> NumberedRun compiler worker steps ->
      worker.document.revision.toNat <= (worker.run compiler steps).document.revision.toNat
        ∧ ((worker.run compiler steps).document.revision.toNat
            = worker.document.revision.toNat -> NothingApplied compiler worker steps) := by
  induction steps with
  | nil => exact fun _ _ _ => ⟨Nat.le_refl _, fun _ => trivial⟩
  | cons step rest ih =>
    intro worker h hrun
    rcases step_kept h step hrun.1 with ⟨hkept, hadvances⟩
    rcases ih _ hkept hrun.2 with ⟨hle, hnothing⟩
    refine ⟨Nat.le_trans hadvances.le hle, ?_⟩
    intro hsame
    have hsame : ((worker.step compiler step).run compiler rest).document.revision.toNat
        = worker.document.revision.toNat := hsame
    constructor
    · intro happlied
      have hless := Nat.lt_of_lt_of_le (hadvances.lt happlied) hle
      rw [hsame] at hless
      exact Nat.lt_irrefl _ hless
    · apply hnothing
      exact Nat.le_antisymm (hsame ▸ hadvances.le) hle

theorem new_kept : Kept compiler {} := by
  refine ⟨default_storable none, ?_, ⟨by rfl, ?_⟩⟩
  · intro hcompiled
    cases hcompiled
  · intro manifest hmanifest
    cases hmanifest

theorem numberedRun_append {first second : List (WorkerStep Names)} :
    forall {worker : RulesWorker}, NumberedRun compiler worker (first ++ second) ->
      NumberedRun compiler worker first
        ∧ NumberedRun compiler (worker.run compiler first) second := by
  induction first with
  | nil => exact fun h => ⟨trivial, h⟩
  | cons step rest ih =>
    intro worker h
    rcases ih h.2 with ⟨hrest, hsecond⟩
    exact ⟨⟨h.1, hrest⟩, hsecond⟩

/-! ### A revision that is given out twice -/

/-- A language without rules whose texts compile to what the known names say. -/
def plainCompiler : RuleCompiler Nat where
  langId := 1
  compile := fun names _ => .ok (.empty names)
  utf8 := fun _ => true
  utf8_nil := rfl

/-- A client sends a text of one byte for revision `base`. -/
def send (base : BitVec 32) (byte : Byte) (names : Nat) : List (WorkerStep Nat) :=
  [.stage 7 { chunkIndex := 0, chunkCount := 1, bytes := [byte] },
    .commit 7 {
      chunkCount := 1
      totalLen := 1
      sourceHash := fnv1a32 [byte]
      baseRevision := base
      langId := 1 } names]

/-- The names move after a commit; the revision that this takes is lost in a
restart and given to another client's commit. -/
def lostRevision : List (WorkerStep Nat) × List (WorkerStep Nat) :=
  (send 0 0x61 0 ++ [.recompile 1], .restart 1 :: send 1 0x62 1
      ++ [.stage 8 { chunkIndex := 0, chunkCount := 1, bytes := [0x63] }])

def staleCommit : RuleCommit where
  chunkCount := 1
  totalLen := 1
  sourceHash := fnv1a32 [0x63]
  baseRevision := 2
  langId := 1

theorem stale_commit_accepted :
    staleCommit.baseRevision = (run plainCompiler {} lostRevision.1).document.revision
      ∧ Applies plainCompiler (run plainCompiler {} (lostRevision.1 ++ lostRevision.2))
          (.commit 8 staleCommit 1)
      ∧ ¬ NothingApplied plainCompiler (run plainCompiler {} lostRevision.1)
          lostRevision.2 := by
  refine ⟨by decide +kernel, ⟨_, rfl⟩, ?_⟩
  intro h
  exact h.2.2.1 ⟨_, rfl⟩

/-- A client reads the revision after `before`; if its commit is accepted after
`during`, nothing was applied in between. -/
theorem accepted_commit_saw_all (compiler : RuleCompiler Names)
    (before during : List (WorkerStep Names)) (correlationId : Nat) (commit : RuleCommit)
    (names : Names) (hrun : NumberedRun compiler {} (before ++ during))
    (hread : commit.baseRevision = (run compiler {} before).document.revision)
    (haccepted : Applies compiler (run compiler {} (before ++ during))
      (.commit correlationId commit names)) :
    NothingApplied compiler (run compiler {} before) during := by
  rcases numberedRun_append hrun with ⟨hbefore, hduring⟩
  have hkept := run_kept before {} new_kept hbefore
  rcases haccepted with ⟨doc, hdoc⟩
  rcases tryCommit_ok hdoc with ⟨_, _, hbase, _⟩
  apply (run_advances during _ hkept hduring).2
  rw [hread, run, run, foldl_append] at hbase
  exact congrArg BitVec.toNat hbase.symm

/-- The second client reads after the first commit and commits at once. -/
theorem fresh_commit_saw_all :
    let before := send 0 0x61 0
    let during : List (WorkerStep Nat) :=
      [.restart 0, .stage 8 { chunkIndex := 0, chunkCount := 1, bytes := [0x63] }]
    NothingApplied plainCompiler (run plainCompiler {} before) during := by
  intro before during
  have hrun : NumberedRun plainCompiler {} (before ++ during) := by
    refine ⟨?_, ?_, ?_, ?_, trivial⟩
    all_goals simp only [Numbered]
    all_goals decide +kernel
  exact accepted_commit_saw_all plainCompiler before during 8
    { staleCommit with baseRevision := 1 } 0 hrun (by decide +kernel) ⟨_, rfl⟩

end Worker
end Oxidali.Rules
