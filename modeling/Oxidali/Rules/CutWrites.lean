import Oxidali.Rules.Revisions

/-!
# Writes that are cut short

The text banks are written one by one and the manifest last.  A write that loses the power
in between leaves the old manifest beside banks of several texts, and the hash in the
manifest is all that tells the old text from a mixture.
-/

namespace Oxidali.Rules

open Words List

/-- A write that came to its end, or the commits of its first text banks. -/
inductive BankWrite where
  | completed (doc : RulesDocument)
  | cut (doc : RulesDocument) (banks : Nat)

namespace BankWrite

def doc : BankWrite -> RulesDocument
  | completed doc | cut doc _ => doc

def apply (slices : Slices) : BankWrite -> Slices
  | completed doc => writeBanks slices doc
  | cut doc banks => { slices with
      texts := zipWith writeBank (slices.texts.take banks) (textBanks doc.source)
        ++ slices.texts.drop banks }

def last (previous : Option RulesDocument) : BankWrite -> Option RulesDocument
  | completed doc => some doc
  | cut _ _ => previous

end BankWrite

def Slices.text (slices : Slices) (length : Nat) : List Byte :=
  (slices.texts.filterMap id).flatten.take length

structure Written (slices : Slices) (last : Option RulesDocument) : Prop where
  banks : slices.texts.length = rulesTextBanks
  manifest : slices.manifest = last.map manifestOf

theorem textBanks_length (source : List Byte) : (textBanks source).length = rulesTextBanks := by
  rw [textBanks, length_map, length_range]

variable {previous : Option RulesDocument}

theorem Written.apply {slices : Slices} (h : Written slices previous) (write : BankWrite) :
    Written (write.apply slices) (write.last previous) := by
  cases write with
  | completed doc =>
    refine ⟨?_, rfl⟩
    rw [BankWrite.apply, writeBanks, length_zipWith, h.banks, textBanks_length, Nat.min_self]
  | cut doc banks =>
    refine ⟨?_, h.manifest⟩
    simp only [BankWrite.apply, length_append, length_zipWith, length_take,
      length_drop, h.banks, textBanks_length]
    omega

theorem written_after (writes : List BankWrite) {slices : Slices} (h : Written slices previous) :
    Written (writes.foldl BankWrite.apply slices) (writes.foldl BankWrite.last previous) := by
  induction writes generalizing slices previous with
  | nil => exact h
  | cons write rest ih => exact ih (h.apply write)

variable {Names : Type} {compiler : RuleCompiler Names} {slices : Slices} {names : Names}

theorem load_ok {loaded : RulesDocument}
    (h : loadDocument compiler slices names = .ok (some loaded)) :
    exists manifest, slices.manifest = some manifest
      ∧ reassemble manifest slices.texts = some loaded.source := by
  unfold loadDocument at h
  split at h
  · cases h
  · rename_i manifest hmanifest
    split at h
    · cases h
    · split at h
      · cases h
      · rename_i source hsource
        split_ifs at h
        dsimp only at h
        split at h
        all_goals
          cases h
          exact ⟨manifest, hmanifest, hsource⟩

theorem load_of_written {doc : RulesDocument} (hmanifest : slices.manifest = some (manifestOf doc))
    (hdoc : Storable compiler doc) (hlang : doc.langId = compiler.langId)
    (hsource : reassemble (manifestOf doc) slices.texts = some doc.source) :
    exists loaded, loadDocument compiler slices names = .ok (some loaded)
      ∧ loaded.source = doc.source ∧ loaded.enableTable = doc.enableTable := by
  have hversion : (manifestOf doc).version = rulesManifestVersion := rfl
  have hmade : (manifestOf doc).langId = compiler.langId := hlang
  unfold loadDocument
  simp only [hmanifest, hversion, hmade, hsource, hdoc.utf8, Bool.not_true, ne_eq,
    not_true_eq_false, if_false, Bool.false_eq_true]
  cases compiler.compile names doc.source with
  | error error | ok set => exact ⟨_, rfl, rfl, rfl⟩

theorem reassemble_written {doc : RulesDocument} {source : List Byte}
    (h : reassemble (manifestOf doc) slices.texts = some source) :
    source = slices.text doc.source.length ∧ fnv1a32 source = fnv1a32 doc.source := by
  unfold reassemble at h
  dsimp only at h
  split_ifs at h with htotal hshort hhash
  have hlength : (manifestOf doc).totalLen = doc.source.length := by
    simp only [manifestOf, maxRulesSourceBytes] at htotal ⊢
    omega
  rw [hlength] at h hhash
  cases h
  exact ⟨rfl, not_not.mp hhash⟩

/-- A completed write is loaded as it was written.  What is loaded after a history of
completed and cut writes is the last completed text, if the banks spell no other text with
its length and hash. -/
theorem loads_last_completed (compiler : RuleCompiler Names) (names : Names)
    (writes : List BankWrite)
    (hwrites : forall write, write ∈ writes -> Storable compiler write.doc
      ∧ write.doc.langId = compiler.langId) :
    let slices := writes.foldl BankWrite.apply {}
    (forall before doc, writes = before ++ [.completed doc] -> exists loaded,
      loadDocument compiler slices names = .ok (some loaded)
        ∧ loaded.source = doc.source ∧ loaded.enableTable = doc.enableTable)
    ∧ forall loaded, loadDocument compiler slices names = .ok (some loaded) ->
      exists doc, writes.foldl BankWrite.last none = some doc
        ∧ ((fnv1a32 (slices.text doc.source.length) = fnv1a32 doc.source ->
            slices.text doc.source.length = doc.source) ->
          loaded.source = doc.source) := by
  have hnew : Written {} none := ⟨rfl, rfl⟩
  constructor
  · rintro before doc rfl
    rcases hwrites (.completed doc) (mem_append_right _ (mem_singleton_self _)) with ⟨hdoc, hlang⟩
    rw [foldl_append]
    exact load_of_written rfl hdoc hlang
      (reassemble_writeBanks (written_after before hnew).banks hdoc.source)
  · intro loaded hloaded
    rcases load_ok hloaded with ⟨manifest, hmanifest, hsource⟩
    rw [(written_after writes hnew).manifest] at hmanifest
    rcases Option.map_eq_some_iff.mp hmanifest with ⟨doc, hlast, rfl⟩
    rcases reassemble_written hsource with ⟨hspelt, hhash⟩
    refine ⟨doc, hlast, fun hunlike => ?_⟩
    rw [hspelt] at hhash ⊢
    exact hunlike hhash

/-! ## A mixture with the old hash -/

def asText (text : String) : RulesDocument where
  source := text.toUTF8.toList.map UInt8.toBitVec
  langId := 1

/-- The two texts have different hashes, and what is loaded is neither of them. -/
theorem mixture_loaded :
    let writes := [BankWrite.completed (asText "declinate"), .cut (asText "macallums!") 1]
    fnv1a32 (asText "declinate").source ≠ fnv1a32 (asText "macallums!").source
      ∧ (loadDocument plainCompiler (writes.foldl BankWrite.apply {}) 0).toOption.map
        (fun loaded => loaded.map RulesDocument.source)
        = some (some (asText "macallums").source) := by
  decide +kernel

/-- The last text is loaded, over a longer one and the first bank of a third. -/
theorem declinate_loaded :
    let writes := [BankWrite.completed (asText "macallums!"), .cut (asText "costarring") 1,
      .completed (asText "declinate")]
    exists loaded, loadDocument plainCompiler (writes.foldl BankWrite.apply {}) 0
        = .ok (some loaded)
      ∧ loaded.source = (asText "declinate").source := by
  have hwrites : forall write, write ∈ [BankWrite.completed (asText "macallums!"),
      .cut (asText "costarring") 1, .completed (asText "declinate")] ->
      Storable plainCompiler write.doc ∧ write.doc.langId = plainCompiler.langId := by
    simp only [mem_cons, not_mem_nil, or_false]
    rintro write (rfl | rfl | rfl) <;> exact ⟨⟨by decide +kernel, rfl⟩, rfl⟩
  rcases (loads_last_completed plainCompiler 0 _ hwrites).1 _ _
    (show _ = [_, _] ++ [_] from rfl) with ⟨loaded, hloaded, hsource, _⟩
  exact ⟨loaded, hloaded, hsource⟩

end Oxidali.Rules
