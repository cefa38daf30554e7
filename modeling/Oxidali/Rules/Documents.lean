import Oxidali.Lib.Words
import Oxidali.Rules.Model

/-!
# The document of the rules and where it is kept

The worker holds one document in memory and keeps its text in three banks and a
manifest in a fourth.  A commit and a toggle advance the revision and are kept; a
recompilation after a change of names advances it in memory only.
-/

namespace Oxidali.Rules

open Words

def maxRulesSourceBytes : Nat := 12240
def rulesManifestVersion : Nat := 1
def rulesBankBytes : Nat := 4080
def rulesTextBanks : Nat := 3

def fnv1a32 (bytes : List Byte) : BitVec 32 :=
  bytes.foldl (fun hash byte => (hash ^^^ byte.setWidth 32) * 0x01000193#32) 0x811C9DC5#32

def nameHash (name : String) : BitVec 32 :=
  fnv1a32 (name.toUTF8.toList.map UInt8.toBitVec)

structure RuleManifestEntry where
  nameHash : BitVec 32
  enabled : Bool

variable (set : RuleSet)

def enableTableOf : List RuleManifestEntry :=
  set.rules.map fun rule => { nameHash := nameHash rule.name, enabled := rule.enabled }

def applyEnableTable (table : List RuleManifestEntry) : RuleSet :=
  { set with rules := set.rules.map fun rule =>
      match table.find? fun entry => entry.nameHash = nameHash rule.name with
      | some entry => { rule with enabled := entry.enabled }
      | none => rule }

/-- Changes the first entry that satisfies `found`. -/
def updateFirst {α : Type} (found : α -> Bool) (change : α -> α) : List α -> List α
  | [] => []
  | item :: rest =>
    if found item then change item :: rest
    else item :: updateFirst found change rest

def recordEnabled (table : List RuleManifestEntry) (name : String) (enabled : Bool) :
    List RuleManifestEntry :=
  let found := fun (entry : RuleManifestEntry) => decide (entry.nameHash = nameHash name)
  if table.any found then
    updateFirst found (fun entry => { entry with enabled := enabled }) table
  else table ++ [{ nameHash := nameHash name, enabled := enabled }]

def RuleSet.setRuleEnabled (name : String) (enabled : Bool) : Option RuleSet :=
  let found := fun (rule : Rule) => decide (rule.name = name)
  let change := fun (rule : Rule) => { rule with enabled := enabled }
  if set.rules.any found then
    some { set with rules := updateFirst found change set.rules }
  else none

/-! ## The document -/

/-- What failed, and the error it failed with. -/
structure Diagnostic where
  stage : String
  error : Option String := none

/-- Whether both failed with the same error, whatever the stage. -/
def sameFailure (was now : Option Diagnostic) : Bool :=
  let error := fun (diagnostic : Diagnostic) => diagnostic.error.getD diagnostic.stage
  was.map error = now.map error

structure RulesDocument where
  source : List Byte := []
  langId : Nat := 0
  revision : BitVec 32 := 0
  compiled : Option RuleSet := none
  diagnostic : Option Diagnostic := none
  enableTable : List RuleManifestEntry := []

/-- The language of the rules.  What a text compiles to depends on the names that
are known. -/
structure RuleCompiler (Names : Type) where
  langId : Nat
  compile : Names -> List Byte -> Except String RuleSet
  utf8 : List Byte -> Bool
  utf8_nil : utf8 [] = true

/-- `RulesStore::set_enabled` -/
def RulesDocument.setEnabled (doc : RulesDocument) (name : String) (enabled : Bool) :
    Option RulesDocument := do
  let set <- doc.compiled
  let changed <- set.setRuleEnabled name enabled
  return { doc with
    compiled := some changed
    enableTable := recordEnabled doc.enableTable name enabled
    revision := doc.revision + 1 }

/-! ## The banks -/

structure RulesManifest where
  version : Nat
  langId : Nat
  totalLen : Nat
  sourceHash : BitVec 32
  revision : BitVec 32
  entries : List RuleManifestEntry

structure Slices where
  texts : List (Option (List Byte)) := List.replicate rulesTextBanks none
  manifest : Option RulesManifest := none

def textBanks (source : List Byte) : List (List Byte) :=
  (List.range rulesTextBanks).map fun bank =>
    (source.drop (bank * rulesBankBytes)).take rulesBankBytes

/-- An empty bank that has nothing to say stays as it is. -/
def writeBank (held : Option (List Byte)) (bytes : List Byte) : Option (List Byte) :=
  if bytes = [] ∧ held.getD [] = [] then held else some bytes

def manifestOf (doc : RulesDocument) : RulesManifest where
  version := rulesManifestVersion
  langId := doc.langId
  totalLen := min doc.source.length 65535
  sourceHash := fnv1a32 doc.source
  revision := doc.revision
  entries := doc.enableTable

def writeBanks (slices : Slices) (doc : RulesDocument) : Slices where
  texts := List.zipWith writeBank slices.texts (textBanks doc.source)
  manifest := some (manifestOf doc)

def reassemble (manifest : RulesManifest) (banks : List (Option (List Byte))) :
    Option (List Byte) :=
  let held := (banks.filterMap id).flatten
  if maxRulesSourceBytes < manifest.totalLen then none
  else if held.length < manifest.totalLen then none
  else
    let source := held.take manifest.totalLen
    if fnv1a32 source ≠ manifest.sourceHash then none else some source

section Worker

variable {Names : Type} (compiler : RuleCompiler Names)

def loadDocument (slices : Slices) (names : Names) : Except String (Option RulesDocument) :=
  match slices.manifest with
  | none => .ok none
  | some manifest =>
    if manifest.version ≠ rulesManifestVersion then .error "rules_manifest_version"
    else
      match reassemble manifest slices.texts with
      | none => .error "rules_banks_torn"
      | some source =>
        if !compiler.utf8 source then .error "rules_source_not_utf8"
        else if manifest.langId ≠ compiler.langId then .error "rules_lang_unknown"
        else
          let doc : RulesDocument := {
            source := source
            langId := manifest.langId
            revision := manifest.revision
            enableTable := manifest.entries }
          match compiler.compile names source with
          | .error error => .ok (some { doc with
              diagnostic := some ⟨"rules_compile_failed", some error⟩ })
          | .ok set => .ok (some { doc with
              compiled := some (applyEnableTable set manifest.entries) })

/-! ## The worker -/

structure Staging where
  correlationId : Nat := 0
  chunks : List (Option (List Byte)) := []

structure RuleStage where
  chunkIndex : Nat
  chunkCount : Nat
  bytes : List Byte

structure RuleCommit where
  chunkCount : Nat
  totalLen : Nat
  sourceHash : BitVec 32
  baseRevision : BitVec 32
  langId : Nat

structure RulesWorker where
  document : RulesDocument := {}
  slices : Slices := {}
  staging : Staging := {}

namespace RulesWorker

variable (worker : RulesWorker) (correlationId : Nat)

def onStage (chunk : RuleStage) : RulesWorker :=
  let staging :=
    if worker.staging.correlationId ≠ correlationId then
      { correlationId := correlationId
        chunks := List.replicate chunk.chunkCount none }
    else worker.staging
  { worker with staging := { staging with
    chunks := staging.chunks.set chunk.chunkIndex (some chunk.bytes) } }

def persist (doc : RulesDocument) : RulesWorker :=
  { worker with document := doc, slices := writeBanks worker.slices doc }

def tryCommit (commit : RuleCommit) (names : Names) : Except String RulesDocument :=
  let staged := worker.staging
  if staged.correlationId ≠ correlationId ∨ staged.chunks.length ≠ commit.chunkCount then
    .error "rule_write_chunk_count_mismatch"
  else
    match staged.chunks.mapM id with
    | none => .error "rule_write_chunk_missing"
    | some chunks =>
      let source := chunks.flatten
      if source.length ≠ commit.totalLen ∨ maxRulesSourceBytes < source.length
          ∨ fnv1a32 source ≠ commit.sourceHash then .error "rule_write_integrity"
      else if commit.baseRevision ≠ worker.document.revision then
        .error "rule_set_conflict"
      else if commit.langId ≠ compiler.langId then .error "rule_lang_unknown"
      else if !compiler.utf8 source then .error "rule_write_not_utf8"
      else
        match compiler.compile names source with
        | .error _ => .error "rule_compile_failed"
        | .ok set => .ok {
            source := source
            langId := commit.langId
            revision := worker.document.revision + 1
            enableTable := enableTableOf set
            compiled := some set }

def onCommit (commit : RuleCommit) (names : Names) : RulesWorker :=
  let taken := { worker with staging := {} }
  match tryCommit compiler worker correlationId commit names with
  | .ok doc => taken.persist doc
  | .error _ => taken

def onEnable (name : String) (enabled : Bool) : RulesWorker :=
  match worker.document.setEnabled name enabled with
  | none => worker
  | some doc => worker.persist doc

def recompiled (doc : RulesDocument) (names : Names) : Option RuleSet × Option Diagnostic :=
  match compiler.compile names doc.source with
  | .ok set => (some (applyEnableTable set doc.enableTable), none)
  | .error error => (none, some ⟨"rules_names_unresolved", some error⟩)

variable (names : Names)

/-- The new revision is not kept. -/
def recompileInPlace : RulesWorker :=
  let doc := worker.document
  if doc.langId ≠ compiler.langId then worker
  else
    let next := recompiled compiler doc names
    let graphMoved := decide (next.1 ≠ doc.compiled)
    if !graphMoved && sameFailure doc.diagnostic next.2 then worker
    else { worker with document := { doc with
      revision := if graphMoved then doc.revision + 1 else doc.revision
      compiled := next.1
      diagnostic := next.2 } }

def hydrate : RulesWorker :=
  match loadDocument compiler worker.slices names with
  | .ok (some doc) => { worker with document := doc }
  | .ok none => worker
  | .error diagnostic => { worker with
      document := { diagnostic := some { stage := diagnostic } } }

/-- Only the banks outlive it. -/
def restart : RulesWorker :=
  hydrate compiler { slices := worker.slices } names

end RulesWorker
end Worker
end Oxidali.Rules
