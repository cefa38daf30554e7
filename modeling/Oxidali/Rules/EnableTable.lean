import Oxidali.Rules.Documents

/-!
# The table of what is enabled

The table knows a rule by the hash of its name.  Where no two names of a set share a
hash, the table gives every rule back what the toggles have left it; where two do, they
share an entry.
-/

namespace Oxidali.Rules

open List

/-- All that an update of the first item does. -/
theorem updateFirst_split {item : Type} {found : item -> Bool} (change : item -> item)
    {table : List item} (h : table.any found) :
    exists front own back, table = front ++ own :: back ∧ found own = true
      ∧ (forall other, other ∈ front -> found other = false)
      ∧ updateFirst found change table = front ++ change own :: back := by
  induction table with
  | nil => cases h
  | cons first rest ih =>
    by_cases hfirst : found first = true
    · exact ⟨[], first, rest, rfl, hfirst, nofun, if_pos hfirst⟩
    · rcases ih (by simpa [hfirst] using h) with ⟨front, own, back, rfl, hown, hfront, hchanged⟩
      refine ⟨first :: front, own, back, rfl, hown, ?_, ?_⟩
      · exact forall_mem_cons.mpr ⟨eq_false_of_ne_true hfirst, hfront⟩
      · rw [updateFirst, if_neg hfirst, hchanged, cons_append]

theorem find_updateFirst (hash key : BitVec 32) (on : Bool) (table : List RuleManifestEntry)
    (h : table.any fun entry => decide (entry.nameHash = hash)) :
    (updateFirst (fun entry => decide (entry.nameHash = hash))
      (fun entry => { entry with enabled := on }) table).find? (fun entry =>
        decide (entry.nameHash = key))
      = if key = hash then some ⟨hash, on⟩
        else table.find? fun entry => decide (entry.nameHash = key) := by
  rcases updateFirst_split (fun entry => { entry with enabled := on }) h with
    ⟨front, own, back, rfl, hown, hfront, hchanged⟩
  have hhash := of_decide_eq_true hown
  rw [hchanged, find?_append, find?_append]
  by_cases hkey : key = hash
  · subst hkey
    have hnone : front.find? (fun entry => decide (entry.nameHash = key)) = none :=
      find?_eq_none.mpr fun other hother => by simp [hfront other hother]
    simp [hnone, hhash]
  · simp [hhash, hkey, Ne.symm hkey]

theorem find_recordEnabled (table : List RuleManifestEntry) (name : String) (on : Bool)
    (key : BitVec 32) :
    (recordEnabled table name on).find? (fun entry => decide (entry.nameHash = key))
      = if key = nameHash name then some ⟨nameHash name, on⟩
        else table.find? fun entry => decide (entry.nameHash = key) := by
  unfold recordEnabled
  dsimp only
  split
  · exact find_updateFirst (nameHash name) key on table ‹_›
  · rename_i hnone
    have habsent : table.find? (fun entry => decide (entry.nameHash = nameHash name))
        = none := by
      simpa using hnone
    rw [find?_append]
    by_cases hkey : key = nameHash name
    · subst hkey
      simp [habsent]
    · simp [hkey, Ne.symm hkey]

/-- Where every name has a hash of its own, the first rule of a name is the one rule
with its hash. -/
theorem updateFirst_eq_map (name : String) (change : Rule -> Rule) {rules : List Rule}
    (hnodup : (rules.map fun rule => nameHash rule.name).Nodup)
    (h : rules.any fun rule => decide (rule.name = name)) :
    updateFirst (fun rule => decide (rule.name = name)) change rules
      = rules.map fun rule => if nameHash rule.name = nameHash name then change rule else rule := by
  rcases updateFirst_split change h with ⟨front, own, back, rfl, hown, _, hchanged⟩
  have hname := of_decide_eq_true hown
  rw [map_append, map_cons, nodup_middle, nodup_cons, <- map_append] at hnodup
  have hothers : forall others, others ⊆ front ++ back -> others.map (fun rule =>
      if nameHash rule.name = nameHash name then change rule else rule) = others := by
    intro others hsub
    refine (map_congr_left fun other hother => if_neg ?_).trans (map_id' others)
    rw [<- hname]
    exact fun hsame => hnodup.1 (mem_map.mpr ⟨other, hsub hother, hsame⟩)
  rw [hchanged, map_append, map_cons, hothers front (subset_append_left _ _),
    hothers back (subset_append_right _ _), if_pos (by rw [hname])]

variable (set : RuleSet)

theorem applied_hashes (table : List RuleManifestEntry) :
    (applyEnableTable set table).rules.map (fun rule => nameHash rule.name)
      = set.rules.map fun rule => nameHash rule.name := by
  rw [applyEnableTable, List.map_map]
  refine map_congr_left fun rule _ => ?_
  dsimp only [Function.comp_apply]
  split <;> rfl

/-- Recording a toggle and toggling the rule come to the same. -/
theorem applyEnableTable_recordEnabled {set changed : RuleSet} {table : List RuleManifestEntry}
    {name : String} {on : Bool} (hhashes : (set.rules.map fun rule => nameHash rule.name).Nodup)
    (h : (applyEnableTable set table).setRuleEnabled name on = some changed) :
    changed = applyEnableTable set (recordEnabled table name on) := by
  rw [<- applied_hashes set table] at hhashes
  unfold RuleSet.setRuleEnabled at h
  dsimp only at h
  split at h
  · cases h
    rw [updateFirst_eq_map name _ hhashes ‹_›]
    unfold applyEnableTable
    simp only [List.map_map, find_recordEnabled]
    congr 1
    refine map_congr_left fun rule _ => ?_
    dsimp only [Function.comp_apply]
    by_cases hrule : nameHash rule.name = nameHash name
    · split <;> simp [hrule]
    · split <;> simp [*]
  · cases h

/-- A toggle of a rule that is not there changes nothing. -/
def RulesDocument.toggleAll (doc : RulesDocument) (toggles : List (String × Bool)) :
    RulesDocument :=
  toggles.foldl (fun doc toggle => (doc.setEnabled toggle.1 toggle.2).getD doc) doc

theorem applyEnableTable_own (hhashes : (set.rules.map fun rule => nameHash rule.name).Nodup) :
    applyEnableTable set (enableTableOf set) = set := by
  unfold applyEnableTable
  congr 1
  refine (map_congr_left fun rule hrule => ?_).trans (map_id' set.rules)
  split
  · rename_i entry hfound
    rcases mem_map.mp (mem_of_find?_eq_some hfound) with ⟨other, hother, hentry⟩
    have hsame : entry.nameHash = nameHash rule.name := by
      simpa using find?_some hfound
    subst hentry
    rw [inj_on_of_nodup_map hhashes hother hrule hsame]
  · rfl

theorem setEnabled_restores {set : RuleSet} {doc : RulesDocument}
    (hhashes : (set.rules.map fun rule => nameHash rule.name).Nodup)
    (h : doc.compiled = some (applyEnableTable set doc.enableTable)) (toggle : String × Bool) :
    let next := (doc.setEnabled toggle.1 toggle.2).getD doc
    next.compiled = some (applyEnableTable set next.enableTable) := by
  cases hchanged : (applyEnableTable set doc.enableTable).setRuleEnabled toggle.1 toggle.2 with
  | none => simp [RulesDocument.setEnabled, h, hchanged]
  | some changed =>
    have hrecorded := applyEnableTable_recordEnabled hhashes hchanged
    simp [RulesDocument.setEnabled, h, hchanged, <- hrecorded]

theorem setEnabled_mem {set : RuleSet} {doc : RulesDocument} {rule : Rule} (on : Bool)
    (hcompiled : doc.compiled = some set) (hrule : rule ∈ set.rules) :
    let next := (doc.setEnabled rule.name on).getD doc
    next.enableTable = recordEnabled doc.enableTable rule.name on ∧ exists changed,
      next.compiled = some changed ∧ (exists same, same ∈ changed.rules ∧ same.name = rule.name
          ∧ same.enabled = on)
        ∧ forall other, other ∈ set.rules -> other.name ≠ rule.name -> other ∈ changed.rules := by
  have hany : set.rules.any fun other => decide (other.name = rule.name) :=
    any_eq_true.mpr ⟨rule, hrule, decide_eq_true rfl⟩
  simp only [RulesDocument.setEnabled, RuleSet.setRuleEnabled, hcompiled, hany, if_true,
    Option.bind_eq_bind, Option.bind_some]
  rcases updateFirst_split (fun other : Rule => { other with enabled := on }) hany with
    ⟨front, own, back, hsplit, hown, _, hchanged⟩
  have hname := of_decide_eq_true hown
  refine ⟨rfl, _, rfl, ⟨{ own with enabled := on }, ?_, hname, rfl⟩, ?_⟩
  · rw [hchanged]
    exact mem_append_right _ mem_cons_self
  · intro other hother hne
    rw [hsplit] at hother
    rw [hchanged]
    rcases mem_append.mp hother with hfront | hback
    · exact mem_append_left _ hfront
    · rcases mem_cons.mp hback with rfl | hrest
      · exact absurd hname hne
      · exact mem_append_right _ (mem_cons_of_mem _ hrest)

theorem applied_enabled {table : List RuleManifestEntry} {entry : RuleManifestEntry} {rule : Rule}
    (hrule : rule ∈ (applyEnableTable set table).rules)
    (hentry : table.find? (fun entry => decide (entry.nameHash = nameHash rule.name))
      = some entry) : rule.enabled = entry.enabled := by
  rcases mem_map.mp hrule with ⟨own, _, rfl⟩
  revert hentry
  cases hfound : table.find? fun entry => decide (entry.nameHash = nameHash own.name) with
  | none => simp [hfound]
  | some other =>
    simp only [hfound, Option.some.injEq]
    rintro rfl
    rfl

/-- Of two rules that share a hash, the first is switched on and the second off. -/
theorem shared_hash_lost {set : RuleSet} {doc : RulesDocument} {rule other : Rule}
    (hcompiled : doc.compiled = some set) (hrule : rule ∈ set.rules) (hother : other ∈ set.rules)
    (hne : rule.name ≠ other.name) (hhash : nameHash rule.name = nameHash other.name) :
    let last := doc.toggleAll [(rule.name, true), (other.name, false)]
    last.compiled ≠ some (applyEnableTable set last.enableTable) := by
  intro last hrestored
  rcases setEnabled_mem true hcompiled hrule with
    ⟨_, first, hfirst, ⟨same, hsame, hname, hon⟩, hkept⟩
  rcases setEnabled_mem false hfirst (hkept other hother hne.symm) with
    ⟨htable, second, hsecond, _, hlast⟩
  have hmem := hlast same hsame (hname ▸ hne)
  rw [Option.some.inj (hsecond.symm.trans hrestored)] at hmem
  have hentry : last.enableTable.find? (fun entry => decide (entry.nameHash = nameHash same.name))
      = some ⟨nameHash other.name, false⟩ :=
    htable ▸ (find_recordEnabled _ _ _ _).trans (if_pos (hname ▸ hhash))
  have hoff := applied_enabled set hmem hentry
  exact absurd (hon.symm.trans hoff) (by simp)

/-- The table restores the set after all sequences of toggles exactly if no two names
share a hash. -/
theorem enable_table_restores (set : RuleSet) (hnames : (set.rules.map Rule.name).Nodup)
    (doc : RulesDocument) (hcompiled : doc.compiled = some set)
    (htable : doc.enableTable = enableTableOf set) :
    (forall toggles, (doc.toggleAll toggles).compiled
        = some (applyEnableTable set (doc.toggleAll toggles).enableTable))
      <-> (set.rules.map fun rule => nameHash rule.name).Nodup := by
  constructor
  · intro hrestored
    have hmap := Nodup.map_on (f := nameHash) ?_ hnames
    · rwa [List.map_map] at hmap
    · intro first hfirst second hsecond hhash
      rcases mem_map.mp hfirst with ⟨rule, hrule, rfl⟩
      rcases mem_map.mp hsecond with ⟨other, hother, rfl⟩
      by_contra hne
      exact shared_hash_lost hcompiled hrule hother hne hhash (hrestored _)
  · intro hhashes toggles
    refine foldlRecOn toggles _ (motive := fun next : RulesDocument =>
      next.compiled = some (applyEnableTable set next.enableTable)) ?_ ?_
    · rw [hcompiled, htable, applyEnableTable_own set hhashes]
    · intro next h toggle _
      exact setEnabled_restores hhashes h toggle

def rulesNamed (names : List String) : RuleSet :=
  { RuleSet.empty 0 with rules := names.map fun name =>
      { name := name
        enabled := true
        cooldownMs := 0
        holdHcl := false
        triggers := []
        conditions := []
        actions := [] } }

def documentOf : RulesDocument where
  compiled := some set
  enableTable := enableTableOf set

/-- Two names of one hash: switching the second rule off switches off the first one too
when the set is built again. -/
theorem shared_hash_switches_both :
    let set := rulesNamed ["liquid", "costarring"]
    let doc := (documentOf set).toggleAll [("costarring", false)]
    (doc.compiled.map fun held => held.rules.map Rule.enabled) = some [true, false]
      ∧ (applyEnableTable set doc.enableTable).rules.map Rule.enabled = [false, false] := by
  decide +kernel

theorem hall_restored :
    let set := rulesNamed ["hall", "stairs", "kitchen"]
    let doc := (documentOf set).toggleAll [("hall", false), ("kitchen", false), ("hall", true)]
    doc.compiled = some (applyEnableTable set doc.enableTable)
      ∧ (doc.compiled.map fun held => held.rules.map Rule.enabled) = some [true, true, false] :=
  ⟨(enable_table_restores (rulesNamed ["hall", "stairs", "kitchen"]) (by decide)
    (documentOf _) rfl rfl).mpr (by decide +kernel) _, by decide +kernel⟩

end Oxidali.Rules
