import Oxidali.Registry.RuntimeUpdates

/-!
# Facts that arrive out of order

A row has one stamp for all that it shows, and takes or refuses a fact as a whole.  A
fact that a newer one has overtaken is lost, also where the newer one says nothing about
what it states.
-/

namespace Oxidali.Registry.RuntimeCommits

open List PhysicalDeviceRecord

variable (base : Stamp)

/-- How far into the window a fact was stamped. -/
def age (fact : PhysicalRuntimeCommit) : Nat :=
  offset base (fact.observedAtMonoMs.getD base)

/-- Of the facts that state the part, none is newer. -/
def IsNewest (slot : Part) (facts : List PhysicalRuntimeCommit)
    (fact : PhysicalRuntimeCommit) : Prop :=
  fact ∈ facts ∧ forall other, other ∈ facts -> (other.override slot).isSome ->
    age base other <= age base fact

variable {base : Stamp} {record : PhysicalDeviceRecord}
  {facts before after : List PhysicalRuntimeCommit} {fact : PhysicalRuntimeCommit} {slot : Part}

theorem parts_heard (hheard : Heard fact) (hslot : slot = .level ∨ slot = .colour) :
    (record.commitPhysicalRuntime fact).1.parts slot =
      (fact.override slot).getD (record.parts slot) := by
  rcases hslot with rfl | rfl
  · exact (runtimeLevel_commit hheard.powerCycleBegan).trans hheard.shownBy
  · rw [hheard.commit_eq]
    rfl

theorem afterCommits_concat (facts : List PhysicalRuntimeCommit) (fact : PhysicalRuntimeCommit) :
    record.afterCommits (facts ++ [fact]) =
      ((record.afterCommits facts).applyPhysicalRuntime fact).1 :=
  afterCommits_append facts [fact]

/-- A row takes a fact that is not behind any that reached it before. -/
theorem takes_afterCommits (hrecord : record.runtime.observedAtMonoMs = none)
    (hfacts : forall other, other ∈ facts -> Sighted base other) (hfact : Sighted base fact) :
    (record.afterCommits facts).supersededBy fact.observedAtMonoMs = true <->
      forall other, other ∈ facts -> age base other <= age base fact := by
  induction facts using reverseRecOn generalizing fact with
  | nil =>
    rw [supersededBy, afterCommits, foldl_nil, hrecord]
    cases fact.observedAtMonoMs <;> simp [observationSupersedes]
  | append_singleton facts last ih =>
    simp only [afterCommits_concat, mem_append, mem_singleton, or_imp, forall_and, forall_eq]
      at hfacts ⊢
    cases htaken : (record.afterCommits facts).supersededBy last.observedAtMonoMs with
    | true =>
      rw [applyPhysicalRuntime_taken htaken]
      rw [ih hfacts.1 hfacts.2] at htaken
      rcases hfact.stamped with ⟨stamp, hstamp, hwindow⟩
      rcases hfacts.2.stamped with ⟨stored, hstored, hbefore⟩
      rw [supersededBy, observedAtMonoMs_commit, hstored, hstamp]
      refine (observationSupersedes_iff hwindow hbefore).trans ?_
      have hages : offset base stored = age base last ∧ offset base stamp = age base fact := by
        simp [age, hstored, hstamp]
      rw [hages.1, hages.2]
      exact ⟨fun h => ⟨fun other hin => (htaken other hin).trans h, h⟩, And.right⟩
    | false =>
      rw [applyPhysicalRuntime_refused htaken, ih hfacts.1 hfact]
      rw [Bool.eq_false_iff, ne_eq, ih hfacts.1 hfacts.2] at htaken
      push Not at htaken
      rcases htaken with ⟨other, hin, hbehind⟩
      exact ⟨fun h => ⟨h, hbehind.le.trans (h other hin)⟩, And.left⟩

/-- Where no newer fact overtakes the newest one that states a part, the row ends with what
that one states. -/
theorem newest_fact_stored {v : slot.Value} (hrecord : record.runtime.observedAtMonoMs = none)
    (hslot : slot = .level ∨ slot = .colour)
    (hfacts : forall other, other ∈ before ++ fact :: after -> Sighted base other)
    (hstamps : ((before ++ fact :: after).map (age base)).Nodup)
    (hnewest : IsNewest base slot (before ++ fact :: after) fact)
    (hstates : fact.override slot = some v)
    (hahead : forall other, other ∈ before -> age base other <= age base fact) :
    (record.afterCommits (before ++ fact :: after)).parts slot = v := by
  induction after using reverseRecOn with
  | nil =>
    have hbefore := fun other hin => hfacts other (mem_append_left _ hin)
    have hfact := hfacts fact (by simp)
    rw [afterCommits_concat, applyPhysicalRuntime_taken
      ((takes_afterCommits hrecord hbefore hfact).mpr hahead), parts_heard hfact.heard hslot,
      hstates]
    rfl
  | append_singleton after last ih =>
    rw [show before ++ fact :: (after ++ [last]) = (before ++ fact :: after) ++ [last] by simp]
      at hfacts hstamps hnewest ⊢
    rw [map_append, nodup_append] at hstamps
    have hearlier := fun other hin => hfacts other (mem_append_left _ hin)
    have hlast := hfacts last (by simp)
    have hsame := ih hearlier hstamps.1 ⟨by simp, fun other hin =>
      hnewest.2 other (mem_append_left _ hin)⟩
    rw [afterCommits_concat]
    cases htaken : (record.afterCommits (before ++ fact :: after)).supersededBy
        last.observedAtMonoMs with
    | false => rw [applyPhysicalRuntime_refused htaken, hsame]
    | true =>
      -- What the row takes behind the newest one is not older, so it does not state the part.
      rw [takes_afterCommits hrecord hearlier hlast] at htaken
      have hsilent : last.override slot = none := by
        by_contra hsome
        have hback := hnewest.2 last (by simp) (Option.isSome_iff_ne_none.mpr hsome)
        exact hstamps.2.2 _ (mem_map_of_mem (by simp)) _ (by simp)
          (Nat.le_antisymm (htaken fact (by simp)) hback)
      rw [applyPhysicalRuntime_taken ((takes_afterCommits hrecord hearlier hlast).mpr htaken),
        parts_heard hlast.heard hslot, hsilent]
      exact hsame

/-! ## A level that is read late -/

def heardAt (stamp : Stamp) (setpoint : LightSetpoint) : PhysicalRuntimeCommit :=
  ⟨setpoint, {}, some stamp, none, .sniffer, false⟩

def levelFact : PhysicalRuntimeCommit := heardAt 1 (.fromLevel 200 none)

def colourFact : PhysicalRuntimeCommit := heardAt 2 { color := some { mode := .brightness } }

def bothFact : PhysicalRuntimeCommit :=
  heardAt 3 { LightSetpoint.fromLevel 90 none with color := some { mode := .brightness } }

theorem facts_sighted (fact : PhysicalRuntimeCommit)
    (h : fact ∈ [levelFact, bothFact, colourFact]) : Sighted 0 fact := by
  simp only [mem_cons, not_mem_nil, or_false] at h
  rcases h with rfl | rfl | rfl
  · exact ⟨⟨rfl, rfl, rfl, by decide⟩, 1, rfl, by decide⟩
  · exact ⟨⟨rfl, rfl, rfl, by decide⟩, 3, rfl, by decide⟩
  · exact ⟨⟨rfl, rfl, rfl, by decide⟩, 2, rfl, by decide⟩

/-- The newest fact overtakes a colour, which is refused. -/
theorem overtaken_colour_refused : (({} : PhysicalDeviceRecord).afterCommits
    [levelFact, bothFact, colourFact]).runtimeLevel = some 90 := by
  refine @newest_fact_stored 0 {} [levelFact] [colourFact] bothFact .level (some 90) rfl (.inl rfl)
    facts_sighted (by decide) ⟨by simp, ?_⟩ rfl ?_ <;>
    unfold age <;> decide

/-- The colour that was told second comes first: the level is refused, and the row shows
none. -/
theorem overtaken_level_lost :
    (forall fact, fact ∈ [levelFact, bothFact, colourFact] -> Sighted 0 fact) ∧
      IsNewest 0 .level [colourFact, levelFact] levelFact ∧
      levelFact.setpoint.dapcLevel = some 200 ∧
      (({} : PhysicalDeviceRecord).afterCommits [colourFact, levelFact]).runtimeLevel = none := by
  refine ⟨facts_sighted, ⟨by simp, ?_⟩, rfl, by decide⟩
  unfold age
  decide

end Oxidali.Registry.RuntimeCommits
