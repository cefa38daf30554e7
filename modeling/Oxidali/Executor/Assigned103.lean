import Oxidali.Executor.Commission103

/-!
# The addresses that commissioning hands out

The loop of `commission_body` starts at the lowest free short address and counts
up from there without asking again.  So the devices that had no address get
consecutive addresses, in the order of their random addresses, and the outcome
is the intended one exactly when no device held an address in that block.
-/

namespace Oxidali.Executor.Dev103

open Dali Hoare Special103Command AddressingState ControlDevice Device103Command List Option

/-! ## Free addresses -/

section Free

variable {C index : Type} [DaliApplicationController C]
  {bus : C -> Population103 index} {before : Population103 index}

def Held (bus : Population103 index) (address : Nat) : Prop :=
  exists i, (bus i).shortAddress = some address

instance [Fintype index] (bus : Population103 index) (address : Nat) :
    Decidable (Held bus address) :=
  inferInstanceAs (Decidable (exists i, (bus i).shortAddress = some address))

/-- The lowest address that no device holds, one past the last when all are
held. -/
def firstFree [Fintype index] (bus : Population103 index) : Nat :=
  ((range (maxShortAddress + 1)).find? fun a => ¬ Held bus a).getD (maxShortAddress + 1)

theorem firstSilentAddress_effect [Fintype index] (line : ReliableLine C bus)
    (candidates : List Nat) : (forall a, a ∈ candidates -> a <= maxShortAddress) ->
    Effect bus before (firstSilentAddress candidates)
      (fun found after => after = before ∧ found = candidates.find? fun a => ¬ Held before a)
      (fun _ => True) := by
  induction candidates with
  | nil =>
    intro _
    exact Effect.pure ⟨rfl, rfl⟩
  | cons a rest ih =>
    intro hle
    have ha := hle a (mem_cons_self ..)
    refine Effect.bind (send_effect line (.device _ _) true) ?_
    rintro response _ ⟨rfl, hreplied⟩
    have hsame : before.hear false
        (queryNumberOfInstances.frame (.short a)) = before := by
      funext i
      exact hear_device _ _ _ (short_encode_ne ha)
    have hyes : response.isYes = true <-> Held before a := by
      rw [(hreplied rfl).isYes_iff]
      refine exists_congr fun i => ?_
      rw [Population103.replies, reply_instances _ ha]
      split <;> simp [*]
    rw [hsame]
    by_cases hheld : Held before a
    · rw [if_pos (hyes.mpr hheld), find?_cons_of_neg (by simp [hheld])]
      exact ih fun b hb => hle b (mem_cons_of_mem _ hb)
    · rw [if_neg (fun h => hheld (hyes.mp h)), find?_cons_of_pos (by simp [hheld])]
      exact Effect.pure ⟨rfl, rfl⟩

/-- `next_short`, as the number that it counts. -/
def nextShortOf (address : Nat) : Option Nat :=
  if address <= maxShortAddress then some address else none

theorem nextFreeShortAddress_eq {address : Nat} (h : address <= maxShortAddress) :
    nextFreeShortAddress address = nextShortOf (address + 1) := by
  unfold nextFreeShortAddress nextShortOf
  rcases Nat.lt_or_eq_of_le h with hlt | rfl
  · rw [if_pos hlt, if_pos (Nat.succ_le_of_lt hlt)]
  · rw [if_neg (Nat.lt_irrefl _), if_neg (Nat.not_succ_le_self _)]

theorem firstFree_le [Fintype index] (bus : Population103 index) :
    firstFree bus <= maxShortAddress + 1 := by
  unfold firstFree
  cases hfind : (range (maxShortAddress + 1)).find? fun a => ¬ Held bus a with
  | none => exact Nat.le_refl _
  | some a =>
    have hmem := mem_of_find?_eq_some hfind
    exact Nat.le_of_lt (mem_range.mp hmem)

theorem firstFreeShortAddress_effect [Fintype index] (line : ReliableLine C bus) :
    Effect bus before firstFreeShortAddress
      (fun found after => after = before ∧ found = nextShortOf (firstFree before))
      (fun _ => True) := by
  have hcandidates : forall a, a ∈ range (maxShortAddress + 1) -> a <= maxShortAddress :=
    fun a ha => Nat.le_of_lt_succ (mem_range.mp ha)
  refine (firstSilentAddress_effect line _ hcandidates).mono ?_ (fun _ h => h)
  rintro found after ⟨rfl, rfl⟩
  refine ⟨rfl, ?_⟩
  unfold firstFree
  cases hfind : (range (maxShortAddress + 1)).find? fun a => ¬ Held after a with
  | none => rw [getD_none, nextShortOf, if_neg (Nat.not_succ_le_self _)]
  | some a =>
    have ha := hcandidates a (mem_of_find?_eq_some hfind)
    rw [getD_some, nextShortOf, if_pos ha]

end Free

/-! ## Populations -/

section Populations

variable {index : Type}

def unaddressedCount [Fintype index] (bus : Population103 index) : Nat :=
  (Finset.univ.filter fun i => (bus i).shortAddress = none).card

def freeCount [Fintype index] (bus : Population103 index) : Nat :=
  ((range (maxShortAddress + 1)).filter fun a => ¬ Held bus a).length

/-- A line before commissioning: the short addresses are distinct, no device is
in the initialisation state, the devices without an address will draw distinct
random addresses below 0xFFFFFF, and there is an address for each of them. -/
structure Commissionable [Fintype index] (bus : Population103 index) : Prop where
  shortAddress_le : forall i a, (bus i).shortAddress = some a -> a <= maxShortAddress
  distinct : forall i j a, (bus i).shortAddress = some a -> (bus j).shortAddress = some a -> i = j
  idle : forall i, (bus i).initialisation = .disabled
  entropy_lt : forall i, (bus i).shortAddress = none -> (bus i).entropy < 0xFFFFFF
  entropy_distinct : forall i j, (bus i).shortAddress = none ->
    (bus j).shortAddress = none -> (bus i).entropy = (bus j).entropy -> i = j
  room : unaddressedCount bus <= freeCount bus

/-- The devices of `order` have got the addresses from `start` on, the other
devices without an address are still in the search. -/
structure HandedOut (population : Population103 index) (start : Nat)
    (order : List index) (bus : Population103 index) : Prop where
  keeps : forall i, (population i).shortAddress ≠ none ->
    (bus i).shortAddress = (population i).shortAddress ∧ (bus i).initialisation = .disabled
  random : forall i, (population i).shortAddress = none ->
    (bus i).randomAddress = (population i).entropy
  waiting : forall i, (population i).shortAddress = none -> ¬ i ∈ order ->
    (bus i).shortAddress = none ∧ (bus i).initialisation = .enabled
  handed : forall k i, order[k]? = some i ->
    (population i).shortAddress = none ∧ (bus i).shortAddress = some (start + k)
      ∧ (bus i).initialisation = .withdrawn
  nodup : order.Nodup
  room : start + order.length <= maxShortAddress + 1

variable {population bus : Population103 index} {start : Nat} {order : List index}

section

variable (h : HandedOut population start order bus)
include h

theorem HandedOut.unmoved {after : Population103 index} (hsame : Unmoved bus.states after.states) :
    HandedOut population start order after where
  keeps i hi := by
    rw [(hsame i).shortAddress, (hsame i).initialisation]
    exact h.keeps i hi
  random i hi := by
    rw [(hsame i).randomAddress]
    exact h.random i hi
  waiting i hi hmem := by
    rw [(hsame i).shortAddress, (hsame i).initialisation]
    exact h.waiting i hi hmem
  handed k i hk := by
    rw [(hsame i).shortAddress, (hsame i).initialisation]
    exact h.handed k i hk
  nodup := h.nodup
  room := h.room

variable {i : index}

theorem HandedOut.unaddressed_of_initialising (hinit : (bus i).initialising) :
    (population i).shortAddress = none := by
  by_contra haddressed
  have hdisabled := (h.keeps i haddressed).2
  simp [initialising, hdisabled] at hinit

theorem HandedOut.not_mem_of_enabled
    (henabled : (bus i).initialisation = .enabled) : ¬ i ∈ order := by
  intro hmem
  rcases getElem?_of_mem hmem with ⟨k, hk⟩
  have hwithdrawn := (h.handed k i hk).2.2
  rw [henabled] at hwithdrawn
  cases hwithdrawn

theorem HandedOut.programmed {after : Population103 index}
    (henabled : (bus i).initialisation = .enabled) (hroom : start + order.length <= maxShortAddress)
    (hafter : Programmed i (start + order.length) bus.states after.states) :
    HandedOut population start (order ++ [i]) after := by
  have hinit := initialising_of_enabled henabled
  have hnone := h.unaddressed_of_initialising hinit
  have hfresh := h.not_mem_of_enabled henabled
  have hother : forall j, j ∈ order -> j ≠ i := by
    rintro j hj rfl
    exact hfresh hj
  constructor
  · intro j hj
    have hne : j ≠ i := by
      rintro rfl
      exact hj hnone
    rw [(hafter.others j hne).shortAddress, (hafter.others j hne).initialisation]
    exact h.keeps j hj
  · intro j hj
    by_cases hji : j = i
    · subst hji
      rw [hafter.randomAddress]
      exact h.random j hj
    · rw [(hafter.others j hji).randomAddress]
      exact h.random j hj
  · intro j hj hmem
    rw [mem_append, mem_singleton, not_or] at hmem
    rw [(hafter.others j hmem.2).shortAddress, (hafter.others j hmem.2).initialisation]
    exact h.waiting j hj hmem.1
  · intro k j hk
    rcases Nat.lt_or_ge k order.length with hlt | hge
    · rw [getElem?_append_left hlt] at hk
      have hne := hother j (mem_of_getElem? hk)
      rw [(hafter.others j hne).shortAddress, (hafter.others j hne).initialisation]
      exact h.handed k j hk
    · rw [getElem?_append_right hge] at hk
      rw [getElem?_singleton] at hk
      split at hk
      case isTrue hlast =>
        cases hk
        have hk : k = order.length :=
          Nat.le_antisymm (Nat.le_of_sub_eq_zero hlast) hge
        exact ⟨hnone, hk ▸ hafter.shortAddress, hafter.withdrawn⟩
      case isFalse => cases hk
  · rw [nodup_append]
    refine ⟨h.nodup, by simp, ?_⟩
    intro j hj j' hj'
    rw [mem_singleton] at hj'
    exact hj' ▸ hother j hj
  · rw [length_append, length_singleton]
    omega

theorem HandedOut.exists_position {a : Nat} (hnone : (population i).shortAddress = none)
    (ha : (bus i).shortAddress = some a) : exists k, order[k]? = some i ∧ a = start + k := by
  by_cases hmem : i ∈ order
  · rcases getElem?_of_mem hmem with ⟨k, hk⟩
    have hhanded := (h.handed k i hk).2.1
    rw [ha] at hhanded
    exact ⟨k, hk, Option.some.inj hhanded⟩
  · rw [(h.waiting i hnone hmem).1] at ha
    cases ha

end

end Populations

/-! ## The loop -/

section Loop

variable {C index : Type} [DaliApplicationController C] [Fintype index]
  {bus : C -> Population103 index} {population : Population103 index} {start : Nat}

/-- The loop ends when no device is left in the search or no address is left. -/
def Exhausted (start : Nat) (order : List index) (bus : Population103 index) : Prop :=
  (forall i, (bus i).initialisation ≠ .enabled) ∨ start + order.length = maxShortAddress + 1

section

variable {order : List index} {bus : Population103 index}
  (hpop : Commissionable population) (h : HandedOut population start order bus)
include hpop h

theorem HandedOut.inRange : InRange bus.states := by
  intro i henabled
  have hnone := h.unaddressed_of_initialising (initialising_of_enabled henabled)
  rw [h.random i hnone]
  exact Nat.le_of_lt_succ (hpop.entropy_lt i hnone)

theorem HandedOut.found_alone {i j : index} (hi : (bus i).initialising) (hj : (bus j).initialising)
    (hrandom : (bus j).randomAddress = (bus i).randomAddress) : j = i := by
  have hinone := h.unaddressed_of_initialising hi
  have hjnone := h.unaddressed_of_initialising hj
  refine hpop.entropy_distinct j i hjnone hinone ?_
  rw [<- h.random j hjnone, <- h.random i hinone, hrandom]

end

theorem commissionLoop_effect (line : ReliableLine C bus) (hpop : Commissionable population)
    (fuel : Nat) :
    forall (order : List index) (before : Population103 index) (addressed : Nat),
      HandedOut population start order before ->
      maxShortAddress + 2 <= start + order.length + fuel -> Effect bus before
        (commissionLoop fuel (nextShortOf (start + order.length)) addressed)
        (fun _ after => exists order', HandedOut population start order' after
          ∧ Exhausted start order' after)
        (fun _ => True) := by
  induction fuel with
  | zero =>
    intro order before addressed h hfuel
    exact absurd h.room (by omega)
  | succ fuel ih =>
    intro order before addressed h hfuel
    unfold commissionLoop
    refine Effect.bind (findLowestRandomAddress_effect line (h.inRange hpop)) ?_
    rintro found searched ⟨hunmoved, hfound⟩
    have hsearched := h.unmoved hunmoved
    cases found with
    | none =>
      refine Effect.pure ⟨order, hsearched, .inl ?_⟩
      intro i
      rw [(hunmoved i).initialisation]
      exact hfound i
    | some random =>
      unfold nextShortOf
      by_cases hle : start + order.length <= maxShortAddress
      · rw [if_pos hle]
        rcases hfound.attained with ⟨i, hi, rfl⟩
        have henabled : (searched i).initialisation = .enabled := by
          rw [(hunmoved i).initialisation, hi]
        have hinit := initialising_of_enabled henabled
        have hrandom : (before i).randomAddress < 2 ^ 24 :=
          (h.inRange hpop i hi).trans_lt (by decide)
        refine Effect.bind (programFound_effect line hle hrandom
          (hunmoved i).randomAddress hinit ?_) ?_
        · intro j hj hsame
          refine hsearched.found_alone hpop hinit hj ?_
          rw [hsame, (hunmoved i).randomAddress]
        · intro _ after hprogrammed
          rw [nextFreeShortAddress_eq hle]
          have hextended := hsearched.programmed henabled hle hprogrammed
          have hlength : start + (order ++ [i]).length
              = start + order.length + 1 := by
            rw [length_append, length_singleton, Nat.add_assoc]
          rw [<- hlength]
          exact ih (order ++ [i]) after _ hextended (by omega)
      · rw [if_neg hle]
        have hroom := h.room
        exact Effect.pure ⟨order, hsearched, .inr (by omega)⟩

/-- The devices after INITIALISE and RANDOMISE have been heard twice. -/
theorem initialised_handedOut (hpop : Commissionable population) :
    HandedOut population (firstFree population) []
      ((population.hear true (initialise.frame InitialiseScope103.unaddressed.encode)).hear true
          (randomise.frame 0x00)) := by
  have hscope : InitialiseScope103.unaddressed.encode = 0x7F := rfl
  refine ⟨?_, ?_, ?_, ?_, nodup_nil, firstFree_le population⟩
  · intro i hi
    rcases ne_none_iff_exists'.mp hi with ⟨a, ha⟩
    have hle := hpop.shortAddress_le i a ha
    have hscoped : ¬ 0x7F = a := by
      rintro rfl
      exact absurd hle (by decide)
    simp [Population103.hear, hear_special, special, hscope, initialiseAddressesUs, ha, hscoped,
      initialising, hpop.idle i]
  · intro i hi
    simp [Population103.hear, hear_special, special, hscope, initialiseAddressesUs, hi,
      initialising, hpop.idle i]
  · intro i hi _
    simp [Population103.hear, hear_special, special, hscope, initialiseAddressesUs, hi,
      initialising, hpop.idle i]
  · intro k i hk
    simp at hk

end Loop

/-! ## The whole run -/

section Run

variable {C index : Type} [DaliApplicationController C]
  {bus : C -> Population103 index} {population : Population103 index}

theorem firstFree_congr [Fintype index] {other : Population103 index}
    (h : forall i, (other i).shortAddress = (population i).shortAddress) :
    firstFree other = firstFree population := by
  have hheld : forall a, Held other a <-> Held population a := by
    intro a
    simp only [Held, h]
  unfold firstFree
  congr 2
  funext a
  exact decide_eq_decide.mpr (not_congr (hheld a))

theorem HandedOut.shortAddress_nil {start : Nat} {other : Population103 index}
    (h : HandedOut population start [] other) (i : index) :
    (other i).shortAddress = (population i).shortAddress := by
  by_cases hi : (population i).shortAddress = none
  · rw [(h.waiting i hi (not_mem_nil)).1, hi]
  · exact (h.keeps i hi).1

theorem commissionBody_effect [Fintype index] (line : ReliableLine C bus)
    (hpop : Commissionable population) :
    Effect bus population (commissionBody .unaddressed)
      (fun _ after => exists order, HandedOut population (firstFree population) order after
          ∧ Exhausted (firstFree population) order after)
      (fun _ => True) := by
  have hinitialised := initialised_handedOut hpop
  unfold commissionBody
  refine Effect.bind (sendTwice_effect line (.special _ _)) ?_
  rintro _ _ rfl
  refine Effect.bind (sendTwice_effect line (.special _ _)) ?_
  rintro _ _ rfl
  refine Effect.bind (firstFreeShortAddress_effect line) ?_
  rintro _ _ ⟨rfl, rfl⟩
  rw [firstFree_congr hinitialised.shortAddress_nil]
  exact commissionLoop_effect line hpop commissionRounds [] _ 0 hinitialised (Nat.le_add_left _ _)

theorem broadcast_unheard (population : Population103 index) (twice : Bool)
    (command : Device103Command) :
    population.hear twice (command.frame .broadcast) = population := by
  funext i
  exact hear_device _ _ _ (by decide)

theorem commissionControlDevices_effect [Fintype index] (line : ReliableLine C bus)
    (hpop : Commissionable population) :
    Effect bus population (commissionControlDevices false)
      (fun _ after => exists last order, HandedOut population (firstFree population) order last
          ∧ Exhausted (firstFree population) order last
          ∧ forall i, (after i).shortAddress = (last i).shortAddress)
      (fun _ => True) := by
  unfold commissionControlDevices
  refine Effect.bind (sendTwice_effect line (.device _ _)) ?_
  rintro _ _ rfl
  rw [broadcast_unheard]
  intro c hc
  have hbody := commissionBody_effect line hpop c hc
  have hterminate := send_effect line (.special .terminate 0x00) false
    ((commissionBody .unaddressed).run c).2 rfl
  have hunquiesce := sendTwice_effect line (.device .stopQuiescentMode .broadcast)
    ((send (terminate.frame 0x00) false).run ((commissionBody .unaddressed).run c).2).2 rfl
  rw [broadcast_unheard] at hunquiesce
  change Outcome _ _
    (firstError ((commissionBody .unaddressed).run c).1
      ((send (terminate.frame 0x00) false).run ((commissionBody .unaddressed).run c).2).1
      ((sendTwice (stopQuiescentMode.frame .broadcast)).run
        ((send (terminate.frame 0x00) false).run ((commissionBody .unaddressed).run c).2).2).1)
    ((sendTwice (stopQuiescentMode.frame .broadcast)).run
      ((send (terminate.frame 0x00) false).run ((commissionBody .unaddressed).run c).2).2).2
  revert hbody hterminate hunquiesce
  generalize (commissionBody .unaddressed).run c = body
  generalize (send (terminate.frame 0x00) false).run body.2 = ended
  generalize (sendTwice (stopQuiescentMode.frame .broadcast)).run ended.2 = released
  rcases body with ⟨result, c₁⟩
  rcases ended with ⟨terminate, c₂⟩
  rcases released with ⟨unquiesce, c₃⟩
  intro hbody hterminate hunquiesce
  cases result with
  | error e => trivial
  | ok count =>
    cases terminate with
    | error e => trivial
    | ok response =>
      cases unquiesce with
      | error e => trivial
      | ok _ =>
        rcases hbody with ⟨order, hhanded, hexhausted⟩
        refine ⟨bus c₁, order, hhanded, hexhausted, ?_⟩
        intro i
        have hc₃ : bus c₃ = bus c₂ := hunquiesce
        have hc₂ : bus c₂ = (bus c₁).hear false (terminate.frame 0x00) := hterminate.1
        rw [hc₃, hc₂]
        change ((bus c₁ i).hear false _).shortAddress = _
        rw [hear_special]
        rfl

end Run

/-! ## The outcome -/

section Outcome

variable {C index : Type} [DaliApplicationController C] [Fintype index]
  {bus : C -> Population103 index} {population after : Population103 index}

def KeepsAddresses (population after : Population103 index) : Prop :=
  forall i a, (population i).shortAddress = some a -> (after i).shortAddress = some a

def DistinctAddresses (population : Population103 index) : Prop :=
  forall i j a, (population i).shortAddress = some a ->
    (population j).shortAddress = some a -> i = j

/-- The block of addresses that commissioning hands out is free. -/
def BlockFree (population : Population103 index) : Prop :=
  forall a, firstFree population <= a ->
    a < firstFree population + unaddressedCount population -> ¬ Held population a

section

variable {start : Nat} {order : List index} (h : HandedOut population start order after)
include h

theorem HandedOut.subset [DecidableEq index] :
    order.toFinset ⊆ Finset.univ.filter fun i => (population i).shortAddress = none := by
  intro i hi
  rcases getElem?_of_mem (List.mem_toFinset.mp hi) with ⟨k, hk⟩
  rw [Finset.mem_filter]
  exact ⟨Finset.mem_univ i, (h.handed k i hk).1⟩

/-- The addresses handed out are those of the block, as far as addresses go. -/
theorem HandedOut.length_iff (hexhausted : Exhausted start order after) {a : Nat}
    (ha : a <= maxShortAddress) :
    a < start + order.length <-> a < start + unaddressedCount population := by
  classical
  have hcard : order.length = order.toFinset.card :=
    (toFinset_card_of_nodup h.nodup).symm
  have hle : order.length <= unaddressedCount population := by
    rw [hcard]
    exact Finset.card_le_card h.subset
  rcases hexhausted with hdone | hfull
  · have hall : (Finset.univ.filter fun i => (population i).shortAddress = none)
        ⊆ order.toFinset := by
      intro i hi
      rw [List.mem_toFinset]
      by_contra hmem
      exact hdone i (h.waiting i (Finset.mem_filter.mp hi).2 hmem).2
    have hge : unaddressedCount population <= order.length := by
      rw [hcard]
      exact Finset.card_le_card hall
    rw [Nat.le_antisymm hle hge]
  · constructor <;> intro _ <;> omega

end

theorem HandedOut.distinct_iff {order : List index} (hpop : Commissionable population)
    (h : HandedOut population (firstFree population) order after)
    (hexhausted : Exhausted (firstFree population) order after) :
    DistinctAddresses after <-> BlockFree population := by
  have hkept : forall i a, (population i).shortAddress = some a ->
      (after i).shortAddress = some a := by
    intro i a hi
    rw [(h.keeps i (by rw [hi]; exact some_ne_none a)).1, hi]
  constructor
  · rintro hdistinct a hge hlt ⟨i, hi⟩
    have hle := hpop.shortAddress_le i a hi
    have hlength := (h.length_iff hexhausted hle).mpr hlt
    have hk : a - firstFree population < order.length :=
      Nat.sub_lt_left_of_lt_add hge hlength
    have hj := h.handed _ _ (getElem?_eq_getElem hk)
    rw [Nat.add_sub_cancel' hge] at hj
    have hsame := hdistinct _ _ a hj.2.1 (hkept i a hi)
    rw [hsame, hi] at hj
    cases hj.1
  · intro hfree i j a hi hj
    -- a device that held an address cannot meet one that was given it
    have hclash : forall x y, (population x).shortAddress ≠ none ->
        (population y).shortAddress = none -> (after x).shortAddress = some a ->
        (after y).shortAddress = some a -> x = y := by
      intro x y hx hy hxa hya
      rcases h.exists_position hy hya with ⟨k, hk, rfl⟩
      have hheld : Held population (firstFree population + k) :=
        ⟨x, (h.keeps x hx).1.symm.trans hxa⟩
      have hklt : k < order.length := (List.getElem?_eq_some_iff.mp hk).1
      have hle : firstFree population + k <= maxShortAddress := by
        have hroom := h.room
        omega
      have hblock := (h.length_iff hexhausted hle).mp (Nat.add_lt_add_left hklt _)
      exact absurd hheld (hfree _ (Nat.le_add_right _ _) hblock)
    by_cases hpi : (population i).shortAddress = none
    · by_cases hpj : (population j).shortAddress = none
      · rcases h.exists_position hpi hi with ⟨k, hk, hak⟩
        rcases h.exists_position hpj hj with ⟨l, hl, hal⟩
        have hkl : k = l := Nat.add_left_cancel (hak.symm.trans hal)
        subst hkl
        exact Option.some.inj (hk.symm.trans hl)
      · exact (hclash j i hpj hpi hj hi).symm
    · by_cases hpj : (population j).shortAddress = none
      · exact hclash i j hpi hpj hi hj
      · refine hpop.distinct i j a ?_ ?_
        · rw [<- (h.keeps i hpi).1, hi]
        · rw [<- (h.keeps j hpj).1, hj]

/-- After a run that returns, every device with an address has kept it and no
two devices share one, exactly when the block of addresses handed out was
free. -/
theorem commissionControlDevices_distinct_iff (line : ReliableLine C bus) {c c' : C} {count : Nat}
    (hpop : Commissionable (bus c))
    (hrun : (commissionControlDevices false).run c = (.ok count, c')) :
    KeepsAddresses (bus c) (bus c') ∧ DistinctAddresses (bus c') <-> BlockFree (bus c) := by
  have heffect := commissionControlDevices_effect line hpop c rfl
  rw [hrun] at heffect
  rcases heffect with ⟨last, order, hhanded, hexhausted, hshort⟩
  have hdistinct : DistinctAddresses (bus c') <-> DistinctAddresses last := by
    simp only [DistinctAddresses, hshort]
  have hkeeps : KeepsAddresses (bus c) (bus c') := by
    intro i a hi
    rw [hshort i, (hhanded.keeps i (by rw [hi]; exact some_ne_none a)).1, hi]
  rw [hdistinct, <- hhanded.distinct_iff hpop hexhausted]
  exact and_iff_right hkeeps

end Outcome

/-! ## Two lines of three devices -/

def restingDevice (shortAddress : Option Nat) (entropy : Nat) : ControlDevice where
  shortAddress := shortAddress
  randomAddress := 0xFFFFFF
  entropy := entropy
  searchH := 0xFF
  searchM := 0xFF
  searchL := 0xFF
  initialisation := .disabled
  instances := 1

def threeDevices (held : Nat) : IdealLine 3 where
  devices := [restingDevice (some held) 5, restingDevice none 3, restingDevice none 9]
  length_eq := rfl

theorem threeDevices_commissionable (held : Fin 64)
    (hroom : unaddressedCount (threeDevices held).bus <= freeCount (threeDevices held).bus) :
    Commissionable (threeDevices held).bus where
  shortAddress_le := by
    change forall i a, a ∈ ((threeDevices held).bus i).shortAddress -> a <= maxShortAddress
    clear hroom
    revert held
    decide +kernel
  distinct := by
    change forall i j a, a ∈ ((threeDevices held).bus i).shortAddress ->
      a ∈ ((threeDevices held).bus j).shortAddress -> i = j
    clear hroom
    revert held
    decide +kernel
  idle := by
    clear hroom
    revert held
    decide +kernel
  entropy_lt := by
    clear hroom
    revert held
    decide +kernel
  entropy_distinct := by
    clear hroom
    revert held
    decide +kernel
  room := hroom

theorem clearBlock_commissioned :
    KeepsAddresses (threeDevices 5).bus
        ((commissionControlDevices false).run (threeDevices 5)).2.bus
      ∧ DistinctAddresses ((commissionControlDevices false).run (threeDevices 5)).2.bus := by
  have hrun : (commissionControlDevices false).run (threeDevices 5)
      = (.ok 2, ((commissionControlDevices false).run (threeDevices 5)).2) :=
    run_eq_of_result (by decide +kernel)
  refine (commissionControlDevices_distinct_iff IdealLine.reliable
    (threeDevices_commissionable 5 (by decide +kernel)) hrun).mpr ?_
  have hfree : firstFree (threeDevices 5).bus = 0 := by decide +kernel
  have hcount : unaddressedCount (threeDevices 5).bus = 2 := by decide +kernel
  have hheld : forall a, a < 2 -> ¬ Held (threeDevices 5).bus a := by decide +kernel
  intro a _ (ha : a < firstFree (threeDevices 5).bus + unaddressedCount (threeDevices 5).bus)
  rw [hfree, hcount] at ha
  exact hheld a ha

/-- The address 1 is given to the second device that has none, although the
first device holds it. -/
theorem heldAddress_assigned_again : ReliableLine (IdealLine 3) (IdealLine.bus (n := 3))
      ∧ Commissionable (threeDevices 1).bus
      ∧ ((commissionControlDevices false).run (threeDevices 1)).1 = .ok 2 ∧ ¬ DistinctAddresses
        ((commissionControlDevices false).run (threeDevices 1)).2.bus := by
  refine ⟨IdealLine.reliable, threeDevices_commissionable 1 (by decide +kernel),
    by decide +kernel, ?_⟩
  intro hdistinct
  have hfirst : (((commissionControlDevices false).run (threeDevices 1)).2.bus 0).shortAddress
      = some 1 := by decide +kernel
  have hlast : (((commissionControlDevices false).run (threeDevices 1)).2.bus 2).shortAddress
      = some 1 := by decide +kernel
  exact absurd (hdistinct 0 2 1 hfirst hlast) (by decide)

end Oxidali.Executor.Dev103
