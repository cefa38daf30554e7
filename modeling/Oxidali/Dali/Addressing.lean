import Mathlib

/-!
# Addressing by random addresses

What control gear and control devices have in common in addressing: a unit in
the initialisation state takes part in the search, a unit whose random address
is the search address is selected, and only a selected unit is programmed and
withdrawn.
-/

namespace Oxidali.Dali

inductive InitialisationState where
  | disabled
  | enabled
  | withdrawn
deriving DecidableEq

structure AddressingState where
  shortAddress : Option Nat
  randomAddress : Nat
  searchH : Nat
  searchM : Nat
  searchL : Nat
  initialisation : InitialisationState

namespace AddressingState

def initialising (unit : AddressingState) : Bool :=
  unit.initialisation != .disabled

variable {unit : AddressingState}

theorem initialising_of_enabled (h : unit.initialisation = .enabled) : unit.initialising := by
  rw [initialising, h]
  rfl

variable (unit)

def searchAddress : Nat :=
  unit.searchH * 65536 + unit.searchM * 256 + unit.searchL

def selected : Bool :=
  unit.searchAddress == unit.randomAddress

def compares : Bool :=
  unit.initialisation = .enabled && unit.randomAddress <= unit.searchAddress

/-! ## The commands of the initialisation state -/

variable (data : Nat)

def setSearchH : AddressingState :=
  if unit.initialising then { unit with searchH := data } else unit

def setSearchM : AddressingState :=
  if unit.initialising then { unit with searchM := data } else unit

def setSearchL : AddressingState :=
  if unit.initialising then { unit with searchL := data } else unit

def withdraw : AddressingState :=
  if unit.initialising && unit.selected then
    { unit with initialisation := .withdrawn }
  else unit

/-- PROGRAM SHORT ADDRESS with its decoded operand; `none` deletes the address. -/
def program (address : Option Nat) : AddressingState :=
  if unit.initialising && unit.selected then { unit with shortAddress := address }
  else unit

/-! ## Aiming the search -/

/-- Two states of a unit that differ in the search address only. -/
structure Same (unit other : AddressingState) : Prop where
  shortAddress : other.shortAddress = unit.shortAddress
  randomAddress : other.randomAddress = unit.randomAddress
  initialisation : other.initialisation = unit.initialisation

theorem Same.refl (unit : AddressingState) : Same unit unit :=
  ⟨rfl, rfl, rfl⟩

theorem Same.trans {first second third : AddressingState} (h : Same first second)
    (h' : Same second third) : Same first third :=
  ⟨h'.shortAddress.trans h.shortAddress, h'.randomAddress.trans h.randomAddress,
    h'.initialisation.trans h.initialisation⟩

variable {unit}

theorem Same.initialising {other : AddressingState} (h : Same unit other) :
    other.initialising = unit.initialising := by
  simp [AddressingState.initialising, h.initialisation]

variable (unit)

theorem setSearchH_same : Same unit (unit.setSearchH data) := by
  unfold setSearchH
  split
  · exact ⟨rfl, rfl, rfl⟩
  · exact Same.refl unit

theorem setSearchM_same : Same unit (unit.setSearchM data) := by
  unfold setSearchM
  split
  · exact ⟨rfl, rfl, rfl⟩
  · exact Same.refl unit

theorem setSearchL_same : Same unit (unit.setSearchL data) := by
  unfold setSearchL
  split
  · exact ⟨rfl, rfl, rfl⟩
  · exact Same.refl unit

/-- The unit after the three frames that carry the search address. -/
def aim (address : Nat) : AddressingState :=
  ((unit.setSearchH (address / 65536 % 256)).setSearchM
    (address / 256 % 256)).setSearchL (address % 256)

theorem aim_same (address : Nat) : Same unit (unit.aim address) :=
  ((setSearchH_same _ _).trans (setSearchM_same _ _)).trans (setSearchL_same _ _)

variable {unit} {address : Nat}

theorem aim_searchAddress (haddress : address < 2 ^ 24) (hinit : unit.initialising) :
    (unit.aim address).searchAddress = address := by
  have hH : unit.setSearchH (address / 65536 % 256)
      = { unit with searchH := address / 65536 % 256 } := if_pos hinit
  have hM := (setSearchH_same unit (address / 65536 % 256)).initialising.trans hinit
  have hL := (setSearchM_same _ (address / 256 % 256)).initialising.trans hM
  unfold aim
  rw [setSearchL, if_pos hL, setSearchM, if_pos hM, hH]
  simp only [searchAddress]
  omega

theorem aim_compares_iff (haddress : address < 2 ^ 24) :
    (unit.aim address).compares = true <->
      unit.initialisation = .enabled ∧ unit.randomAddress <= address := by
  have hsame := aim_same unit address
  rw [compares, Bool.and_eq_true, decide_eq_true_iff, decide_eq_true_iff,
    hsame.initialisation, hsame.randomAddress]
  refine and_congr_right ?_
  intro henabled
  rw [aim_searchAddress haddress (initialising_of_enabled henabled)]

/-! ## Programming -/

/-- What PROGRAM SHORT ADDRESS and WITHDRAW leave of a unit. -/
def assign (unit : AddressingState) (address : Nat) : AddressingState :=
  (unit.program (some address)).withdraw

theorem assign_selected (hinit : unit.initialising) (hselected : unit.selected) :
    unit.assign address =
      { unit with shortAddress := some address, initialisation := .withdrawn } := by
  have hprogram : unit.program (some address) = { unit with shortAddress := some address } :=
    if_pos (by rw [hinit, hselected]; rfl)
  have hwithdraw : (initialising { unit with shortAddress := some address }
      && selected { unit with shortAddress := some address }) = true := by
    change (unit.initialising && unit.selected) = true
    rw [hinit, hselected]
    rfl
  rw [assign, hprogram, withdraw, if_pos hwithdraw]

theorem assign_unselected (h : unit.initialising -> unit.selected = false) :
    unit.assign address = unit := by
  have hnot : (unit.initialising && unit.selected) = false := by
    cases hinit : unit.initialising with
    | false => rfl
    | true => rw [h hinit]; rfl
  rw [assign, program, hnot, if_neg Bool.false_ne_true, withdraw, hnot, if_neg Bool.false_ne_true]

end AddressingState

/-! ## Populations -/

section Populations

variable {index : Type} {before after : index -> AddressingState}

/-- Some unit takes part in the search at or below `address`. -/
def ComparesAt (units : index -> AddressingState) (address : Nat) : Prop :=
  exists i, (units i).initialisation = .enabled ∧ (units i).randomAddress <= address

def Unmoved (before after : index -> AddressingState) : Prop :=
  forall i, AddressingState.Same (before i) (after i)

theorem Unmoved.refl (units : index -> AddressingState) : Unmoved units units :=
  fun i => AddressingState.Same.refl (units i)

theorem Unmoved.trans {third : index -> AddressingState} (h : Unmoved before after)
    (h' : Unmoved after third) : Unmoved before third :=
  fun i => (h i).trans (h' i)

theorem Unmoved.comparesAt_iff (h : Unmoved before after) (address : Nat) :
    ComparesAt after address <-> ComparesAt before address := by
  unfold ComparesAt
  simp only [(h _).initialisation, (h _).randomAddress]

/-- `random` is the lowest random address taking part in the search. -/
structure Lowest (units : index -> AddressingState) (random : Nat) : Prop where
  attained : exists i, (units i).initialisation = .enabled ∧ (units i).randomAddress = random
  least : forall i, (units i).initialisation = .enabled -> random <= (units i).randomAddress

variable {units : index -> AddressingState}

theorem exists_lowest {address : Nat}
    (h : ComparesAt units address) : exists random, Lowest units random := by
  classical
  have hsome : exists random, exists i, (units i).initialisation = .enabled
      ∧ (units i).randomAddress = random := by
    rcases h with ⟨i, henabled, -⟩
    exact ⟨_, i, henabled, rfl⟩
  refine ⟨Nat.find hsome, Nat.find_spec hsome, ?_⟩
  intro i henabled
  exact Nat.find_min' hsome ⟨i, henabled, rfl⟩

theorem Lowest.comparesAt_iff {random : Nat} (h : Lowest units random)
    (address : Nat) : ComparesAt units address <-> random <= address := by
  constructor
  · rintro ⟨i, henabled, hle⟩
    exact Nat.le_trans (h.least i henabled) hle
  · intro hle
    rcases h.attained with ⟨i, henabled, hrandom⟩
    exact ⟨i, henabled, hrandom ▸ hle⟩

/-- Unit `i` has got `address` and left the search, and no other unit has
changed. -/
structure Programmed (i : index) (address : Nat)
    (before after : index -> AddressingState) : Prop where
  shortAddress : (after i).shortAddress = some address
  randomAddress : (after i).randomAddress = (before i).randomAddress
  withdrawn : (after i).initialisation = .withdrawn
  others : forall j, j ≠ i -> AddressingState.Same (before j) (after j)

/-- Aiming at the random address of one unit alone and assigning an address
programs that unit. -/
theorem programmed_of_assign {i : index} {address random : Nat} (hrandom : random < 2 ^ 24)
    (hfound : (before i).randomAddress = random) (hinit : (before i).initialising)
    (honly : forall j, (before j).initialising -> (before j).randomAddress = random -> j = i)
    (hafter : forall j, after j = ((before j).aim random).assign address) :
    Programmed i address before after := by
  have hchosen : after i = { (before i).aim random with
      shortAddress := some address, initialisation := .withdrawn } := by
    rw [hafter i]
    refine AddressingState.assign_selected ?_ ?_
    · rw [(AddressingState.aim_same _ _).initialising, hinit]
    · rw [AddressingState.selected, AddressingState.aim_searchAddress hrandom hinit,
        (AddressingState.aim_same _ _).randomAddress, hfound, beq_self_eq_true]
  have hothers : forall j, j ≠ i -> after j = (before j).aim random := by
    intro j hj
    rw [hafter j]
    refine AddressingState.assign_unselected ?_
    rw [(AddressingState.aim_same _ _).initialising]
    intro hjinit
    have hne : random ≠ (before j).randomAddress :=
      fun h => hj (honly j hjinit h.symm)
    rw [AddressingState.selected, AddressingState.aim_searchAddress hrandom hjinit,
      (AddressingState.aim_same _ _).randomAddress, beq_eq_false_iff_ne]
    exact hne
  constructor
  · rw [hchosen]
  · rw [hchosen]
    exact (AddressingState.aim_same _ _).randomAddress
  · rw [hchosen]
  · intro j hj
    rw [hothers j hj]
    exact AddressingState.aim_same _ _

end Populations
end Oxidali.Dali
