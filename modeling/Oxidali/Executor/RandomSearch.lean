import Oxidali.Executor.Unaddressed

/-!
# The search on a line that answers

Every frame reaches the gear, and what they answer is read: one answer as it is, several
as one of them or as a violation.  The search then finds the lowest random address.
-/

namespace Oxidali.Executor.Commissioning

open Dali Hoare AddressingState

/-- `garbled` says which of the answers to COMPARE that overlap are read as a violation. -/
structure SearchLine (n : Nat) where
  gear : Population102 (Fin n)
  compares : Nat
  garbled : Nat -> Bool

namespace SearchLine

variable {n : Nat} {line : SearchLine n} {fail : SearchLine n -> Prop}

def reads (line : SearchLine n) (replies : Fin n -> Option Nat) : DaliResponse :=
  match overlap replies with
  | .violation =>
    if line.garbled line.compares then .violation else .answer ControlGear.yes
  | response => response

def send (command : DaliCommand) (line : SearchLine n) :
    Except FrameError (DaliResponse × Bool) × SearchLine n :=
  (.ok (if command.isQuery then line.reads (line.gear.replies command.toForwardFrame)
      else .noAnswer, false),
    { line with
      gear := line.gear.hear command.toForwardFrame
      compares :=
        if command = .special .compare then line.compares + 1 else line.compares })

instance : DaliApplicationController (SearchLine n) := .ofSend send

theorem reads_isYes (replies : Fin n -> Option Nat) :
    (line.reads replies).isYes = true <-> exists i byte, replies i = some byte := by
  rw [<- (overlap_replied replies).isYes_iff, reads]
  cases overlap replies with
  | answer byte | noAnswer => exact Iff.rfl
  | violation =>
    dsimp only
    split <;> exact Iff.rfl

/-- The line after a probe. -/
def probed (line : SearchLine n) (address : Nat) : SearchLine n :=
  { line with
    gear := fun i => (line.gear i).aim address
    compares := line.compares + 1 }

theorem probeSearchAddress_probed {address : Nat} (haddress : address < 2 ^ 24) :
    Effect id line (probeSearchAddress address)
      (fun yes after => after = line.probed address
        ∧ (yes = true <-> ComparesAt line.gear address)) (fun _ => False) := by
  rintro _ rfl
  refine ⟨rfl, ?_⟩
  refine (reads_isYes _).trans (exists_congr fun i => ?_)
  exact (reply_compare _).trans (aim_compares_iff haddress)

/-- `left` more probes stay within the limit. -/
def Within (line : SearchLine n) (left : Nat) (b : SearchLine n) : Prop :=
  Unmoved line.gear b.gear ∧ b.compares + left <= line.compares + (searchRounds + 2)

theorem probe_within (left : Nat) (b : SearchLine n) (mid : Nat) (hb : line.Within (left + 1) b)
    (hmid : mid <= maxRandomAddress) : Effect id b (probeSearchAddress mid)
      (fun yes after => line.Within left after ∧ (yes = true <-> ComparesAt line.gear mid))
      fail := by
  refine (probeSearchAddress_probed (Nat.lt_succ_of_le hmid)).mono ?_ nofun
  rintro yes _ ⟨rfl, hyes⟩
  refine ⟨⟨hb.1.trans fun _ => aim_same _ _, ?_⟩, hyes.trans (hb.1.comparesAt_iff mid)⟩
  exact (Nat.le_of_eq (Nat.add_right_comm b.compares 1 left)).trans hb.2

theorem missing_within (left : Nat) (b : SearchLine n) (hb : line.Within left b) :
    Effect id b anyUnaddressedGear (fun yes after => line.Within left after
      ∧ (yes = true <-> exists i, (line.gear i).shortAddress = none)) fail := by
  rintro _ rfl
  refine ⟨hb, (reads_isYes _).trans (exists_congr fun i => ?_)⟩
  rw [<- (hb.1 i).shortAddress]
  exact reply_missing _

/-- The search returns the lowest random address that takes part, nothing if none does
and no gear is without a short address, and asks 27 times at most. -/
theorem findLowestRandomAddress_least (line : SearchLine n)
    (h24 : forall i, (line.gear i).initialisation = .enabled ->
      (line.gear i).randomAddress < 2 ^ 24) :
    (findLowestRandomAddress.run line).2.compares <= line.compares + 27
      ∧ ((exists i, (line.gear i).initialisation = .enabled) -> exists least, Lowest line.gear least
          ∧ (findLowestRandomAddress.run line).1 = .ok (some least))
      ∧ ((forall i, (line.gear i).initialisation ≠ .enabled) -> (forall i,
        (line.gear i).shortAddress ≠ none) -> (findLowestRandomAddress.run line).1 = .ok none) := by
  have htakes : (exists i, (line.gear i).initialisation = .enabled) ->
      ComparesAt line.gear maxRandomAddress :=
    fun ⟨i, hi⟩ => ⟨i, hi, Nat.le_of_lt_succ (h24 i hi)⟩
  have hout := search_effect line.gear line.Within
    (fun after => after.compares <= line.compares + 26
      ∧ ¬ ComparesAt line.gear maxRandomAddress ∧ exists i, (line.gear i).shortAddress = none)
    probe_within missing_within ⟨Unmoved.refl _, Nat.le_refl _⟩
    (fun left b hb hnone hmissing => ⟨(Nat.le_add_right _ left).trans hb.2, hnone, hmissing⟩)
    line rfl
  revert hout
  rcases findLowestRandomAddress.run line with ⟨result, after⟩
  cases result with
  | error e =>
    rintro ⟨hcount, hnone, i, hi⟩
    exact ⟨hcount.trans (by omega), fun h => absurd (htakes h) hnone,
      fun _ hall => absurd hi (hall i)⟩
  | ok found =>
    rintro ⟨⟨left, -, hcount⟩, hfound⟩
    refine ⟨((Nat.le_add_right _ left).trans hcount).trans (Nat.le_succ _), ?_⟩
    cases found with
    | none => exact ⟨fun h => absurd (htakes h) hfound.1, fun _ _ => rfl⟩
    | some least =>
      refine ⟨fun _ => ⟨least, hfound.1, rfl⟩, fun hnone => ?_⟩
      rcases hfound.1.attained with ⟨i, hi, -⟩
      exact absurd hi (hnone i)

/-- Two gear take part, and the answers to COMPARE that overlap are garbled. -/
theorem lower_of_two_found :
    (findLowestRandomAddress.run (⟨fun i => ⟨none, 7 + i.val, 0, 0, 0, .enabled⟩, 0,
      fun _ => true⟩ : SearchLine 2)).1 = .ok (some 7) := by
  have hfound := findLowestRandomAddress_least (⟨fun i => ⟨none, 7 + i.val, 0, 0, 0, .enabled⟩,
    0, fun _ => true⟩ : SearchLine 2) (by decide)
  rcases hfound.2.1 ⟨0, rfl⟩ with ⟨least, hleast, hrun⟩
  rcases hleast.attained with ⟨i, -, hi⟩
  have hle : least <= 7 := hleast.least 0 rfl
  have hleast7 : least = 7 := by
    change 7 + i.val = least at hi
    omega
  rw [hrun, hleast7]

end SearchLine
end Oxidali.Executor.Commissioning
