import Oxidali.Executor.Line102

/-!
# Commissioning the gear without an address

One call of `commission_next_unaddressed` on a reliable line either addresses
the gear it finds or changes no short address, and a sequence of calls keeps the
short addresses distinct.
-/

namespace Oxidali.Executor.Commissioning

open Dali Hoare Discovery ControlGear DaliApplicationController AddressingState StandardCommand List

/-! ## Operands and frames -/

theorem encodeShortAddress_eq {a : Nat} (ha : a <= maxShortAddress) :
    encodeShortAddress a = 2 * a + 1 := by
  have hall : forall b : Fin 64, encodeShortAddress b = 2 * b.val + 1 := by decide
  exact hall ⟨a, Nat.lt_succ_of_le ha⟩

theorem shortAddressOperand_encode {a : Nat} (ha : a <= maxShortAddress) :
    shortAddressOperand (encodeProgramShortAddress a) = some (some a) := by
  have hall : forall b : Fin 64, shortAddressOperand
      (encodeProgramShortAddress b) = some (some b.val) := by decide
  exact hall ⟨a, Nat.lt_succ_of_le ha⟩

variable (gear : ControlGear)

theorem hear_special (command : SpecialCommand) :
    hear gear command.toForwardFrame = special gear command := by
  rw [hear, SpecialCommand.ofFrame_toForwardFrame]

theorem reply_special (command : SpecialCommand) :
    reply gear command.toForwardFrame = specialReply gear command := by
  rw [reply, SpecialCommand.ofFrame_toForwardFrame]

theorem ofFrame_short {a : Nat} (ha : a <= maxShortAddress) (opcode : Nat) :
    SpecialCommand.ofFrame ⟨encodeShortAddress a, opcode⟩ = none := by
  have hlt : encodeShortAddress a < 0x80 := by
    rw [encodeShortAddress_eq ha]
    unfold maxShortAddress at ha
    omega
  generalize encodeShortAddress a = byte at hlt
  unfold SpecialCommand.ofFrame
  dsimp only
  split <;> first | rfl | exact absurd hlt (by decide)

theorem reply_present {gear : ControlGear} {a : Nat} (ha : a <= maxShortAddress)
    (hgear : forall b, gear.shortAddress = some b -> b <= maxShortAddress) :
    (exists byte, reply gear (queryControlGearPresent.toForwardFrame (.short a)) = some byte)
      <-> gear.shortAddress = some a := by
  have hframe : queryControlGearPresent.toForwardFrame (.short a)
      = ⟨encodeShortAddress a, 0x91⟩ := rfl
  have haccepts : accepts gear (encodeShortAddress a)
      <-> gear.shortAddress = some a := by
    have hcode := encodeShortAddress_eq ha
    have hnotall : ¬ encodeShortAddress a = 0xFF
        ∧ ¬ encodeShortAddress a = 0xFD := by
      unfold maxShortAddress at ha
      omega
    simp only [accepts, hnotall.1, hnotall.2, decide_false,
      Bool.false_and, Bool.false_or, beq_iff_eq]
    cases hshort : gear.shortAddress with
    | none => simp
    | some b =>
      have hb := encodeShortAddress_eq (hgear b hshort)
      rw [Option.map_some, Option.some_inj, Option.some_inj, hcode, hb]
      omega
  rw [hframe, reply, ofFrame_short ha, <- haccepts]
  cases accepts gear (encodeShortAddress a) <;> simp

theorem reply_missing :
    (exists byte, reply gear (queryMissingShortAddress.toForwardFrame .broadcast) = some byte)
      <-> gear.shortAddress = none := by
  have hframe : queryMissingShortAddress.toForwardFrame .broadcast = ⟨0xFF, 0x96⟩ := rfl
  have haccepts : accepts gear 0xFF := rfl
  have hnone : SpecialCommand.ofFrame ⟨0xFF, 0x96⟩ = none := rfl
  rw [hframe, reply, hnone]
  rw [haccepts]
  by_cases h : gear.shortAddress = none <;> simp [h]

theorem reply_compare :
    (exists byte, reply gear SpecialCommand.compare.toForwardFrame
      = some byte) <-> gear.compares := by
  rw [reply_special]
  cases hcompares : gear.compares <;> simp [specialReply, hcompares]

/-! ## Searching -/

section Searching

variable {C index : Type} [DaliApplicationController C]
  {gear : C -> Population102 index} {before : Population102 index}
  {fail : Population102 index -> Prop}

/-- The search on any line whose probe tells which gear compare and whose query tells
whether an address is missing.  `inv left` allows `left` more probes: there is one before
the bisection, one for each of its rounds and one behind it. -/
theorem search_effect {seen : Type} {view : C -> seen} {start : seen}
    (before : Population102 index) (inv : Nat -> seen -> Prop) (fail : seen -> Prop)
    (hprobe : forall left b mid, inv (left + 1) b -> mid <= maxRandomAddress ->
      Effect view b (probeSearchAddress mid)
        (fun yes after => inv left after ∧ (yes = true <-> ComparesAt before mid)) fail)
    (hmissing : forall left b, inv left b -> Effect view b anyUnaddressedGear
      (fun yes after => inv left after
        ∧ (yes = true <-> exists i, (before i).shortAddress = none)) fail)
    (hstart : inv (searchRounds + 2) start)
    (hthrow : forall left b, inv left b -> ¬ ComparesAt before maxRandomAddress ->
      (exists i, (before i).shortAddress = none) -> fail b) :
    Effect view start findLowestRandomAddress
      (fun found after => (exists left, inv left after)
        ∧ match found with
          | none => ¬ ComparesAt before maxRandomAddress ∧ forall i, (before i).shortAddress ≠ none
          | some random => Lowest before random ∧ random <= maxRandomAddress) fail := by
  refine Effect.bind (hprobe _ start maxRandomAddress hstart (Nat.le_refl _)) ?_
  rintro yes probed ⟨hprobed, hyes⟩
  cases yes with
  | false =>
    have hnone : ¬ ComparesAt before maxRandomAddress := fun h => absurd (hyes.mpr h) (by simp)
    refine Effect.bind (hmissing _ probed hprobed) ?_
    rintro missing after ⟨hafter, hsome⟩
    cases missing with
    | true => exact Effect.throw (hthrow _ after hafter hnone (hsome.mp rfl))
    | false =>
      refine Effect.pure ⟨⟨_, hafter⟩, hnone, ?_⟩
      intro i hi
      exact absurd (hsome.mpr ⟨i, hi⟩) Bool.false_ne_true
  | true =>
    have hcompares := hyes.mp rfl
    rcases exists_lowest hcompares with ⟨random, hlowest⟩
    have hmax := (hlowest.comparesAt_iff _).mp hcompares
    have hround : forall left b mid, inv (left + 1) b -> mid <= maxRandomAddress ->
        Effect view b (probeSearchAddress mid)
          (fun answer after => inv left after ∧ (answer = true <-> random <= mid)) fail := by
      intro left b mid hb hmid
      refine (hprobe left b mid hb hmid).mono ?_ (fun _ h => h)
      rintro answer after ⟨hafter, hanswer⟩
      exact ⟨hafter, hanswer.trans (hlowest.comparesAt_iff mid)⟩
    refine Effect.bind (bisect_effect view (fun left => inv (left + 1)) fail random
      maxRandomAddress (fun left b mid hb hmid => hround (left + 1) b mid hb (Nat.le_of_lt hmid))
      searchRounds searchRounds 0 maxRandomAddress probed (Nat.le_refl _) hprobed
      (Nat.zero_le _) hmax (Nat.le_refl _) (by decide)) ?_
    rintro found searched ⟨⟨left, hsearched⟩, rfl⟩
    refine Effect.bind (hround left searched found hsearched hmax) ?_
    rintro again after ⟨hafter, hagain⟩
    rw [hagain.mpr (Nat.le_refl _)]
    exact Effect.pure ⟨⟨left, hafter⟩, hlowest, hmax⟩

section

variable (line : ReliableLine C gear)
include line

theorem sendCommand_effect {command : DaliCommand} (hcommand : Addressing command)
    (hkept : fail before) (hheard : fail (before.hear command.toForwardFrame)) :
    Effect gear before (mapErr mapTransportError (sendCommand command))
      (fun response after => after = before.hear command.toForwardFrame
        ∧ (command.isQuery -> Replied (before.replies command.toForwardFrame) response)) fail := by
  refine mapErr_effect ?_
  intro c hc
  have hout := line.sendCommand command before hcommand c hc
  change Outcome _ _ ((sendCommandObserved command c).1.map
    Prod.fst) (sendCommandObserved command c).2
  change Outcome _ _ (sendCommandObserved command c).1 (sendCommandObserved command c).2 at hout
  revert hout
  cases (sendCommandObserved command c).1 with
  | ok out => exact id
  | error e =>
    rintro (h | h)
    · exact h.symm ▸ hkept
    · exact h.symm ▸ hheard

theorem sendSpecial_effect {command : SpecialCommand} (hcommand : Addressing (.special command))
    (hkept : fail before) (hheard : fail fun i => special (before i) command) :
    Effect gear before (sendSpecial command)
      (fun _ after => after = fun i => special (before i) command) fail := by
  have hear_eq : before.hear (DaliCommand.special command).toForwardFrame
      = fun i => special (before i) command := by
    funext i
    exact hear_special (before i) command
  refine Effect.bind (sendCommand_effect line hcommand hkept (hear_eq ▸ hheard)) ?_
  rintro response _ ⟨rfl, -⟩
  exact Effect.pure hear_eq

theorem setSearchAddress_effect (address : Nat)
    (hfail : forall after, Unmoved before after -> fail after) :
    Effect gear before (setSearchAddress address)
      (fun _ after => after = fun i => (before i).aim address) fail := by
  have hH : Unmoved before fun i => (before i).setSearchH (address / 65536 % 256) :=
    fun i => setSearchH_same _ _
  have hM : Unmoved before fun i =>
      ((before i).setSearchH (address / 65536 % 256)).setSearchM (address / 256 % 256) :=
    hH.trans fun i => setSearchM_same _ _
  have hL : Unmoved before fun i => (before i).aim address :=
    fun i => aim_same _ _
  refine Effect.bind (sendSpecial_effect line (.searchAddrH _)
    (hfail _ (Unmoved.refl _)) (hfail _ hH)) ?_
  rintro _ _ rfl
  refine Effect.bind (sendSpecial_effect line (.searchAddrM _) (hfail _ hH) (hfail _ hM)) ?_
  rintro _ _ rfl
  exact sendSpecial_effect line (.searchAddrL _) (hfail _ hM) (hfail _ hL)

theorem probeSearchAddress_effect {address : Nat} (haddress : address < 2 ^ 24)
    (hfail : forall after, Unmoved before after -> fail after) :
    Effect gear before (probeSearchAddress address)
      (fun yes after => Unmoved before after
        ∧ (yes = true <-> ComparesAt before address)) fail := by
  have haimed : Unmoved before fun i => (before i).aim address :=
    fun i => aim_same _ _
  refine (line.transactionExempt _).effect ?_
  refine Effect.bind (setSearchAddress_effect line address hfail) ?_
  rintro _ _ rfl
  refine Effect.bind (sendCommand_effect line .compare (hfail _ haimed) (hfail _ haimed)) ?_
  rintro response _ ⟨rfl, hreplied⟩
  refine Effect.pure ⟨haimed, ?_⟩
  rw [(hreplied rfl).isYes_iff]
  refine exists_congr fun i => ?_
  exact (reply_compare _).trans (aim_compares_iff haddress)

theorem anyUnaddressedGear_effect (hkept : fail before) :
    Effect gear before anyUnaddressedGear
      (fun yes after => after = before
        ∧ (yes = true <-> exists i, (before i).shortAddress = none)) fail := by
  have hheard : before.hear
      (DaliCommand.standard .broadcast .queryMissingShortAddress).toForwardFrame = before := rfl
  refine Effect.bind (sendCommand_effect line .missing hkept (hheard.symm ▸ hkept)) ?_
  rintro response _ ⟨rfl, hreplied⟩
  refine Effect.pure ⟨hheard, ?_⟩
  rw [(hreplied rfl).isYes_iff]
  exact exists_congr fun i => reply_missing (before i)

theorem findLowestRandomAddress_effect (hfail : forall after, Unmoved before after -> fail after) :
    Effect gear before findLowestRandomAddress
      (fun found after => Unmoved before after
        ∧ match found with
          | none => forall i, (before i).shortAddress ≠ none
          | some random => Lowest before random ∧ random <= maxRandomAddress) fail := by
  refine (search_effect before (fun _ => Unmoved before) fail ?_ ?_ (Unmoved.refl _)
    fun _ b hb _ _ => hfail b hb).mono ?_ (fun _ h => h)
  · intro _ b mid hb hmid
    refine (probeSearchAddress_effect line (Nat.lt_succ_of_le hmid)
      fun after h => hfail after (hb.trans h)).mono ?_ (fun _ h => h)
    rintro answer after ⟨hafter, hanswer⟩
    exact ⟨hb.trans hafter, hanswer.trans (hb.comparesAt_iff mid)⟩
  · intro _ b hb
    refine (anyUnaddressedGear_effect line (hfail b hb)).mono ?_ (fun _ h => h)
    rintro missing _ ⟨rfl, hmissing⟩
    refine ⟨hb, hmissing.trans (exists_congr fun i => ?_)⟩
    rw [(hb i).shortAddress]
  · rintro found after ⟨⟨-, hafter⟩, hfound⟩
    refine ⟨hafter, ?_⟩
    cases found with
    | none => exact hfound.2
    | some random => exact hfound

end

end Searching

/-! ## The address to give -/

section Choosing

variable {C index : Type} [DaliApplicationController C]
  {gear : C -> Population102 index} {before : Population102 index}
  {fail : Population102 index -> Prop}

theorem mask_bit (used short : Nat) : used &&& (1 <<< short) ≠ 0 <-> used.testBit short := by
  rw [Nat.one_shiftLeft, Nat.and_two_pow]
  cases used.testBit short <;> simp

theorem usedMask_testBit (usedShortAddresses : List Nat) {short : Nat}
    (hshort : short <= maxShortAddress) :
    (usedMask usedShortAddresses).testBit short = true <-> short ∈ usedShortAddresses := by
  have hfold : forall acc : Nat, (usedShortAddresses.foldl
      (fun used a => if a <= maxShortAddress then used ||| (1 <<< a) else used)
      acc).testBit short = true <-> acc.testBit short = true ∨ short ∈ usedShortAddresses := by
    induction usedShortAddresses with
    | nil => simp
    | cons a rest ih =>
      intro acc
      rw [foldl_cons, ih, mem_cons]
      by_cases ha : a <= maxShortAddress
      · rw [if_pos ha, Nat.testBit_or, Nat.one_shiftLeft, Nat.testBit_two_pow,
          Bool.or_eq_true, decide_eq_true_iff, or_assoc, @eq_comm _ a short]
      · have hne : short ≠ a := by
          rintro rfl
          exact ha hshort
        rw [if_neg ha]
        simp [hne]
  rw [usedMask, hfold]
  simp

theorem firstUnoccupied_effect (line : ReliableLine C gear) (hkept : fail before)
    (hgear : forall i b, (before i).shortAddress = some b -> b <= maxShortAddress) (used : Nat)
    (candidates : List Nat) : (forall a, a ∈ candidates -> a <= maxShortAddress) ->
    Effect gear before (firstUnoccupied used candidates)
      (fun found after => after = before ∧ forall a, found = some a -> a <= maxShortAddress
          ∧ ¬ used.testBit a ∧ forall i, (before i).shortAddress ≠ some a)
      fail := by
  induction candidates with
  | nil =>
    intro _
    exact Effect.pure ⟨rfl, fun a h => by cases h⟩
  | cons short rest ih =>
    intro hle
    have hshort := hle short (mem_cons_self ..)
    have hrest := ih fun a ha => hle a (mem_cons_of_mem _ ha)
    unfold firstUnoccupied
    by_cases hbit : used &&& (1 <<< short) ≠ 0
    · rw [if_pos hbit]
      exact hrest
    · rw [if_neg hbit]
      have hheard : before.hear (DaliCommand.standard (.short short)
          .queryControlGearPresent).toForwardFrame = before := by
        funext i
        exact (by rw [hear, ofFrame_short hshort] :
          hear (before i) ⟨encodeShortAddress short, 0x91⟩ = before i)
      refine Effect.bind (sendCommand_effect line (.present short hshort) hkept
        (hheard.symm ▸ hkept)) ?_
      rintro response _ ⟨rfl, hreplied⟩
      rw [hheard]
      have hyes : response.isYes = true <->
          exists i, (before i).shortAddress = some short := by
        rw [(hreplied rfl).isYes_iff]
        exact exists_congr fun i => reply_present hshort (hgear i)
      cases hocc : response.isYes with
      | true =>
        exact hrest
      | false =>
        refine Effect.pure ⟨rfl, ?_⟩
        intro a ha
        cases ha
        refine ⟨hshort, fun h => hbit ((mask_bit used short).mpr h), ?_⟩
        intro i hi
        rw [hyes.mpr ⟨i, hi⟩] at hocc
        cases hocc

theorem nextFreeShortAddress_effect (line : ReliableLine C gear) (hkept : fail before)
    (hgear : forall i b, (before i).shortAddress = some b -> b <= maxShortAddress)
    (usedShortAddresses : List Nat) :
    Effect gear before (nextFreeShortAddress usedShortAddresses)
      (fun found after => after = before ∧ forall a, found = some a -> a <= maxShortAddress
          ∧ ¬ a ∈ usedShortAddresses ∧ forall i, (before i).shortAddress ≠ some a)
      fail := by
  refine (firstUnoccupied_effect line hkept hgear _ _ fun a ha =>
    Nat.le_of_lt_succ (mem_range.mp ha)).mono ?_ (fun _ h => h)
  rintro found after ⟨hafter, hfound⟩
  refine ⟨hafter, ?_⟩
  intro a ha
  rcases hfound a ha with ⟨hle, hbit, hfree⟩
  exact ⟨hle, fun hmem => hbit ((usedMask_testBit _ hle).mpr hmem), hfree⟩

end Choosing

/-! ## Addressing the gear found -/

section Addressed

variable {C index : Type} [DaliApplicationController C]
  {gear : C -> Population102 index} {start before after : Population102 index}

/-- A line during commissioning: the random addresses are distinct, so are the
short addresses, and the gear without a short address are those in the
search. -/
structure Searchable (gear : Population102 index) : Prop where
  random_distinct : forall i j, (gear i).randomAddress = (gear j).randomAddress -> i = j
  shortAddress_le : forall i a, (gear i).shortAddress = some a -> a <= maxShortAddress
  short_distinct : forall i j a, (gear i).shortAddress = some a ->
    (gear j).shortAddress = some a -> i = j
  enabled_iff : forall i, (gear i).initialisation = .enabled <-> (gear i).shortAddress = none

/-- Every gear whose short address has changed had none, and has got one that is
not in the list and that no other gear holds. -/
def FreshlyAddressed (used : List Nat) (start after : Population102 index) : Prop :=
  forall i, (after i).shortAddress ≠ (start i).shortAddress -> (start i).shortAddress = none
      ∧ exists a, (after i).shortAddress = some a ∧ ¬ a ∈ used
        ∧ forall j, j ≠ i -> (after j).shortAddress ≠ some a

theorem freshlyAddressed_of_unmoved (used : List Nat) (h : Unmoved start after) :
    FreshlyAddressed used start after := by
  intro i
  exact absurd (h i).shortAddress

theorem FreshlyAddressed.congr {used : List Nat} {other : Population102 index}
    (h : FreshlyAddressed used start after)
    (hsame : forall i, (other i).shortAddress = (after i).shortAddress) :
    FreshlyAddressed used start other := by
  intro i hi
  simp only [hsame] at hi ⊢
  exact h i hi

theorem freshlyAddressed_of_programmed {used : List Nat} {i : index} {a : Nat}
    (h : Programmed i a start after) (hnone : (start i).shortAddress = none) (hused : ¬ a ∈ used)
    (hfree : forall j, (start j).shortAddress ≠ some a) : FreshlyAddressed used start after := by
  intro j hj
  have hji : j = i := by
    by_contra hne
    exact hj (h.others j hne).shortAddress
  subst hji
  refine ⟨hnone, a, h.shortAddress, hused, ?_⟩
  intro k hk
  rw [(h.others k hk).shortAddress]
  exact hfree k

theorem searchable_of_programmed {i : index} {a : Nat} (h : Programmed i a start after)
    (hstart : Searchable start) (ha : a <= maxShortAddress)
    (hfree : forall j, (start j).shortAddress ≠ some a) : Searchable after := by
  have hrandom : forall j, (after j).randomAddress = (start j).randomAddress := by
    intro j
    by_cases hj : j = i
    · subst hj
      exact h.randomAddress
    · exact (h.others j hj).randomAddress
  -- the address of a gear other than `i` is an old one, hence not `a`
  have hother : forall j, j ≠ i -> (after j).shortAddress ≠ some a := by
    intro j hj
    rw [(h.others j hj).shortAddress]
    exact hfree j
  constructor
  · intro j k hjk
    rw [hrandom, hrandom] at hjk
    exact hstart.random_distinct j k hjk
  · intro j b hb
    by_cases hj : j = i
    · subst hj
      rw [h.shortAddress] at hb
      cases hb
      exact ha
    · rw [(h.others j hj).shortAddress] at hb
      exact hstart.shortAddress_le j b hb
  · intro j k b hb hb'
    by_cases hj : j = i
    · by_cases hk : k = i
      · exact hj.trans hk.symm
      · subst hj
        rw [h.shortAddress] at hb
        cases hb
        exact absurd hb' (hother k hk)
    · by_cases hk : k = i
      · subst hk
        rw [h.shortAddress] at hb'
        cases hb'
        exact absurd hb (hother j hj)
      · rw [(h.others j hj).shortAddress] at hb
        rw [(h.others k hk).shortAddress] at hb'
        exact hstart.short_distinct j k b hb hb'
  · intro j
    by_cases hj : j = i
    · subst hj
      simp [h.withdrawn, h.shortAddress]
    · rw [(h.others j hj).initialisation, (h.others j hj).shortAddress]
      exact hstart.enabled_iff j

end Addressed

/-! ## One call -/

section Call

variable {C index : Type} [DaliApplicationController C]
  {gear : C -> Population102 index} {start before : Population102 index}

theorem programmed_of_unmoved {after : Population102 index} {i : index} {a : Nat}
    (hunmoved : Unmoved start before) (h : Programmed i a before after) :
    Programmed i a start after :=
  ⟨h.shortAddress, h.randomAddress.trans (hunmoved i).randomAddress, h.withdrawn,
    fun j hj => (hunmoved j).trans (h.others j hj)⟩

theorem withdraw_shortAddress (unit : AddressingState) :
    unit.withdraw.shortAddress = unit.shortAddress := by
  unfold withdraw
  split <;> rfl

section

variable (line : ReliableLine C gear)
include line

theorem programFoundGear_effect {i : index} {a : Nat} {used : List Nat} (hstart : Searchable start)
    (hunmoved : Unmoved start before) (henabled : (start i).initialisation = .enabled)
    (hrandom : (start i).randomAddress < 2 ^ 24) (ha : a <= maxShortAddress) (hused : ¬ a ∈ used)
    (hfree : forall j, (start j).shortAddress ≠ some a) :
    Effect gear before (transactionExempt (programFoundGear (start i).randomAddress a))
      (fun _ after => Programmed i a start after) (FreshlyAddressed used start) := by
  have hnone := (hstart.enabled_iff i).mp henabled
  have hoperand := shortAddressOperand_encode ha
  have hinit : (before i).initialising := by
    rw [(hunmoved i).initialising]
    exact initialising_of_enabled henabled
  have honly : forall j, (before j).initialising ->
      (before j).randomAddress = (start i).randomAddress -> j = i := by
    intro j _ hj
    rw [(hunmoved j).randomAddress] at hj
    exact hstart.random_distinct j i hj
  have hassigned : Programmed i a start
      fun j => ((before j).aim (start i).randomAddress).assign a :=
    programmed_of_unmoved hunmoved (programmed_of_assign hrandom
      (hunmoved i).randomAddress hinit honly fun _ => rfl)
  have hdone := freshlyAddressed_of_programmed hassigned hnone hused hfree
  -- the gear is addressed from the moment PROGRAM SHORT ADDRESS is heard
  have hprogrammed : FreshlyAddressed used start fun j =>
      ((before j).aim (start i).randomAddress).program (some a) :=
    hdone.congr fun j => (withdraw_shortAddress _).symm
  have hsearch : forall after, Unmoved before after ->
      FreshlyAddressed used start after :=
    fun after h => freshlyAddressed_of_unmoved used (hunmoved.trans h)
  have hprogram : (fun j => special ((before j).aim (start i).randomAddress)
      (.programShortAddress (encodeProgramShortAddress a)))
        = fun j => ((before j).aim (start i).randomAddress).program (some a) := by
    funext j
    rw [special, hoperand]
  refine (line.transactionExempt _).effect ?_
  refine Effect.bind (setSearchAddress_effect line _ hsearch) ?_
  rintro _ _ rfl
  refine Effect.bind (sendSpecial_effect line (.program _)
    (hsearch _ fun j => aim_same _ _) (hprogram.symm ▸ hprogrammed)) ?_
  rintro _ _ rfl
  rw [hprogram]
  refine Effect.bind (sendCommand_effect line (.verify _) hprogrammed hprogrammed) ?_
  rintro response _ ⟨rfl, -⟩
  cases response.isYes with
  | false => exact Effect.throw hprogrammed
  | true =>
    refine (sendSpecial_effect line .withdraw hprogrammed hdone).mono ?_ (fun _ h => h)
    rintro _ _ rfl
    exact hassigned

theorem detectDevice_effect (shortAddress : Nat) :
    Effect gear before (detectDevice shortAddress)
      (fun found after => after = before
        ∧ forall device, found = some device -> device.shortAddress = shortAddress)
      (fun after => after = before) := by
  refine Effect.bind (Quiet.ite (Quiet.throw _) (Quiet.pure _) before) ?_
  rintro address _ rfl
  refine Effect.bind (probeDeviceIdentity_quiet line address _ _) ?_
  rintro identity _ rfl
  cases identity.detected with
  | false => exact Effect.pure ⟨rfl, fun device h => by cases h⟩
  | true =>
    refine Effect.pure ⟨rfl, ?_⟩
    intro device h
    cases h
    rfl

theorem detectAttempts_effect (shortAddress left : Nat) :
    forall last, Effect gear before (detectAttempts shortAddress left last)
      (fun device after => after = before ∧ device.shortAddress = shortAddress)
      (fun after => after = before) := by
  induction left with
  | zero => exact fun _ => Effect.throw rfl
  | succ left ih =>
    intro last
    refine Effect.bind (resultOf_effect (detectDevice_effect line shortAddress)) ?_
    intro result after hresult
    rcases result with error | found
    · cases hresult
      by_cases hheld : error.isHeld = true
      · simp only [hheld, if_true]
        exact Effect.throw rfl
      · simp only [hheld]
        exact ih _
    · rcases hresult with ⟨rfl, hfound⟩
      cases found with
      | none => exact ih last
      | some device => exact Effect.pure ⟨rfl, hfound device rfl⟩

theorem commissionNextUnaddressed_effect (hstart : Searchable start) (used : List Nat) :
    Effect gear start (commissionNextUnaddressed used)
      (fun result after => match result with
        | none => Unmoved start after ∧ forall i, (start i).shortAddress ≠ none
        | some device => exists i, (start i).shortAddress = none
            ∧ Programmed i device.shortAddress start after
            ∧ device.shortAddress <= maxShortAddress
            ∧ ¬ device.shortAddress ∈ used
            ∧ forall j, (start j).shortAddress ≠ some device.shortAddress)
      (FreshlyAddressed used start) := by
  have hfresh : forall after, Unmoved start after -> FreshlyAddressed used start after :=
    fun after h => freshlyAddressed_of_unmoved used h
  refine mapErr_effect ?_
  refine Effect.bind (mapErr_effect (findLowestRandomAddress_effect line hfresh)) ?_
  rintro found searched ⟨hunmoved, hfound⟩
  cases found with
  | none => exact Effect.pure ⟨hunmoved, hfound⟩
  | some random =>
    rcases hfound with ⟨hlowest, hmax⟩
    rcases hlowest.attained with ⟨i, henabled, rfl⟩
    have hrandom : (start i).randomAddress < 2 ^ 24 :=
      Nat.lt_of_le_of_lt hmax (by decide)
    have hle : forall j b, (searched j).shortAddress = some b ->
        b <= maxShortAddress := by
      intro j b hb
      rw [(hunmoved j).shortAddress] at hb
      exact hstart.shortAddress_le j b hb
    refine Effect.bind (mapErr_effect (nextFreeShortAddress_effect line
      (hfresh _ hunmoved) hle used)) ?_
    rintro chosen _ ⟨rfl, hchosen⟩
    cases chosen with
    | none => exact Effect.throw (hfresh _ hunmoved)
    | some a =>
      rcases hchosen a rfl with ⟨ha, hused, hunheld⟩
      have hfree : forall j, (start j).shortAddress ≠ some a := by
        intro j
        rw [<- (hunmoved j).shortAddress]
        exact hunheld j
      have hnone := (hstart.enabled_iff i).mp henabled
      refine Effect.bind (mapErr_effect (programFoundGear_effect line hstart
        hunmoved henabled hrandom ha hused hfree)) ?_
      intro _ after hprogrammed
      have hdone := freshlyAddressed_of_programmed hprogrammed hnone hused hfree
      refine Effect.bind (mapErr_effect
        ((detectAttempts_effect line a _ _).mono (fun _ _ h => h) ?_)) ?_
      · rintro _ rfl
        exact hdone
      · rintro device _ ⟨rfl, rfl⟩
        exact Effect.pure ⟨i, hnone, hprogrammed, ha, hused, hfree⟩

end

end Call
end Oxidali.Executor.Commissioning
