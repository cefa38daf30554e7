import Oxidali.Executor.Line103

/-!
# What commissioning does to the devices

Each program of the executor is described by its effect on the population: the
search moves only the search address, programming changes the device found, and
the loop hands out consecutive addresses to the devices in the order in which
the search finds them.
-/

namespace Oxidali.Executor.Dev103

open Dali Hoare ControlDevice Special103Command

/-! ## Single frames -/

section Frames

variable (device : ControlDevice) (twice : Bool)

theorem hear_special (command : Special103Command) (data : Nat) :
    device.hear twice (command.frame data) = device.special twice command data := by
  simp [hear, frame, ForwardFrame24.special, fromSelector_selector]

theorem reply_special (command : Special103Command) (data : Nat) :
    device.reply (command.frame data) = device.specialReply command data := by
  simp [reply, frame, ForwardFrame24.special, fromSelector_selector]

theorem hear_device (command : Device103Command) {address : Device103Address}
    (haddress : address.encode ≠ (Device103Address.special 0).encode) :
    device.hear twice (command.frame address) = device := by
  simp [hear, Device103Command.frame, ForwardFrame24.command, haddress]

theorem short_encode_ne {a : Nat} (ha : a <= maxShortAddress) :
    (Device103Address.short a).encode ≠ (Device103Address.special 0).encode := by
  intro h
  have hdecoded := Device103Address.decode_encode_short ha
  rw [h] at hdecoded
  exact absurd hdecoded (by simp [Device103Address.decode, Device103Address.encode])

theorem reply_instances {a : Nat} (ha : a <= maxShortAddress) :
    device.reply (Device103Command.queryNumberOfInstances.frame (.short a)) =
      if device.shortAddress = some a then some device.instances else none := by
  have hne := short_encode_ne ha
  have haccepts : device.accepts (Device103Address.short a).encode
      = (device.shortAddress == some a) := by
    simp [accepts, Device103Address.decode_encode_short ha]
  simp only [reply, Device103Command.frame, ForwardFrame24.command]
  rw [if_neg hne, haccepts]
  by_cases h : device.shortAddress = some a <;> simp [h]

end Frames

/-! ## Searching -/

section Searching

variable {C index : Type} [DaliApplicationController C]
  {bus : C -> Population103 index} {before : Population103 index}

theorem setSearchAddress_effect (line : ReliableLine C bus) (address : Nat) :
    Effect bus before (setSearchAddress address)
      (fun _ after => forall i,
        (after i).toAddressingState = (before i).toAddressingState.aim address)
      (fun _ => True) := by
  refine Effect.bind (send_effect line (.special _ _) false) ?_
  rintro _ _ ⟨rfl, -⟩
  refine Effect.bind (send_effect line (.special _ _) false) ?_
  rintro _ _ ⟨rfl, -⟩
  refine Effect.bind (send_effect line (.special _ _) false) ?_
  rintro _ _ ⟨rfl, -⟩
  refine Effect.pure ?_
  intro i
  rfl

theorem compare_reply_iff (device : ControlDevice) :
    (exists byte, device.reply (compare.frame 0x00) = some byte) <->
      device.compares := by
  rw [reply_special]
  cases hcompares : device.compares <;> simp [specialReply, hcompares]

theorem probeSearchAddress_effect (line : ReliableLine C bus) {address : Nat}
    (haddress : address < 2 ^ 24) :
    Effect bus before (probeSearchAddress address)
      (fun yes after => Unmoved before.states after.states
        ∧ (yes = true <-> ComparesAt before.states address))
      (fun _ => True) := by
  refine unitExempt_effect line ?_
  refine Effect.bind (setSearchAddress_effect line address) ?_
  intro _ aimed haimed
  refine Effect.bind (send_effect line (.special _ _) true) ?_
  rintro response _ ⟨rfl, hreplied⟩
  refine Effect.pure ⟨?_, ?_⟩
  · intro i
    simp only [Population103.states, Population103.hear, hear_special, special, search, haimed i]
    exact AddressingState.aim_same _ _
  · rw [(hreplied rfl).isYes_iff]
    refine exists_congr fun i => ?_
    rw [Population103.replies, compare_reply_iff, haimed i,
      AddressingState.aim_compares_iff haddress]

/-- The random addresses of the devices in the search are in its range. -/
def InRange (units : index -> AddressingState) : Prop :=
  forall i, (units i).initialisation = .enabled -> (units i).randomAddress <= randomAddressMax

theorem findLowestRandomAddress_effect (line : ReliableLine C bus)
    (hrange : InRange before.states) :
    Effect bus before findLowestRandomAddress
      (fun found after => Unmoved before.states after.states
        ∧ match found with
          | none => forall i, (before.states i).initialisation ≠ .enabled
          | some random => Lowest before.states random)
      (fun _ => True) := by
  refine Effect.bind (probeSearchAddress_effect line (by decide)) ?_
  rintro yes probed ⟨hunmoved, hyes⟩
  cases yes with
  | false =>
    refine Effect.pure ⟨hunmoved, ?_⟩
    intro i henabled
    exact absurd (hyes.mpr ⟨i, henabled, hrange i henabled⟩) (by simp)
  | true =>
    have hcompares := hyes.mp rfl
    rcases exists_lowest hcompares with ⟨random, hlowest⟩
    have hmax := (hlowest.comparesAt_iff _).mp hcompares
    have hprobe : forall b mid, Unmoved before.states b.states -> mid < randomAddressMax ->
        Effect bus b (probeSearchAddress mid)
          (fun answer after => Unmoved before.states after.states
            ∧ (answer = true <-> random <= mid)) (fun _ => True) := by
      intro b mid hb hmid
      have hmid24 : mid < 2 ^ 24 := hmid.trans (by decide)
      refine (probeSearchAddress_effect line hmid24).mono ?_ (fun _ h => h)
      rintro answer after ⟨hafter, hanswer⟩
      refine ⟨hb.trans hafter, ?_⟩
      rw [hanswer, hb.comparesAt_iff, hlowest.comparesAt_iff]
    have hsearch := bisect_effect bus (fun _ b => Unmoved before.states b.states)
      (fun _ => True) random randomAddressMax (fun _ => hprobe) searchRounds searchRounds
      0 randomAddressMax probed (Nat.le_refl _) hunmoved (Nat.zero_le _) hmax
      (Nat.le_refl _) (by decide)
    refine Effect.bind hsearch ?_
    rintro found after ⟨⟨-, hafter⟩, rfl⟩
    exact Effect.pure ⟨hafter, hlowest⟩

end Searching

/-! ## Programming -/

section Programming

variable {C index : Type} [DaliApplicationController C]
  {bus : C -> Population103 index} {before : Population103 index}

theorem programShortAddress_effect (line : ReliableLine C bus) {address : Nat}
    (haddress : address <= maxShortAddress) :
    Effect bus before (programShortAddress address)
      (fun _ after => forall i, (after i).toAddressingState
        = (before i).toAddressingState.assign address)
      (fun _ => True) := by
  have hoperand : ShortAddressOperand.new address = some address := if_pos haddress
  have hmask : address ≠ 0xFF := by
    unfold maxShortAddress at haddress
    omega
  have hdecoded : shortAddressOperand address = some (some address) := by
    rw [shortAddressOperand, if_neg hmask, if_pos haddress]
  unfold programShortAddress
  rw [hoperand]
  refine Effect.bind (send_effect line (.special _ _) false) ?_
  rintro _ _ ⟨rfl, -⟩
  refine Effect.bind (send_effect line (.special _ _) true) ?_
  rintro response _ ⟨rfl, -⟩
  cases hyes : response.isYes with
  | false =>
    exact Effect.throw trivial
  | true =>
    refine Effect.bind (send_effect line (.special _ _) false) ?_
    rintro _ _ ⟨rfl, -⟩
    refine Effect.pure ?_
    intro i
    simp only [Population103.hear, hear_special, special, search, hdecoded]
    rfl

theorem programFound_effect (line : ReliableLine C bus) {i : index} {random address : Nat}
    (haddress : address <= maxShortAddress) (hrandom : random < 2 ^ 24)
    (hfound : (before i).randomAddress = random) (hinit : (before i).initialising)
    (honly : forall j, (before j).initialising -> (before j).randomAddress = random -> j = i) :
    Effect bus before
      (unitExempt do
        setSearchAddress random
        programShortAddress address)
      (fun _ after => Programmed i address before.states after.states)
      (fun _ => True) := by
  refine unitExempt_effect line ?_
  refine Effect.bind (setSearchAddress_effect line random) ?_
  intro _ aimed haimed
  refine (programShortAddress_effect line haddress).mono ?_ (fun _ h => h)
  intro _ after hafter
  refine programmed_of_assign hrandom hfound hinit honly ?_
  intro j
  exact (hafter j).trans (by rw [haimed j])

end Programming
end Oxidali.Executor.Dev103
