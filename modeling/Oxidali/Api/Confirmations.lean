import Mathlib

/-!
# Waiting for confirmations

A request takes a free slot and waits at the waiter of that slot, under a generation
that every registration there moves on.  The bridge frees the slot, formats the body
and only then delivers it.
-/

namespace Oxidali.Api

open Function List

structure ConfirmationEnvelope where
  correlationId : Nat
  content : String

abbrev ReplyFormatter := ConfirmationEnvelope -> Option String

def formatterFailedBody : String :=
  "\x7b\"success\":false,\"error\":\"formatter_failed\",\"error_code\":\"formatter_failed\"\x7d"

structure Slot where
  correlationId : Nat
  replyFormatter : ReplyFormatter
  generation : BitVec 32

def Slot.body (slot : Slot) (ce : ConfirmationEnvelope) : String :=
  (slot.replyFormatter ce).getD formatterFailedBody

structure WaiterState where
  generation : BitVec 32 := 0
  body : Option String := none

variable (capacity : Nat)

@[ext, grind ext]
structure ConfirmationHandle where
  waiter : Fin capacity
  generation : BitVec 32
  deriving DecidableEq

/-- The slots, the waiters, and the body that the bridge has yet to deliver. -/
structure PendingConfirmationSlots where
  slots : Fin capacity -> Option Slot := fun _ => none
  waiters : Fin capacity -> WaiterState := fun _ => {}
  delivering : Option (ConfirmationHandle capacity × String) := none

inductive Event where
  | registered (waiter : Fin capacity) (slot : Slot)
  | answered (waiter : Fin capacity) (slot : Slot) (ce : ConfirmationEnvelope)
  | returned (handle : ConfirmationHandle capacity) (body : String)

abbrev Events := List (Event capacity)

/-- What a thread does under a lock.  A registration keeps the lock of the slots until
its slot is filled; `receive` is the end of `recv_timeout`, or `try_recv`. -/
inductive Step where
  | register (correlationId : Nat) (formatter : ReplyFormatter)
  | cancel (correlationId : Nat)
  | dispatch (ce : ConfirmationEnvelope)
  | deliver
  | receive (handle : ConfirmationHandle capacity)

variable {capacity}

def Step.delivers : Step capacity -> Bool
  | .deliver => true
  | _ => false

namespace PendingConfirmationSlots

variable (state : PendingConfirmationSlots capacity)

def holder (correlationId : Nat) : Option (Fin capacity × Slot) :=
  (finRange capacity).findSome? fun idx => (state.slots idx).bind fun slot =>
    if slot.correlationId = correlationId then some (idx, slot) else none

def tryRegister (correlationId : Nat) (formatter : ReplyFormatter) :
    Option (Fin capacity × Slot) :=
  match state.holder correlationId with
  | some _ => none
  | none => ((finRange capacity).find? fun idx => (state.slots idx).isNone).map fun idx =>
    (idx, ⟨correlationId, formatter, (state.waiters idx).generation + 1⟩)

def take (handle : ConfirmationHandle capacity) : Option String :=
  if (state.waiters handle.waiter).generation = handle.generation then
    (state.waiters handle.waiter).body
  else none

/-- The one bridge takes a confirmation only when it has delivered the one before. -/
def step : Step capacity -> PendingConfirmationSlots capacity × Events capacity
  | .register correlationId formatter =>
    match state.tryRegister correlationId formatter with
    | some (idx, slot) => ({ state with
        slots := update state.slots idx (some slot)
        waiters := update state.waiters idx ⟨slot.generation, none⟩ }, [.registered idx slot])
    | none => (state, [])
  | .cancel correlationId =>
    match state.holder correlationId with
    | some (idx, _) => ({ state with slots := update state.slots idx none }, [])
    | none => (state, [])
  | .dispatch ce =>
    match state.delivering, state.holder ce.correlationId with
    | none, some (idx, slot) => ({ state with
        slots := update state.slots idx none
        delivering := some (⟨idx, slot.generation⟩, slot.body ce) }, [.answered idx slot ce])
    | _, _ => (state, [])
  | .deliver =>
    match state.delivering with
    | some (handle, body) =>
      if (state.waiters handle.waiter).generation = handle.generation then
        ({ state with
          waiters := update state.waiters handle.waiter ⟨handle.generation, some body⟩
          delivering := none }, [])
      else ({ state with delivering := none }, [])
    | none => (state, [])
  | .receive handle =>
    match state.take handle with
    | some body => ({ state with
        waiters := update state.waiters handle.waiter ⟨handle.generation, none⟩ },
        [.returned handle body])
    | none => (state, [])

/-- The last state of a run, and its events, the latest first. -/
def run (state : PendingConfirmationSlots capacity) :
    List (Step capacity) -> PendingConfirmationSlots capacity × Events capacity
  | [] => (state, [])
  | move :: rest =>
    let last := run (state.step move).1 rest
    (last.1, last.2 ++ (state.step move).2)

variable {state} {past : Events capacity}

/-- What every step keeps holds behind every run. -/
theorem run_keeps {motive : PendingConfirmationSlots capacity -> Events capacity -> Prop}
    (hstep : forall state past move, motive state past ->
      motive (state.step move).1 ((state.step move).2 ++ past))
    (h : motive state past) (moves : List (Step capacity)) :
    motive (state.run moves).1 ((state.run moves).2 ++ past) := by
  induction moves generalizing state past with
  | nil => exact h
  | cons move rest ih =>
    have hlast := ih (hstep state past move h)
    rwa [<- append_assoc] at hlast

variable {correlationId : Nat} {idx : Fin capacity} {slot : Slot}

theorem holder_none (h : state.holder correlationId = none) (hslot : state.slots idx = some slot) :
    slot.correlationId ≠ correlationId := by
  have hnone := findSome?_eq_none_iff.1 h idx (mem_finRange idx)
  simpa [hslot] using hnone

theorem holder_some (h : state.holder correlationId = some (idx, slot)) :
    state.slots idx = some slot ∧ slot.correlationId = correlationId := by
  obtain ⟨place, _, hplace⟩ := exists_of_findSome?_eq_some h
  obtain ⟨found, hfound, hsame⟩ := Option.bind_eq_some_iff.1 hplace
  split at hsame
  · cases hsame
    exact ⟨hfound, ‹_›⟩
  · cases hsame

theorem tryRegister_some {formatter : ReplyFormatter}
    (h : state.tryRegister correlationId formatter = some (idx, slot)) :
    state.slots idx = none ∧ slot.generation = (state.waiters idx).generation + 1 ∧
      forall other held, state.slots other = some held ->
        held.correlationId ≠ slot.correlationId := by
  unfold tryRegister at h
  split at h
  · cases h
  next hnone =>
    obtain ⟨place, hplace, hsame⟩ := Option.map_eq_some_iff.1 h
    cases hsame
    exact ⟨by simpa using find?_some hplace, rfl, fun _ _ hheld => holder_none hnone hheld⟩

/-! ## Where a body comes from -/

variable (past state)

/-- The body was made of a confirmation with the correlation id of the slot, while the
slot was taken. -/
def Due (idx : Fin capacity) (generation : BitVec 32) (body : String) : Prop :=
  exists slot ce, slot.generation = generation ∧ .registered idx slot ∈ past ∧
    .answered idx slot ce ∈ past ∧ ce.correlationId = slot.correlationId ∧ body = slot.body ce

structure Sound : Prop where
  slots : forall idx slot, state.slots idx = some slot ->
    .registered idx slot ∈ past ∧ slot.generation = (state.waiters idx).generation
  apart : forall idx other slot held, state.slots idx = some slot ->
    state.slots other = some held -> slot.correlationId = held.correlationId -> idx = other
  delivering : forall handle body, state.delivering = some (handle, body) ->
    Due past handle.waiter handle.generation body
  bodies : forall idx body, (state.waiters idx).body = some body ->
    Due past idx (state.waiters idx).generation body
  returned : forall handle body, .returned handle body ∈ past ->
    Due past handle.waiter handle.generation body

variable {past state}

theorem Due.more {generation : BitVec 32} {body : String} (h : Due past idx generation body)
    (events : Events capacity) : Due (events ++ past) idx generation body := by
  obtain ⟨slot, ce, hgeneration, hregistered, hanswered, hid, hbody⟩ := h
  exact ⟨slot, ce, hgeneration, mem_append_right _ hregistered, mem_append_right _ hanswered,
    hid, hbody⟩

theorem sound_step (h : state.Sound past) (move : Step capacity) :
    (state.step move).1.Sound ((state.step move).2 ++ past) := by
  have hkept := h
  obtain ⟨hslots, hapart, hdelivering, hbodies, hreturned⟩ := h
  cases move with
  | register correlationId formatter =>
    dsimp only [step]
    split
    next idx slot hfree =>
      have hslot := tryRegister_some hfree
      constructor <;> grind [update_apply, Due.more]
    next => exact hkept
  | cancel correlationId =>
    dsimp only [step]
    split
    next => constructor <;> grind [update_apply]
    next => exact hkept
  | dispatch ce =>
    dsimp only [step]
    split
    next idx slot _ hfound =>
      -- The confirmation has the id of the slot, which the history knows.
      have hslot := holder_some hfound
      constructor <;> grind [update_apply, Due, Due.more]
    next => exact hkept
  | deliver =>
    dsimp only [step]
    split
    next => split <;> constructor <;> grind [update_apply]
    next => exact hkept
  | receive handle =>
    dsimp only [step]
    split
    next => constructor <;> grind [update_apply, take, Due.more]
    next => exact hkept

theorem sound_run (moves : List (Step capacity)) : (run {} moves).1.Sound (run {} moves).2 := by
  have hnew : Sound {} ([] : Events capacity) := by
    constructor <;> simp
  simpa using run_keeps (motive := Sound) (fun _ _ move h => sound_step h move) hnew moves

/-! ## At most one body -/

variable (past state)

def registrations : Nat :=
  past.countP fun
    | .registered _ _ => true
    | _ => false

def returns (handle : ConfirmationHandle capacity) : Nat :=
  past.countP fun
    | .returned other _ => other = handle
    | _ => false

/-- The answer to a handle is awaited, on its way, ready or returned. -/
def places (handle : ConfirmationHandle capacity) : Nat :=
  ((state.slots handle.waiter).any fun slot => slot.generation = handle.generation).toNat +
    (state.delivering.any fun body => body.1 = handle).toNat +
    (state.take handle).isSome.toNat + returns past handle

structure Counted : Prop where
  generation : forall idx, (state.waiters idx).generation.toNat <= registrations past
  issued : forall idx slot, .registered idx slot ∈ past ->
    slot.generation.toNat <= (state.waiters idx).generation.toNat
  own : forall idx slot other, .registered idx slot ∈ past -> .registered idx other ∈ past ->
    slot.generation = other.generation -> slot = other
  once : forall handle, state.places past handle <=
    if handle.generation.toNat <= (state.waiters handle.waiter).generation.toNat then 1 else 0

variable {past state}

theorem counted_step (h : state.Counted past) {move : Step capacity}
    (hfew : registrations ((state.step move).2 ++ past) < 2 ^ 32) :
    (state.step move).1.Counted ((state.step move).2 ++ past) := by
  have hkept := h
  obtain ⟨hgeneration, hissued, hown, honce⟩ := h
  cases move with
  | register correlationId formatter =>
    dsimp only [step] at hfew ⊢
    split
    next idx slot hfree =>
      -- The generation does not wrap, so the new handle is not one of the old ones.
      have hslot := tryRegister_some hfree
      have hcount : registrations ([.registered idx slot] ++ past) = registrations past + 1 := by
        simp [registrations]
      simp only [hfree] at hfew
      have hnext : slot.generation.toNat = (state.waiters idx).generation.toNat + 1 := by
        have := hgeneration idx
        rw [hslot.2.1, BitVec.toNat_add]
        exact Nat.mod_eq_of_lt (by simp; omega)
      refine ⟨by grind [update_apply], by grind [update_apply], by grind, fun handle => ?_⟩
      have := honce handle
      grind [places, take, returns, update_apply]
    next => exact hkept
  | cancel correlationId =>
    dsimp only [step]
    split
    next =>
      refine ⟨hgeneration, hissued, hown, fun handle => ?_⟩
      have := honce handle
      grind [places, take, update_apply]
    next => exact hkept
  | dispatch ce =>
    dsimp only [step]
    split
    next hfound =>
      -- The answer leaves the slot and is on its way.
      have hslot := holder_some hfound
      refine ⟨by grind [registrations], by grind, by grind, fun handle => ?_⟩
      have := honce handle
      grind [places, take, returns, update_apply]
    next => exact hkept
  | deliver =>
    dsimp only [step]
    split
    next =>
      split
      · refine ⟨by grind [update_apply], by grind [update_apply], hown, fun handle => ?_⟩
        have := honce handle
        grind [places, take, update_apply]
      · refine ⟨hgeneration, hissued, hown, fun handle => ?_⟩
        have := honce handle
        grind [places, take]
    next => exact hkept
  | receive handle =>
    dsimp only [step]
    split
    next =>
      -- The body leaves the waiter as it is returned.
      refine ⟨by grind [update_apply, registrations, take], by grind [update_apply, take], by grind,
        fun other => ?_⟩
      have := honce other
      grind [places, take, returns, update_apply]
    next => exact hkept

theorem counted_run (moves : List (Step capacity)) :
    registrations (run {} moves).2 < 2 ^ 32 -> (run {} moves).1.Counted (run {} moves).2 := by
  have hnew : Counted {} ([] : Events capacity) := by
    constructor <;> simp [places, take, returns]
  have hrun := run_keeps (motive := fun state past =>
    registrations past < 2 ^ 32 -> state.Counted past) ?_ (fun _ => hnew) moves
  · simpa using hrun
  · intro state past move h hfew
    refine counted_step (h (Nat.lt_of_le_of_lt ?_ hfew)) hfew
    simp [registrations]

/-- With fewer than 2^32 registrations a handle returns one body at most, and it is made
of a confirmation of its own request, dispatched while the request held its slot. -/
theorem returned_own_confirmation (moves : List (Step capacity))
    (hfew : registrations (run {} moves).2 < 2 ^ 32)
    (hslot : .registered idx slot ∈ (run {} moves).2) :
    returns (run {} moves).2 ⟨idx, slot.generation⟩ <= 1 ∧
      forall body, .returned ⟨idx, slot.generation⟩ body ∈ (run {} moves).2 ->
        exists ce, .answered idx slot ce ∈ (run {} moves).2 ∧
          ce.correlationId = slot.correlationId ∧ body = slot.body ce := by
  have hcounted := counted_run moves hfew
  constructor
  · have honce := hcounted.once ⟨idx, slot.generation⟩
    unfold places at honce
    split at honce <;> omega
  · intro body hbody
    obtain ⟨other, ce, hgeneration, hregistered, hanswered, hid, heq⟩ :=
      (sound_run moves).returned _ body hbody
    cases hcounted.own idx other slot hregistered hslot hgeneration
    exact ⟨ce, hanswered, hid, heq⟩

/-! ## Until the body is picked up -/

section

variable {generation : BitVec 32} {body : String} {there : Bool}

/-- The body is on its way to a waiter whose slot is free, or `there`. -/
def Coming (idx : Fin capacity) (generation : BitVec 32) (body : String) (there : Bool)
    (state : PendingConfirmationSlots capacity) : Prop :=
  state.slots idx = none ∧ (state.waiters idx).generation = generation ∧
    if there then (state.waiters idx).body = some body ∧
      forall handle other, state.delivering = some (handle, other) -> handle.waiter ≠ idx
    else state.delivering = some (⟨idx, generation⟩, body)

theorem coming_step (h : Coming idx generation body there state) {move : Step capacity}
    (hkept : forall slot, .registered idx slot ∉ (state.step move).2)
    (hunread : forall taken, .returned ⟨idx, generation⟩ taken ∉ (state.step move).2) :
    Coming idx generation body (there || move.delivers) (state.step move).1 := by
  have hsame := h
  obtain ⟨hfree, hgeneration, hbody⟩ := h
  cases move with
  | register correlationId formatter =>
    dsimp only [step] at hkept ⊢
    split <;> grind [Coming, update_apply, Step.delivers]
  | cancel correlationId =>
    dsimp only [step]
    split <;> grind [Coming, update_apply, Step.delivers]
  | dispatch ce =>
    -- The slot is free, so what is dispatched next goes to another waiter.
    dsimp only [step]
    split <;> grind [Coming, update_apply, Step.delivers, → holder_some]
  | deliver =>
    dsimp only [step]
    split
    next => split <;> grind [Coming, update_apply, Step.delivers]
    next => grind [Coming, Step.delivers]
  | receive handle =>
    dsimp only [step] at hunread ⊢
    split <;> grind [Coming, update_apply, take, Step.delivers]

theorem coming_run (h : Coming idx generation body there state) {after : List (Step capacity)}
    (hkept : forall slot, .registered idx slot ∉ (state.run after).2)
    (hunread : forall taken, .returned ⟨idx, generation⟩ taken ∉ (state.run after).2) :
    Coming idx generation body (there || after.any Step.delivers)
      (state.run after).1 := by
  induction after generalizing state there with
  | nil => simpa [run] using h
  | cons move rest ih =>
    simp only [run, mem_append, not_or] at hkept hunread
    have hnext := ih (coming_step h (fun slot => (hkept slot).2) fun taken => (hunread taken).2)
      (fun slot => (hkept slot).1) fun taken => (hunread taken).1
    simpa [run, Bool.or_assoc] using hnext

end

/-- A handle whose confirmation is dispatched receives its body once that has been delivered,
unless a later request has been put in its slot; an earlier receive of the handle may have
come too soon. -/
theorem confirmation_received (moves after : List (Step capacity)) {ce : ConfirmationEnvelope}
    {state : PendingConfirmationSlots capacity} (hstate : (run {} moves).1 = state)
    (hslot : state.slots idx = some slot) (hid : slot.correlationId = ce.correlationId)
    (hidle : state.delivering = none)
    (hkept : forall later, .registered idx later ∉ ((state.step (.dispatch ce)).1.run after).2)
    (hunread : forall body, .returned ⟨idx, slot.generation⟩ body
      ∉ ((state.step (.dispatch ce)).1.run after).2)
    (hdelivered : after.any Step.delivers) :
    ((state.step (.dispatch ce)).1.run after).1.take ⟨idx, slot.generation⟩ =
      some (slot.body ce) := by
  have hsound := hstate ▸ sound_run moves
  have hholder : state.holder ce.correlationId = some (idx, slot) := by
    cases hfound : state.holder ce.correlationId with
    | none => exact absurd hid (holder_none hfound hslot)
    | some found =>
      obtain ⟨hthere, hsame⟩ := holder_some hfound
      cases hsound.apart idx found.1 slot found.2 hslot hthere (hid.trans hsame.symm)
      rw [hslot] at hthere
      cases hthere
      rfl
  have hcoming : Coming idx slot.generation (slot.body ce) false
      (state.step (.dispatch ce)).1 := by
    simp [Coming, step, hidle, hholder, (hsound.slots idx slot hslot).2]
  obtain ⟨_, hgeneration, hbody⟩ := coming_run hcoming hkept hunread
  rw [hdelivered] at hbody
  exact (if_pos hgeneration).trans hbody.1

/-! ## A bounded set of requests -/

/-- The requests that wait, and whether a body is on its way. -/
@[ext]
structure Board where
  waiting : Finset Nat
  busy : Bool

def Board.step (board : Board) : Step capacity -> Board
  | .register id _ =>
    if id ∉ board.waiting ∧ board.waiting.card < capacity then
      { board with waiting := insert id board.waiting }
    else board
  | .cancel id => { board with waiting := board.waiting.erase id }
  | .dispatch ce =>
    if board.busy = false ∧ ce.correlationId ∈ board.waiting then
      ⟨board.waiting.erase ce.correlationId, true⟩
    else board
  | .deliver => { board with busy := false }
  | .receive _ => board

def waiting (slots : Fin capacity -> Option Slot) : Finset Nat :=
  (Finset.univ.filter fun idx => (slots idx).isSome).image fun idx =>
    (slots idx).elim 0 Slot.correlationId

def board (state : PendingConfirmationSlots capacity) : Board where
  waiting := waiting state.slots
  busy := state.delivering ≠ none

variable {id : Nat}

theorem mem_waiting {slots : Fin capacity -> Option Slot} : id ∈ waiting slots <->
    exists idx slot, slots idx = some slot ∧ slot.correlationId = id := by
  simp only [waiting, Finset.mem_image, Finset.mem_filter_univ, Option.isSome_iff_exists]
  grind

theorem mem_waiting_update {held : Option Slot} :
    id ∈ waiting (update state.slots idx held) <->
      (exists slot, held = some slot ∧ slot.correlationId = id)
        ∨ exists other, other ≠ idx ∧ exists slot, state.slots other = some slot
          ∧ slot.correlationId = id := by
  rw [mem_waiting]
  exact exists_update_iff state.slots fun _ held =>
    exists slot, held = some slot ∧ slot.correlationId = id

theorem waiting_iff_holder : id ∈ waiting state.slots <->
    exists idx slot, state.holder id = some (idx, slot) := by
  rw [mem_waiting]
  cases hholder : state.holder id with
  | none => simpa using fun _ _ => holder_none hholder
  | some found => exact ⟨fun _ => ⟨_, _, rfl⟩, fun _ => ⟨_, _, holder_some hholder⟩⟩

/-- The ids in the slots differ, so only `capacity` requests fill them. -/
theorem free_slot_iff (h : state.Sound past) :
    (exists idx, state.slots idx = none) <-> (waiting state.slots).card < capacity := by
  have hcard : (waiting state.slots).card = _ := Finset.card_image_of_injOn ?_
  · have hfull := Finset.card_lt_iff_ne_univ
      (Finset.univ.filter fun idx => (state.slots idx).isSome)
    rw [Fintype.card_fin, <- hcard, Ne, Finset.eq_univ_iff_forall] at hfull
    simpa using hfull.symm
  · intro idx hidx other hother hsame
    simp only [Finset.coe_filter_univ, Set.mem_ofPred_eq, Option.isSome_iff_exists]
      at hidx hother
    grind [h.apart]

theorem tryRegister_isSome (h : state.Sound past) (id : Nat) (formatter : ReplyFormatter) :
    (state.tryRegister id formatter).isSome <->
      id ∉ waiting state.slots ∧ (waiting state.slots).card < capacity := by
  rw [waiting_iff_holder, <- free_slot_iff h]
  unfold tryRegister
  cases state.holder id with
  | none => simp
  | some found => exact ⟨nofun, fun h => absurd ⟨_, _, rfl⟩ h.1⟩

theorem tryRegister_id {formatter : ReplyFormatter}
    (h : state.tryRegister id formatter = some (idx, slot)) : slot.correlationId = id := by
  grind [tryRegister, Option.map_eq_some_iff]

theorem board_step (h : state.Sound past) (move : Step capacity) :
    (state.step move).1.board = state.board.step move := by
  cases move with
  | register correlationId formatter =>
    have hadmits := tryRegister_isSome h correlationId formatter
    dsimp only [step]
    split
    next hfree =>
      have hslot := tryRegister_some hfree
      have hid := tryRegister_id hfree
      ext id
      · grind [mem_waiting, mem_waiting_update, Board.step, board]
      · grind [board, Board.step]
    next => grind [board, Board.step]
  | cancel correlationId =>
    dsimp only [step]
    split
    next hfound =>
      have hslot := holder_some hfound
      ext id
      · grind [mem_waiting, mem_waiting_update, Board.step, board, h.apart]
      · rfl
    next hnone =>
      ext id
      · grind [waiting_iff_holder, Board.step, board]
      · rfl
  | dispatch ce =>
    dsimp only [step]
    split
    next hidle hfound =>
      have hslot := holder_some hfound
      ext id
      · grind [mem_waiting, mem_waiting_update, waiting_iff_holder, Board.step, board, h.apart]
      · grind [board, Board.step, waiting_iff_holder]
    next => grind [waiting_iff_holder, Board.step, board]
  | deliver =>
    dsimp only [step]
    split
    next => split <;> simp [board, Board.step]
    next hidle => simp [board, Board.step, hidle]
  | receive handle =>
    dsimp only [step]
    split <;> rfl

theorem run_board (h : state.Sound past) (moves : List (Step capacity)) :
    (state.run moves).1.board = moves.foldl Board.step state.board := by
  induction moves generalizing state past with
  | nil => rfl
  | cons move rest ih =>
    rw [foldl_cons, <- board_step h]
    exact ih (sound_step h move)

/-- The slots are a bounded set of correlation ids.  A request is turned away only if its
id waits already or `capacity` others do, so no slot is lost. -/
theorem slots_refine_bounded_set (moves : List (Step capacity)) :
    let final := (run {} moves).1
    final.board = moves.foldl Board.step ⟨∅, false⟩
      ∧ forall id formatter, (final.tryRegister id formatter).isSome <->
        id ∉ final.board.waiting ∧ final.board.waiting.card < capacity := by
  have hnew : Sound {} ([] : Events capacity) := sound_run []
  refine ⟨(run_board hnew moves).trans ?_, tryRegister_isSome (sound_run moves)⟩
  simp [board, waiting]

/-! ## Two runs -/

def echo : ReplyFormatter := fun ce => some ce.content

/-- The run that answers and delivers to the one slot, and what comes behind it. -/
def answered (later : List (Step 1)) : PendingConfirmationSlots 1 × List (Event 1) :=
  run {} ([.register 1 echo, .dispatch ⟨1, "done"⟩, .deliver] ++ later)

/-- Two requests wait in two slots; the second is answered first, and the first handle comes
once too early and once more behind its body. -/
def twoRequests : List (Step 2) :=
  [.register 1 echo, .register 2 echo, .dispatch ⟨2, "two"⟩, .receive ⟨⟨0, two_pos⟩, 1⟩, .deliver,
    .dispatch ⟨1, "one"⟩, .deliver, .receive ⟨⟨0, two_pos⟩, 1⟩, .receive ⟨⟨1, one_lt_two⟩, 1⟩,
    .receive ⟨⟨0, two_pos⟩, 1⟩]

theorem twoRequests_events : (run {} twoRequests).2 =
    [.returned ⟨1, 1⟩ "two", .returned ⟨0, 1⟩ "one", .answered 0 ⟨1, echo, 1⟩ ⟨1, "one"⟩,
      .answered 1 ⟨2, echo, 1⟩ ⟨2, "two"⟩, .registered 1 ⟨2, echo, 1⟩,
      .registered 0 ⟨1, echo, 1⟩] :=
  rfl

theorem answered_returns_once : returns (run {} twoRequests).2 ⟨0, 1⟩ <= 1 := by
  refine (@returned_own_confirmation 2 0 ⟨1, echo, 1⟩ _ ?_ ?_).1
  · decide
  · rw [twoRequests_events]
    simp

/-- While the body is on its way the handle comes too early, and another request takes the
slot in front of its own. -/
theorem delivered_body_received :
    let state := (run {} [.register 2 echo, .register 1 echo]).1
    let after := [.receive ⟨1, 1⟩, .cancel 2, .register 3 echo, .deliver]
    ((state.step (.dispatch ⟨1, "done"⟩)).1.run after).1.take (⟨1, 1⟩ : ConfirmationHandle 2) =
      some "done" := by
  refine @confirmation_received 2 1 ⟨1, echo, 1⟩ _ _ ⟨1, "done"⟩ _ rfl rfl rfl rfl ?_ ?_ rfl
  · exact fun later => show Event.registered 1 later ∉ [.registered 0 ⟨3, echo, 2⟩] by simp
  · exact fun body => show Event.returned ⟨1, 1⟩ body ∉ [.registered 0 ⟨3, echo, 2⟩] by simp

/-- The next request takes the slot before the body is picked up, and clears it. -/
theorem reused_slot_loses_body :
    (answered []).1.take ⟨0, 1⟩ = some "done" ∧
      (answered [.register 2 echo]).1.take ⟨0, 1⟩ = none :=
  ⟨rfl, rfl⟩

end PendingConfirmationSlots

end Oxidali.Api
