import Oxidali.Lib.Fifo

/-!
# The ring between two threads

One thread pushes and one pops.  Every load, store and slot access is a step of its own,
and the steps of the two threads come in any order.
-/

namespace Oxidali.Phy.SpscRing

open List

variable {α : Type} {cap : Nat}

def next (cap i : Nat) : Nat := if cap <= i + 1 then 0 else i + 1

/-- How far a call of `try_push` has come. -/
inductive Producer (α : Type) where
  | idle
  | gotHead (item : α) (head : Nat)
  | free (item : α) (head : Nat)
  | filled (item : α) (head : Nat)

/-- How far a call of `try_pop` has come. -/
inductive Consumer (α : Type) where
  | idle
  | gotTail (tail : Nat)
  | full (tail : Nat)
  | taken (item : Option α) (tail : Nat)

/-- A slot that was never written is `none`.  `pushed` and `popped` hold the values of the
calls that have returned. -/
structure State (α : Type) where
  slots : Nat -> Option α
  head : Nat
  tail : Nat
  producer : Producer α
  consumer : Consumer α
  pushed : List α
  popped : List α

def new : State α := ⟨fun _ => none, 0, 0, .idle, .idle, [], []⟩

/-- The next step of `try_push`, and its result when it returns.  With an idle producer a
call for `value` begins. -/
def produce (cap : Nat) (value : α) (s : State α) : State α × Option Bool :=
  match s.producer with
  | .idle => ({ s with producer := .gotHead value s.head }, none)
  | .gotHead item head =>
    if next cap head = s.tail then ({ s with producer := .idle }, some false)
    else ({ s with producer := .free item head }, none)
  | .free item head =>
    ({ s with
        slots := Function.update s.slots head (some item)
        producer := .filled item head }, none)
  | .filled item head =>
    ({ s with
        head := next cap head
        producer := .idle
        pushed := s.pushed ++ [item] }, some true)

/-- The next step of `try_pop`, and its result when it returns. -/
def consume (cap : Nat) (s : State α) : State α × Option (Option α) :=
  match s.consumer with
  | .idle => ({ s with consumer := .gotTail s.tail }, none)
  | .gotTail tail =>
    if tail = s.head then ({ s with consumer := .idle }, some none)
    else ({ s with consumer := .full tail }, none)
  | .full tail => ({ s with consumer := .taken (s.slots tail) tail }, none)
  | .taken item tail =>
    ({ s with
        tail := next cap tail
        consumer := .idle
        popped := s.popped ++ item.toList }, some item)

inductive Action (α : Type) where
  | produce (value : α)
  | consume

def act (cap : Nat) (s : State α) : Action α -> State α
  | .produce value => (SpscRing.produce cap value s).1
  | .consume => (SpscRing.consume cap s).1

def run (cap : Nat) (actions : List (Action α)) : State α :=
  actions.foldl (act cap) new

/-! ## Places in the ring -/

theorem next_mod (hcap : 0 < cap) (k : Nat) : next cap (k % cap) = (k + 1) % cap := by
  have hlt := Nat.mod_lt k hcap
  rw [<- Nat.mod_add_mod k, next]
  split
  next hle => rw [show k % cap + 1 = cap by omega, Nat.mod_self]
  next hle => rw [Nat.mod_eq_of_lt (Nat.lt_of_not_le hle)]

theorem eq_of_mod {a b : Nat} (hle : a <= b) (hlt : b < a + cap)
    (h : a % cap = b % cap) : a = b := by
  have hdvd := (Nat.modEq_iff_dvd' hle).mp h
  have hzero := Nat.eq_zero_of_dvd_of_lt hdvd (by omega)
  omega

/-! ## What holds in every run -/

/-- The values pushed and not popped lie in the slots from the tail to the head. -/
structure Inv (cap : Nat) (s : State α) : Prop where
  popped : s.popped <+: s.pushed
  room : s.pushed.length < s.popped.length + cap
  head : s.head = s.pushed.length % cap
  tail : s.tail = s.popped.length % cap
  slots : forall k, s.popped.length <= k -> k < s.pushed.length -> s.slots (k % cap) = s.pushed[k]?
  producer : match s.producer with
    | .idle => True
    | .gotHead _ head => head = s.head
    | .free _ head => head = s.head ∧ s.pushed.length + 1 < s.popped.length + cap
    | .filled item head => head = s.head ∧ s.pushed.length + 1 < s.popped.length + cap
        ∧ s.slots head = some item
  consumer : match s.consumer with
    | .idle => True
    | .gotTail tail => tail = s.tail
    | .full tail => tail = s.tail ∧ s.popped.length < s.pushed.length
    | .taken item tail => tail = s.tail ∧ s.popped.length < s.pushed.length
        ∧ item = s.pushed[s.popped.length]?

variable {s : State α}

theorem Inv.produce (hcap : 0 < cap) (h : Inv cap s) (value : α) :
    Inv cap (produce cap value s).1 ∧ ((produce cap value s).2 = some false ->
      s.pushed.length + 1 = s.popped.length + cap) := by
  have hproducer := h.producer
  have hle := h.popped.length_le
  have hroom := h.room
  unfold SpscRing.produce
  cases hs : s.producer with
  | idle => exact ⟨{ h with producer := rfl }, nofun⟩
  | gotHead item head =>
    rw [hs] at hproducer
    obtain rfl : head = s.head := hproducer
    have hfull : next cap s.head = s.tail <->
        s.pushed.length + 1 = s.popped.length + cap := by
      rw [h.head, next_mod hcap, h.tail, <- Nat.add_mod_right s.popped.length]
      exact ⟨eq_of_mod (by omega) (by omega), congrArg (· % cap)⟩
    dsimp only
    split
    next heq => exact ⟨{ h with producer := trivial }, fun _ => hfull.mp heq⟩
    next hne =>
      have hfree : s.pushed.length + 1 ≠ s.popped.length + cap := mt hfull.mpr hne
      exact ⟨{ h with producer := ⟨rfl, Nat.lt_of_le_of_ne hroom hfree⟩ }, nofun⟩
  | free item head =>
    rw [hs] at hproducer
    obtain ⟨rfl, hfree⟩ := hproducer
    have hold : forall k, s.popped.length <= k -> k < s.pushed.length ->
        Function.update s.slots s.head (some item) (k % cap) = s.slots (k % cap) := by
      intro k hlow hhigh
      refine Function.update_of_ne (fun hsame => ?_) _ _
      have heq := eq_of_mod (by omega) (by omega) (hsame.trans h.head)
      omega
    refine ⟨{ h with slots := ?_, producer := ⟨rfl, hfree, Function.update_self ..⟩ }, nofun⟩
    exact fun k hlow hhigh => (hold k hlow hhigh).trans (h.slots k hlow hhigh)
  | filled item head =>
    rw [hs] at hproducer
    obtain ⟨rfl, hfree, hslot⟩ := hproducer
    have hlength : (s.pushed ++ [item]).length = s.pushed.length + 1 := by simp
    refine ⟨?_, nofun⟩
    constructor
    · exact h.popped.trans (prefix_append _ _)
    · exact hlength.symm ▸ hfree
    · exact hlength.symm ▸ h.head.symm ▸ next_mod hcap _
    · exact h.tail
    · intro k hlow hhigh
      rcases Nat.lt_or_ge k s.pushed.length with hlt | hge
      · exact (h.slots k hlow hlt).trans (getElem?_append_left hlt).symm
      · obtain rfl : k = s.pushed.length := by
          rw [hlength] at hhigh
          omega
        rw [<- h.head, hslot]
        exact getElem?_concat_length.symm
    · trivial
    · have hconsumer := h.consumer
      revert hconsumer
      cases s.consumer with
      | full tail => exact fun hfull => ⟨hfull.1, hlength.symm ▸ Nat.lt_succ_of_lt hfull.2⟩
      | taken value tail =>
        rintro ⟨htail, hlt, hvalue⟩
        exact ⟨htail, hlength.symm ▸ Nat.lt_succ_of_lt hlt,
          hvalue.trans (getElem?_append_left hlt).symm⟩
      | _ => exact id

theorem Inv.consume (hcap : 0 < cap) (h : Inv cap s) : Inv cap (consume cap s).1 ∧
    ((consume cap s).2 = some none -> s.popped.length = s.pushed.length) := by
  have hconsumer := h.consumer
  have hle := h.popped.length_le
  have hroom := h.room
  unfold SpscRing.consume
  cases hs : s.consumer with
  | idle => exact ⟨{ h with consumer := rfl }, nofun⟩
  | gotTail tail =>
    rw [hs] at hconsumer
    obtain rfl : tail = s.tail := hconsumer
    have hempty : s.tail = s.head <-> s.popped.length = s.pushed.length := by
      rw [h.tail, h.head]
      exact ⟨eq_of_mod hle hroom, congrArg (· % cap)⟩
    dsimp only
    split
    next heq => exact ⟨{ h with consumer := trivial }, fun _ => hempty.mp heq⟩
    next hne =>
      exact ⟨{ h with consumer := ⟨rfl, Nat.lt_of_le_of_ne hle (mt hempty.mpr hne)⟩ }, nofun⟩
  | full tail =>
    rw [hs] at hconsumer
    obtain ⟨rfl, hlt⟩ := hconsumer
    refine ⟨{ h with consumer := ⟨rfl, hlt, ?_⟩ }, nofun⟩
    rw [h.tail]
    exact h.slots _ (le_refl _) hlt
  | taken item tail =>
    rw [hs] at hconsumer
    obtain ⟨rfl, hlt, rfl⟩ := hconsumer
    obtain ⟨_ | ⟨value, more⟩, hmore⟩ := h.popped
    · rw [<- hmore, append_nil] at hlt
      exact absurd hlt (Nat.lt_irrefl _)
    · have hvalue : s.pushed[s.popped.length]? = some value := by
        rw [<- hmore]
        simp
      have hlength : (s.popped ++ [value]).length = s.popped.length + 1 := by simp
      rw [hvalue]
      refine ⟨?_, nofun⟩
      constructor
      · exact ⟨more, by simpa using hmore⟩
      · exact hlength.symm ▸ Nat.lt_of_lt_of_le hroom (by omega)
      · exact h.head
      · exact hlength.symm ▸ h.tail.symm ▸ next_mod hcap _
      · exact fun k hlow hhigh => h.slots k (Nat.le_of_succ_le (hlength.ge.trans hlow)) hhigh
      · have hproducer := h.producer
        revert hproducer
        cases s.producer with
        | free item head =>
          exact fun hfree => ⟨hfree.1, hlength.symm ▸ Nat.lt_of_lt_of_le hfree.2 (by omega)⟩
        | filled item head =>
          rintro ⟨hhead, hfree, hslot⟩
          exact ⟨hhead, hlength.symm ▸ Nat.lt_of_lt_of_le hfree (by omega), hslot⟩
        | _ => exact id
      · trivial

theorem inv_run (hcap : 0 < cap) (actions : List (Action α)) : Inv cap (run cap actions) := by
  have hzero : 0 = 0 % cap := (Nat.zero_mod cap).symm
  have hnew : Inv cap (new : State α) :=
    ⟨prefix_rfl, by simpa [new] using hcap, hzero, hzero,
      fun _ _ hlt => absurd hlt (Nat.not_lt_zero _), trivial, trivial⟩
  refine foldlRecOn actions (act cap) hnew fun s hs action _ => ?_
  cases action with
  | produce value => exact (hs.produce hcap value).1
  | consume => exact (hs.consume hcap).1

/-- The ring refines a queue of one place less than its slots.  The queue is full in the
state in which a push gives up, and empty in the one in which a pop finds nothing. -/
theorem ring_refines_fifo (hcap : 2 <= cap) (actions : List (Action α)) :
    exists queue : Fifo α (cap - 1),
      (run cap actions).pushed = (run cap actions).popped ++ queue.items ∧
      (forall value, (produce cap value (run cap actions)).2 = some false ->
        queue.items.length = cap - 1) ∧
      ((consume cap (run cap actions)).2 = some none -> queue.items = []) := by
  have hpos : 0 < cap := by omega
  have h := inv_run hpos actions
  generalize run cap actions = s at h
  obtain ⟨items, hitems⟩ := h.popped
  have hlength : s.pushed.length = s.popped.length + items.length := by
    rw [<- hitems, length_append]
  have hroom := h.room
  refine ⟨⟨items, by omega⟩, hitems.symm, fun value hfails => ?_, fun hfails => ?_⟩
  · have hfull := (h.produce hpos value).2 hfails
    exact (by omega : items.length = cap - 1)
  · have hempty := (h.consume hpos).2 hfails
    exact length_eq_zero_iff.mp (by omega : items.length = 0)

/-- An item goes through a ring of two slots, and behind the next one a push gives up. -/
theorem two_slots_hold_one :
    let actions := replicate 4 (.produce 7) ++ replicate 4 .consume ++ replicate 4 (.produce 8) ++
      [.produce 9]
    exists queue : Fifo Nat 1,
      (run 2 actions).pushed = [7] ++ queue.items ∧ queue.items.length = 1 := by
  intro actions
  obtain ⟨queue, hpushed, hfull, _⟩ := ring_refines_fifo (le_refl 2) actions
  exact ⟨queue, hpushed, hfull 9 rfl⟩

end Oxidali.Phy.SpscRing
