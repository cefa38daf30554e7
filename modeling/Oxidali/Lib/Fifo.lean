import Mathlib

/-!
# Bounded queues

A queue that never holds more than its capacity: a push on a full queue is
refused and changes nothing.
-/

namespace Oxidali

structure Fifo (item : Type) (capacity : Nat) where
  items : List item
  bounded : items.length <= capacity

namespace Fifo

variable {item : Type} {capacity : Nat}

def empty : Fifo item capacity := ⟨[], Nat.zero_le _⟩

variable (queue : Fifo item capacity)

def isEmpty : Bool := queue.items.isEmpty

/-- The queue after a push, and whether it took the item. -/
def tryPush (value : item) : Fifo item capacity × Bool :=
  if hroom : queue.items.length < capacity then
    (⟨queue.items ++ [value], by
        rw [List.length_append]
        exact hroom⟩, true)
  else (queue, false)

def tryPop : Fifo item capacity × Option item :=
  (⟨queue.items.tail, by
      rw [List.length_tail]
      exact Nat.le_trans (Nat.sub_le _ _) queue.bounded⟩,
    queue.items.head?)

@[simp] theorem empty_items : (empty : Fifo item capacity).items = [] := rfl

theorem tryPush_items (queue : Fifo item capacity) (value : item) :
    (queue.tryPush value).1.items =
      if (queue.tryPush value).2 then queue.items ++ [value] else queue.items := by
  unfold tryPush
  split <;> rfl

theorem tryPop_none {queue rest : Fifo item capacity}
    (h : queue.tryPop = (rest, none)) : queue.items = [] :=
  List.head?_eq_none_iff.mp (congrArg Prod.snd h)

theorem tryPop_some {queue rest : Fifo item capacity} {value : item}
    (h : queue.tryPop = (rest, some value)) : queue.items = value :: rest.items := by
  have hhead : queue.items.head? = some value := congrArg Prod.snd h
  have htail : queue.items.tail = rest.items :=
    congrArg (fun popped => popped.1.items) h
  rw [<- htail]
  exact List.eq_cons_of_mem_head? hhead

end Fifo
end Oxidali
