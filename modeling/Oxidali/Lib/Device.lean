import Mathlib

/-!
# Programs that work on a device

A program performs one operation of the device after the other and decides by what
they return.  It may run alone, it may lose its power at any operation, and its
operations may come between those of another program.  `Safely` is the precondition
that covers the first two at once: it says what holds when the program returns and
what holds wherever it is cut off.
-/

namespace Oxidali.Device

/-- The operations of a device: what one does, and what it may leave behind if it is
interrupted. -/
structure Machine where
  op : Type
  ret : op -> Type
  state : Type
  exec : (o : op) -> state -> state × ret o
  torn : op -> state -> state -> Prop

inductive Prog (machine : Machine) (value : Type) where
  | done (v : value) : Prog machine value
  | call (o : machine.op) (next : machine.ret o -> Prog machine value) :
      Prog machine value

namespace Prog

variable {machine : Machine} {value result error : Type}

def andThen : Prog machine value -> (value -> Prog machine result) -> Prog machine result
  | .done v, next => next v
  | .call o rest, next => .call o fun r => (rest r).andThen next

def attempt (prog : Prog machine (Except error value))
    (next : value -> Prog machine (Except error result)) : Prog machine (Except error result) :=
  prog.andThen fun
    | .ok v => next v
    | .error e => .done (.error e)

/-! ## Running alone -/

def run : Prog machine value -> machine.state -> machine.state × value
  | .done v, s => (s, v)
  | .call o next, s => (next (machine.exec o s).2).run (machine.exec o s).1

inductive Cut : Prog machine value -> machine.state -> machine.state -> Prop where
  | here (prog : Prog machine value) (s : machine.state) : Cut prog s s
  | torn {o : machine.op} {next : machine.ret o -> Prog machine value}
      {s after : machine.state} : machine.torn o s after -> Cut (.call o next) s after
  | later {o : machine.op} {next : machine.ret o -> Prog machine value} {s after : machine.state} :
      Cut (next (machine.exec o s).2) (machine.exec o s).1 after -> Cut (.call o next) s after

/-- `post` of the result if the program returns, `lost` of every state in which it
may be cut off. -/
def Safely (lost : machine.state -> Prop) : Prog machine value -> (value -> machine.state -> Prop)
    -> machine.state -> Prop
  | .done v, post, s => lost s ∧ post v s
  | .call o next, post, s =>
    lost s ∧ (forall after, machine.torn o s after -> lost after)
      ∧ (next (machine.exec o s).2).Safely lost post (machine.exec o s).1

variable {lost : machine.state -> Prop} {prog : Prog machine value}
  {post : value -> machine.state -> Prop} {s : machine.state}

section

variable (h : prog.Safely lost post s)
include h

theorem Safely.lost_here : lost s := by
  cases prog with
  | done v | call o next => exact h.1

theorem Safely.run : post (prog.run s).2 (prog.run s).1 := by
  induction prog generalizing s with
  | done v => exact h.2
  | call o next ih => exact ih _ h.2.2

theorem Safely.cut {after : machine.state} (hcut : Cut prog s after) : lost after := by
  induction hcut with
  | here prog s => exact h.lost_here
  | torn htorn => exact h.2.1 _ htorn
  | later _ ih => exact ih h.2.2

theorem Safely.mono {weaker : value -> machine.state -> Prop}
    (himp : forall v s, post v s -> weaker v s) : prog.Safely lost weaker s := by
  induction prog generalizing s with
  | done v => exact ⟨h.1, himp v s h.2⟩
  | call o next ih => exact ⟨h.1, h.2.1, ih _ h.2.2⟩

end

theorem Safely.andThen {next : value -> Prog machine result}
    {final : result -> machine.state -> Prop}
    (h : prog.Safely lost (fun v s => (next v).Safely lost final s) s) :
    (prog.andThen next).Safely lost final s := by
  induction prog generalizing s with
  | done v => exact h.2
  | call o rest ih => exact ⟨h.1, h.2.1, ih _ h.2.2⟩

variable {next : value -> Prog machine (Except error result)}

theorem Safely.attempt {prog : Prog machine (Except error value)}
    {final : Except error result -> machine.state -> Prop}
    (h : prog.Safely lost (fun r s => exists v, r = .ok v
      ∧ (next v).Safely lost final s) s) : (prog.attempt next).Safely lost final s := by
  apply Safely.andThen
  apply h.mono
  intro r s hr
  rcases hr with ⟨v, hv, hsafe⟩
  subst hv
  exact hsafe

/-! ## What a program may do at all -/

/-- Whatever the operations return, all of them are `allowed` and the value that is
returned satisfies `returns`. -/
def Every (allowed : machine.op -> Prop) (returns : value -> Prop) : Prog machine value -> Prop
  | .done v => returns v
  | .call o next => allowed o ∧ forall r, (next r).Every allowed returns

variable {allowed : machine.op -> Prop} {returns : value -> Prop}

theorem Every.widen {more : machine.op -> Prop} (h : prog.Every allowed returns)
    (hmore : forall o, allowed o -> more o) : prog.Every more returns := by
  induction prog with
  | done v => exact h
  | call o next ih => exact ⟨hmore o h.1, fun r => ih r (h.2 r)⟩

theorem Every.anything (prog : Prog machine value) : prog.Every (fun _ => True) fun _ => True := by
  induction prog with
  | done v => trivial
  | call o next ih => exact ⟨trivial, ih⟩

theorem Every.andThen {next : value -> Prog machine result} {final : result -> Prop}
    (h : prog.Every allowed returns) (hnext : forall v, returns v -> (next v).Every allowed final) :
    (prog.andThen next).Every allowed final := by
  induction prog with
  | done v => exact hnext v h
  | call o rest ih => exact ⟨h.1, fun r => ih r (h.2 r)⟩

theorem Every.attempt {prog : Prog machine (Except error value)}
    {final : Except error result -> Prop}
    (h : prog.Every allowed fun r => forall v, r = .ok v -> returns v)
    (herror : forall e, final (.error e))
    (hnext : forall v, returns v -> (next v).Every allowed final) :
    (prog.attempt next).Every allowed final := by
  apply Every.andThen h
  intro r hr
  cases r with
  | ok v => exact hnext v (hr v rfl)
  | error e => exact herror e

theorem Every.safely {inv : machine.state -> Prop}
    (hexec : forall o s, allowed o -> inv s -> inv (machine.exec o s).1)
    (htorn : forall o s after, allowed o -> inv s -> machine.torn o s after -> inv after)
    (h : prog.Every allowed returns) (hinv : inv s) :
    prog.Safely inv (fun v s => returns v ∧ inv s) s := by
  induction prog generalizing s with
  | done v => exact ⟨hinv, h, hinv⟩
  | call o next ih =>
    exact ⟨hinv, fun after hafter => htorn o s after h.1 hinv hafter,
      ih _ (h.2 _) (hexec o s h.1 hinv)⟩

end Prog

end Oxidali.Device
