import Mathlib

/-!
# Triples for state-passing programs

A procedure that works on a mutable state and returns a value is a `StateM`; a
procedure that may also fail is an `ExceptT` over it, which keeps the state it
had reached when it failed.  `Triple` and `Attempt` are the pre- and
postconditions of the two, and the rules follow the way such programs are
composed.
-/

namespace Oxidali.Hoare

variable {state error value result : Type}

/-! ## Procedures that always return -/

def Triple (pre : state -> Prop) (act : StateM state value)
    (post : value -> state -> Prop) : Prop :=
  forall s, pre s -> post (act s).1 (act s).2

namespace Triple

variable {pre : state -> Prop} {act : StateM state value} {post : value -> state -> Prop}

theorem bind {mid : value -> state -> Prop} {post : result -> state -> Prop}
    {next : value -> StateM state result} (hact : Triple pre act mid)
    (hnext : forall v, Triple (mid v) (next v) post) : Triple pre (act >>= next) post := by
  intro s hs
  exact hnext _ _ (hact s hs)

end Triple

/-! ## Procedures that may fail -/

/-- `post` of a returned value, `fail` of an error. -/
def Outcome (post : value -> state -> Prop) (fail : error -> state -> Prop) :
    Except error value -> state -> Prop
  | .ok v, s => post v s
  | .error e, s => fail e s

def Attempt (pre : state -> Prop) (act : ExceptT error (StateM state) value)
    (post : value -> state -> Prop) (fail : error -> state -> Prop) : Prop :=
  Triple pre act.run (Outcome post fail)

namespace Attempt

variable {pre : state -> Prop} {act : ExceptT error (StateM state) value}
  {post : value -> state -> Prop} {fail : error -> state -> Prop}

theorem bind {mid : value -> state -> Prop} {post : result -> state -> Prop}
    {next : value -> ExceptT error (StateM state) result} (hact : Attempt pre act mid fail)
    (hnext : forall v, Attempt (mid v) (next v) post fail) :
    Attempt pre (act >>= next) post fail := by
  change Triple pre (act.run >>= ExceptT.bindCont next) _
  refine Triple.bind hact ?_
  intro r
  cases r with
  | ok v => exact hnext v
  | error e =>
    intro s hs
    exact hs

theorem pure {v : value} (h : forall s, pre s -> post v s) : Attempt pre (Pure.pure v) post fail :=
  h

theorem throw {e : error} (h : forall s, pre s -> fail e s) :
    Attempt pre (MonadExcept.throw e) post fail :=
  h

theorem mono {stronger : state -> Prop} {weaker : value -> state -> Prop}
    {failing : error -> state -> Prop} (hact : Attempt pre act post fail)
    (hpre : forall s, stronger s -> pre s) (hpost : forall v s, post v s -> weaker v s)
    (hfail : forall e s, fail e s -> failing e s) : Attempt stronger act weaker failing := by
  intro s hs
  have hout := hact s (hpre s hs)
  revert hout
  generalize act.run s = out
  cases out with
  | mk r s' =>
    cases r with
    | ok v => exact hpost v s'
    | error e => exact hfail e s'

end Attempt

theorem run_eq_of_result {act : ExceptT error (StateM state) value} {s : state}
    {r : Except error value} (h : (act.run s).1 = r) : act.run s = (r, (act.run s).2) := by
  cases h
  rfl

/-! ## Programs judged by a view of the state -/

section Effects

variable {seen : Type} {view : state -> seen}

/-- What `act` does to the part of the state that `view` shows. -/
def Effect (view : state -> seen) (before : seen) (act : ExceptT error (StateM state) value)
    (post : value -> seen -> Prop) (fail : seen -> Prop) : Prop :=
  Attempt (fun s => view s = before) act (fun v s => post v (view s)) (fun _ s => fail (view s))

namespace Effect

variable {before : seen} {act : ExceptT error (StateM state) value}
  {post : value -> seen -> Prop} {fail : seen -> Prop}

theorem bind {mid : value -> seen -> Prop} {post : result -> seen -> Prop}
    {next : value -> ExceptT error (StateM state) result} (hact : Effect view before act mid fail)
    (hnext : forall v b, mid v b -> Effect view b (next v) post fail) :
    Effect view before (act >>= next) post fail := by
  refine Attempt.bind hact ?_
  intro v s hs
  exact hnext v (view s) hs s rfl

theorem pure {v : value} (h : post v before) :
    Effect view before (Pure.pure v : ExceptT error (StateM state) value) post
      fail := by
  refine Attempt.pure ?_
  intro s hs
  exact hs ▸ h

theorem throw {e : error} (h : fail before) :
    Effect view before (MonadExcept.throw e : ExceptT error (StateM state) value) post fail := by
  refine Attempt.throw ?_
  intro s hs
  exact hs ▸ h

theorem mono {weaker : value -> seen -> Prop} {failing : seen -> Prop}
    (hact : Effect view before act post fail) (hpost : forall v b, post v b -> weaker v b)
    (hfail : forall b, fail b -> failing b) : Effect view before act weaker failing :=
  Attempt.mono hact (fun _ h => h) (fun v s => hpost v (view s)) (fun _ s => hfail (view s))

end Effect
end Effects
end Oxidali.Hoare
