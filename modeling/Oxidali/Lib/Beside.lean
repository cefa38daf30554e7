import Oxidali.Lib.Device

/-!
# A program beside another one

Two programs work on one device and their operations come in any order.  A program
that only looks is described by the answers it may get: as long as the other has not
come to a certain point they are answers of one kind, and from then on of another.
-/

namespace Oxidali.Device.Prog

variable {machine : Machine} {value result error : Type}

/-! ## Taking turns -/

/-- The first program runs until it returns `v`; in between the other performs the
operations that are `allowed`.  The states that are passed are kept. -/
inductive Beside (allowed : machine.op -> Prop) : machine.state -> Prog machine value ->
    Prog machine result -> List machine.state -> value -> Prop where
  | returns (s : machine.state) (v : value) (other : Prog machine result) :
      Beside allowed s (.done v) other [s] v
  | own {s : machine.state} {o : machine.op} {next : machine.ret o -> Prog machine value}
      {other : Prog machine result} {visited : List machine.state} {v : value} :
      Beside allowed (machine.exec o s).1 (next (machine.exec o s).2) other visited v ->
        Beside allowed s (.call o next) other (s :: visited) v
  | other {s : machine.state} {waits o : machine.op}
      {rest : machine.ret waits -> Prog machine value}
      {next : machine.ret o -> Prog machine result} {visited : List machine.state}
      {v : value} : allowed o ->
      Beside allowed (machine.exec o s).1 (.call waits rest) (next (machine.exec o s).2)
        visited v ->
        Beside allowed s (.call waits rest) (.call o next) (s :: visited) v

variable {allowed : machine.op -> Prop} {s : machine.state} {own : Prog machine value}
  {other : Prog machine result} {visited : List machine.state} {v : value}

theorem Beside.mem_first (h : Beside allowed s own other visited v) : s ∈ visited := by
  cases h with
  | returns | own | other => exact List.mem_cons_self

def isDone : Prog machine value -> Bool
  | .done _ => true
  | .call _ _ => false

def advance : Nat -> Prog machine value -> machine.state -> Prog machine value × machine.state
  | n + 1, .call o next, s => (next (machine.exec o s).2).advance n (machine.exec o s).1
  | _, prog, s => (prog, s)

theorem Beside.alone (allowed : machine.op -> Prop) (s : machine.state) (own : Prog machine value)
    (other : Prog machine result) :
    exists visited, Beside allowed s own other visited (own.run s).2 := by
  induction own generalizing s with
  | done v => exact ⟨[s], .returns s v other⟩
  | call o next ih =>
    rcases ih _ (machine.exec o s).1 with ⟨visited, h⟩
    exact ⟨s :: visited, .own h⟩

theorem Beside.after_other (hallowed : other.Every allowed fun _ => True)
    (hwaits : own.isDone = false)
    (h : Beside allowed (other.run s).1 own (.done (other.run s).2) visited v) :
    exists passed, Beside allowed s own other passed v := by
  induction other generalizing s with
  | done r => exact ⟨visited, h⟩
  | call o next ih =>
    rcases ih _ (hallowed.2 _) h with ⟨passed, hpassed⟩
    cases own with
    | done v => cases hwaits
    | call waits rest => exact ⟨s :: passed, .other hallowed.1 hpassed⟩

theorem Beside.after_own {n : Nat}
    (h : Beside allowed (own.advance n s).2 (own.advance n s).1 other visited v) :
    exists passed, Beside allowed s own other passed v := by
  induction n generalizing own s with
  | zero =>
    cases own with
    | done r | call o next => exact ⟨visited, h⟩
  | succ n ih =>
    cases own with
    | done r => exact ⟨visited, h⟩
    | call o next =>
      rcases ih h with ⟨passed, hpassed⟩
      exact ⟨s :: passed, .own hpassed⟩

/-- Some operations of the first program, then all of the other, then the rest. -/
theorem Beside.overtaken (n : Nat) (hallowed : other.Every allowed fun _ => True)
    (hwaits : (own.advance n s).1.isDone = false) :
    exists visited, Beside allowed s own other visited
      ((own.advance n s).1.run (other.run (own.advance n s).2).1).2 := by
  rcases Beside.alone allowed (other.run (own.advance n s).2).1 (own.advance n s).1
    (.done (other.run (own.advance n s).2).2) with ⟨visited, h⟩
  rcases h.after_other hallowed hwaits with ⟨passed, hpassed⟩
  exact hpassed.after_own

inductive Gets : Prog machine value -> machine.state -> Prog machine value ->
    machine.state -> Prop where
  | here (prog : Prog machine value) (s : machine.state) : Gets prog s prog s
  | later {o : machine.op} {next : machine.ret o -> Prog machine value}
      {rest : Prog machine value} {s after : machine.state} :
      Gets (next (machine.exec o s).2) (machine.exec o s).1 rest after ->
        Gets (.call o next) s rest after

/-- `holds` of every point that the program gets to. -/
def Throughout (holds : Prog machine value -> machine.state -> Prop) :
    Prog machine value -> machine.state -> Prop
  | .done v, s => holds (.done v) s
  | .call o next, s => holds (.call o next) s
      ∧ (next (machine.exec o s).2).Throughout holds (machine.exec o s).1

variable {holds : Prog machine value -> machine.state -> Prop} {prog : Prog machine value}

theorem Throughout.here (h : prog.Throughout holds s) : holds prog s := by
  cases prog with
  | done v => exact h
  | call o next => exact h.1

theorem Throughout.gets {rest : Prog machine value} {after : machine.state}
    (h : prog.Throughout holds s) (hgets : Gets prog s rest after) : holds rest after := by
  induction hgets with
  | here prog s => exact h.here
  | later _ ih => exact ih h.2

/-! ## Answers -/

abbrev Answers (machine : Machine) : Type :=
  (o : machine.op) -> machine.ret o -> Prop

/-- `post` of the value, whichever of the answers are given. -/
def Always (answers : Answers machine) (post : value -> Prop) : Prog machine value -> Prop
  | .done v => post v
  | .call o next => forall r, answers o r -> (next r).Always answers post

namespace Always

variable {answers more : Answers machine} {post : value -> Prop}

theorem mono {weaker : value -> Prop} (h : prog.Always answers post)
    (himp : forall v, post v -> weaker v) : prog.Always answers weaker := by
  induction prog with
  | done v => exact himp v h
  | call o next ih => exact fun r hr => ih r (h r hr)

theorem fewer (h : prog.Always more post)
    (hanswers : forall o r, answers o r -> more o r) : prog.Always answers post := by
  induction prog with
  | done v => exact h
  | call o next ih => exact fun r hr => ih r (h r (hanswers o r hr))

theorem andThen {next : value -> Prog machine result} {final : result -> Prop}
    (h : prog.Always answers fun v => (next v).Always answers final) :
    (prog.andThen next).Always answers final := by
  induction prog with
  | done v => exact h
  | call o rest ih => exact fun r hr => ih r (h r hr)

theorem attempt {prog : Prog machine (Except error value)}
    {next : value -> Prog machine (Except error result)} {final : Except error result -> Prop}
    (h : prog.Always answers fun r => exists v, r = .ok v ∧ (next v).Always answers final) :
    (prog.attempt next).Always answers final := by
  apply Always.andThen
  apply h.mono
  intro r hr
  rcases hr with ⟨v, hv, hnext⟩
  subst hv
  exact hnext

end Always

/-! ## Answers that change once -/

/-- The answers are those of `first`, until at some operation they become those of
one `second` and stay so. -/
def Switches {ι : Type} (first : Answers machine) (second : ι -> Answers machine)
    (during : value -> Prop) (after : ι -> value -> Prop) : Prog machine value -> Prop
  | .done v => during v
  | .call o next =>
    (forall i, (Prog.call o next).Always (second i) (after i))
      ∧ forall r, first o r -> (next r).Switches first second during after

namespace Switches

variable {ι : Type} {first : Answers machine} {second : ι -> Answers machine}
  {during : value -> Prop} {after : ι -> value -> Prop}

theorem mono {weaker : value -> Prop} {weakerAfter : ι -> value -> Prop}
    (h : prog.Switches first second during after) (hduring : forall v, during v -> weaker v)
    (hafter : forall i v, after i v -> weakerAfter i v) :
    prog.Switches first second weaker weakerAfter := by
  induction prog with
  | done v => exact hduring v h
  | call o next ih =>
    exact ⟨fun i => (h.1 i).mono (hafter i), fun r hr => ih r (h.2 r hr)⟩

theorem andThen {next : value -> Prog machine result} {final : result -> Prop}
    {switched : ι -> result -> Prop}
    (h : prog.Switches first second (fun v => (next v).Switches first second final switched)
      (fun i v => (next v).Always (second i) (switched i))) :
    (prog.andThen next).Switches first second final switched := by
  induction prog with
  | done v => exact h
  | call o rest ih => exact ⟨fun i => (h.1 i).andThen, fun r hr => ih r (h.2 r hr)⟩

theorem attempt {prog : Prog machine (Except error value)}
    {next : value -> Prog machine (Except error result)} {final : Except error result -> Prop}
    {switched : ι -> Except error result -> Prop}
    (h : prog.Switches first second
      (fun r => exists v, r = .ok v ∧ (next v).Switches first second final switched)
      (fun i r => exists v, r = .ok v ∧ (next v).Always (second i) (switched i))) :
    (prog.attempt next).Switches first second final switched := by
  apply Switches.andThen
  apply h.mono
  · intro r hr
    rcases hr with ⟨v, hv, hnext⟩
    subst hv
    exact hnext
  · intro i r hr
    rcases hr with ⟨v, hv, hnext⟩
    subst hv
    exact hnext

/-- A value that does not depend on the answers at all. -/
theorem of_always {any : Answers machine} (h : prog.Always any during)
    (hfirst : forall o r, first o r -> any o r) (hsecond : forall i o r, second i o r -> any o r)
    (hafter : forall i v, during v -> after i v) : prog.Switches first second during after := by
  induction prog with
  | done v => exact h
  | call o next ih =>
    refine ⟨fun i => ?_, fun r hr => ih r (h r (hfirst o r hr))⟩
    exact (h.fewer (hsecond i)).mono (hafter i)

end Switches

/-! ## Looking on -/

/-- The program only looks, but for an operation right before it returns. -/
def Watches : Prog machine value -> Prop
  | .done _ => True
  | .call o next =>
    ((forall s, (machine.exec o s).1 = s) ∧ forall r, (next r).Watches)
      ∨ forall r, exists v, next r = .done v

theorem Watches.andThen {next : value -> Prog machine result}
    (h : prog.Every (fun o => forall s, (machine.exec o s).1 = s) fun _ => True)
    (hnext : forall v, (next v).Watches) : (prog.andThen next).Watches := by
  induction prog with
  | done v => exact hnext v
  | call o rest ih => exact .inl ⟨h.1, fun r => ih r (h.2 r)⟩

section Beside

variable {ι : Type} {first : Answers machine} {second : ι -> Answers machine}
  {during : value -> Prop} {after : ι -> value -> Prop}
  (quiet : machine.state -> Prog machine result -> Prop)
  (switched : ι -> machine.state -> Prog machine result -> Prop)

theorem Always.beside {answers : Answers machine} {post : value -> Prop}
    (hstep : forall s o next, allowed o -> quiet s (.call o next) ->
      quiet (machine.exec o s).1 (next (machine.exec o s).2))
    (hanswers : forall s other o, quiet s other -> answers o (machine.exec o s).2)
    (hrun : Beside allowed s own other visited v) (hwatches : own.Watches)
    (hown : own.Always answers post) (hquiet : quiet s other) : post v := by
  induction hrun with
  | returns s v other => exact hown
  | @own s o next other visited v hrun ih =>
    have hnext := hown _ (hanswers s other o hquiet)
    rcases hwatches with ⟨hlooks, hrest⟩ | hlast
    · exact ih (hrest _) hnext ((hlooks s).symm ▸ hquiet)
    · rcases hlast (machine.exec o s).2 with ⟨final, hfinal⟩
      rw [hfinal] at hnext hrun
      cases hrun
      exact hnext
  | @other s waits o rest next visited v hallowed _ ih =>
    exact ih hwatches hown (hstep s o next hallowed hquiet)

/-- A program that looks on while the other one comes to its switch. -/
theorem Switches.beside
    (hquiet : forall s o next, allowed o -> quiet s (.call o next) ->
      quiet (machine.exec o s).1 (next (machine.exec o s).2)
        ∨ exists i, switched i (machine.exec o s).1 (next (machine.exec o s).2))
    (hswitched : forall i s o next, allowed o -> switched i s (.call o next) ->
      switched i (machine.exec o s).1 (next (machine.exec o s).2))
    (hfirst : forall s other o, quiet s other -> first o (machine.exec o s).2)
    (hsecond : forall i s other o, switched i s other -> second i o (machine.exec o s).2)
    (hrun : Beside allowed s own other visited v) (hwatches : own.Watches)
    (hown : own.Switches first second during after) (hstart : quiet s other) :
    during v ∨ exists i passed rest, passed ∈ visited ∧ switched i passed rest ∧ after i v := by
  induction hrun with
  | returns s v other => exact .inl hown
  | @own s o next other visited v hrun ih =>
    have hnext := hown.2 _ (hfirst s other o hstart)
    rcases hwatches with ⟨hlooks, hrest⟩ | hlast
    · rcases ih (hrest _) hnext ((hlooks s).symm ▸ hstart) with
        hduring | ⟨i, passed, rest, hmem, hafter⟩
      · exact .inl hduring
      · exact .inr ⟨i, passed, rest, List.mem_cons_of_mem _ hmem, hafter⟩
    · rcases hlast (machine.exec o s).2 with ⟨final, hfinal⟩
      rw [hfinal] at hnext hrun
      cases hrun
      exact .inl hnext
  | @other s waits o rest next visited v hallowed hrun ih =>
    rcases hquiet s o next hallowed hstart with hstays | ⟨i, hswitch⟩
    · rcases ih hwatches hown hstays with hduring | ⟨i, passed, rest, hmem, hafter⟩
      · exact .inl hduring
      · exact .inr ⟨i, passed, rest, List.mem_cons_of_mem _ hmem, hafter⟩
    · refine .inr ⟨i, _, _, List.mem_cons_of_mem _ hrun.mem_first, hswitch, ?_⟩
      exact Always.beside (switched i) (hswitched i) (hsecond i) hrun hwatches (hown.1 i) hswitch

end Beside

end Oxidali.Device.Prog
