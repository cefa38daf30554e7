import Oxidali.Executor.Unaddressed

/-!
# A sequence of commissioning calls

The caller repeats `commission_next_unaddressed` and adds each address returned
to its list of used addresses, until a call returns nothing or fails.
-/

namespace Oxidali.Executor.Commissioning

open Dali Hoare Discovery

section Calls

variable {C index : Type} [DaliApplicationController C] {gear : C -> Population102 index}

/-- From `used` and the first controller, calls that each returned a device lead
to the second list and controller. -/
inductive Calls : List Nat -> C -> List Nat -> C -> Prop where
  | start (used : List Nat) (c : C) : Calls used c used c
  | call {used used' : List Nat} {c c' c'' : C} {device : DiscoveredDevice} :
      Calls used c used' c' ->
      (commissionNextUnaddressed used').run c' = (.ok (some device), c'') ->
      Calls used c (used' ++ [device.shortAddress]) c''

theorem Calls.searchable (line : ReliableLine C gear) {used used' : List Nat} {c c' : C}
    (hcalls : Calls used c used' c') (hstart : Searchable (gear c)) : Searchable (gear c') := by
  induction hcalls with
  | start => exact hstart
  | @call used' c c' c'' device _ hrun ih =>
    have heffect := commissionNextUnaddressed_effect line (ih hstart) used' c' rfl
    rw [hrun] at heffect
    rcases heffect with ⟨i, -, hprogrammed, hle, -, hfree⟩
    exact searchable_of_programmed hprogrammed (ih hstart) hle hfree

/-- Each call of a sequence gives an address to gear that had none only, and one
that is neither in its list nor held by other gear; what it returns is the
address given; and it returns nothing only when every gear has an address. -/
theorem commissionNextUnaddressed_calls (line : ReliableLine C gear) {used used' : List Nat}
    {c c' c'' : C} {result : Except SemanticDaliError (Option DiscoveredDevice)}
    (hstart : Searchable (gear c)) (hcalls : Calls used c used' c')
    (hcall : (commissionNextUnaddressed used').run c' = (result, c'')) :
    FreshlyAddressed used' (gear c') (gear c'')
      ∧ (forall device, result = .ok (some device) -> exists i, (gear c' i).shortAddress = none
          ∧ (gear c'' i).shortAddress = some device.shortAddress)
      ∧ (result = .ok none -> forall i, (gear c'' i).shortAddress ≠ none) := by
  have heffect := commissionNextUnaddressed_effect line (hcalls.searchable line hstart) used' c' rfl
  rw [hcall] at heffect
  rcases result with error | found
  · refine ⟨heffect, ?_, ?_⟩
    · intro _ h
      cases h
    · intro h
      cases h
  · cases found with
    | none =>
      rcases heffect with ⟨hunmoved, hall⟩
      refine ⟨freshlyAddressed_of_unmoved used' hunmoved, ?_, ?_⟩
      · intro _ h
        cases h
      · intro _ i
        rw [(hunmoved i).shortAddress]
        exact hall i
    | some device =>
      rcases heffect with ⟨i, hnone, hprogrammed, -, hused, hfree⟩
      refine ⟨freshlyAddressed_of_programmed hprogrammed hnone hused hfree, ?_, ?_⟩
      · intro other hother
        cases hother
        exact ⟨i, hnone, hprogrammed.shortAddress⟩
      · intro h
        cases h

end Calls

/-! ## Three gear on an ideal line

Every command reaches the gear at once; the gear say that they are LED gear.
-/

structure IdealLine (n : Nat) where
  units : List ControlGear
  length_eq : units.length = n

namespace IdealLine

variable {n : Nat} (line : IdealLine n)

def gear : Population102 (Fin n) :=
  fun i => line.units.get (i.cast line.length_eq.symm)

def hear (frame : ForwardFrame) : IdealLine n where
  units := line.units.map fun unit => ControlGear.hear unit frame
  length_eq := by rw [List.length_map, line.length_eq]

theorem gear_hear (frame : ForwardFrame) : (line.hear frame).gear = line.gear.hear frame := by
  funext i
  simp only [gear, hear, Population102.hear, List.get_eq_getElem, List.getElem_map]
  rfl

variable (command : DaliCommand)

/-- The answer to a query: QUERY DEVICE TYPE is answered by every gear. -/
def response : DaliResponse :=
  match command with
  | .standard _ ⟨.query 0x99⟩ => .answer 6
  | _ =>
    if command.isQuery then overlap (line.gear.replies command.toForwardFrame)
    else .noAnswer

def sendCommand (line : IdealLine n) : Except FrameError (DaliResponse × Bool) × IdealLine n :=
  match command with
  | .special special =>
    (.ok (line.response command, false), line.hear special.toForwardFrame)
  | _ => (.ok (line.response command, false), line)

instance : DaliApplicationController (IdealLine n) := .ofSend sendCommand

theorem sendCommand_addressing {command : DaliCommand} (h : Addressing command)
    (line : IdealLine n) :
    (sendCommand command line).2.gear = line.gear.hear command.toForwardFrame := by
  cases h with
  | present short hshort =>
    funext i
    exact (by rw [ControlGear.hear, ofFrame_short hshort] :
      line.gear i = ControlGear.hear (line.gear i) ⟨ControlGear.encodeShortAddress short, 0x91⟩)
  | missing => rfl
  | _ => exact gear_hear line _

theorem sendCommand_response {command : DaliCommand} (h : Addressing command)
    (hquery : command.isQuery) (line : IdealLine n) :
    Replied (line.gear.replies command.toForwardFrame) (line.response command) := by
  have hresponse : line.response command = overlap (line.gear.replies command.toForwardFrame) := by
    cases h <;> first | rfl | cases hquery
  rw [hresponse]
  exact overlap_replied _

theorem sendCommand_ok (line : IdealLine n) :
    (sendCommand command line).1 = .ok (line.response command, false) := by
  cases command <;> rfl

theorem reliable : ReliableLine (IdealLine n) (gear (n := n)) where
  sendCommand command before hcommand := by
    rintro line rfl
    change Outcome _ _ (sendCommand command line).1 (sendCommand command line).2
    rw [sendCommand_ok]
    exact ⟨sendCommand_addressing hcommand line,
      fun hquery => sendCommand_response hcommand hquery line⟩
  query address command before _ := by
    rintro line rfl
    rfl
  queryOnce address command before _ := by
    rintro line rfl
    rfl
  enabledQuery deviceType address opcode before _ := by
    rintro line rfl
    rfl
  transactionExempt _ line := ⟨line, _, rfl, rfl, rfl⟩

end IdealLine

def gearAt (shortAddress : Option Nat) (randomAddress : Nat)
    (initialisation : InitialisationState) : ControlGear where
  shortAddress := shortAddress
  randomAddress := randomAddress
  searchH := 0xFF
  searchM := 0xFF
  searchL := 0xFF
  initialisation := initialisation

def threeGear : IdealLine 3 where
  units := [gearAt (some 0) 7 .disabled, gearAt none 9 .enabled, gearAt none 4 .enabled]
  length_eq := rfl

theorem threeGear_searchable : Searchable threeGear.gear where
  random_distinct := by decide
  shortAddress_le := by
    change forall i a, a ∈ (threeGear.gear i).shortAddress -> a <= maxShortAddress
    decide
  short_distinct := by
    change forall i j a, a ∈ (threeGear.gear i).shortAddress ->
      a ∈ (threeGear.gear j).shortAddress -> i = j
    decide
  enabled_iff := by decide

def ledAt (shortAddress : Nat) : DiscoveredDevice where
  shortAddress := shortAddress
  randomAddress := none
  deviceType := .dt6Led
  colorMode := .brightness
  dt8XyCapable := false
  dt8TcCapable := false
  dt8RgbCapable := false
  dt8RgbwafCapable := false
  typeEnumDegraded := false
  supportedDeviceTypes := some 64

def afterFirstCall : IdealLine 3 :=
  ((commissionNextUnaddressed [1]).run threeGear).2

theorem secondCall_addresses :
    FreshlyAddressed [1, 2] afterFirstCall.gear
        ((commissionNextUnaddressed [1, 2]).run afterFirstCall).2.gear
      ∧ exists i, (afterFirstCall.gear i).shortAddress = none
        ∧ (((commissionNextUnaddressed [1, 2]).run afterFirstCall).2.gear
          i).shortAddress = some 3 := by
  have hfirst : (commissionNextUnaddressed [1]).run threeGear
      = (.ok (some (ledAt 2)), afterFirstCall) :=
    run_eq_of_result (by decide +kernel)
  have hsecond : (commissionNextUnaddressed [1, 2]).run afterFirstCall
      = (.ok (some (ledAt 3)), ((commissionNextUnaddressed [1, 2]).run afterFirstCall).2) :=
    run_eq_of_result (by decide +kernel)
  have hcalls : Calls [1] threeGear [1, 2] afterFirstCall :=
    Calls.call (Calls.start [1] threeGear) hfirst
  have hresult := commissionNextUnaddressed_calls IdealLine.reliable
    threeGear_searchable hcalls hsecond
  exact ⟨hresult.1, hresult.2.1 (ledAt 3) rfl⟩

end Oxidali.Executor.Commissioning
