import Oxidali.Dali.ControlDevice
import Oxidali.Executor.Dev103

/-!
# A reliable line of control devices

What a controller does when nothing goes wrong on the line: a frame it reports
as sent has reached every device, the response it reports is one the devices
gave, and a unit runs its program once.  Nothing is asked of a send that fails.
-/

namespace Oxidali.Executor.Dev103

open Dali Hoare

/-- The frames whose effect on the devices is modelled. -/
inductive Addressing : ForwardFrame24 -> Prop where
  | special (command : Special103Command) (data : Nat) :
      Addressing (command.frame data)
  | device (command : Device103Command) (address : Device103Address) :
      Addressing (command.frame address)

structure ReliableLine (C : Type) [DaliApplicationController C] {index : Type}
    (bus : C -> Population103 index) : Prop where
  sendFrame24 : forall frame expectsBackward before, Addressing frame -> Effect bus before
      (ExceptT.mk (DaliApplicationController.sendFrame24 frame expectsBackward))
      (fun response after => after = before.hear false frame
        ∧ (expectsBackward = true -> Replied (before.replies frame) response))
      (fun _ => True)
  sendFrame24Twice : forall frame before, Addressing frame ->
    Effect bus before (ExceptT.mk (DaliApplicationController.sendFrame24Twice frame))
      (fun _ after => after = before.hear true frame) (fun _ => True)
  unitExempt : forall {L R : Type} (run : L -> StateM C (R × L)) (locals : L),
    RunsOnce bus (run locals) (DaliApplicationController.unitExempt run locals)

/-! ## Sends and units -/

section Effects

variable {C index : Type} [DaliApplicationController C]
  {bus : C -> Population103 index} {before : Population103 index}

theorem send_effect (line : ReliableLine C bus) {frame : ForwardFrame24} (hframe : Addressing frame)
    (expectsBackward : Bool) :
    Effect bus before (send frame expectsBackward)
      (fun response after => after = before.hear false frame
        ∧ (expectsBackward -> Replied (before.replies frame) response))
      (fun _ => True) :=
  mapErr_effect (line.sendFrame24 frame expectsBackward before hframe)

theorem sendTwice_effect (line : ReliableLine C bus) {frame : ForwardFrame24}
    (hframe : Addressing frame) :
    Effect bus before (sendTwice frame)
      (fun _ after => after = before.hear true frame) (fun _ => True) :=
  mapErr_effect (line.sendFrame24Twice frame before hframe)

theorem unitExempt_effect (line : ReliableLine C bus) {α : Type} {run : Exec C α}
    {post : α -> Population103 index -> Prop} {fail : Population103 index -> Prop}
    (hrun : Effect bus before run post fail) : Effect bus before (unitExempt run) post fail :=
  (unitExempt_runsOnce (line.unitExempt _)).effect hrun

end Effects

/-! ## An ideal line

A controller that puts every frame on the line at once and runs every scope as
it is: the simplest reliable line, on which the executors can be run.
-/

structure IdealLine (n : Nat) where
  devices : List ControlDevice
  length_eq : devices.length = n

namespace IdealLine

variable {n : Nat} (line : IdealLine n)

def bus : Population103 (Fin n) :=
  fun i => line.devices.get (i.cast line.length_eq.symm)

def hear (twice : Bool) (frame : ForwardFrame24) : IdealLine n where
  devices := line.devices.map fun device => device.hear twice frame
  length_eq := by rw [List.length_map, line.length_eq]

theorem bus_hear (twice : Bool) (frame : ForwardFrame24) :
    (line.hear twice frame).bus = line.bus.hear twice frame := by
  funext i
  simp only [bus, hear, Population103.hear, List.get_eq_getElem, List.getElem_map]
  rfl

def response (frame : ForwardFrame24) : DaliResponse :=
  overlap (line.bus.replies frame)

instance : DaliApplicationController (IdealLine n) :=
  { DaliApplicationController.ofSend fun _ => pure (.ok (.noAnswer, false)) with
    sendFrame24 := fun frame _ line => (.ok (line.response frame), line.hear false frame)
    sendFrame24Twice := fun frame line => (.ok (), line.hear true frame) }

theorem reliable : ReliableLine (IdealLine n) (bus (n := n)) where
  sendFrame24 frame _ before _ := by
    rintro line rfl
    exact ⟨bus_hear line false frame, fun _ => overlap_replied _⟩
  sendFrame24Twice frame before _ := by
    rintro line rfl
    exact bus_hear line true frame
  unitExempt _ _ line := ⟨line, _, rfl, rfl, rfl⟩

end IdealLine
end Oxidali.Executor.Dev103
