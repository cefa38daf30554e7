import Oxidali.Dali.Command
import Oxidali.Dali.Dev103
import Oxidali.Dali.Response

/-!
# The application controller interface

The executors are written against this interface.  A method works on the
controller and returns, so it is a state-passing function; a scope (transaction,
unit, step) takes the program it encloses.  A unit may run its program several
times: what the program's closure keeps between the runs is passed along as
`locals`.
-/

namespace Oxidali.Dali

class DaliApplicationController (C : Type) where
  sendCommandObserved : DaliCommand -> StateM C (Except FrameError (DaliResponse × Bool))
  sendRawOnce : ForwardFrame -> Bool -> StateM C (Except FrameError (DaliResponse × Bool))
  sendRawEnabledQuery : ForwardFrame -> ForwardFrame ->
    StateM C (Except FrameError (DaliResponse × Bool))
  sendFrame24 : ForwardFrame24 -> Bool -> StateM C (Except Frame24Fault DaliResponse)
  sendFrame24Twice : ForwardFrame24 -> StateM C (Except Frame24Fault Unit)
  stepBoundary : StateM C Unit
  step {R : Type} : StateM C R -> StateM C R
  transaction {R : Type} : StateM C R -> StateM C R
  transactionExempt {R : Type} : StateM C R -> StateM C R
  unit {L R : Type} : (L -> StateM C (R × L)) -> L -> StateM C (R × L)
  unitExempt {L R : Type} : (L -> StateM C (R × L)) -> L -> StateM C (R × L)

namespace DaliApplicationController

variable {C : Type} [DaliApplicationController C]

/-- A controller answers `send_command` with the response it observed. -/
def sendCommand (command : DaliCommand) : StateM C (Except FrameError DaliResponse) :=
  return (<- sendCommandObserved command).map Prod.fst

/-- A line that takes commands, and on which a scope runs its program once. -/
@[reducible] def ofSend {C : Type}
    (send : DaliCommand -> StateM C (Except FrameError (DaliResponse × Bool))) :
    DaliApplicationController C where
  sendCommandObserved := send
  sendRawOnce _ _ := pure (.ok (.noAnswer, false))
  sendRawEnabledQuery _ _ := pure (.ok (.noAnswer, false))
  sendFrame24 _ _ := pure (.error .unsupported)
  sendFrame24Twice _ := pure (.error .unsupported)
  stepBoundary := pure ()
  step run := run
  transaction run := run
  transactionExempt run := run
  unit run locals := run locals
  unitExempt run locals := run locals

end DaliApplicationController
end Oxidali.Dali
