import Oxidali.Dali.ControlGear
import Oxidali.Executor.Commissioning

/-!
# A reliable line of control gear

A command that the controller reports as sent has reached every gear, and the
response it reports is one the gear gave.  A command that fails may have reached
the gear or not.  Other queries change nothing that addressing depends on and
may be answered in any way.
-/

namespace Oxidali.Executor.Commissioning

open Dali Hoare Discovery

/-- The commands of the search, and the two queries that it rests on. -/
inductive Addressing : DaliCommand -> Prop where
  | searchAddrH (data : Nat) : Addressing (.special (.searchAddrH data))
  | searchAddrM (data : Nat) : Addressing (.special (.searchAddrM data))
  | searchAddrL (data : Nat) : Addressing (.special (.searchAddrL data))
  | compare : Addressing (.special .compare)
  | withdraw : Addressing (.special .withdraw)
  | program (data : Nat) : Addressing (.special (.programShortAddress data))
  | verify (data : Nat) : Addressing (.special (.verifyShortAddress data))
  | present (short : Nat) (h : short <= maxShortAddress) :
      Addressing (.standard (.short short) .queryControlGearPresent)
  | missing : Addressing (.standard .broadcast .queryMissingShortAddress)

structure ReliableLine (C : Type) [DaliApplicationController C] {index : Type}
    (gear : C -> Population102 index) : Prop where
  sendCommand : forall command before, Addressing command -> Effect gear before
      (ExceptT.mk (DaliApplicationController.sendCommandObserved command))
      (fun out after => after = before.hear command.toForwardFrame
        ∧ (command.isQuery = true -> Replied (before.replies command.toForwardFrame) out.1))
      (fun after => after = before ∨ after = before.hear command.toForwardFrame)
  query : forall address command before, command.isQuery = true ->
    Effect gear before
      (ExceptT.mk (DaliApplicationController.sendCommandObserved (.standard address command)))
      (fun _ after => after = before) (fun after => after = before)
  queryOnce : forall (address : DaliAddress) (command : StandardCommand) before,
    command.isQuery = true ->
    Effect gear before
      (ExceptT.mk (DaliApplicationController.sendRawOnce (command.toForwardFrame address) true))
      (fun _ after => after = before) (fun after => after = before)
  enabledQuery : forall deviceType address opcode before, 0xE0 <= opcode ->
    Effect gear before
      (ExceptT.mk (DaliApplicationController.sendRawEnabledQuery
        (SpecialCommand.enableDeviceType deviceType).toForwardFrame
        ⟨DaliAddress.encodeAddressByte address ||| 0x01, opcode⟩))
      (fun _ after => after = before) (fun after => after = before)
  transactionExempt : forall {R : Type} (run : StateM C R),
    RunsOnce gear run (DaliApplicationController.transactionExempt run)

/-! ## Programs that change nothing -/

section Quiet

variable {C index α β : Type} {gear : C -> Population102 index}

/-- Whatever it returns, the program leaves the gear as it was. -/
def Quiet (gear : C -> Population102 index) (act : Exec C α) : Prop :=
  forall before, Effect gear before act (fun _ after => after = before)
    (fun after => after = before)

namespace Quiet

theorem bind {act : Exec C α} {next : α -> Exec C β} (hact : Quiet gear act)
    (hnext : forall v, Quiet gear (next v)) : Quiet gear (act >>= next) := by
  intro before
  refine Effect.bind (hact before) ?_
  rintro v _ rfl
  exact hnext v _

theorem pure (v : α) : Quiet gear (Pure.pure v : Exec C α) :=
  fun _ => Effect.pure rfl

theorem throw (e : SemanticDaliError) : Quiet gear (MonadExcept.throw e : Exec C α) :=
  fun _ => Effect.throw rfl

theorem resultOf {act : Exec C α} (hact : Quiet gear act) : Quiet gear (Executor.resultOf act) := by
  intro before
  refine (resultOf_effect (hact before)).mono ?_ (fun _ h => h)
  intro result after h
  cases result <;> exact h

theorem ite {p : Prop} [Decidable p] {yes no : Exec C α} (hyes : Quiet gear yes)
    (hno : Quiet gear no) : Quiet gear (if p then yes else no) := by
  by_cases h : p
  · rw [if_pos h]
    exact hyes
  · rw [if_neg h]
    exact hno

end Quiet
end Quiet

/-! ## Describing a gear -/

section Describing

variable {C index : Type} {gear : C -> Population102 index}

section

variable {T : Type} [DecidableEq T] {readOnce : Exec C (Option T × Bool)}
  (hread : Quiet gear readOnce)
include hread

theorem confirmSamples_quiet (left : Nat) :
    forall samples, Quiet gear (confirmSamples readOnce left samples) := by
  induction left with
  | zero => exact fun _ => Quiet.pure _
  | succ left ih =>
    intro samples
    refine Quiet.bind hread ?_
    intro sample
    cases hmajority : majorityOptional (samples ++ [sample.1]) with
    | none =>
      simp only [hmajority]
      exact ih _
    | some confirmed =>
      simp only [hmajority]
      exact Quiet.pure _

theorem confirmObservedQuery_quiet (policy : ContentConfirmPolicy) :
    Quiet gear (confirmObservedQuery policy readOnce) :=
  Quiet.bind hread fun _ => Quiet.ite (Quiet.pure _) (confirmSamples_quiet hread _ _)

end

variable [DaliApplicationController C] (line : ReliableLine C gear) (address : DaliAddress)
include line

theorem sendStandardQueryObserved_quiet {command : StandardCommand} (hquery : command.isQuery) :
    Quiet gear (sendStandardQueryObserved address command) :=
  Quiet.bind (fun before => mapErr_effect (line.query address command before hquery))
    (fun _ => Quiet.pure _)

theorem sendStandardQueryOnce_quiet {command : StandardCommand} (hquery : command.isQuery) :
    Quiet gear (sendStandardQueryOnce address command) :=
  Quiet.bind (fun before => mapErr_effect (line.queryOnce address command before hquery))
    (fun _ => Quiet.pure _)

theorem sendDt8RawQueryObserved_quiet {opcode : Nat} (hopcode : 0xE0 <= opcode) :
    Quiet gear (sendDt8RawQueryObserved address opcode) :=
  Quiet.bind (fun before => mapErr_effect (line.enabledQuery _ address opcode before hopcode))
    (fun _ => Quiet.pure _)

theorem transactionExempt_quiet {α : Type} {run : Exec C α} (hrun : Quiet gear run) :
    Quiet gear (transactionExempt run) :=
  fun before => (line.transactionExempt run.run).effect (hrun before)

theorem walkNext_quiet (left : Nat) :
    forall set, Quiet gear (walkNext (C := C) address left set) := by
  induction left with
  | zero => exact fun _ => Quiet.pure _
  | succ left ih =>
    intro set
    refine Quiet.bind (Quiet.resultOf (sendStandardQueryOnce_quiet line address rfl)) ?_
    intro answer
    rcases answer with error | value
    · exact Quiet.ite (Quiet.throw _) (Quiet.ite (Quiet.pure _) (Quiet.throw _))
    · cases value with
      | none => exact Quiet.pure _
      | some value =>
        exact Quiet.ite (Quiet.pure _) (Quiet.ite (Quiet.pure _)
          (Quiet.ite (Quiet.pure _) (Quiet.ite (Quiet.pure _) (ih _))))

theorem enumerateDeviceTypes_quiet (policy : ContentConfirmPolicy) :
    Quiet gear (enumerateDeviceTypes (C := C) address policy) := by
  refine Quiet.bind (confirmObservedQuery_quiet
    (sendStandardQueryObserved_quiet line address rfl) policy) ?_
  intro first
  cases first with
  | none => exact Quiet.pure _
  | some first =>
    refine Quiet.ite (Quiet.pure _) (Quiet.ite (Quiet.pure _) ?_)
    refine Quiet.bind (walkNext_quiet line address _ _) ?_
    intro walk
    cases walk <;> exact Quiet.pure _

theorem enumerateRuns_quiet (policy : ContentConfirmPolicy) (left : Nat) :
    forall contended, Quiet gear (enumerateRuns (C := C) address policy left contended) := by
  induction left with
  | zero => exact fun _ => Quiet.throw _
  | succ left ih =>
    intro contended
    refine Quiet.bind (enumerateDeviceTypes_quiet line address policy) ?_
    intro outcome
    cases outcome with
    | done query => exact Quiet.pure _
    | broken again => exact ih _

theorem queryTypesWithScanDegrade_quiet (probe : Dt8ProbePolicy) (policy : ContentConfirmPolicy) :
    Quiet gear (queryTypesWithScanDegrade (C := C) address probe policy) := by
  refine Quiet.bind (Quiet.resultOf (transactionExempt_quiet line
    (enumerateRuns_quiet line address policy _ _))) ?_
  intro queried
  cases queried with
  | ok supported => exact Quiet.pure _
  | error error => exact Quiet.ite (Quiet.pure _) (Quiet.throw _)

theorem queryDt8Status_quiet (allowFallback : Bool) (supported : List Nat)
    (policy : ContentConfirmPolicy) :
    Quiet gear (queryDt8Status (C := C) address allowFallback supported policy) := by
  have hquery : forall opcode, 0xE0 <= opcode ->
      Quiet gear (sendDt8RawQueryStable (C := C) policy address opcode) :=
    fun opcode hopcode => confirmObservedQuery_quiet
      (sendDt8RawQueryObserved_quiet line address hopcode) policy
  have hfeatures := hquery dt8QueryColourTypeFeatures (by decide)
  refine Quiet.ite (Quiet.pure _) ?_
  refine Quiet.bind ?_ ?_
  · refine Quiet.bind hfeatures ?_
    intro first
    exact Quiet.ite (Quiet.bind hfeatures fun _ => Quiet.pure _) (Quiet.pure _)
  · intro capabilities
    refine Quiet.bind (hquery dt8QueryColourStatus (by decide)) ?_
    intro status
    exact Quiet.ite (Quiet.pure _) (Quiet.pure _)

theorem probeDeviceIdentity_quiet (probe : Dt8ProbePolicy) :
    Quiet gear (probeDeviceIdentity (C := C) address probe) := by
  refine Quiet.bind (queryTypesWithScanDegrade_quiet line address _ _) ?_
  intro types
  refine Quiet.bind (Quiet.ite (queryDt8Status_quiet line address _ _ _) (Quiet.pure _)) ?_
  intro status
  exact Quiet.ite (Quiet.pure _) (Quiet.pure _)

end Describing
end Oxidali.Executor.Commissioning
