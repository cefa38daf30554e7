import Oxidali.Phy.Isr

/-!
# The transmitting side of the interrupt core

The sniffer, the answer table and the published counters share the core with
the requests but not their fields.  What only works on the former leaves the
transmitting side as it was.
-/

namespace Oxidali.Phy

open Words

namespace PhyIsrCore

/-- The fields the transmitting side of the core lives in. -/
structure WireSide where
  phy : DaliBitbangPhy
  cmd : Option TxCommand
  txQueue : Fifo TxRequest (txRingCap - 1)
  pending : Option TxRequest
  requested : Nat
  cancelActive : Bool
  exchangeEpoch : Nat
  activeEpoch : Nat
  activeExpectsBackward : Bool
  sessionExchange : Nat
  activeIsAnswer : Bool
  accepted : Nat
  loaded : Option TxRequest
  history : List Entry

def wireSide (core : PhyIsrCore) : WireSide :=
  { phy := core.phy, cmd := core.cmd, txQueue := core.txQueue
    pending := core.pending, requested := core.requested
    cancelActive := core.cancelActive, exchangeEpoch := core.exchangeEpoch
    activeEpoch := core.activeEpoch
    activeExpectsBackward := core.activeExpectsBackward
    sessionExchange := core.sessionExchange
    activeIsAnswer := core.activeIsAnswer, accepted := core.accepted
    loaded := core.loaded, history := core.history }

theorem forwardOnAir_congr {core other : PhyIsrCore} (h : other.wireSide = core.wireSide) :
    other.forwardOnAir = core.forwardOnAir := by
  simp only [wireSide, WireSide.mk.injEq] at h
  simp only [forwardOnAir, h]

theorem forwardOnAir_of_idle {core : PhyIsrCore} (hbusy : core.phy.txBusy = false) :
    core.forwardOnAir = false := by
  simp [forwardOnAir, hbusy]

variable (core : PhyIsrCore)

theorem pushToSnifferRing_wireSide (ev : RxCompletedEvent) :
    (core.pushToSnifferRing ev).wireSide = core.wireSide := rfl

theorem stage_wireSide (epoch : Nat) (hb : HalfBitBuffer) :
    (core.stage epoch hb).1.wireSide = core.wireSide := by
  unfold stage
  repeat' split
  all_goals rfl

theorem answerFromTable_wireSide (frame : QueryFrame) (ev : RxCompletedEvent) :
    (core.answerFromTable frame ev).wireSide = core.wireSide := by
  unfold answerFromTable
  dsimp only
  split
  · rfl
  next value _ =>
    have hstage := stage_wireSide
      { core with
        table := (core.table.answer frame (wrappingSub u32Max ev.sniffSeq 1)
          core.wireTicksTotal).1 }
      ev.rxEpoch (HalfBitBuffer.encode value.toNat backwardDataBits)
    split <;> rename_i hstaged <;> rw [hstaged] at hstage <;> exact hstage

theorem stepHeldCapture_wireSide : core.stepHeldCapture.wireSide = core.wireSide := by
  unfold stepHeldCapture
  split
  · rfl
  · split
    · rfl
    · rw [pushToSnifferRing_wireSide]
      split
      · rw [answerFromTable_wireSide]
        rfl
      · rfl

theorem pushSnifferCapture_wireSide (ev : RxCompletedEvent) :
    (core.pushSnifferCapture ev).wireSide = core.wireSide := by
  unfold pushSnifferCapture
  dsimp only
  split
  · split <;> rfl
  · split <;> rfl

theorem noteRxStart_wireSide (before after : RxState) :
    (core.noteRxStart before after).wireSide = core.wireSide := by
  unfold noteRxStart
  split <;> rfl

theorem tickLine_wireSide (rxBefore : RxState) (input : TickInput) :
    (core.tickLine rxBefore input).wireSide = (core.tickPhy input.busIsHigh).wireSide := by
  unfold tickLine
  rw [noteRxStart_wireSide]
  rfl

/-!
## Handing over a frame
-/

/-- A frame is taken over as a request, in front of what the cell holds. -/
structure Accepts (core other : PhyIsrCore) : Prop where
  side : other.wireSide =
    { core.wireSide with
      cmd := other.cmd, txQueue := other.txQueue, accepted := core.accepted + 1
      history := .accepted core.accepted :: core.history }
  waits : exists request front back,
    (forall onAir, core.waiting onAir = (if onAir then [] else core.pending.toList) ++
      (front ++ back)) ∧
    (forall onAir, other.waiting onAir = (if onAir then [] else core.pending.toList) ++
      (front ++ request :: back)) ∧
    request.serial = core.accepted

theorem submitTxFor_accepts (frame : TxFrame) (exchangeId : Nat) :
    (core.submitTxFor frame exchangeId).1 = core ∨
      core.Accepts (core.submitTxFor frame exchangeId).1 := by
  unfold submitTxFor
  split
  · exact .inl rfl
  · split
    · exact .inl rfl
    next hfree =>
      rw [not_or, Option.not_isSome_iff_eq_none] at hfree
      refine .inr ⟨rfl, _, core.txQueue.items, [], ?_, fun _ => rfl, rfl⟩
      simp [waiting, hfree.2]

theorem queueTxFor_accepts (frame : TxFrame) (exchangeId : Nat) :
    (core.queueTxFor frame exchangeId).1 = core ∨
      core.Accepts (core.queueTxFor frame exchangeId).1 := by
  unfold queueTxFor
  split
  · exact .inl rfl
  · split
    · exact .inl rfl
    · split
      · exact .inl rfl
      next txQueue hpush =>
        have hitems := congrArg (fun pushed => pushed.1.items) hpush
        rw [Fifo.tryPush_items, hpush] at hitems
        obtain ⟨request, hrequest, hserial⟩ : exists request : TxRequest,
            txQueue.items = core.txQueue.items ++ [request] ∧ request.serial = core.accepted :=
          ⟨_, hitems.symm, rfl⟩
        refine .inr ⟨rfl, request, core.txQueue.items, _, fun _ => rfl, ?_, hserial⟩
        simp [waiting, hrequest]

/-- The operations that reach the transmitting side. -/
def Op.transmits : Op -> Bool
  | .tick _ => true
  | .beginExchange => true
  | .submitTxFor _ _ => true
  | .queueTxFor _ _ => true
  | .cancelExchange _ => true
  | .closeBackwardWindow => true
  | _ => false

theorem step_wireSide {op : Op} (hop : op.transmits = false) (core : PhyIsrCore) :
    (core.step op).wireSide = core.wireSide := by
  cases op with
  | takeSessionRxStarted =>
    simp only [step, takeSessionRxStarted]
    split <;> rfl
  | submitAnswer rxEpoch hb => exact stage_wireSide core rxEpoch hb
  | _ =>
    first
    | rfl
    | cases hop

end PhyIsrCore
end Oxidali.Phy
