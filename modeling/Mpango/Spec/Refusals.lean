import Mpango.Spec.Payments

/-!
# Which refusals a function can answer with

The codes of the payment path, function by function. A failure without a code (a database error,
an invalid transition) is not a refusal by one of them.
-/

namespace Mpango

open Decimal

/-- A failure that carries no code, or one of these. -/
def CommandError.CodeIn (codes : List ErrorCode) (e : CommandError) : Prop :=
  ∀ code, e.code? = some code → code ∈ codes

section CodeIn
variable {codes : List ErrorCode} {code : ErrorCode} {status : ℕ} {message : String}

@[simp] theorem codeIn_http :
    (CommandError.http status code message).CodeIn codes ↔ code ∈ codes := by
  simp [CommandError.CodeIn, CommandError.code?]

@[simp] theorem codeIn_asMutation {e : CommandError} :
    e.asMutation.CodeIn codes ↔ e.CodeIn codes := by
  simp [CommandError.CodeIn]

@[simp] theorem codeIn_database {d : DatabaseError} : (CommandError.database d).CodeIn codes := by
  simp [CommandError.CodeIn, CommandError.code?]

@[simp] theorem codeIn_invalidStateTransition {s t : OrderState} :
    (CommandError.invalidStateTransition s t message).CodeIn codes := by
  simp [CommandError.CodeIn, CommandError.code?]

@[simp] theorem codeIn_orderInvariantViolation :
    (CommandError.orderInvariantViolation message).CodeIn codes := by
  simp [CommandError.CodeIn, CommandError.code?]

@[simp] theorem codeIn_ledgerIntegrity :
    (CommandError.ledgerIntegrity message).CodeIn codes := by
  simp [CommandError.CodeIn, CommandError.code?]

@[simp] theorem codeIn_keyError : CommandError.keyError.CodeIn codes := by
  simp [CommandError.CodeIn, CommandError.code?]

@[simp] theorem codeIn_runtimeError : (CommandError.runtimeError message).CodeIn codes := by
  simp [CommandError.CodeIn, CommandError.code?]

@[simp] theorem refusesOnly_dbError {α : Type} {x : Except DatabaseError α} :
    RefusesOnly (CommandError.CodeIn codes) (dbError x) := by
  intro e h
  obtain ⟨d, -, rfl⟩ := dbError_eq_error.mp h
  exact codeIn_database

/-- Where a code is not among the refusals, anything follows from it. -/
theorem RefusesOnly.never {α : Type} {x : Except CommandError α} {P : CommandError → Prop}
    (h : RefusesOnly (CommandError.CodeIn codes) x) (hcode : code ∉ codes) :
    RefusesOnly (fun e => e.code? = some code → P e) x := by
  intro e he hc
  exact absurd (h e he code hc) hcode

end CodeIn

namespace Books

variable {b : Books} {o : Order} {req : PaymentRequest}

/-- The codes of the checks before the first write. -/
def planCodes : List ErrorCode :=
  [.paymentHistoryIntegrity, .orderAlreadyPaid, .creditHoldMismatch, .paymentExceedsRemaining,
    .invalidStateTransition, .duplicateCreditPayment, .creditSplitTenderUnsupported,
    .creditAmountMismatch, .duplicateTransferReference]

theorem paymentPlan_refuses : RefusesOnly (CommandError.CodeIn planCodes) (b.paymentPlan o req) := by
  have hstate : RefusesOnly (CommandError.CodeIn planCodes) (b.checkState o req) := by
    unfold checkState checkCollection checkSettlement
    split <;> simp [creditHoldMismatch, planCodes]
  have hreference :
      RefusesOnly (CommandError.CodeIn planCodes) (b.checkTransferReference req) := by
    unfold checkTransferReference
    split <;> simp [duplicateTransferReference, planCodes]
  have hcollection :
      RefusesOnly (CommandError.CodeIn planCodes) (b.verifyCollectionHold o) := by
    simp [verifyCollectionHold, creditHoldMismatch, planCodes]
  have hactive : RefusesOnly (CommandError.CodeIn planCodes) (b.verifyActiveHold o req) := by
    simp [verifyActiveHold, creditHoldMismatch, planCodes]
  unfold paymentPlan
  simp only [refusesOnly_bind]
  refine ⟨by simp [assertValidPaymentHistory, planCodes], fun _ _ => ⟨hstate, fun s _ => ?_⟩⟩
  refine ⟨hreference, fun _ _ => ?_⟩
  split <;> simp [hcollection, hactive]

/-! ## The writes -/

/-- An underflow is refused only where it would happen. -/
theorem applyOutstandingBalanceDelta_refuses {w r : Uuid} {delta : Decimal} :
    RefusesOnly (fun e => e.code? = some .receivableBalanceUnderflow →
      ∃ row, b.liveBinding? w r = some row ∧ row.outstandingBalance.toDecimal + delta < 0)
      (b.applyOutstandingBalanceDelta w r delta) := by
  unfold applyOutstandingBalanceDelta
  simp only [refusesOnly_bind]
  refine ⟨fun e he hc => ?_, fun found hfound => ?_⟩
  · obtain ⟨d, -, rfl⟩ := dbError_eq_error.mp he
    simp [CommandError.code?] at hc
  · cases found with
    | some b' => simp
    | none =>
      have hnone := updateOutstandingBalance_eq_none.mp (dbError_eq_ok.mp hfound)
      simp only
      split
      · next hlive =>
        obtain ⟨row, hrow⟩ := Option.isSome_iff_exists.mp hlive
        intro e _ _
        exact ⟨row, hrow, hnone row hrow (by simp)⟩
      · simp [CommandError.code?]

theorem postTransaction_refuses {entries : List (AccountType × Decimal)} {t : LedgerReference}
    {id : Uuid} : RefusesOnly (CommandError.CodeIn []) (b.postTransaction entries t id) := by
  unfold postTransaction
  simp only [refusesOnly_bind, refusesOnly_refuseIf, codeIn_ledgerIntegrity, implies_true,
    true_and]
  intro _ _
  exact refusesOnly_foldlM (I := fun _ _ => True) (fun _ _ _ _ _ _ => trivial)
    (fun _ _ _ _ => refusesOnly_dbError) trivial

theorem settleHold_refuses {plan : PaymentPlan} :
    RefusesOnly (CommandError.CodeIn [.creditHoldMismatch]) (b.settleHold req plan) := by
  unfold settleHold convertHold reduceHold
  split <;> simp [creditHoldMismatch]

theorem applyPaymentTransitionForLocked_refuses {target : OrderState} {method : PaymentMethod} :
    RefusesOnly (CommandError.CodeIn []) (b.applyPaymentTransitionForLocked o target method) := by
  have hledger : RefusesOnly (CommandError.CodeIn [])
      (b.postTransitionLedger o target (some method)) := by
    unfold postTransitionLedger postPaymentReceived postOrderReturn
    split_ifs <;> simp [postTransaction_refuses]
  simp [applyPaymentTransitionForLocked, hledger]

/-- Up to the binding update, a settlement leaves the bindings alone. -/
theorem settleHold_bindings {plan : PaymentPlan} {b' : Books} (h : b.settleHold req plan = .ok b') :
    b'.bindings = b.bindings := by
  unfold settleHold convertHold reduceHold at h
  split at h
  · rw [dbError_eq_ok, updateHold_eq_ok] at h
    rw [h.2]
  · simp only [bind_eq_ok, dbError_eq_ok, updateHold_eq_ok] at h
    obtain ⟨-, -, -, -, -, rfl⟩ := h
    rfl

theorem liveBinding?_congr {b' : Books} (h : b'.bindings = b.bindings) (w r : Uuid) :
    b'.liveBinding? w r = b.liveBinding? w r := by
  unfold liveBinding?
  rw [h]

/-- The only underflow refusal of a settlement is the binding's. -/
theorem settlePayment_refuses {plan : PaymentPlan} :
    RefusesOnly (fun e => e.code? = some .receivableBalanceUnderflow →
      ∃ row, b.liveBinding? o.wholesalerId o.retailerId = some row ∧
        row.outstandingBalance.toDecimal + Decimal.neg req.amount < 0)
      (b.settlePayment o req plan) := by
  unfold settlePayment
  simp only [refusesOnly_mapError, CommandError.code?_asMutation]
  split
  · unfold settleCollection postPaymentReceived
    simp only [refusesOnly_bind, refusesOnly_pure, implies_true, and_true]
    refine ⟨postTransaction_refuses.never (by decide), fun b₁ hpost => ?_⟩
    obtain ⟨m, n, -, -, rfl⟩ := postTransaction_pair hpost
    exact applyOutstandingBalanceDelta_refuses
  · unfold settleOrder
    simp only [refusesOnly_bind, refusesOnly_pure, implies_true, and_true]
    refine ⟨settleHold_refuses.never (by decide), fun b₁ hhold => ?_⟩
    refine ⟨applyPaymentTransitionForLocked_refuses.never (by decide), fun s htrans => ?_⟩
    obtain ⟨b₂, settled⟩ := s
    obtain ⟨-, rfl, -, hb₂⟩ := applyPaymentTransitionForLocked_eq_ok htrans
    unfold settleBalance
    split
    · simp
    · have hbindings : (b₂.completePending o { o with status := plan.targetState } req).bindings =
          b.bindings := by
        rw [completePending_eq plan rfl, hb₂, ← settleHold_bindings hhold]
      rw [← liveBinding?_congr hbindings]
      exact applyOutstandingBalanceDelta_refuses

/-! ## The request -/

/-- The codes a request is refused with when its key is already on a row. -/
def replayCodes : List ErrorCode := [.idempotencyKeyConflict, .declarationConfirmationKeyConflict]

theorem replayOrConflict_refuses {existing : Payment} :
    RefusesOnly (CommandError.CodeIn replayCodes) (replayOrConflict o existing req) := by
  simp [replayOrConflict, idempotencyConflict, enforceReceiptOnReplay, attributionConflict,
    replayCodes]

theorem classifyPaymentInsertRace_refuses {d : DatabaseError} :
    RefusesOnly (CommandError.CodeIn (.duplicateTransferReference :: replayCodes))
      (b.classifyPaymentInsertRace d o req) := by
  unfold classifyPaymentInsertRace
  split
  · split <;> simp [duplicateTransferReference]
  · split
    · refine replayOrConflict_refuses.mono fun e he code hc => ?_
      exact List.mem_cons_of_mem _ (he code hc)
    · simp
  · simp

/-- A payment request is refused for an underflow only after its plan and its insert, and only
where the binding would underflow. -/
theorem confirmPaymentForLockedOrder_refuses {ctx : InsertContext} :
    RefusesOnly (fun e => e.code? = some .receivableBalanceUnderflow →
      0 < req.amount ∧ ∃ plan, b.paymentPlan o req = .ok plan ∧
        ∃ row, b.liveBinding? o.wholesalerId o.retailerId = some row ∧
          row.outstandingBalance.toDecimal + Decimal.neg req.amount < 0)
      (b.confirmPaymentForLockedOrder ctx o req) := by
  unfold confirmPaymentForLockedOrder raiseInvalidAmount
  simp only [refusesOnly_bind, refusesOnly_refuseIf, refuseIf_eq_ok, not_le]
  refine ⟨by simp [CommandError.code?], fun _ hpos => ?_⟩
  split
  · simp only [refusesOnly_bind, refusesOnly_pure, implies_true, and_true]
    exact replayOrConflict_refuses.never (by decide)
  · simp only [refusesOnly_bind]
    refine ⟨paymentPlan_refuses.never (by decide), fun plan hplan => ?_⟩
    unfold writePayment
    split
    · simp only [refusesOnly_bind, refusesOnly_pure, implies_true, and_true]
      exact classifyPaymentInsertRace_refuses.never (by decide)
    · next inserted row hins =>
      simp only [refusesOnly_bind, refusesOnly_pure, implies_true, and_true]
      refine settlePayment_refuses.mono fun e he hc => ⟨hpos, plan, hplan, ?_⟩
      have hbindings : inserted.bindings = b.bindings := by
        rw [(insertPayment_eq_ok hins).frame]
      have := he hc
      rwa [liveBinding?_congr hbindings] at this

theorem fastReplay_refuses {orderId : String} :
    RefusesOnly (CommandError.CodeIn (.orderNotFound :: replayCodes)) (b.fastReplay orderId req) := by
  unfold fastReplay
  split
  · split <;>
      simp [enforceReceiptOnReplay, replayResult, attributionConflict, idempotencyConflict,
        replayCodes]
  · simp

/-- The public entry adds only refusals of its own. -/
theorem confirmPayment_refuses {ctx : InsertContext} {orderId : String} :
    RefusesOnly (fun e => e.code? = some .receivableBalanceUnderflow →
      ∃ o ∈ b.orders, Uuid.parse orderId = some o.id ∧
        b.confirmPaymentForLockedOrder ctx o req = .error e)
      (b.confirmPayment ctx orderId req) := by
  unfold confirmPayment raiseInvalidAmount
  simp only [refusesOnly_bind, refusesOnly_refuseIf]
  refine ⟨by simp [CommandError.code?], fun _ _ => ⟨fastReplay_refuses.never (by decide), fun fast _ => ?_⟩⟩
  split
  · simp
  · simp only [refusesOnly_bind]
    refine ⟨by simp [lockOrderForPayment, CommandError.code?], fun o ho => ?_⟩
    unfold lockOrderForPayment at ho
    rw [orRefuse_eq_ok, Option.bind_eq_some_iff] at ho
    obtain ⟨id, hparse, hlive⟩ := ho
    obtain ⟨hmem, rfl, -⟩ := liveOrder?_eq_some.mp hlive
    intro e he _
    exact ⟨o, hmem, hparse, he⟩

/-! ## The release of a hold -/

/-- A missing binding is refused only where there is none, or where it would underflow. -/
theorem settleCancelHold_refuses :
    RefusesOnly (fun e => e.code? = some .bindingNotFound →
      b.creditHolds.find? o.id ≠ none ∧ ∀ row, b.liveBinding? o.wholesalerId o.retailerId = some row →
        row.outstandingBalance.toDecimal + -o.totalAmount.toDecimal < 0)
      (b.settleCancelHold o) := by
  unfold settleCancelHold
  simp only
  split
  · split <;> simp [CommandError.code?]
  · simp only [refusesOnly_bind, refusesOnly_orRefuse, refusesOnly_refuseIf]
    refine ⟨by simp [CommandError.code?], fun hold hhold => ⟨by simp [CommandError.code?],
      fun _ _ => ⟨refusesOnly_dbError.never List.not_mem_nil, fun b₁ hupd => ?_⟩⟩⟩
    refine ⟨refusesOnly_dbError.never List.not_mem_nil, fun found hfound => ?_⟩
    obtain ⟨-, rfl⟩ := updateHold_eq_ok.mp (dbError_eq_ok.mp hupd)
    cases found with
    | some b' => simp
    | none =>
      have hnone := updateOutstandingBalance_eq_none.mp (dbError_eq_ok.mp hfound)
      intro e _ _
      refine ⟨?_, fun row hrow => hnone row hrow (by simp)⟩
      have hfind := (orRefuse_eq_ok.mp hhold)
      rw [Option.filter_eq_some_iff] at hfind
      simp [hfind.1]

end Books

/-! ## The stock side of a cancel -/

namespace Warehouse

variable {w : Warehouse} {orderId : Uuid}

theorem lockedStockBySkuId_refuses {skuId : Uuid} {skuCode : String} {requireActive : Bool} :
    RefusesOnly (CommandError.CodeIn [.sellableUnitUnavailable])
      (w.lockedStockBySkuId skuId skuCode requireActive) := by
  simp [lockedStockBySkuId]

theorem prelockReservationStocks_refuses :
    RefusesOnly (CommandError.CodeIn [.sellableUnitUnavailable])
      (w.prelockReservationStocks orderId) := by
  unfold prelockReservationStocks
  refine refusesOnly_forM fun skuId _ => ?_
  split
  · exact refusesOnly_map.mpr lockedStockBySkuId_refuses
  · simp

theorem releaseReservations_refuses :
    RefusesOnly (CommandError.CodeIn [.reservationAggregateMismatch])
      (w.releaseReservations orderId) := by
  unfold releaseReservations
  simp only [refusesOnly_bind, refusesOnly_pure, implies_true, and_true]
  exact refusesOnly_foldlM (I := fun _ _ => True) (fun _ _ _ _ _ _ => trivial)
    (fun _ _ _ _ => by simp [releaseStock]) trivial

end Warehouse

theorem validateTransition_refuses {o : Order} {target : OrderState} :
    RefusesOnly (CommandError.CodeIn []) (validateTransition o target) := by
  simp [validateTransition]

/-- A cancel is refused for its binding only by the order it loaded, and only where the binding is
missing or would underflow. -/
theorem cancelOrder_refuses {db : Db} {orderId : Uuid} :
    RefusesOnly (fun e => e.code? = some .bindingNotFound →
      ∃ o ∈ db.books.orders, o.id = orderId ∧ db.books.creditHolds.find? o.id ≠ none ∧
        (o.status = .draft ∨ o.status = .confirmed) ∧
        ∀ row, db.books.liveBinding? o.wholesalerId o.retailerId = some row →
          row.outstandingBalance.toDecimal + -o.totalAmount.toDecimal < 0)
      (cancelOrder db orderId) := by
  unfold cancelOrder
  simp only [refusesOnly_bind]
  refine ⟨by simp [loadLocked, CommandError.code?], fun o ho => ?_⟩
  obtain ⟨hmem, hid, -⟩ := loadLocked_eq_ok.mp ho
  refine ⟨validateTransition_refuses.never List.not_mem_nil, fun _ hvalid => ?_⟩
  refine ⟨by simp [CommandError.code?], fun _ hpaid => ?_⟩
  refine ⟨Warehouse.prelockReservationStocks_refuses.never (by decide), fun _ _ => ?_⟩
  refine ⟨Warehouse.releaseReservations_refuses.never (by decide), fun w _ => ?_⟩
  refine ⟨Books.settleCancelHold_refuses.mono fun e he hc => ?_, fun _ _ => by simp⟩
  obtain ⟨hhold, hrow⟩ := he hc
  refine ⟨o, hmem, hid, hhold, ?_, hrow⟩
  rw [validateTransition_eq_ok, OrderState.isValidTransition_iff] at hvalid
  rw [refuseIf_eq_ok] at hpaid
  tauto

/-! ## The confirmation of a declaration -/

/-- The codes of a confirmation before its payment. -/
def declarationCodes : List ErrorCode :=
  [.declarationNotFound, .declarationNotPending, .declarationConfirmationKeyConflict]

theorem checkDeclaration_refuses {db : Db} {declarationId wholesalerId : Uuid} {o : Order} :
    RefusesOnly (CommandError.CodeIn declarationCodes)
      (checkDeclaration db declarationId wholesalerId o) := by
  have hreplay : ∀ d, RefusesOnly (CommandError.CodeIn declarationCodes)
      (resolveConfirmedReplay db.books d o) := by
    intro d
    simp [resolveConfirmedReplay, declarationCodes]
  unfold checkDeclaration
  simp only [refusesOnly_bind]
  refine ⟨by simp [declarationNotFound, declarationCodes], fun d _ => ?_⟩
  cases d.status with
  | confirmed => simp [hreplay]
  | rejected => simp [declarationCodes]
  | pending =>
    simp [verifyBindingExists, verifyLockedAttribution, declarationNotFound, declarationCodes]

theorem lockOrderForDeclaration_refuses {db : Db} {declarationId wholesalerId : Uuid} :
    RefusesOnly (CommandError.CodeIn declarationCodes)
      (lockOrderForDeclaration db declarationId wholesalerId) := by
  simp [lockOrderForDeclaration, declarationNotFound, declarationCodes]

/-- A confirmation is refused for an underflow only by the payment it requests. -/
theorem confirmDeclaration_refuses {db : Db} {ctx : InsertContext}
    {declarationId wholesalerId : Uuid} :
    RefusesOnly (fun e => e.code? = some .receivableBalanceUnderflow →
      ∃ o d, lockOrderForDeclaration db declarationId wholesalerId = .ok o ∧
        db.books.confirmPaymentForLockedOrder ctx o (confirmationRequest d) = .error e)
      (confirmDeclaration db ctx declarationId wholesalerId) := by
  unfold confirmDeclaration
  simp only [refusesOnly_bind]
  refine ⟨lockOrderForDeclaration_refuses.never (by decide), fun o ho => ?_⟩
  refine ⟨checkDeclaration_refuses.never (by decide), fun s _ => ?_⟩
  obtain ⟨d, replay⟩ := s
  cases replay with
  | some r => simp
  | none =>
    simp only [refusesOnly_bind]
    refine ⟨fun e he _ => ⟨o, d, ho, he⟩, fun s _ => ⟨?_, by simp⟩⟩
    unfold Db.markConfirmed
    split <;> simp [CommandError.code?]

end Mpango
