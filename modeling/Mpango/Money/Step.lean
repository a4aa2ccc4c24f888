import Mpango.Spec.Declarations
import Mpango.Model.System

/-!
# What a command writes on the money side

Every accepted command is one of eight writes on the money side, or none. `Books.Step` lists them
with what their checks established; `execute_books` is the only place that goes through the
commands, and what holds of all commands is proved from it by cases on the write.
-/

namespace Mpango

open Decimal

/-- One write on the money side of a tenant. Payment requests are those a predicate admits. -/
inductive Books.Step (tenantId : Uuid) (admitted : PaymentRequest → Prop) :
    Books → Books → Prop
  | create {b : Books} {orders : Table Order} (o : Order) :
      b.orders.insert? o = some orders → o.wholesalerId = tenantId → o.status = .draft →
      o.isDeleted = false →
      Step tenantId admitted b { b with orders }
  | drop {b : Books} (o : Order) (target : OrderState) :
      o ∈ b.orders → o.status = .draft → target = .cancelled ∨ target = .voided →
      Step tenantId admitted b (b.assignStatus o target)
  | confirm {b : Books} {holds : Table CreditHold} {bindings : Table Binding} (o : Order) :
      o ∈ b.orders → o.status = .draft → 0 < o.totalAmount.unscaled →
      b.creditHolds.find? o.id = none →
      b.creditHolds.insert? ⟨o.id, o.totalAmount, o.totalAmount, .active⟩ = some holds →
      BalanceMoved b.bindings o.wholesalerId o.retailerId o.totalAmount.unscaled bindings →
      Step tenantId admitted b
        { b.assignStatus o .confirmed with creditHolds := holds, bindings }
  | cancel {b : Books} {bindings : Table Binding} (o : Order) (hold : CreditHold) :
      o ∈ b.orders → o.status = .confirmed → b.creditHolds.find? o.id = some hold →
      hold.status = .active → hold.amount = o.totalAmount → hold.remainingAmount = o.totalAmount →
      BalanceMoved b.bindings o.wholesalerId o.retailerId (-o.totalAmount.unscaled) bindings →
      Step tenantId admitted b { b.assignStatus o .cancelled with
        creditHolds :=
          b.creditHolds.set { hold with status := .released, remainingAmount := .zero }
        bindings }
  | pay {b inserted b' : Books} {ctx : InsertContext} {plan : PaymentPlan} {row : Payment}
      {res : CanonicalPaymentResult} (o : Order) (req : PaymentRequest) :
      o ∈ b.orders → o.isDeleted = false → admitted req →
      b.Executed ctx o req plan row inserted b' res →
      Step tenantId admitted b b'
  | fulfill {b : Books} (o : Order) :
      o ∈ b.orders → o.status = .paid →
      Step tenantId admitted b (b.assignStatus o .fulfilled)
  | return {b : Books} {m n : LedgerAmount} (o : Order) :
      o ∈ b.orders → o.status = .fulfilled →
      m.unscaled = o.totalAmount.unscaled * 100 → n.unscaled = -o.totalAmount.unscaled * 100 →
      Step tenantId admitted b { b.assignStatus o .returned with
        ledgerEntries :=
          b.ledgerEntries ++ [⟨.revenue, m, .refund, o.id⟩, ⟨.cash, n, .refund, o.id⟩] }

/-- A step under a predicate is a step under a weaker one. -/
theorem Books.Step.mono {tenantId : Uuid} {admitted admitted' : PaymentRequest → Prop}
    {b b' : Books} (hle : ∀ req, admitted req → admitted' req) (h : Step tenantId admitted b b') :
    Step tenantId admitted' b b' := by
  cases h with
  | create o hins hw hst hdel => exact .create o hins hw hst hdel
  | drop o target ho hst ht => exact .drop o target ho hst ht
  | confirm o ho hst hT hnone hins hmoved => exact .confirm o ho hst hT hnone hins hmoved
  | cancel o hold ho hst hf hact hamt hrem hmoved =>
    exact .cancel o hold ho hst hf hact hamt hrem hmoved
  | pay o req ho hdel hreq hx => exact .pay o req ho hdel (hle req hreq) hx
  | fulfill o ho hst => exact .fulfill o ho hst
  | «return» o ho hst hm hn => exact .return o ho hst hm hn

/-- The payment a command asks for: its order and its request. A confirmation asks for none once
its declaration is no longer pending. -/
def Command.payment? (db : Db) : Command → Option (InsertContext × Uuid × PaymentRequest)
  | .confirmPayment ctx orderId request => (Uuid.parse orderId).map fun id => (ctx, id, request)
  | .confirmDeclaration ctx declarationId wholesalerId =>
    ((db.getByWholesalerDualKey declarationId wholesalerId).filter fun d => d.status = .pending).map
      fun d => (ctx, d.orderId, confirmationRequest d)
  | _ => none

/-- The payment a command asked for was executed, under a key that was new. -/
def Command.Paid (c : Command) (db : Db) (b' : Books) : Prop :=
  ∃ o ctx req plan row inserted res, o ∈ db.books.orders ∧ o.isDeleted = false ∧
    c.payment? db = some (ctx, o.id, req) ∧
    db.books.getByIdempotencyKey req.idempotencyKey = none ∧
    db.books.Executed ctx o req plan row inserted b' res

section Execute
variable {db db' : Db} {c : Command} {r : Outcome} {admitted : PaymentRequest → Prop}

/-- On the money side a command executes the payment it asks for, or makes one of the other
writes, or writes nothing; of a payment it asks for, the key was used. -/
theorem execute_cases (h : execute db c = .ok (db', r)) : db'.tenantId = db.tenantId ∧
    (c.Paid db db'.books ∨
      c.payment? db = none ∧ Books.Step db.tenantId (fun _ => False) db.books db'.books ∨
      db'.books = db.books ∧ ∀ ctx id req, c.payment? db = some (ctx, id, req) →
        db.books.getByIdempotencyKey req.idempotencyKey ≠ none) := by
  cases c with
  | createOrder orderId retailerId items =>
    simp only [execute, bind_eq_ok, pure_eq_ok, Prod.mk.injEq, Prod.exists] at h
    obtain ⟨_, _, h, rfl, -⟩ := h
    obtain ⟨o, orders, rows, hins, -, hw, -, hst, hdel, -, -, -, -, -, rfl, -⟩ :=
      createOrder_eq_ok h
    exact ⟨rfl, .inr (.inl ⟨rfl, .create o hins hw hst hdel⟩)⟩
  | confirmOrder orderId updatedBy =>
    simp only [execute, bind_eq_ok, pure_eq_ok, Prod.mk.injEq, Prod.exists] at h
    obtain ⟨_, _, h, rfl, -⟩ := h
    obtain ⟨o, items, w, holds, bindings, ho, -, -, hst, hT, -, -, -, hnone, hins, hmoved, rfl,
      -⟩ := confirmOrder_eq_ok h
    exact ⟨rfl, .inr (.inl ⟨rfl, .confirm o ho hst hT hnone hins hmoved⟩)⟩
  | cancelOrder orderId =>
    simp only [execute, bind_eq_ok, pure_eq_ok, Prod.mk.injEq, Prod.exists] at h
    obtain ⟨_, _, h, rfl, -⟩ := h
    obtain ⟨o, w, ho, -, -, -, -, ⟨hst, -, rfl⟩ | ⟨hst, hold, bindings, hf, hact, hamt, hrem,
      hmoved, rfl⟩⟩ := cancelOrder_eq_ok h
    · exact ⟨rfl, .inr (.inl ⟨rfl, .drop o .cancelled ho hst (.inl rfl)⟩)⟩
    · exact ⟨rfl, .inr (.inl ⟨rfl, .cancel o hold ho hst hf hact hamt hrem hmoved⟩)⟩
  | applyTransition orderId target paymentMethod =>
    simp only [execute, bind_eq_ok, pure_eq_ok, Prod.mk.injEq, Prod.exists] at h
    obtain ⟨_, _, h, rfl, -⟩ := h
    obtain ⟨o, ho, -, -, hst, -, rfl, -⟩ := applyTransition_eq_ok h
    exact ⟨rfl, .inr (.inl ⟨rfl, .drop o .voided ho hst (.inr rfl)⟩)⟩
  | confirmPayment ctx orderId request =>
    simp only [execute, bind_eq_ok, pure_eq_ok, Prod.mk.injEq, Prod.exists] at h
    obtain ⟨_, _, h, rfl, -⟩ := h
    rcases Books.confirmPayment_eq_ok h with ⟨rfl, _, hr⟩ | ⟨o, plan, row, inserted, hparse, ho,
      hdel, hnew, hx⟩
    · refine ⟨rfl, .inr (.inr ⟨rfl, fun ctx' id req hreq => ?_⟩)⟩
      obtain ⟨_, -, heq⟩ := Option.map_eq_some_iff.mp hreq
      simp only [Prod.mk.injEq] at heq
      obtain ⟨-, -, rfl⟩ := heq
      rw [hr.found]
      exact Option.some_ne_none _
    · exact ⟨rfl, .inl ⟨o, ctx, request, plan, row, inserted, _, ho, hdel,
        by simp [Command.payment?, hparse], hnew, hx⟩⟩
  | submitDeclaration newId orderId retailerId wholesalerId amount method reference key =>
    simp only [execute, bind_eq_ok, pure_eq_ok, Prod.mk.injEq, Prod.exists] at h
    obtain ⟨_, _, _, h, rfl, -⟩ := h
    rcases submitDeclaration_eq_ok h with rfl | ⟨o, declarations, -, -, -, -, -, -, -, -, -, rfl⟩
    · exact ⟨rfl, .inr (.inr ⟨rfl, fun _ _ _ hreq => by cases hreq⟩)⟩
    · exact ⟨rfl, .inr (.inr ⟨rfl, fun _ _ _ hreq => by cases hreq⟩)⟩
  | confirmDeclaration ctx declarationId wholesalerId =>
    simp only [execute, bind_eq_ok, pure_eq_ok, Prod.mk.injEq, Prod.exists] at h
    obtain ⟨_, _, h, rfl, -⟩ := h
    obtain ⟨o, d, ho, hdel, hfind, hw, hid, -, hcase⟩ := confirmDeclaration_cases h
    have hlocated : db.getByWholesalerDualKey declarationId wholesalerId = some d := by
      rw [Db.getByWholesalerDualKey, hfind, Option.filter_some, if_pos (by simpa using hw)]
    rcases hcase with ⟨hst, -, rfl⟩ | ⟨hst, -, -, books, hpay, rfl⟩
    · exact ⟨rfl, .inr (.inr ⟨rfl, by simp [Command.payment?, hlocated, hst]⟩)⟩
    · have hasked : Command.payment? db (.confirmDeclaration ctx declarationId wholesalerId) =
          some (ctx, o.id, confirmationRequest d) := by
        simp [Command.payment?, hlocated, hst, hid]
      rcases Books.confirmPaymentForLockedOrder_eq_ok ho hdel hpay with ⟨rfl, hr⟩ | ⟨plan, row,
        inserted, hnew, hx⟩
      · refine ⟨rfl, .inr (.inr ⟨rfl, fun ctx' id req hreq => ?_⟩)⟩
        simp only [hasked, Option.some.injEq, Prod.mk.injEq] at hreq
        obtain ⟨-, -, rfl⟩ := hreq
        rw [hr.found]
        exact Option.some_ne_none _
      · exact ⟨rfl, .inl ⟨o, ctx, _, plan, row, inserted, _, ho, hdel, hasked, hnew, hx⟩⟩
  | rejectDeclaration declarationId wholesalerId =>
    simp only [execute, bind_eq_ok, pure_eq_ok, Prod.mk.injEq] at h
    obtain ⟨_, h, rfl, -⟩ := h
    obtain ⟨d, -, -, rfl⟩ := rejectDeclaration_eq_ok h
    exact ⟨rfl, .inr (.inr ⟨rfl, fun _ _ _ hreq => by cases hreq⟩)⟩
  | fulfillOrder orderId =>
    simp only [execute, bind_eq_ok, pure_eq_ok, Prod.mk.injEq, Prod.exists] at h
    obtain ⟨_, _, h, rfl, -⟩ := h
    obtain ⟨o, items, w, ho, -, -, hst, -, -, rfl, -⟩ := fulfillOrder_eq_ok h
    exact ⟨rfl, .inr (.inl ⟨rfl, .fulfill o ho hst⟩)⟩
  | returnOrder orderId =>
    simp only [execute, bind_eq_ok, pure_eq_ok, Prod.mk.injEq, Prod.exists] at h
    obtain ⟨_, _, h, rfl, -⟩ := h
    obtain ⟨o, items, w, m, n, ho, -, -, hst, -, -, hm, hn, rfl, -⟩ := returnOrder_eq_ok h
    exact ⟨rfl, .inr (.inl ⟨rfl, .return o ho hst hm hn⟩)⟩
  | adjustStock skuCode quantity =>
    simp only [execute, bind_eq_ok, pure_eq_ok, Prod.mk.injEq] at h
    obtain ⟨_, -, rfl, -⟩ := h
    exact ⟨rfl, .inr (.inr ⟨rfl, fun _ _ _ hreq => by cases hreq⟩)⟩

/-- The request a command asks for is its own, or that of a declaration. -/
theorem Command.admits_payment (hc : c.Admits admitted)
    (hdecl : (∃ ctx i w, c = .confirmDeclaration ctx i w) → ∀ d, admitted (confirmationRequest d))
    {ctx : InsertContext} {id : Uuid} {req : PaymentRequest} (h : c.payment? db = some (ctx, id, req)) : admitted req := by
  cases c with
  | confirmPayment ctx' orderId request =>
    obtain ⟨_, -, heq⟩ := Option.map_eq_some_iff.mp h
    simp only [Prod.mk.injEq] at heq
    obtain ⟨-, -, rfl⟩ := heq
    exact hc
  | confirmDeclaration ctx' declarationId wholesalerId =>
    obtain ⟨d, -, heq⟩ := Option.map_eq_some_iff.mp h
    simp only [Prod.mk.injEq] at heq
    obtain ⟨-, -, rfl⟩ := heq
    exact hdecl ⟨ctx', declarationId, wholesalerId, rfl⟩ d
  | _ => simp [payment?] at h

/-- An accepted command made one write on the money side, or none; the tenant stays the same. -/
theorem execute_books (hc : c.Admits admitted)
    (hdecl : (∃ ctx i w, c = .confirmDeclaration ctx i w) → ∀ d, admitted (confirmationRequest d))
    (h : execute db c = .ok (db', r)) : db'.tenantId = db.tenantId ∧
      (db'.books = db.books ∨ Books.Step db.tenantId admitted db.books db'.books) := by
  obtain ⟨htenant, ⟨o, ctx, req, plan, row, inserted, res, ho, hdel, hasked, -, hx⟩ |
    ⟨-, hstep⟩ | ⟨hsame, -⟩⟩ := execute_cases h
  · exact ⟨htenant, .inr (.pay o req ho hdel (Command.admits_payment hc hdecl hasked) hx)⟩
  · exact ⟨htenant, .inr (hstep.mono nofun)⟩
  · exact ⟨htenant, .inl hsame⟩

end Execute

end Mpango
