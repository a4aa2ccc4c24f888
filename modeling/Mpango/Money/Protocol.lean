import Mpango.Money.ExactlyOnce
import Mpango.Money.Receipts
import Mathlib.Logic.Relation

/-!
# The declaration protocol

Whatever transactions come in between, a declaration is pending until it is confirmed or rejected
and stays what it became. `Db.Effect` is what one transaction does to the declarations and the
books, whether it is a command (`execute_effect`) or the commit of a call in flight
(`Moved.effect`); `Declared` relates the two tables, and every effect keeps it. What is left is
the replay: a confirmed declaration is answered by its own payment, as long as the receipt on it
is recognised.
-/

namespace Mpango

open Decimal

/-! ## Keys -/

/-- A request as the pay route makes it: the key passed the route's checks, nothing is completed
from the start and no receipt is wanted. -/
structure PaymentRequest.Routed (req : PaymentRequest) : Prop where
  key : ∃ header, validateIdempotencyKey header = .ok req.idempotencyKey
  forceCompleted : req.forceCompleted = false
  allocateReceipt : req.allocateReceipt = false

theorem declarationKey_inj {i j : Uuid} : declarationKey i = declarationKey j ↔ i = j := by
  refine ⟨fun h => ?_, fun h => h ▸ rfl⟩
  have hlist := congrArg String.toList h
  rw [declarationKey, declarationKey, String.toList_append, String.toList_append] at hlist
  exact Uuid.hex_inj.mp (String.toList_inj.mp (List.append_cancel_left hlist))

theorem declarationKey_length (i : Uuid) : (declarationKey i).length ≤ 64 := by
  rw [declarationKey, String.length_append, Uuid.length_hex]
  decide

/-- The route lets no key through that a confirmation uses. -/
theorem validateIdempotencyKey_ne_declarationKey {header : Option String} {key : String}
    (h : validateIdempotencyKey header = .ok key) (i : Uuid) : key ≠ declarationKey i := by
  rintro rfl
  unfold validateIdempotencyKey at h
  simp only [bind_eq_ok, refuseIf_eq_ok, exists_const, pure_eq_ok] at h
  obtain ⟨-, -, -, hprefix, hkey⟩ := h
  rw [hkey, declarationKey, String.toList_append, List.isPrefixOf_iff_prefix] at hprefix
  exact hprefix (List.prefix_append _ _)

/-! ## One transaction -/

/-- What one transaction does to the declarations and the books. A confirmation executes a payment
under its own key, or finds that key used. -/
inductive Db.Effect (admitted : PaymentRequest → Prop) (db : Db) : Db → Prop
  | books {db' : Db} : db'.declarations = db.declarations →
      db'.books = db.books ∨ Books.Step db.tenantId admitted db.books db'.books →
      Effect admitted db db'
  | submit {declarations : Table PaymentDeclaration} (o : Order) (d : PaymentDeclaration) :
      o ∈ db.books.orders → o.isDeleted = false → d.orderId = o.id →
      d.retailerId = o.retailerId → d.wholesalerId = o.wholesalerId →
      (∀ t, d.transferReference = some t → t.length ≤ 128) → d.status = .pending →
      db.declarations.insert? d = some declarations →
      Effect admitted db { db with declarations }
  | confirm {books : Books} {res : CanonicalPaymentResult} (o : Order) (d : PaymentDeclaration) :
      o ∈ db.books.orders → d ∈ db.declarations → d.status = .pending → d.orderId = o.id →
      db.books.ActivelyBound d.wholesalerId d.retailerId →
      (books = db.books ∧ db.books.HasKey (declarationKey d.id) ∨ ∃ ctx plan row inserted,
        db.books.Executed ctx o (confirmationRequest d) plan row inserted books res) →
      Effect admitted db { db with
        books
        declarations := db.declarations.set { d with
          status := .confirmed, confirmationPaymentId := some res.paymentRecord.id } }
  | reject (d : PaymentDeclaration) : d ∈ db.declarations → d.status = .pending →
      Effect admitted db { db with
        declarations := db.declarations.set { d with status := .rejected } }

section Effects
variable {admitted : PaymentRequest → Prop} {db db' : Db}

/-- An accepted command has such an effect. -/
theorem execute_effect {c : Command} {r : Outcome} (hc : c.Admits admitted)
    (h : execute db c = .ok (db', r)) : db.Effect admitted db' := by
  cases c with
  | submitDeclaration newId orderId retailerId wholesalerId amount method reference key =>
    simp only [execute, bind_eq_ok, pure_eq_ok, Prod.mk.injEq, Prod.exists] at h
    obtain ⟨_, d, _, h, rfl, -⟩ := h
    rcases submitDeclaration_eq_ok h with rfl | ⟨o, declarations, ho, hlive, -, hid, hret, hwhole,
      hfits, hst, hins, rfl⟩
    · exact .books rfl (.inl rfl)
    · exact .submit o d ho hlive hid hret hwhole hfits hst hins
  | confirmDeclaration ctx declarationId wholesalerId =>
    simp only [execute, bind_eq_ok, pure_eq_ok, Prod.mk.injEq, Prod.exists] at h
    obtain ⟨_, _, h, rfl, -⟩ := h
    obtain ⟨o, d, ho, hdel, hfind, hw, hid, -, ⟨-, -, rfl⟩ | ⟨hst, hretailer, hbound, books, hpay,
      rfl⟩⟩ := confirmDeclaration_cases h
    · exact .books rfl (.inl rfl)
    · refine .confirm o d ho (Table.mem_of_find? hfind) hst hid (by rwa [hw, hretailer]) ?_
      rcases Books.confirmPaymentForLockedOrder_eq_ok ho hdel hpay with ⟨hsame, hr⟩ | ⟨plan,
        row, inserted, -, hx⟩
      · obtain ⟨hmem, hkey, -⟩ := Books.getByIdempotencyKey_some hr.found
        exact .inl ⟨hsame, _, hmem, hkey⟩
      · exact .inr ⟨ctx, plan, row, inserted, hx⟩
  | rejectDeclaration declarationId wholesalerId =>
    simp only [execute, bind_eq_ok, pure_eq_ok, Prod.mk.injEq] at h
    obtain ⟨_, h, rfl, -⟩ := h
    obtain ⟨d, hfind, hst, rfl⟩ := rejectDeclaration_eq_ok h
    exact .reject d (Table.mem_of_find? hfind) hst
  | createOrder orderId retailerId items =>
    refine .books ?_ (execute_books hc (by simp) h).2
    simp only [execute, bind_eq_ok, pure_eq_ok, Prod.mk.injEq, Prod.exists] at h
    obtain ⟨_, _, h, rfl, -⟩ := h
    obtain ⟨o, orders, rows, -, -, -, -, -, -, -, -, -, -, -, rfl, -⟩ := createOrder_eq_ok h
    rfl
  | confirmOrder orderId updatedBy =>
    refine .books ?_ (execute_books hc (by simp) h).2
    simp only [execute, bind_eq_ok, pure_eq_ok, Prod.mk.injEq, Prod.exists] at h
    obtain ⟨_, _, h, rfl, -⟩ := h
    obtain ⟨o, items, w, holds, bindings, -, -, -, -, -, -, -, -, -, -, -, rfl, -⟩ :=
      confirmOrder_eq_ok h
    rfl
  | cancelOrder orderId =>
    refine .books ?_ (execute_books hc (by simp) h).2
    simp only [execute, bind_eq_ok, pure_eq_ok, Prod.mk.injEq, Prod.exists] at h
    obtain ⟨_, _, h, rfl, -⟩ := h
    obtain ⟨o, w, -, -, -, -, -, ⟨-, -, rfl⟩ | ⟨-, hold, bindings, -, -, -, -, -, rfl⟩⟩ :=
      cancelOrder_eq_ok h
    · rfl
    · rfl
  | applyTransition orderId target paymentMethod =>
    refine .books ?_ (execute_books hc (by simp) h).2
    simp only [execute, bind_eq_ok, pure_eq_ok, Prod.mk.injEq, Prod.exists] at h
    obtain ⟨_, _, h, rfl, -⟩ := h
    obtain ⟨o, -, -, -, -, -, rfl, -⟩ := applyTransition_eq_ok h
    rfl
  | confirmPayment ctx orderId request =>
    refine .books ?_ (execute_books hc (by simp) h).2
    simp only [execute, bind_eq_ok, pure_eq_ok, Prod.mk.injEq, Prod.exists] at h
    obtain ⟨_, _, -, rfl, -⟩ := h
    rfl
  | fulfillOrder orderId =>
    refine .books ?_ (execute_books hc (by simp) h).2
    simp only [execute, bind_eq_ok, pure_eq_ok, Prod.mk.injEq, Prod.exists] at h
    obtain ⟨_, _, h, rfl, -⟩ := h
    obtain ⟨o, items, w, -, -, -, -, -, -, rfl, -⟩ := fulfillOrder_eq_ok h
    rfl
  | returnOrder orderId =>
    refine .books ?_ (execute_books hc (by simp) h).2
    simp only [execute, bind_eq_ok, pure_eq_ok, Prod.mk.injEq, Prod.exists] at h
    obtain ⟨_, _, h, rfl, -⟩ := h
    obtain ⟨o, items, w, m, n, -, -, -, -, -, -, -, -, rfl, -⟩ := returnOrder_eq_ok h
    rfl
  | adjustStock skuCode quantity =>
    refine .books ?_ (execute_books hc (by simp) h).2
    simp only [execute, bind_eq_ok, pure_eq_ok, Prod.mk.injEq] at h
    obtain ⟨_, -, rfl, -⟩ := h
    rfl

open Service in
/-- So has the move of a call in flight, if it changes the tenant at all. -/
theorem Service.Moved.effect {ι : Type} [DecidableEq ι] {calls : ι → Call} {s s' : Service ι} {i : ι}
    (hadm : (calls i).Admits admitted) (h : Moved calls s i s') :
    s'.db = s.db ∨ s.db.Effect admitted s'.db := by
  cases h with
  | search _ | lock _ _ _ _ _ _ _ | check _ _ _ _ | recheck _ _ _ _ | plan _ _ _ _ _
  | refuse _ _ _ _ | answer _ _ _ _ => exact .inl rfl
  | @replay db o seen res hrun hlock hpending hdb hr =>
    show db = s.db ∨ s.db.Effect admitted db
    cases hcall : calls i with
    | payment ctx orderId request =>
      rw [hcall] at hdb
      exact .inl (Except.ok.inj hdb).symm
    | confirmation ctx declarationId wholesalerId =>
      -- the payment that was found carries the confirmation's key
      rw [hcall] at hdb
      obtain ⟨d, hfind, -, hst, rfl⟩ := Db.markConfirmed_eq_ok.mp hdb
      obtain ⟨d', hfind', -, -, hid, hbound⟩ : ∃ d,
          s.db.declarations.find? declarationId = some d ∧ d.wholesalerId = wholesalerId ∧
            d.status = .pending ∧ d.orderId = o.id ∧
            s.db.books.ActivelyBound d.wholesalerId d.retailerId := by
        rw [hcall] at hpending
        exact hpending
      obtain rfl : d = d' := Option.some.inj (hfind.symm.trans hfind')
      refine .inr (.confirm o d hlock.mem (Table.mem_of_find? hfind) hst hid hbound (.inl ⟨rfl, ?_⟩))
      obtain ⟨status, hstored⟩ := hr.stored
      obtain ⟨req, hreq, hrepeats⟩ := hr.repeats
      have hkey := hrepeats.key.trans (Call.key_of_request? hreq)
      rw [hcall] at hkey
      exact ⟨_, hstored, hkey.trans (congrArg declarationKey (Table.key_of_find? hfind).symm)⟩
  | @write db inserted books a hcall hphase hlock hreq hx hdb =>
    show db = s.db ∨ s.db.Effect admitted db
    subst hcall
    cases hcall : calls a.call with
    | payment ctx orderId request =>
      rw [hcall] at hdb hadm
      have hrequest : a.request = request := by
        have := hreq.request
        rw [hcall] at this
        exact (Option.some.inj this).symm
      obtain rfl := Except.ok.inj hdb
      exact .inr (.books rfl (.inr (.pay a.order a.request hlock.mem hlock.live
        (hrequest ▸ hadm) hx)))
    | confirmation ctx declarationId wholesalerId =>
      rw [hcall] at hdb
      obtain ⟨d, hfind, -, hst, rfl⟩ := Db.markConfirmed_eq_ok.mp hdb
      obtain ⟨d', hfind', -, -, hid, hbound⟩ : ∃ d,
          s.db.declarations.find? declarationId = some d ∧ d.wholesalerId = wholesalerId ∧
            d.status = .pending ∧ d.orderId = a.order.id ∧
            s.db.books.ActivelyBound d.wholesalerId d.retailerId := by
        have := hreq.pending
        rw [hcall] at this
        exact this
      obtain rfl : d = d' := Option.some.inj (hfind.symm.trans hfind')
      have hrequest : a.request = confirmationRequest d := by
        have := hreq.request
        rw [hcall] at this
        simpa [Call.request?, hfind] using this.symm
      rw [hrequest] at hx
      exact .inr (.confirm a.order d hlock.mem (Table.mem_of_find? hfind) hst hid hbound
        (.inr ⟨_, _, _, _, hx⟩))

open Service in
/-- What every effect keeps, a round of calls keeps. -/
theorem serve_induction {P : Db → Prop} (step : ∀ db db', P db → db.Effect admitted db' → P db')
    {ι : Type} [DecidableEq ι] {calls : ι → Call} (hadm : ∀ i, (calls i).Admits admitted)
    (hP : P db) (events : List (Event ι)) : P (serve calls db events).db := by
  unfold serve
  suffices h : ∀ s, Inv calls db s → P s.db → P (events.foldl (handle calls) s).db by
    exact h _ { phases := fun _ => trivial, serial := .nil
                applied := fun a ha => by simp [start] at ha } hP
  induction events with
  | nil => exact fun _ _ h => h
  | cons event events ih =>
    intro s hinv hs
    refine ih _ (hinv.handle event) ?_
    cases event with
    | abort i =>
      show P (s.abort i).db
      unfold Service.abort
      split <;> exact hs
    | advance i =>
      show P ((s.advance calls i).getD s).db
      cases hmove : s.advance calls i with
      | none => exact hs
      | some s' =>
        rcases (advance_moved (hinv.phases i) hmove).effect (hadm i) with hsame | heffect
        · rw [Option.getD_some, hsame]
          exact hs
        · exact step _ _ hs heffect

/-- What every effect keeps, every state served from one with it has. -/
theorem Served.induction {P : Db → Prop} {db₀ : Db} (h : Served admitted db₀ db) (start : P db₀)
    (step : ∀ db db', P db → db.Effect admitted db' → P db') : P db := by
  induction h with
  | start => exact start
  | command _ hc hx ih => exact step _ _ ih (execute_effect hc hx)
  | round calls events _ hadm ih => exact serve_induction step hadm ih events

end Effects

/-! ## What the tables keep of each other -/

namespace Books

variable {b b' inserted : Books} {o : Order} {req : PaymentRequest} {plan : PaymentPlan}
  {row : Payment} {ctx : InsertContext} {res : CanonicalPaymentResult} {tenantId : Uuid}
  {admitted : PaymentRequest → Prop}

/-- Every order is still there, with its parties. -/
def OrdersKept (b b' : Books) : Prop :=
  ∀ o ∈ b.orders, ∃ o' ∈ b'.orders, o'.id = o.id ∧ o'.isDeleted = o.isDeleted ∧
    o'.retailerId = o.retailerId ∧ o'.wholesalerId = o.wholesalerId

theorem OrdersKept.refl (h : b'.orders = b.orders) : OrdersKept b b' := by
  intro o ho
  exact ⟨o, h ▸ ho, rfl, rfl, rfl, rfl⟩

/-- Writing a status keeps every order. -/
theorem OrdersKept.assign {target : OrderState} (ho : o ∈ b.orders)
    (h : b'.orders = b.orders.set { o with status := target }) : OrdersKept b b' := by
  intro x hx
  by_cases hid : x.id = o.id
  · obtain rfl : x = o := Table.eq_of_key_eq hx ho hid
    have hmem : { x with status := target } ∈ b.orders.set { x with status := target } :=
      Table.mem_set.mpr (.inr ⟨rfl, x, hx, rfl⟩)
    exact ⟨{ x with status := target }, h ▸ hmem, rfl, rfl, rfl, rfl⟩
  · exact ⟨x, h ▸ Table.mem_set.mpr (.inl ⟨hx, hid⟩), rfl, rfl, rfl, rfl⟩

theorem Executed.ordersKept (ho : o ∈ b.orders)
    (hx : b.Executed ctx o req plan row inserted b' res) : OrdersKept b b' := by
  have hins := hx.insert.frame
  rcases hx.cases with ⟨-, -, ⟨hold', ht⟩, -⟩ | ⟨-, -, ht, -⟩ | ⟨-, ht, -⟩
  · exact .assign ho (by rw [ht.frame, hins])
  · exact .assign ho (by rw [ht.frame, hins])
  · exact .refl (by rw [ht.frame, hins])

theorem Step.ordersKept (h : Step tenantId admitted b b') : OrdersKept b b' := by
  cases h with
  | create o hins _ _ _ =>
    intro x hx
    exact ⟨x, (Table.mem_insert? hins).mpr (.inl hx), rfl, rfl, rfl, rfl⟩
  | drop o target ho _ _ => exact .assign ho rfl
  | confirm o ho _ _ _ _ _ => exact .assign ho rfl
  | cancel o hold ho _ _ _ _ _ _ => exact .assign ho rfl
  | pay o req ho _ _ hx => exact hx.ordersKept ho
  | fulfill o ho _ => exact .assign ho rfl
  | «return» o ho _ _ _ => exact .assign ho rfl

theorem Step.bindingsKept (h : Step tenantId admitted b b') : BindingsKept b b' := by
  have hmoved : ∀ {w r : Uuid} {z : ℤ} {b' : Books},
      BalanceMoved b.bindings w r z b'.bindings → BindingsKept b b' := fun h => h.updated.kept
  cases h with
  | confirm o ho _ _ _ _ hbal => exact hmoved hbal
  | cancel o hold ho _ _ _ _ _ hbal => exact hmoved hbal
  | pay o req ho _ _ hx => exact hx.bindingsKept
  | create _ _ _ _ _ | drop _ _ _ _ _ | fulfill _ _ _ | «return» _ _ _ _ _ =>
    exact .refl rfl

/-- The payments after a transaction are those before it, some of them completed, and one new
row at most. -/
structure PaymentsKept (b b' : Books) (new : Payment → Prop) : Prop where
  kept : ∀ p ∈ b.payments, ∃ status, { p with status } ∈ b'.payments ∧
    (p.status = .completed → status = .completed)
  origin : ∀ p ∈ b'.payments, new p ∨ ∃ q ∈ b.payments, ∃ status, p = { q with status } ∧
    (q.status = .completed → status = .completed)

theorem PaymentsKept.refl {new : Payment → Prop} (h : b'.payments = b.payments) :
    PaymentsKept b b' new where
  kept p hp := ⟨p.status, h ▸ hp, id⟩
  origin p hp := .inr ⟨p, h ▸ hp, p.status, rfl, id⟩

theorem Executed.paymentsKept (hx : b.Executed ctx o req plan row inserted b' res) :
    PaymentsKept b b' fun p => ∃ status, p = { row with status } ∧
      (row.status = .completed → status = .completed) := by
  obtain ⟨status, hdone, hmem⟩ := hx.mem_payments
  constructor
  · intro p hp
    exact ⟨status p, (hmem _).mpr ⟨p, .inl hp, rfl⟩, hdone p⟩
  · intro p hp
    obtain ⟨q, hq | rfl, rfl⟩ := (hmem p).mp hp
    · exact .inr ⟨q, hq, status q, rfl, hdone q⟩
    · exact .inl ⟨status q, rfl, hdone q⟩

end Books

/-- A payment carries out a declaration: it is complete, on the declaration's order and retailer,
for its amount, method and reference, under its key and with a receipt. -/
structure Payment.Confirms (p : Payment) (d : PaymentDeclaration) : Prop where
  key : p.idempotencyKey = declarationKey d.id
  orderId : p.orderId = d.orderId
  retailerId : p.retailerId = d.retailerId
  amount : p.amount = d.declaredAmount
  method : p.method = d.method
  reference : orNone p.transactionId = orNone d.transferReference
  status : p.status = .completed
  live : p.isDeleted = false
  receipt : ∃ day n, p.receiptNumber = some (Mpango.receiptNumber day n)

/-- Declarations and payments agree: a declaration is about its order and that order's parties, a
key of a confirmation is on the payment of a confirmed declaration, and a confirmed declaration
points at its payment and has its parties bound. -/
structure Declared (db : Db) : Prop where
  attributed : ∀ d ∈ db.declarations, ∃ o ∈ db.books.orders, o.id = d.orderId ∧
    o.isDeleted = false ∧ o.retailerId = d.retailerId ∧ o.wholesalerId = d.wholesalerId
  fits : ∀ d ∈ db.declarations, ∀ t, d.transferReference = some t → t.length ≤ 128
  keyed : ∀ p ∈ db.books.payments, ∀ i, p.idempotencyKey = declarationKey i →
    ∃ d ∈ db.declarations, d.id = i ∧ d.status = .confirmed ∧
      d.confirmationPaymentId = some p.id
  linked : ∀ d ∈ db.declarations, d.status = .confirmed → ∃ p ∈ db.books.payments,
    d.confirmationPaymentId = some p.id ∧ p.Confirms d
  receipted : ∀ p ∈ db.books.payments, p.receiptNumber ≠ none →
    ∃ i, p.idempotencyKey = declarationKey i
  bound : ∀ d ∈ db.declarations, d.status = .confirmed →
    db.books.ActivelyBound d.wholesalerId d.retailerId

section Declared
variable {db db' : Db} {b' inserted : Books} {o : Order} {d : PaymentDeclaration}
  {req : PaymentRequest} {plan : Books.PaymentPlan} {row : Payment} {ctx : InsertContext}
  {res : CanonicalPaymentResult}

/-- Completing a payment does not change what it carries out. -/
theorem Payment.Confirms.of_status {p : Payment} {status : PaymentStatus} (h : p.Confirms d)
    (hdone : p.status = .completed → status = .completed) :
    ({ p with status } : Payment).Confirms d :=
  { h with status := hdone h.status }

/-- A declaration that is not confirmed has no payment. -/
theorem Declared.unpaid (h : Declared db) (hd : d ∈ db.declarations) (hst : d.status ≠ .confirmed)
    {p : Payment} (hp : p ∈ db.books.payments) : p.idempotencyKey ≠ declarationKey d.id := by
  intro hkey
  obtain ⟨d', hd', hid, hconf, -⟩ := h.keyed p hp d.id hkey
  obtain rfl : d' = d := Table.eq_of_key_eq hd' hd hid
  exact hst hconf

/-- The payment a confirmation executes carries out its declaration. -/
theorem Books.Executed.confirms (hfits : ∀ t, d.transferReference = some t → t.length ≤ 128)
    (hid : d.orderId = o.id) (hret : d.retailerId = o.retailerId)
    (hx : db.books.Executed ctx o (confirmationRequest d) plan row inserted b' res) :
    row.Confirms d := by
  have hins := hx.insert
  have hdone : plan.paymentStatus = .completed := by
    rcases hx.checked with hs | hc
    · rw [hs.paymentStatus, if_pos (.inl rfl)]
    · exact hc.paymentStatus
  have hkey := hins.idempotencyKey
  rw [show (confirmationRequest d).idempotencyKey = declarationKey d.id from rfl,
    varchar_of_le (declarationKey_length d.id)] at hkey
  have hamount := hins.amount
  rw [show (confirmationRequest d).amount = d.declaredAmount.toDecimal from rfl,
    Numeric.toDecimal, storeMoney_scaled] at hamount
  have hreference : orNone row.transactionId = orNone d.transferReference := by
    have hstore := hins.transactionId
    rw [show (confirmationRequest d).transactionId = orNone d.transferReference from rfl] at hstore
    cases hr : orNone d.transferReference with
    | none =>
      rw [hr, storeTransactionId, Except.ok.injEq] at hstore
      rw [← hstore]
      rfl
    | some t =>
      have ht : d.transferReference = some t := (Option.filter_eq_some_iff.mp hr).1
      simp only [hr, storeTransactionId, bind_eq_ok, orRefuse_eq_ok, pure_eq_ok] at hstore
      obtain ⟨stored, hstored, hrow⟩ := hstore
      rw [varchar_of_le (hfits t ht), Option.some.injEq] at hstored
      rw [← hrow, ← hstored, ← hr, orNone_orNone, ht]
  have hreceipt : ∃ day n, row.receiptNumber = some (receiptNumber day n) := by
    rcases hins.receipt with ⟨-, -, hnot⟩ | ⟨-, -, b₁, number, halloc, hsome, -⟩
    · exact absurd ⟨rfl, hdone⟩ hnot
    · exact ⟨_, _, hsome.trans (congrArg some (Books.allocateReceiptNumber_eq_ok halloc).1)⟩
  exact
    { key := (Option.some.inj hkey).symm, orderId := hins.orderId.trans hid.symm
      retailerId := hins.retailerId.trans hret.symm, amount := Numeric.ext hamount
      method := hins.method, reference := hreference, status := hins.status.trans hdone
      live := hins.isDeleted, receipt := hreceipt }

/-- Any other payment: its key is no declaration's, and it has no receipt. -/
def Payment.Direct (p : Payment) : Prop :=
  (∀ i, p.idempotencyKey ≠ declarationKey i) ∧ p.receiptNumber = none

theorem Books.Executed.direct {b : Books} (hreq : req.Routed)
    (hx : b.Executed ctx o req plan row inserted b' res) : row.Direct := by
  obtain ⟨header, hkey⟩ := hreq.key
  have hstored := hx.insert.idempotencyKey
  rw [varchar_of_le (validateIdempotencyKey_length hkey)] at hstored
  refine ⟨fun i hi => ?_, ?_⟩
  · refine validateIdempotencyKey_ne_declarationKey hkey i ?_
    exact (Option.some.inj hstored).trans hi
  · rcases hx.insert.receipt with ⟨hnone, -, -⟩ | ⟨hwanted, -, -⟩
    · exact hnone
    · rw [hreq.allocateReceipt] at hwanted
      simp at hwanted

theorem Books.Step.paymentsKept {b : Books} {tenantId : Uuid} {admitted : PaymentRequest → Prop}
    (hadm : ∀ req, admitted req → req.Routed) (h : Step tenantId admitted b b') :
    PaymentsKept b b' Payment.Direct := by
  cases h with
  | pay o req ho _ hreq hx =>
    have hkept := hx.paymentsKept
    have hdirect := hx.direct (hadm req hreq)
    refine ⟨hkept.kept, fun p hp => (hkept.origin p hp).imp_left ?_⟩
    rintro ⟨status, rfl, -⟩
    exact ⟨hdirect.1, hdirect.2⟩
  | _ => exact .refl rfl

/-- A direct payment, or no payment, leaves the declarations' payments alone. -/
theorem Declared.books (h : Declared db) (hdecl : db'.declarations = db.declarations)
    (horders : Books.OrdersKept db.books db'.books)
    (hbindings : Books.BindingsKept db.books db'.books)
    (hpay : Books.PaymentsKept db.books db'.books Payment.Direct) : Declared db' := by
  refine
    { attributed := fun x hx => ?_, fits := fun x hx => h.fits x (hdecl ▸ hx)
      keyed := fun p hp i hkey => ?_, linked := fun x hx hst => ?_
      receipted := fun p hp hne => ?_
      bound := fun x hx hst => hbindings _ _ (h.bound x (hdecl ▸ hx) hst) }
  · obtain ⟨y, hy, hid, hlive, hret, hwhole⟩ := h.attributed x (hdecl ▸ hx)
    obtain ⟨z, hz, hzid, hzlive, hzret, hzwhole⟩ := horders y hy
    exact ⟨z, hz, hzid.trans hid, hzlive.trans hlive, hzret.trans hret, hzwhole.trans hwhole⟩
  · rcases hpay.origin p hp with hdirect | ⟨q, hq, status, rfl, -⟩
    · exact absurd hkey (hdirect.1 i)
    · rw [hdecl]
      exact h.keyed q hq i hkey
  · obtain ⟨p, hp, hlink, hconf⟩ := h.linked x (hdecl ▸ hx) hst
    obtain ⟨status, hp', hdone⟩ := hpay.kept p hp
    exact ⟨_, hp', hlink, hconf.of_status hdone⟩
  · rcases hpay.origin p hp with hdirect | ⟨q, hq, status, rfl, -⟩
    · exact absurd hdirect.2 hne
    · exact h.receipted q hq hne

/-- A confirmed declaration is not touched when another one is written. -/
theorem Declared.other {x : PaymentDeclaration} (h : Declared db) (hd : d ∈ db.declarations)
    (hst : d.status = .pending) {p : Payment} (hp : p ∈ db.books.payments) {i : Uuid}
    (hkey : p.idempotencyKey = declarationKey i) (hx : x.id = d.id) :
    ∃ y ∈ db.declarations.set x, y.id = i ∧ y.status = .confirmed ∧
      y.confirmationPaymentId = some p.id := by
  obtain ⟨y, hy, hid, hconf, hlink⟩ := h.keyed p hp i hkey
  refine ⟨y, Table.mem_set.mpr (.inl ⟨hy, fun hne => ?_⟩), hid, hconf, hlink⟩
  obtain rfl : y = d := Table.eq_of_key_eq hy hd (hne.trans hx)
  rw [hst] at hconf
  simp at hconf

theorem Declared.confirm (h : Declared db) (hd : d ∈ db.declarations) (hst : d.status = .pending)
    (ho : o ∈ db.books.orders) (hid : d.orderId = o.id)
    (hbound : db.books.ActivelyBound d.wholesalerId d.retailerId)
    (hx : db.books.Executed ctx o (confirmationRequest d) plan row inserted b' res) :
    Declared { db with
      books := b'
      declarations := db.declarations.set { d with
        status := .confirmed, confirmationPaymentId := some res.paymentRecord.id } } := by
  have hret : d.retailerId = o.retailerId := by
    obtain ⟨y, hy, hyid, -, hyret, -⟩ := h.attributed d hd
    obtain rfl : y = o := Table.eq_of_key_eq hy ho (hyid.trans hid)
    exact hyret.symm
  have hrow := hx.confirms (h.fits d hd) hid hret
  have hpay := hx.paymentsKept
  obtain ⟨⟨status, hrec⟩, hstored, -⟩ := hx.record_eq
  have hrecid : res.paymentRecord.id = row.id := by rw [hrec]
  have hmem : ∀ x, x ∈ db.declarations.set { d with
      status := .confirmed, confirmationPaymentId := some res.paymentRecord.id } →
      x ∈ db.declarations ∧ x.id ≠ d.id ∨ x = { d with
        status := .confirmed, confirmationPaymentId := some res.paymentRecord.id } :=
    fun x hx => (Table.mem_set.mp hx).imp id And.left
  have hown : { d with
      status := .confirmed, confirmationPaymentId := some res.paymentRecord.id } ∈
      db.declarations.set { d with
        status := .confirmed, confirmationPaymentId := some res.paymentRecord.id } :=
    Table.mem_set.mpr (.inr ⟨rfl, d, hd, rfl⟩)
  refine
    { attributed := fun x hx' => ?_, fits := fun x hx' => ?_, keyed := fun p hp i hkey => ?_
      linked := fun x hx' hconf => ?_, receipted := fun p hp hne => ?_
      bound := fun x hx' hconf => hx.bindingsKept _ _ ?_ }
  · have hold : ∃ y ∈ db.declarations, y.orderId = x.orderId ∧ y.retailerId = x.retailerId ∧
        y.wholesalerId = x.wholesalerId := by
      rcases hmem x hx' with ⟨hx', -⟩ | rfl
      · exact ⟨x, hx', rfl, rfl, rfl⟩
      · exact ⟨d, hd, rfl, rfl, rfl⟩
    obtain ⟨y, hy, hyid, hyret, hywhole⟩ := hold
    obtain ⟨z, hz, hzid, hzlive, hzret, hzwhole⟩ := h.attributed y hy
    obtain ⟨z', hz', hid', hlive', hret', hwhole'⟩ := hx.ordersKept ho z hz
    exact ⟨z', hz', hid'.trans (hzid.trans hyid), hlive'.trans hzlive,
      hret'.trans (hzret.trans hyret), hwhole'.trans (hzwhole.trans hywhole)⟩
  · rcases hmem x hx' with ⟨hx', -⟩ | rfl
    · exact h.fits x hx'
    · exact h.fits d hd
  · rcases hpay.origin p hp with ⟨status', rfl, -⟩ | ⟨q, hq, status', rfl, -⟩
    · have hi : d.id = i := declarationKey_inj.mp (hrow.key.symm.trans hkey)
      exact ⟨_, hown, hi, rfl, congrArg some hrecid⟩
    · exact h.other hd hst hq hkey rfl
  · rcases hmem x hx' with ⟨hx', -⟩ | rfl
    · obtain ⟨p, hp, hlink, hconf'⟩ := h.linked x hx' hconf
      obtain ⟨status', hp', hdone⟩ := hpay.kept p hp
      exact ⟨_, hp', hlink, hconf'.of_status hdone⟩
    · refine ⟨res.paymentRecord, hstored, rfl, ?_⟩
      rcases hpay.origin _ hstored with ⟨status', heq, hdone⟩ | ⟨q, hq, status', heq, -⟩
      · have hconf' := hrow.of_status hdone
        rw [← heq] at hconf'
        exact { hconf' with }
      · -- the new row's id was on no payment
        have hfresh := (Books.paymentUniqueViolation?_eq_none.mp hx.insert.fresh).1
        rw [Table.find?_eq_none] at hfresh
        refine absurd ?_ (hfresh q hq)
        have hqid : res.paymentRecord.id = q.id := by rw [heq]
        exact hqid.symm.trans hrecid
  · rcases hpay.origin p hp with ⟨status', rfl, -⟩ | ⟨q, hq, status', rfl, -⟩
    · exact ⟨d.id, hrow.key⟩
    · exact h.receipted q hq hne
  · rcases hmem x hx' with ⟨hx', -⟩ | rfl
    · exact h.bound x hx' hconf
    · exact hbound

/-- Every transaction keeps declarations and payments in agreement. -/
theorem Declared.effect {admitted : PaymentRequest → Prop}
    (hadm : ∀ req, admitted req → req.Routed) (h : Declared db) (he : db.Effect admitted db') :
    Declared db' := by
  cases he with
  | books hdecl hbooks =>
    rcases hbooks with hsame | hstep
    · exact h.books hdecl (.refl (by rw [hsame])) (.refl (by rw [hsame])) (.refl (by rw [hsame]))
    · exact h.books hdecl hstep.ordersKept hstep.bindingsKept (hstep.paymentsKept hadm)
  | @submit declarations o d ho hlive hid hret hwhole hfits hst hins =>
    have hmem : ∀ x, x ∈ declarations ↔ x ∈ db.declarations ∨ x = d :=
      fun x => Table.mem_insert? hins
    refine
      { attributed := fun x hx => ?_, fits := fun x hx => ?_, keyed := fun p hp i hkey => ?_
        linked := fun x hx hconf => ?_, receipted := h.receipted
        bound := fun x hx hconf => ?_ }
    · rcases (hmem x).mp hx with hx | rfl
      · exact h.attributed x hx
      · exact ⟨o, ho, hid.symm, hlive, hret.symm, hwhole.symm⟩
    · rcases (hmem x).mp hx with hx | rfl
      · exact h.fits x hx
      · exact hfits
    · obtain ⟨y, hy, hrest⟩ := h.keyed p hp i hkey
      exact ⟨y, (hmem y).mpr (.inl hy), hrest⟩
    · rcases (hmem x).mp hx with hx | rfl
      · exact h.linked x hx hconf
      · rw [hst] at hconf
        simp at hconf
    · rcases (hmem x).mp hx with hx | rfl
      · exact h.bound x hx hconf
      · rw [hst] at hconf
        simp at hconf
  | confirm o d ho hd hst hid hbound hpaid =>
    rcases hpaid with ⟨-, p, hp, hkey⟩ | ⟨ctx, plan, row, inserted, hx⟩
    · exact absurd hkey (h.unpaid hd (by simp [hst]) hp)
    · exact h.confirm hd hst ho hid hbound hx
  | reject d hd hst =>
    have hmem : ∀ x, x ∈ db.declarations.set { d with status := .rejected } →
        x ∈ db.declarations ∧ x.id ≠ d.id ∨ x = { d with status := .rejected } :=
      fun x hx => (Table.mem_set.mp hx).imp id And.left
    refine
      { attributed := fun x hx => ?_, fits := fun x hx => ?_
        keyed := fun p hp i hkey => h.other hd hst hp hkey rfl
        linked := fun x hx hconf => ?_, receipted := h.receipted
        bound := fun x hx hconf => ?_ }
    · rcases hmem x hx with ⟨hx, -⟩ | rfl
      · exact h.attributed x hx
      · exact h.attributed d hd
    · rcases hmem x hx with ⟨hx, -⟩ | rfl
      · exact h.fits x hx
      · exact h.fits d hd
    · rcases hmem x hx with ⟨hx, -⟩ | rfl
      · exact h.linked x hx hconf
      · simp at hconf
    · rcases hmem x hx with ⟨hx, -⟩ | rfl
      · exact h.bound x hx hconf
      · simp at hconf

/-! ## The moves of a declaration -/

/-- One move of a declaration: it is submitted, and then confirmed or rejected. -/
inductive PaymentDeclaration.Move : Option PaymentDeclaration → Option PaymentDeclaration → Prop
  | submit (d : PaymentDeclaration) : d.status = .pending → Move none (some d)
  | confirm (d : PaymentDeclaration) (paymentId : Uuid) : d.status = .pending →
      Move (some d)
        (some { d with status := .confirmed, confirmationPaymentId := some paymentId })
  | reject (d : PaymentDeclaration) : d.status = .pending →
      Move (some d) (some { d with status := .rejected })

/-- Every transaction moves a declaration once, or not at all. -/
theorem Db.Effect.move {admitted : PaymentRequest → Prop} (he : db.Effect admitted db') (i : Uuid) :
    db'.declarations.find? i = db.declarations.find? i ∨
      PaymentDeclaration.Move (db.declarations.find? i) (db'.declarations.find? i) := by
  have hset : ∀ d x : PaymentDeclaration, d ∈ db.declarations → x.id = d.id →
      (db.declarations.set x).find? i = db.declarations.find? i ∨
        db.declarations.find? i = some d ∧ (db.declarations.set x).find? i = some x := by
    intro d x hd hx
    by_cases hi : i = d.id
    · subst hi
      have hfind : db.declarations.find? (key x) = some d := by
        rw [key_paymentDeclaration, hx]
        exact Table.find?_key hd
      refine .inr ⟨Table.find?_key hd, ?_⟩
      rw [← hx]
      exact Table.find?_set_self hfind
    · exact .inl (Table.find?_set_of_ne (by rw [key_paymentDeclaration, hx]; exact hi))
  cases he with
  | books hdecl _ => exact .inl (by rw [hdecl])
  | submit o d _ _ _ _ _ _ hst hins =>
    show Table.find? _ i = _ ∨ _
    rw [Table.find?_insert? hins]
    by_cases hi : i = d.id
    · have hnew := (Table.insert?_eq_some.mp hins).1
      rw [key_paymentDeclaration] at hnew ⊢
      rw [if_pos hi, hi, hnew]
      exact .inr (.submit d hst)
    · exact .inl (if_neg hi)
  | @confirm books res o d _ hd hst _ _ =>
    refine (hset d { d with
      status := .confirmed, confirmationPaymentId := some res.paymentRecord.id } hd rfl).imp_right ?_
    rintro ⟨hfind, hfind'⟩
    rw [hfind, hfind']
    exact .confirm d _ hst
  | reject d hd hst =>
    refine (hset d { d with status := .rejected } hd rfl).imp_right ?_
    rintro ⟨hfind, hfind'⟩
    rw [hfind, hfind']
    exact .reject d hst

/-- A declaration that is settled does not move again. -/
theorem PaymentDeclaration.eq_of_moves {x : Option PaymentDeclaration} (hst : d.status ≠ .pending)
    (h : Relation.ReflTransGen PaymentDeclaration.Move (some d) x) : x = some d := by
  induction h with
  | refl => rfl
  | tail _ hmove ih =>
    subst ih
    cases hmove with
    | confirm _ _ hpending => exact absurd hpending hst
    | reject _ hpending => exact absurd hpending hst

theorem Served.moves {admitted : PaymentRequest → Prop} (h : Served admitted db db') (i : Uuid) :
    Relation.ReflTransGen PaymentDeclaration.Move (db.declarations.find? i)
      (db'.declarations.find? i) := by
  refine h.induction (P := fun db' => Relation.ReflTransGen PaymentDeclaration.Move
    (db.declarations.find? i) (db'.declarations.find? i)) .refl fun db₁ db₂ hmoves he => ?_
  rcases he.move i with hsame | hmove
  · rw [hsame]
    exact hmoves
  · exact hmoves.tail hmove

/-- A completed payment stays exactly as it is. -/
theorem Db.Effect.payment_mem {admitted : PaymentRequest → Prop} (he : db.Effect admitted db')
    {p : Payment} (hp : p ∈ db.books.payments) (hst : p.status = .completed) :
    p ∈ db'.books.payments := by
  have hkept : ∀ {b' : Books} {new : Payment → Prop}, Books.PaymentsKept db.books b' new →
      p ∈ b'.payments := by
    intro b' new hpay
    obtain ⟨status, hmem, hdone⟩ := hpay.kept p hp
    rwa [hdone hst, ← hst] at hmem
  cases he with
  | books _ hbooks =>
    rcases hbooks with hsame | hstep
    · rwa [hsame]
    · revert hstep
      generalize db'.books = b'
      intro hstep
      cases hstep with
      | pay o req ho _ hreq hx => exact hkept hx.paymentsKept
      | _ => exact hp
  | submit _ _ _ _ _ _ _ _ _ _ => exact hp
  | confirm o d ho hd hdst hid _ hpaid =>
    rcases hpaid with ⟨rfl, -⟩ | ⟨ctx, plan, row, inserted, hx⟩
    · exact hp
    · exact hkept hx.paymentsKept
  | reject _ _ _ => exact hp

/-! ## The numbers -/

/-- Every transaction keeps the receipt numbers consecutive and the counters going up. -/
theorem Books.Numbered.effect {admitted : PaymentRequest → Prop} {base : BusinessDate → ℕ}
    (h : db.books.Numbered base ∧ ∀ day, base day ≤ db.books.counter day)
    (he : db.Effect admitted db') :
    db'.books.Numbered base ∧ ∀ day, base day ≤ db'.books.counter day := by
  obtain ⟨hnum, hbase⟩ := h
  have hpaid : ∀ {o : Order} {ctx : InsertContext} {req : PaymentRequest}
      {plan : Books.PaymentPlan} {row : Payment} {inserted b' : Books}
      {res : CanonicalPaymentResult}, db.books.Executed ctx o req plan row inserted b' res →
      b'.Numbered base ∧ ∀ day, base day ≤ b'.counter day :=
    fun hx => ⟨hnum.executed hbase hx, fun day => (hbase day).trans (hx.counter_mono day)⟩
  cases he with
  | books _ hbooks =>
    rcases hbooks with hsame | hstep
    · rw [hsame]
      exact ⟨hnum, hbase⟩
    · revert hstep
      generalize db'.books = b'
      intro hstep
      cases hstep with
      | pay o req ho _ hreq hx => exact hpaid hx
      | _ => exact ⟨hnum.congr rfl rfl, hbase⟩
  | submit _ _ _ _ _ _ _ _ _ _ => exact ⟨hnum, hbase⟩
  | confirm o d ho hd hst hid _ hdone =>
    rcases hdone with ⟨rfl, -⟩ | ⟨ctx, plan, row, inserted, hx⟩
    · exact ⟨hnum, hbase⟩
    · exact hpaid hx
  | reject _ _ _ => exact ⟨hnum, hbase⟩

/-! ## Replays -/

/-- The payment a confirmed declaration points at carries it out. -/
theorem Declared.confirms (h : Declared db) (hd : d ∈ db.declarations) (hst : d.status = .confirmed)
    {p : Payment} (hp : p ∈ db.books.payments) (hlink : d.confirmationPaymentId = some p.id) :
    p.Confirms d := by
  obtain ⟨q, hq, hqlink, hconf⟩ := h.linked d hd hst
  obtain rfl : q = p :=
    Table.eq_of_key_eq hq hp (Option.some.inj (hqlink.symm.trans hlink))
  exact hconf

/-- Confirming a confirmed declaration again answers with its payment and writes nothing, exactly
when the receipt on the payment is recognised. -/
theorem Declared.replay_iff (h : Declared db) (hd : d ∈ db.declarations)
    (hst : d.status = .confirmed) {p : Payment} (hp : p ∈ db.books.payments)
    (hlink : d.confirmationPaymentId = some p.id) (ctx : InsertContext) :
    (∃ res, confirmDeclaration db ctx d.id d.wholesalerId = .ok (db, res) ∧
      res.paymentRecord = p ∧ res.replayed = true) ↔
      isValidReceiptNumber p.receiptNumber = true := by
  have hconf := h.confirms hd hst hp hlink
  obtain ⟨o, ho, hid, hlive, hret, hwhole⟩ := h.attributed d hd
  have hlocated : db.getByWholesalerDualKey d.id d.wholesalerId = some d := by
    have hfind : db.declarations.find? d.id = some d := Table.find?_key hd
    rw [Db.getByWholesalerDualKey, hfind, Option.filter_some, if_pos (by simp)]
  have hlock : lockOrderForDeclaration db d.id d.wholesalerId = .ok o := by
    have hfind : db.books.liveOrder? d.orderId = some o :=
      Books.liveOrder?_eq_some.mpr ⟨ho, hid, hlive⟩
    rw [lockOrderForDeclaration, hlocated, orRefuse_some, ok_bind, hfind, Option.filter_some,
      if_pos (by simpa using hwhole), orRefuse_some]
  have hfound : db.books.getPaymentById p.id = some p := by
    have hfind : db.books.payments.find? p.id = some p := Table.find?_key hp
    rw [Books.getPaymentById, hfind, Option.filter_some, if_pos (by simp [hconf.live])]
  -- every check but the last one passes
  have hresolve : resolveConfirmedReplay db.books d o =
      if isValidReceiptNumber p.receiptNumber = true then .ok ⟨o, p, true⟩
      else .error (.conflict .declarationConfirmationKeyConflict
        ("Confirmed declaration links to a payment without a valid " ++ "receipt")) := by
    dsimp only [resolveConfirmedReplay]
    rw [hlink, orRefuse_some, ok_bind, hfound, orRefuse_some, ok_bind,
      refuseIf_neg (by simp [hid]), ok_bind, refuseIf_neg (by simp [hwhole]), ok_bind,
      refuseIf_neg (by simp [hret]), ok_bind, refuseIf_neg (by simp [hconf.orderId]), ok_bind,
      refuseIf_neg (by simp [hconf.retailerId]), ok_bind, refuseIf_neg (by simp [hconf.key]),
      ok_bind, refuseIf_neg (by simp [hconf.amount]), ok_bind,
      refuseIf_neg (by simp [hconf.method]), ok_bind, refuseIf_neg (by simp [hconf.reference]),
      ok_bind]
    cases hvalid : isValidReceiptNumber p.receiptNumber with
    | true => rfl
    | false => rfl
  have hconfirm : confirmDeclaration db ctx d.id d.wholesalerId =
      (resolveConfirmedReplay db.books d o).map fun res => (db, res) := by
    rw [confirmDeclaration, hlock, ok_bind, checkDeclaration, hlocated, orRefuse_some, ok_bind, hst]
    cases resolveConfirmedReplay db.books d o with
    | error e => rfl
    | ok res => rfl
  rw [hconfirm, hresolve]
  constructor
  · rintro ⟨res, hok, -, -⟩
    by_contra hvalid
    rw [if_neg hvalid] at hok
    simp [Except.map] at hok
  · intro hvalid
    rw [if_pos hvalid]
    exact ⟨_, rfl, rfl, rfl⟩

end Declared

/-! ## The protocol -/

/-- The protocol between a state and a later one: declarations move as they should, each confirmed
one has its payment and no other has any, what was confirmed in the first state is answered by
the same payment in the second, and no client can take a confirmation's key. -/
structure DeclarationProtocol (db db' : Db) : Prop where
  moves : ∀ i, Relation.ReflTransGen PaymentDeclaration.Move (db.declarations.find? i)
    (db'.declarations.find? i)
  confirmed : ∀ d ∈ db'.declarations, d.status = .confirmed → ∃ p ∈ db'.books.payments,
    p.Confirms d ∧ ∀ q ∈ db'.books.payments,
      (d.confirmationPaymentId = some q.id ↔ q = p) ∧
      (q.idempotencyKey = declarationKey d.id → q = p)
  unpaid : ∀ d ∈ db'.declarations, d.status ≠ .confirmed → ∀ p ∈ db'.books.payments,
    p.idempotencyKey ≠ declarationKey d.id
  replayed : ∀ d ∈ db.declarations, d.status = .confirmed → ∀ p ∈ db.books.payments,
    d.confirmationPaymentId = some p.id → ∀ ctx, ∃ res,
      confirmDeclaration db' ctx d.id d.wholesalerId = .ok (db', res) ∧ res.paymentRecord = p ∧
        res.replayed = true
  reserved : ∀ header key i, validateIdempotencyKey header = .ok key → key ≠ declarationKey i

section Protocol
variable {db₀ db db' : Db}

theorem Db.Fresh.declared (h : db₀.Fresh) : Declared db₀ where
  attributed := by simp [h.declarations]
  fits := by simp [h.declarations]
  keyed := by simp [h.payments]
  linked := by simp [h.declarations]
  receipted := by simp [h.payments]
  bound := by simp [h.declarations]

theorem Db.Fresh.numbered (h : db₀.Fresh) : db₀.books.Numbered db₀.books.counter where
  consecutive d n := by
    rw [h.payments]
    simp
  allocated := by simp [h.payments]
  distinct := by simp [h.payments]

/-- Declarations and payments agree in every state served from a fresh one, and the receipt
numbers are consecutive. -/
theorem Served.declared (hfresh : db₀.Fresh) (h : Served PaymentRequest.Routed db₀ db) :
    Declared db ∧ db.books.Numbered db₀.books.counter :=
  ⟨h.induction hfresh.declared fun _ _ => Declared.effect fun _ hreq => hreq,
    (h.induction (P := fun db => db.books.Numbered db₀.books.counter ∧
        ∀ day, db₀.books.counter day ≤ db.books.counter day)
      ⟨hfresh.numbered, fun _ => le_rfl⟩ fun _ _ => Books.Numbered.effect).1⟩

theorem Served.payment_mem {admitted : PaymentRequest → Prop} (h : Served admitted db db')
    {p : Payment} (hp : p ∈ db.books.payments) (hst : p.status = .completed) :
    p ∈ db'.books.payments :=
  h.induction hp fun _ _ hmem he => he.payment_mem hmem hst

theorem Served.trans {admitted : PaymentRequest → Prop} {db₁ : Db} (h : Served admitted db₀ db)
    (h' : Served admitted db db₁) : Served admitted db₀ db₁ := by
  induction h' with
  | start => exact h
  | command _ hc hx ih => exact ih.command hc hx
  | round calls events _ hadm ih => exact ih.round calls events hadm

/-- **The declaration protocol.** Between a state reached from a fresh tenant and any later one
the protocol holds, exactly when no day has given out a receipt number of more than six
digits in the first. -/
theorem declarationProtocol_iff (hfresh : db₀.Fresh) (h : Served PaymentRequest.Routed db₀ db)
    (h' : Served PaymentRequest.Routed db db') :
    DeclarationProtocol db db' ↔ ∀ day, db₀.books.counter day < db.books.counter day →
      db.books.counter day < 10 ^ 6 := by
  obtain ⟨hdecl, hnum⟩ := h.declared hfresh
  obtain ⟨hdecl', -⟩ := (h.trans h').declared hfresh
  -- a declaration confirmed in the first state is the same in the second, and so is its payment
  have hlater : ∀ d ∈ db.declarations, d.status = .confirmed → ∀ p ∈ db.books.payments,
      d.confirmationPaymentId = some p.id → d ∈ db'.declarations ∧ p ∈ db'.books.payments := by
    intro d hd hst p hp hlink
    have hmoves := h'.moves d.id
    have hfind : db.declarations.find? d.id = some d := Table.find?_key hd
    rw [hfind] at hmoves
    have hsame := PaymentDeclaration.eq_of_moves (by simp [hst]) hmoves
    exact ⟨Table.mem_of_find? hsame,
      h'.payment_mem hp (hdecl.confirms hd hst hp hlink).status⟩
  constructor
  · intro hp day hday
    -- the last number of the day is on a payment, which a declaration points at
    obtain ⟨p, hpmem, hreceipt⟩ := (hnum.consecutive day (db.books.counter day)).mpr ⟨hday, le_rfl⟩
    obtain ⟨i, hkey⟩ := hdecl.receipted p hpmem (by simp [hreceipt])
    obtain ⟨d, hd, rfl, hst, hlink⟩ := hdecl.keyed p hpmem i hkey
    obtain ⟨hd', hpmem'⟩ := hlater d hd hst p hpmem hlink
    have hvalid := (hdecl'.replay_iff hd' hst hpmem' hlink ⟨0, day⟩).mp
      (hp.replayed d hd hst p hpmem hlink ⟨0, day⟩)
    rwa [hreceipt, isValidReceiptNumber_receiptNumber] at hvalid
  · intro hsmall
    refine
      { moves := h'.moves, confirmed := fun d hd hst => ?_
        unpaid := fun d hd hst p hp => hdecl'.unpaid hd hst hp
        replayed := fun d hd hst p hp hlink ctx => ?_
        reserved := fun _ _ i hkey => validateIdempotencyKey_ne_declarationKey hkey i }
    · obtain ⟨p, hp, hlink, hconf⟩ := hdecl'.linked d hd hst
      refine ⟨p, hp, hconf, fun q hq => ⟨⟨fun hqlink => ?_, fun heq => heq ▸ hlink⟩, fun hkey => ?_⟩⟩
      · exact Table.eq_of_key_eq hq hp (Option.some.inj (hqlink.symm.trans hlink))
      · obtain ⟨d', hd', hid, -, hqlink⟩ := hdecl'.keyed q hq d.id hkey
        obtain rfl : d' = d := Table.eq_of_key_eq hd' hd hid
        exact Table.eq_of_key_eq hq hp (Option.some.inj (hqlink.symm.trans hlink))
    · obtain ⟨hd', hp'⟩ := hlater d hd hst p hp hlink
      refine (hdecl'.replay_iff hd' hst hp' hlink ctx).mpr ?_
      obtain ⟨day, n, hreceipt⟩ := (hdecl.confirms hd hst hp hlink).receipt
      obtain ⟨hlt, hle⟩ := (hnum.consecutive day n).mp ⟨p, hp, hreceipt⟩
      rw [hreceipt, isValidReceiptNumber_receiptNumber]
      exact hle.trans_lt (hsmall day (hlt.trans_le hle))

/-- A run of commands serves. -/
theorem served_run {admitted : PaymentRequest → Prop} {cs : List Command} (h : Served admitted db₀ db)
    (hcs : ∀ c ∈ cs, c.Admits admitted) : Served admitted db₀ (run execute db cs) :=
  run_induction (P := Served admitted db₀) (fun _ _ _ _ hs hc hx => hs.command hc hx) cs db h hcs

end Protocol

/-- An order of 10.00, of which 4.00 are declared and confirmed. -/
def declaredRun : List Command :=
  [.createOrder 50 2 [sampleItem 100 2], .confirmOrder 50 (some 9),
    .submitDeclaration 300 (Uuid.text 50) 2 1 (scaled 2 400) .cash none "decl-0001",
    .confirmDeclaration ⟨200, sampleDay⟩ 300 1]

/-- The rest is paid directly, and the order fulfilled and returned. -/
def settledRun : List Command :=
  [.confirmPayment ⟨201, sampleDay⟩ (Uuid.text 50)
      (samplePayment (scaled 2 600) .cash none "pay-0001"),
    .fulfillOrder 50, .returnOrder 50]

theorem declaredRun_routed : ∀ c ∈ declaredRun, c.Admits PaymentRequest.Routed := by
  simp only [declaredRun, List.forall_mem_cons]
  exact ⟨trivial, trivial, trivial, trivial, List.forall_mem_nil _⟩

theorem settledRun_routed : ∀ c ∈ settledRun, c.Admits PaymentRequest.Routed := by
  simp only [settledRun, List.forall_mem_cons]
  exact ⟨⟨⟨some "pay-0001", by decide +kernel⟩, rfl, rfl⟩, trivial, trivial, List.forall_mem_nil _⟩

theorem declarationProtocol_declaredRun :
    (run execute (run execute (sampleTenant 10000) declaredRun) settledRun).books.orders.rows.map
        Order.status = [.returned] ∧
      DeclarationProtocol (run execute (sampleTenant 10000) declaredRun)
        (run execute (run execute (sampleTenant 10000) declaredRun) settledRun) := by
  refine ⟨by decide +kernel, (declarationProtocol_iff (sampleTenant_fresh (by decide))
    (served_run .start declaredRun_routed) (served_run .start settledRun_routed)).mpr ?_⟩
  intro day _
  -- the day of the run has given out one number, every other day none
  have hsequences : (run execute (sampleTenant 10000) declaredRun).books.receiptSequences.rows =
      [⟨sampleDay, 1⟩] := by decide +kernel
  exact (Books.counter_le_of_rows (by simp [hsequences])).trans_lt (by decide : 1 < 10 ^ 6)

/-- A tenant whose day has given out 999999 receipts. -/
def busyTenant : Db :=
  { sampleTenant 10000 with
    books := { (sampleTenant 10000).books with receiptSequences := .ofRows [⟨sampleDay, 999999⟩] } }

/-- The next confirmation is accepted; repeated, it is refused for its receipt. -/
theorem declarationProtocol_fails_busyTenant :
    ¬DeclarationProtocol (run execute busyTenant declaredRun) (run execute busyTenant declaredRun) := by
  intro h
  obtain ⟨d, hd, p, hp, hst, hlink⟩ :
      ∃ d ∈ (run execute busyTenant declaredRun).declarations.rows,
        ∃ p ∈ (run execute busyTenant declaredRun).books.payments.rows,
          d.status = .confirmed ∧ d.confirmationPaymentId = some p.id := by
    decide +kernel
  obtain ⟨res, hok, -⟩ := h.replayed d hd hst p hp hlink ⟨202, sampleDay⟩
  have hrefused : ∀ d ∈ (run execute busyTenant declaredRun).declarations.rows,
      (confirmDeclaration (run execute busyTenant declaredRun) ⟨202, sampleDay⟩ d.id
        d.wholesalerId).isOk = false := by
    decide +kernel
  have := hrefused d hd
  rw [hok] at this
  simp [Except.isOk, Except.toBool] at this

end Mpango
