import Mpango.Spec.Payments

/-!
# What an accepted declaration command did

A submission stores one pending declaration or finds the one it repeats; a confirmation answers
with the payment of a confirmed declaration, or executes the payment of a pending one and marks
it; a rejection marks a pending one. `Declares` is the effect of any of them on one declaration.
-/

namespace Mpango

open Decimal

/-! ## Active bindings -/

/-- The retailer is bound to the wholesaler, and the binding is active. -/
def Books.ActivelyBound (b : Books) (wholesalerId retailerId : Uuid) : Prop :=
  ∃ row, b.liveBinding? wholesalerId retailerId = some row ∧ row.status = .active

theorem verifyBindingExists_eq_ok {b : Books} {wholesalerId retailerId : Uuid} :
    verifyBindingExists b wholesalerId retailerId = .ok () ↔
      b.ActivelyBound wholesalerId retailerId := by
  unfold verifyBindingExists Books.ActivelyBound
  rw [refuseIf_eq_ok]
  cases h : b.liveBinding? wholesalerId retailerId with
  | none => simp
  | some row => simp

namespace Books

variable {b b' inserted : Books} {o : Order} {req : PaymentRequest} {plan : PaymentPlan}
  {row : Payment} {ctx : InsertContext} {res : CanonicalPaymentResult} {w r : Uuid}

/-- No write ends a binding. -/
def BindingsKept (b b' : Books) : Prop :=
  ∀ w r, b.ActivelyBound w r → b'.ActivelyBound w r

theorem BindingsKept.refl (h : b'.bindings = b.bindings) : BindingsKept b b' := by
  intro w r hw
  unfold ActivelyBound liveBinding? at *
  rwa [h]

/-- Moving a balance ends no binding. -/
theorem BalanceUpdated.kept {delta : Decimal} (h : BalanceUpdated b.bindings w r delta b'.bindings) :
    BindingsKept b b' := by
  obtain ⟨x, m, hfind, hlive, -, -, hset⟩ := h
  intro w' r' hw
  obtain ⟨y, hy, hact⟩ := hw
  obtain ⟨hyfind, hylive⟩ := liveBinding?_eq_some.mp hy
  have hkey : (x.wholesalerId, x.retailerId) = (w, r) := Table.key_of_find? hfind
  by_cases hpair : (w', r') = (w, r)
  · rw [hpair, hfind] at hyfind
    obtain rfl := Option.some.inj hyfind
    have hself := Table.find?_set_self (r := ({ x with outstandingBalance := m } : Binding))
      (by rw [key_binding, hkey]; exact hfind)
    rw [key_binding, hkey, ← hpair, ← hset] at hself
    exact ⟨_, liveBinding?_eq_some.mpr ⟨hself, hlive⟩, hact⟩
  · refine ⟨y, liveBinding?_eq_some.mpr ⟨?_, hylive⟩, hact⟩
    rw [hset, Table.find?_set_of_ne (by rw [key_binding, hkey]; exact hpair), hyfind]

theorem Executed.bindingsKept (h : b.Executed ctx o req plan row inserted b' res) :
    BindingsKept b b' := by
  have hins : inserted.bindings = b.bindings := by rw [h.insert.frame]
  rcases h.cases with ⟨-, -, ⟨hold', ht⟩, -⟩ | ⟨-, -, ht, -⟩ | ⟨-, ht, -⟩
  · exact (hins ▸ ht.balance).kept
  · exact .refl (by rw [ht.frame, hins])
  · exact (hins ▸ ht.balance).kept

end Books

/-! ## The parts of a confirmation -/

/-- A declaration marked as confirmed was pending, and nothing else of it changes. -/
theorem Db.markConfirmed_eq_ok {db db' : Db} {declarationId wholesalerId paymentId : Uuid} :
    db.markConfirmed declarationId wholesalerId paymentId = .ok db' ↔
      ∃ d, db.declarations.find? declarationId = some d ∧ d.wholesalerId = wholesalerId ∧
        d.status = .pending ∧ db' = { db with
          declarations := db.declarations.set
            { d with status := .confirmed, confirmationPaymentId := some paymentId } } := by
  unfold markConfirmed getByWholesalerDualKey
  constructor
  · intro h
    split at h
    · next d hd =>
      simp only [Option.filter_eq_some_iff, decide_eq_true_eq] at hd
      exact ⟨d, hd.1.1, hd.1.2, hd.2, (Except.ok.inj h).symm⟩
    · simp at h
  · rintro ⟨d, hfind, hw, hst, rfl⟩
    rw [hfind, Option.filter_some, if_pos (by simpa using hw), Option.filter_some,
      if_pos (by simpa using hst)]

/-- The order a confirmation locks is the declaration's. -/
theorem lockOrderForDeclaration_eq_ok {db : Db} {declarationId wholesalerId : Uuid} {o : Order}
    (h : lockOrderForDeclaration db declarationId wholesalerId = .ok o) :
    o ∈ db.books.orders ∧ o.isDeleted = false ∧
      ∃ d, db.declarations.find? declarationId = some d ∧ d.orderId = o.id := by
  unfold lockOrderForDeclaration Db.getByWholesalerDualKey at h
  simp only [bind_eq_ok, orRefuse_eq_ok, Option.filter_eq_some_iff] at h
  obtain ⟨d, ⟨hfind, -⟩, ho, -⟩ := h
  obtain ⟨hmem, hid, hdel⟩ := Books.liveOrder?_eq_some.mp ho
  exact ⟨hmem, hdel, d, hfind, hid.symm⟩

/-- A declaration that may be confirmed is pending, on the locked order, and its parties are bound. -/
theorem checkDeclaration_passes {db : Db} {declarationId wholesalerId : Uuid} {o : Order}
    {d : PaymentDeclaration} (h : checkDeclaration db declarationId wholesalerId o = .ok (d, none)) :
    db.declarations.find? declarationId = some d ∧ d.wholesalerId = wholesalerId ∧
      d.status = .pending ∧ d.orderId = o.id ∧
      db.books.ActivelyBound d.wholesalerId d.retailerId := by
  unfold checkDeclaration Db.getByWholesalerDualKey at h
  simp only [bind_eq_ok, orRefuse_eq_ok, Option.filter_eq_some_iff, decide_eq_true_eq] at h
  obtain ⟨d', ⟨hfind, hw⟩, h⟩ := h
  cases hst : d'.status with
  | confirmed =>
    simp only [hst, bind_eq_ok, pure_eq_ok, Prod.mk.injEq] at h
    obtain ⟨r, -, -, hbad⟩ := h
    simp at hbad
  | rejected => simp [hst] at h
  | pending =>
    simp only [hst, bind_eq_ok, exists_unit_ok, verifyBindingExists_eq_ok,
      verifyLockedAttribution, refuseIf_eq_ok, exists_const, pure_eq_ok, Prod.mk.injEq, and_true,
      not_not] at h
    obtain ⟨hbound, ⟨hid, hretailer⟩, rfl⟩ := h
    exact ⟨hfind, hw, hst, hid, by rwa [hw, hretailer]⟩

/-! ## The commands -/

section Commands
variable {db db' : Db}

/-- A stored reference fits its column. -/
theorem storeTransactionId_length {given stored : Option String} {t : String}
    (h : storeTransactionId given = .ok stored) (ht : stored = some t) : t.length ≤ 128 := by
  cases given with
  | none =>
    rw [storeTransactionId, Except.ok.injEq] at h
    simp [← h] at ht
  | some g =>
    simp only [storeTransactionId, bind_eq_ok, orRefuse_eq_ok, pure_eq_ok] at h
    obtain ⟨u, hu, rfl⟩ := h
    exact Option.some.inj ht ▸ varchar_length hu

/-- A submission finds the declaration it repeats, or stores a pending one under a new id. -/
theorem submitDeclaration_eq_ok {newId retailerId wholesalerId : Uuid} {orderId key : String}
    {amount : Decimal} {method : PaymentMethod} {reference : Option String}
    {d : PaymentDeclaration} {replayed : Bool}
    (h : submitDeclaration db newId orderId retailerId wholesalerId amount method reference key =
      .ok (db', d, replayed)) :
    db' = db ∨ ∃ o declarations, o ∈ db.books.orders ∧ o.isDeleted = false ∧ d.id = newId ∧
      d.orderId = o.id ∧ d.retailerId = o.retailerId ∧ d.wholesalerId = o.wholesalerId ∧
      (∀ t, d.transferReference = some t → t.length ≤ 128) ∧ d.status = .pending ∧
      db.declarations.insert? d = some declarations ∧ db' = { db with declarations } := by
  unfold submitDeclaration at h
  simp only [bind_eq_ok, refuseIf_eq_ok, exists_const, orRefuse_eq_ok,
    Option.filter_eq_some_iff, Option.bind_eq_some_iff, Bool.and_eq_true, decide_eq_true_eq] at h
  obtain ⟨-, -, ref, -, o, ⟨⟨id, -, ho⟩, hretailer, hwholesaler⟩, h⟩ := h
  obtain ⟨hmem, -, hlive⟩ := Books.liveOrder?_eq_some.mp ho
  split at h
  · split at h
    · simp only [pure_eq_ok, Prod.mk.injEq] at h
      exact .inl h.1.symm
    · simp at h
  · right
    unfold Db.createDeclaration at h
    simp only [bind_eq_ok, dbError_eq_ok, refuseIf_eq_ok, exists_const, orRefuse_eq_ok,
      pure_eq_ok, Prod.mk.injEq, Prod.exists] at h
    obtain ⟨_, _, ⟨amount', -, ref', href, key', -, -, declarations, hins, -, rfl, rfl⟩, rfl, rfl,
      -⟩ := h
    exact ⟨o, declarations, hmem, hlive, rfl, rfl, hretailer.symm, hwholesaler.symm,
      fun t ht => storeTransactionId_length href ht, rfl, hins, rfl⟩

/-- A rejection moves a pending declaration. -/
theorem rejectDeclaration_eq_ok {declarationId wholesalerId : Uuid}
    (h : rejectDeclaration db declarationId wholesalerId = .ok db') :
    ∃ d, db.declarations.find? declarationId = some d ∧ d.status = .pending ∧
      db' = { db with declarations := db.declarations.set { d with status := .rejected } } := by
  unfold rejectDeclaration at h
  simp only [bind_eq_ok, orRefuse_eq_ok, refuseIf_eq_ok, exists_const] at h
  obtain ⟨-, -, -, h⟩ := h
  unfold Db.markRejected Db.getByWholesalerDualKey at h
  split at h
  · next d hd =>
    simp only [Option.filter_eq_some_iff, decide_eq_true_eq] at hd
    exact ⟨d, hd.1.1, hd.2, (Except.ok.inj h).symm⟩
  · simp at h

/-- An accepted confirmation: the replay of a confirmed declaration, or the payment a pending one
requests, after which the declaration points at it. -/
theorem confirmDeclaration_cases {ctx : InsertContext} {declarationId wholesalerId : Uuid}
    {res : CanonicalPaymentResult}
    (h : confirmDeclaration db ctx declarationId wholesalerId = .ok (db', res)) :
    ∃ o d, o ∈ db.books.orders ∧ o.isDeleted = false ∧
      db.declarations.find? declarationId = some d ∧ d.wholesalerId = wholesalerId ∧
      d.orderId = o.id ∧ o.wholesalerId = wholesalerId ∧
      (d.status = .confirmed ∧ resolveConfirmedReplay db.books d o = .ok res ∧ db' = db ∨
        d.status = .pending ∧ d.retailerId = o.retailerId ∧
        db.books.ActivelyBound wholesalerId o.retailerId ∧ ∃ books,
          db.books.confirmPaymentForLockedOrder ctx o (confirmationRequest d) = .ok (books, res) ∧
          db' = { db with
            books
            declarations := db.declarations.set { d with
              status := .confirmed, confirmationPaymentId := some res.paymentRecord.id } }) := by
  unfold confirmDeclaration at h
  simp only [bind_eq_ok] at h
  obtain ⟨o, ho, ⟨d, replay⟩, hcheck, h⟩ := h
  unfold lockOrderForDeclaration Db.getByWholesalerDualKey at ho
  simp only [bind_eq_ok, orRefuse_eq_ok, Option.filter_eq_some_iff, decide_eq_true_eq] at ho
  obtain ⟨located, ⟨hfind, hw⟩, hlive, how⟩ := ho
  obtain ⟨hmem, hid, hdel⟩ := Books.liveOrder?_eq_some.mp hlive
  unfold checkDeclaration Db.getByWholesalerDualKey at hcheck
  simp only [bind_eq_ok, orRefuse_eq_ok, Option.filter_eq_some_iff, decide_eq_true_eq] at hcheck
  obtain ⟨d', ⟨hfind', -⟩, hcheck⟩ := hcheck
  obtain rfl : located = d' := Option.some.inj (hfind.symm.trans hfind')
  refine ⟨o, located, hmem, hdel, hfind, hw, hid.symm, how, ?_⟩
  cases hst : located.status with
  | rejected => simp [hst] at hcheck
  | confirmed =>
    simp only [hst, bind_eq_ok, pure_eq_ok, Prod.mk.injEq] at hcheck
    obtain ⟨r, hr, rfl, rfl⟩ := hcheck
    simp only [pure_eq_ok, Prod.mk.injEq] at h
    obtain ⟨rfl, rfl⟩ := h
    exact .inl ⟨rfl, hr, rfl⟩
  | pending =>
    simp only [hst, bind_eq_ok, exists_unit_ok, verifyBindingExists_eq_ok,
      verifyLockedAttribution, refuseIf_eq_ok, exists_const, pure_eq_ok, Prod.mk.injEq,
      not_not] at hcheck
    obtain ⟨hbound, ⟨-, hretailer⟩, rfl, rfl⟩ := hcheck
    simp only [bind_eq_ok, pure_eq_ok, Prod.mk.injEq] at h
    obtain ⟨⟨books, r⟩, hpay, db₁, hmark, rfl, rfl⟩ := h
    obtain ⟨d₁, hfind₁, -, -, rfl⟩ := Db.markConfirmed_eq_ok.mp hmark
    obtain rfl : located = d₁ := Option.some.inj (hfind.symm.trans hfind₁)
    exact .inr ⟨rfl, hretailer, hbound, books, hpay, rfl⟩

end Commands

end Mpango
