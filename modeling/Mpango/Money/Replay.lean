import Mpango.Spec.Execution
import Mpango.Spec.Declarations
import Mpango.Model.Service

/-!
# What a lookup answers

A call looks its key up three times. Whatever it finds decides its answer: the payment that was
found, when it repeats the request on the order the call names, and otherwise a refusal. The
lemmas are about one lookup in one state of the books; `Money/ExactlyOnce` puts them together
over interleavings.
-/

namespace Mpango

open Decimal

/-- A stored payment repeats a request: its key, its amount as stored, its method and its
reference. -/
structure Payment.Repeats (p : Payment) (req : PaymentRequest) : Prop where
  key : p.idempotencyKey = req.idempotencyKey
  amount : p.amount.toDecimal = req.amount
  method : p.method = req.method
  reference : orNone p.transactionId = orNone req.transactionId

@[simp] theorem orNone_orNone (t : Option String) : orNone (orNone t) = orNone t := by
  unfold orNone
  rw [Option.filter_filter]
  simp

namespace Books

variable {b : Books} {o : Order} {p : Payment} {req : PaymentRequest} {orderId : String}
  {res : CanonicalPaymentResult} {e : CommandError}

theorem samePaymentRequest_eq_true : samePaymentRequest p orderId req = true ↔
    p.orderId.text = orderId ∧ p.amount.toDecimal = req.amount ∧ p.method = req.method ∧
      orNone p.transactionId = orNone req.transactionId := by
  unfold samePaymentRequest
  simp only [Bool.and_eq_true, decide_eq_true_eq, and_assoc]

theorem repeats_of_same (hkey : p.idempotencyKey = req.idempotencyKey)
    (h : samePaymentRequest p orderId req = true) :
    p.Repeats req ∧ Uuid.parse orderId = some p.orderId := by
  obtain ⟨htext, hamount, hmethod, href⟩ := samePaymentRequest_eq_true.mp h
  exact ⟨⟨hkey, hamount, hmethod, href⟩, htext ▸ Uuid.parse_text p.orderId⟩

/-! ## A payment was found -/

/-- The answer of a call that found a payment under its key: this payment, which repeats the
request and is on the order. -/
structure Found (b : Books) (req : PaymentRequest) (res : CanonicalPaymentResult) : Prop where
  found : b.getByIdempotencyKey req.idempotencyKey = some res.paymentRecord
  same : res.paymentRecord.Repeats req
  order : res.order ∈ b.orders
  orderId : res.order.id = res.paymentRecord.orderId
  replayed : res.replayed = true

theorem Replayed.toFound (h : b.Replayed orderId req res) :
    b.Found req res ∧ Uuid.parse orderId = some res.order.id := by
  obtain ⟨hsame, hparse⟩ := repeats_of_same (getByIdempotencyKey_some h.found).2.1 h.same
  exact ⟨⟨h.found, hsame, h.order, h.orderId, h.replayed⟩, by rw [h.orderId]; exact hparse⟩

/-- The refusal of a call that found a payment under its key: a conflict, unless the payment
repeats the request on the order of the call; then its order is gone or its receipt missing. -/
def RefusedBy (p : Payment) (req : PaymentRequest) (orderId : Option Uuid) (e : CommandError) :
    Prop :=
  p.idempotencyKey = req.idempotencyKey ∧ (e.code? = some .idempotencyKeyConflict ∨
    (p.Repeats req ∧ orderId = some p.orderId) ∧
      (e.code? = some .orderNotFound ∨ e.code? = some .declarationConfirmationKeyConflict))

theorem fastReplay_eq_error (hfind : b.getByIdempotencyKey req.idempotencyKey = some p)
    (h : b.fastReplay orderId req = .error e) : RefusedBy p req (Uuid.parse orderId) e := by
  have hkey := (getByIdempotencyKey_some hfind).2.1
  refine ⟨hkey, ?_⟩
  unfold fastReplay at h
  rw [hfind] at h
  dsimp only at h
  split at h
  · next hsame =>
    simp only [bind_eq_error, enforceReceiptOnReplay, refuseIf_eq_error, pure_ne_error,
      and_false, exists_false, or_false] at h
    rcases h with ⟨-, rfl⟩ | ⟨-, -, h⟩
    · exact .inr ⟨repeats_of_same hkey hsame, .inr rfl⟩
    · unfold replayResult at h
      simp only [bind_eq_error, orRefuse_eq_error, refuseIf_eq_error, pure_ne_error, and_false,
        exists_false, or_false] at h
      rcases h with ⟨-, rfl⟩ | ⟨x, -, -, rfl⟩
      · exact .inr ⟨repeats_of_same hkey hsame, .inl rfl⟩
      · exact .inl rfl
  · rw [Except.error.injEq] at h
    exact .inl (h ▸ rfl)

theorem replayOrConflict_eq_error (hfind : b.getByIdempotencyKey req.idempotencyKey = some p)
    (h : replayOrConflict o p req = .error e) : RefusedBy p req (some o.id) e := by
  have hkey := (getByIdempotencyKey_some hfind).2.1
  refine ⟨hkey, ?_⟩
  unfold replayOrConflict at h
  simp only [bind_eq_error, enforceReceiptOnReplay, refuseIf_eq_error, refuseIf_eq_ok,
    pure_ne_error, and_false, exists_false, or_false, exists_const, Bool.not_eq_false] at h
  rcases h with ⟨-, rfl⟩ | ⟨hsame, ⟨-, rfl⟩ | ⟨-, -, rfl⟩⟩
  · exact .inl rfl
  · obtain ⟨hrep, hparse⟩ := repeats_of_same hkey hsame
    rw [Uuid.parse_text] at hparse
    exact .inr ⟨⟨hrep, hparse⟩, .inr rfl⟩
  · exact .inl rfl

/-! ## The three lookups -/

/-- The first lookup, when it answers. -/
theorem search_answers (h : b.search orderId req = .ok (some res)) :
    b.Found req res ∧ Uuid.parse orderId = some res.order.id ∧
      b.seen req = some res.paymentRecord := by
  unfold search raiseInvalidAmount at h
  simp only [bind_eq_ok, refuseIf_eq_ok, exists_const] at h
  obtain ⟨hpos, hfast⟩ := h
  obtain ⟨hfound, hparse⟩ := (fastReplay_eq_ok hfast).toFound
  exact ⟨hfound, hparse, (if_neg hpos).trans hfound.found⟩

theorem search_refuses (h : b.search orderId req = .error e) (hp : b.seen req = some p) :
    RefusedBy p req (Uuid.parse orderId) e := by
  unfold search raiseInvalidAmount at h
  unfold seen at hp
  split at hp
  · simp at hp
  · next hpos =>
    rw [refuseIf_neg hpos, ok_bind] at h
    exact fastReplay_eq_error hp h

/-- The lookup under the lock, when it answers. -/
theorem recheck_answers (ho : o ∈ b.orders) (h : b.recheck o req = .ok (some res)) :
    b.Found req res ∧ res.order.id = o.id ∧ b.seen req = some res.paymentRecord := by
  unfold recheck raiseInvalidAmount at h
  simp only [bind_eq_ok, refuseIf_eq_ok, exists_const] at h
  obtain ⟨hpos, h⟩ := h
  split at h
  · next existing hfind =>
    simp only [bind_eq_ok, pure_eq_ok, Option.some.injEq] at h
    obtain ⟨r, hr, rfl⟩ := h
    obtain ⟨hfound, hparse⟩ := (replayOrConflict_eq_ok ho hfind hr).toFound
    rw [Uuid.parse_text, Option.some.injEq] at hparse
    exact ⟨hfound, hparse.symm, (if_neg hpos).trans hfound.found⟩
  · simp at h

theorem recheck_passes (h : b.recheck o req = .ok none) : 0 < req.amount := by
  unfold recheck raiseInvalidAmount at h
  simp only [bind_eq_ok, refuseIf_eq_ok, exists_const, not_le] at h
  exact h.1

theorem recheck_refuses (h : b.recheck o req = .error e) (hp : b.seen req = some p) :
    RefusedBy p req (some o.id) e := by
  unfold recheck raiseInvalidAmount at h
  unfold seen at hp
  split at hp
  · simp at hp
  · next hpos =>
    rw [refuseIf_neg hpos, ok_bind, hp] at h
    dsimp only at h
    simp only [bind_eq_error, pure_ne_error, and_false, exists_false, or_false] at h
    exact replayOrConflict_eq_error hp h

/-- The lookup after a failed insert, when it answers. -/
theorem classify_answers {error : DatabaseError} (ho : o ∈ b.orders)
    (h : b.classifyPaymentInsertRace error o req = .ok res) :
    b.Found req res ∧ res.order.id = o.id ∧ b.seenByRace error req = some res.paymentRecord := by
  unfold classifyPaymentInsertRace at h
  split at h
  · split at h <;> simp at h
  · split at h
    · next existing hfind =>
      obtain ⟨hfound, hparse⟩ := (replayOrConflict_eq_ok ho hfind h).toFound
      rw [Uuid.parse_text, Option.some.injEq] at hparse
      exact ⟨hfound, hparse.symm, hfound.found⟩
    · simp at h
  · simp at h

theorem classify_refuses {error : DatabaseError}
    (h : b.classifyPaymentInsertRace error o req = .error e)
    (hp : b.seenByRace error req = some p) : RefusedBy p req (some o.id) e := by
  unfold seenByRace at hp
  split at hp
  · unfold classifyPaymentInsertRace at h
    simp only [hp] at h
    exact replayOrConflict_eq_error hp h
  · simp at hp

end Books

/-! ## Declarations -/

/-- A confirmed declaration is answered by the payment it points at, which repeats it. -/
theorem checkDeclaration_answers {db : Db} {declarationId wholesalerId : Uuid} {o : Order}
    {d : PaymentDeclaration} {res : CanonicalPaymentResult}
    (h : checkDeclaration db declarationId wholesalerId o = .ok (d, some res)) :
    db.declarations.find? declarationId = some d ∧ d.id = declarationId ∧ d.orderId = o.id ∧
      res.order = o ∧ res.paymentRecord ∈ db.books.payments ∧
      res.paymentRecord.orderId = o.id ∧ res.paymentRecord.Repeats (confirmationRequest d) ∧
      res.replayed = true := by
  unfold checkDeclaration Db.getByWholesalerDualKey at h
  simp only [bind_eq_ok, orRefuse_eq_ok, Option.filter_eq_some_iff, decide_eq_true_eq] at h
  obtain ⟨d', ⟨hfind, hw⟩, h⟩ := h
  have hid : d'.id = declarationId := Table.key_of_find? hfind
  cases hst : d'.status with
  | rejected => simp [hst] at h
  | pending =>
    simp only [hst, bind_eq_ok, pure_eq_ok, Prod.mk.injEq] at h
    obtain ⟨_, -, _, -, -, hbad⟩ := h
    simp at hbad
  | confirmed =>
    simp only [hst, bind_eq_ok, pure_eq_ok, Prod.mk.injEq, Option.some.injEq] at h
    obtain ⟨r, hr, rfl, rfl⟩ := h
    unfold resolveConfirmedReplay at hr
    simp only [bind_eq_ok, orRefuse_eq_ok, refuseIf_eq_ok, exists_const, pure_eq_ok,
      not_not] at hr
    obtain ⟨paymentId, -, p, hp, horder, -, -, hporder, -, hkey, hamount, hmethod, href, -, rfl⟩ :=
      hr
    unfold Books.getPaymentById at hp
    rw [Option.filter_eq_some_iff] at hp
    refine ⟨hfind, hid, horder, rfl, Table.mem_of_find? hp.1, hporder.trans horder, ?_, rfl⟩
    exact
      { key := hkey, amount := congrArg Numeric.toDecimal hamount, method := hmethod
        reference := href.trans (orNone_orNone _).symm }

end Mpango
