import Mpango.Money.ExactlyOnce

/-!
# Three paths to a replay

A repeated payment is met by the lookup before the lock, by the lookup under it, or by the insert
that it lost. The first compares the text of the request's order id with the text of the stored one,
the others have the order; the last one also meets the transfer reference of the winner.
-/

namespace Mpango

open Decimal

/-- What a repeated payment is told. -/
inductive ReplayVerdict
  | replay (payment : Payment)
  | refused (code : Option ErrorCode)
  deriving DecidableEq

/-- The verdict in an answer. -/
def replayVerdict : Except CommandError CanonicalPaymentResult → ReplayVerdict
  | .ok result => .replay result.paymentRecord
  | .error e => .refused e.code?

/-- `_REPLAYABLE_UNIQUE_OBJECTS`. -/
def replayableUniqueObjects : List UniqueObject := [.paymentsIdempotencyKey, .uqPaymentsTransactionId]

namespace Books

variable {b : Books} {o : Order} {p : Payment} {req : PaymentRequest} {orderId : String}

/-- What the fast path says, if the key is not new. -/
def fastVerdict (b : Books) (orderId : String) (req : PaymentRequest) : Option ReplayVerdict :=
  match b.fastReplay orderId req with
  | .ok none => none
  | .ok (some result) => some (.replay result.paymentRecord)
  | .error e => some (.refused e.code?)

/-- The three paths say the same: the fast path, the re-check, and the classifier of an insert that
violated one of the unique objects. -/
structure PathsAgree (b : Books) (orderId : String) (o : Order) (p : Payment)
    (req : PaymentRequest) (object : UniqueObject) : Prop where
  fast : b.fastVerdict orderId req = some (replayVerdict (replayOrConflict o p req))
  race : replayVerdict (b.classifyPaymentInsertRace (.uniqueViolation object) o req) =
    replayVerdict (replayOrConflict o p req)

/-- The receipt that a confirmation asks for is there. -/
def ReceiptFits (p : Payment) (req : PaymentRequest) : Prop :=
  req.allocateReceipt = true → isValidReceiptNumber p.receiptNumber = true

theorem not_receiptFits : ¬ReceiptFits p req ↔
    req.allocateReceipt = true ∧ isValidReceiptNumber p.receiptNumber = false := by
  unfold ReceiptFits
  rw [Classical.not_imp, Bool.not_eq_true]

theorem replayVerdict_of_same (hsame : samePaymentRequest p o.id.text req = true) :
    replayVerdict (replayOrConflict o p req) =
      open Classical in
      if ReceiptFits p req then
        if p.retailerId = o.retailerId then .replay p else .refused (some .idempotencyKeyConflict)
      else .refused (some .declarationConfirmationKeyConflict) := by
  unfold replayOrConflict enforceReceiptOnReplay
  rw [hsame, refuseIf_neg (by simp), ok_bind]
  by_cases hreceipt : ReceiptFits p req
  · rw [if_pos hreceipt, refuseIf_neg (mt not_receiptFits.mpr (not_not.mpr hreceipt)), ok_bind]
    by_cases hretailer : p.retailerId = o.retailerId
    · rw [if_pos hretailer, refuseIf_neg (not_not.mpr hretailer)]
      rfl
    · rw [if_neg hretailer, refuseIf, if_pos hretailer]
      rfl
  · rw [if_neg hreceipt, refuseIf, if_pos (not_receiptFits.mp hreceipt)]
    rfl

theorem replayVerdict_of_not_same (hsame : samePaymentRequest p o.id.text req = false) :
    replayVerdict (replayOrConflict o p req) = .refused (some .idempotencyKeyConflict) := by
  unfold replayOrConflict
  rw [hsame, refuseIf, if_pos rfl]
  rfl

/-- On the text of the order, the fast path is the re-check. -/
theorem fastVerdict_text (hfound : b.getByIdempotencyKey req.idempotencyKey = some p)
    (hlive : b.liveOrder? o.id = some o) :
    b.fastVerdict o.id.text req = some (replayVerdict (replayOrConflict o p req)) := by
  unfold fastVerdict fastReplay
  rw [hfound]
  dsimp only
  cases hsame : samePaymentRequest p o.id.text req with
  | false =>
    rw [replayVerdict_of_not_same hsame]
    rfl
  | true =>
    have hid : p.orderId = o.id := Uuid.text_inj.mp (samePaymentRequest_eq_true.mp hsame).1
    rw [replayVerdict_of_same hsame]
    unfold enforceReceiptOnReplay replayResult
    rw [if_pos rfl, hid, hlive, orRefuse_some, ok_bind]
    by_cases hreceipt : ReceiptFits p req
    · rw [if_pos hreceipt, refuseIf_neg (mt not_receiptFits.mpr (not_not.mpr hreceipt)), ok_bind]
      by_cases hretailer : p.retailerId = o.retailerId
      · rw [if_pos hretailer, refuseIf_neg (not_not.mpr hretailer)]
        rfl
      · rw [if_neg hretailer, refuseIf, if_pos hretailer]
        rfl
    · rw [if_neg hreceipt, refuseIf, if_pos (not_receiptFits.mp hreceipt)]
      rfl

/-- On any other spelling it finds another order. -/
theorem fastVerdict_spelt (hfound : b.getByIdempotencyKey req.idempotencyKey = some p)
    (hspelt : ∀ id : Uuid, orderId ≠ id.text) :
    b.fastVerdict orderId req = some (.refused (some .idempotencyKeyConflict)) := by
  have hsame : samePaymentRequest p orderId req = false := by
    rw [Bool.eq_false_iff]
    exact fun h => hspelt _ (samePaymentRequest_eq_true.mp h).1.symm
  unfold fastVerdict fastReplay
  rw [hfound]
  dsimp only
  rw [hsame]
  rfl

/-- The classifier of a violated key is the re-check. -/
theorem classify_key (hfound : b.getByIdempotencyKey req.idempotencyKey = some p) :
    b.classifyPaymentInsertRace (.uniqueViolation .paymentsIdempotencyKey) o req =
      replayOrConflict o p req := by
  unfold classifyPaymentInsertRace
  dsimp only
  rw [hfound]

/-- The classifier of a violated reference never looks at the key. -/
theorem classify_reference : replayVerdict
    (b.classifyPaymentInsertRace (.uniqueViolation .uqPaymentsTransactionId) o req) ≠
      replayVerdict (replayOrConflict o p req) := by
  have hrace : ∃ code, replayVerdict
      (b.classifyPaymentInsertRace (.uniqueViolation .uqPaymentsTransactionId) o req) =
        .refused code ∧ code ≠ some .idempotencyKeyConflict ∧
          code ≠ some .declarationConfirmationKeyConflict := by
    unfold classifyPaymentInsertRace
    dsimp only
    cases req.transactionId.bind b.getByTransactionId with
    | none => exact ⟨none, rfl, nofun, nofun⟩
    | some winner => exact ⟨some .duplicateTransferReference, rfl, nofun, nofun⟩
  obtain ⟨code, hrace, hkey, hreceipt⟩ := hrace
  rw [hrace]
  cases hsame : samePaymentRequest p o.id.text req with
  | false =>
    rw [replayVerdict_of_not_same hsame]
    exact fun h => hkey (ReplayVerdict.refused.inj h)
  | true =>
    rw [replayVerdict_of_same hsame]
    split
    · split
      · exact nofun
      · exact fun h => hkey (ReplayVerdict.refused.inj h)
    · exact fun h => hreceipt (ReplayVerdict.refused.inj h)

/-- **Replay paths.** For a live order and a payment under the key, the three paths agree exactly
when the insert violated the key, and the order is spelt as it is printed, or the payment is not a
repetition of the request, or it is one of another retailer. -/
theorem replayPaths_iff {object : UniqueObject}
    (hfound : b.getByIdempotencyKey req.idempotencyKey = some p)
    (horder : (Uuid.parse orderId).bind b.liveOrder? = some o)
    (hobject : object ∈ replayableUniqueObjects) :
    b.PathsAgree orderId o p req object ↔
      object = .paymentsIdempotencyKey ∧
        (orderId = o.id.text ∨ ¬(p.orderId = o.id ∧ p.Repeats req) ∨
          (ReceiptFits p req ∧ p.retailerId ≠ o.retailerId)) := by
  obtain ⟨id, hparse, hlive⟩ := Option.bind_eq_some_iff.mp horder
  obtain ⟨-, rfl, -⟩ := liveOrder?_eq_some.mp hlive
  have hkey := (getByIdempotencyKey_some hfound).2.1
  have hsame : samePaymentRequest p o.id.text req = true ↔ p.orderId = o.id ∧ p.Repeats req := by
    rw [samePaymentRequest_eq_true, Uuid.text_inj]
    constructor
    · rintro ⟨hid, hamount, hmethod, href⟩
      exact ⟨hid, hkey, hamount, hmethod, href⟩
    · rintro ⟨hid, hrep⟩
      exact ⟨hid, hrep.amount, hrep.method, hrep.reference⟩
  rcases List.mem_pair.mp hobject with rfl | rfl
  · have hrace : replayVerdict
        (b.classifyPaymentInsertRace (.uniqueViolation .paymentsIdempotencyKey) o req) =
          replayVerdict (replayOrConflict o p req) := by rw [classify_key hfound]
    by_cases htext : orderId = o.id.text
    · subst htext
      exact iff_of_true ⟨fastVerdict_text hfound hlive, hrace⟩ ⟨rfl, .inl rfl⟩
    have hspelt : ∀ id : Uuid, orderId ≠ id.text := by
      rintro id rfl
      rw [Uuid.parse_text, Option.some.injEq] at hparse
      exact htext (hparse ▸ rfl)
    have hfast := fastVerdict_spelt hfound hspelt
    constructor
    · intro h
      refine ⟨rfl, .inr ?_⟩
      have hlocked := Option.some.inj (hfast.symm.trans h.fast)
      by_contra hnot
      rw [not_or, not_not, not_and, not_not] at hnot
      rw [replayVerdict_of_same (hsame.mpr hnot.1)] at hlocked
      split at hlocked
      · next hreceipt =>
        rw [if_pos (hnot.2 hreceipt)] at hlocked
        cases hlocked
      · cases hlocked
    · rintro ⟨-, hcond⟩
      refine ⟨?_, hrace⟩
      rw [hfast]
      rcases hcond with h | h | ⟨hreceipt, hretailer⟩
      · exact absurd h htext
      · rw [replayVerdict_of_not_same (Bool.eq_false_iff.mpr fun hs => h (hsame.mp hs))]
      · cases hs : samePaymentRequest p o.id.text req with
        | false => rw [replayVerdict_of_not_same hs]
        | true => rw [replayVerdict_of_same hs, if_pos hreceipt, if_neg hretailer]
  · exact iff_of_false (fun h => classify_reference h.race) fun h => by cases h.1

/-! ## A repeated payment -/

/-- 4.00 by transfer on order 50. -/
def repeatedRequest : PaymentRequest :=
  samplePayment (scaled 2 400) .transfer (some "T-17") "pay-0001"

/-- The books after it. -/
def paidBooks : Books :=
  (run execute Service.confirmedOrders
    [.confirmPayment ⟨200, sampleDay⟩ (Uuid.text 50) repeatedRequest]).books

def storedPayment : Payment :=
  (paidBooks.getByIdempotencyKey "pay-0001").get (by decide +kernel)

def paidOrder : Order := (paidBooks.liveOrder? 50).get (by decide +kernel)

theorem paidBooks_found : paidBooks.getByIdempotencyKey "pay-0001" = some storedPayment :=
  (Option.some_get _).symm

theorem replayPaths_printed :
    paidBooks.PathsAgree (Uuid.text 50) paidOrder storedPayment repeatedRequest
        .paymentsIdempotencyKey ↔
      UniqueObject.paymentsIdempotencyKey = .paymentsIdempotencyKey ∧
        (Uuid.text 50 = paidOrder.id.text ∨
          ¬(storedPayment.orderId = paidOrder.id ∧ storedPayment.Repeats repeatedRequest) ∨
          (ReceiptFits storedPayment repeatedRequest ∧
            storedPayment.retailerId ≠ paidOrder.retailerId)) := by
  have horder : (Uuid.parse (Uuid.text 50)).bind paidBooks.liveOrder? = some paidOrder := by
    rw [Uuid.parse_text]
    exact (Option.some_get _).symm
  exact replayPaths_iff paidBooks_found horder (by decide)

/-- The order id without hyphens: the fast path says conflict, the re-check replay; and an insert
that met the reference first is told of a duplicate. -/
theorem replayPaths_broken_hex :
    ((Uuid.parse (Uuid.hex 50)).bind paidBooks.liveOrder? = some paidOrder ∧
      ¬paidBooks.PathsAgree (Uuid.hex 50) paidOrder storedPayment repeatedRequest
        .paymentsIdempotencyKey) ∧
    ¬paidBooks.PathsAgree (Uuid.text 50) paidOrder storedPayment repeatedRequest
      .uqPaymentsTransactionId := by
  refine ⟨⟨by decide +kernel, fun h => ?_⟩, fun h => classify_reference h.race⟩
  have hfast : paidBooks.fastVerdict (Uuid.hex 50) repeatedRequest =
      some (.refused (some .idempotencyKeyConflict)) := by decide +kernel
  have hlocked : replayVerdict (replayOrConflict paidOrder storedPayment repeatedRequest) =
      .replay storedPayment := by decide +kernel
  have hagree := h.fast
  rw [hfast, hlocked] at hagree
  cases hagree

end Books

end Mpango
