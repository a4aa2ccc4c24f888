import Mpango.Money.Protocol

/-!
# Receipts are kept and recognised

In every state served from a fresh tenant the receipt numbers are those its counters have passed,
each on one payment. Whether they are also recognised is a question of their digits: a confirmed
declaration can be replayed and its receipt printed exactly when its number has six.
-/

namespace Mpango

open Decimal

section Printing
variable {db₀ db : Db} {d : PaymentDeclaration}

/-- The receipt of a confirmed declaration is printed exactly when its number is recognised. -/
theorem Declared.printed_iff (h : Declared db) (hd : d ∈ db.declarations)
    (hst : d.status = .confirmed) {p : Payment} (hp : p ∈ db.books.payments)
    (hlink : d.confirmationPaymentId = some p.id) :
    checkReceiptEligibility db (some d) d.wholesalerId = true ↔
      isValidReceiptNumber p.receiptNumber = true := by
  have hconf := h.confirms hd hst hp hlink
  obtain ⟨o, ho, hid, hlive, hret, hwhole⟩ := h.attributed d hd
  obtain ⟨row, hrow, hactive⟩ := h.bound d hd hst
  have hfound : db.books.getPaymentById p.id = some p := by
    have hfind : db.books.payments.find? p.id = some p := Table.find?_key hp
    rw [Books.getPaymentById, hfind, Option.filter_some, if_pos (by simp [hconf.live])]
  have hbinding : bindingActive db.books d.wholesalerId d.retailerId = true := by
    rw [bindingActive, hrow, Option.any_some]
    simpa using hactive
  have horder : getOrderForWholesaler db.books d.orderId d.wholesalerId = some o := by
    have hfind : db.books.liveOrder? d.orderId = some o :=
      Books.liveOrder?_eq_some.mpr ⟨ho, hid, hlive⟩
    rw [getOrderForWholesaler, hfind, Option.filter_some, if_pos (by simpa using hwhole)]
  -- every other condition of the check holds
  rw [checkReceiptEligibility, Option.any_some, hlink, Option.bind_some, hfound, Option.any_some,
    hbinding, horder, Option.any_some, isValidReceiptNumber]
  simp [hst, hconf.status, hconf.orderId, hconf.retailerId, hret]

/-- Receipt numbers are pairwise distinct and without a gap from the counters the tenant started
with, every stored one is recognised, and every confirmed declaration can be confirmed again
without a write and printed. -/
structure ReceiptsAccepted (base : BusinessDate → ℕ) (db : Db) : Prop where
  numbered : db.books.Numbered base
  recognised : ∀ p ∈ db.books.payments, p.receiptNumber ≠ none →
    isValidReceiptNumber p.receiptNumber = true
  replayed : ∀ d ∈ db.declarations, d.status = .confirmed → ∀ ctx, ∃ res,
    confirmDeclaration db ctx d.id d.wholesalerId = .ok (db, res)
  printed : ∀ d ∈ db.declarations, d.status = .confirmed →
    checkReceiptEligibility db (some d) d.wholesalerId = true

/-- A stored receipt number is recognised when its day has not passed six digits. -/
theorem Books.Numbered.recognised {b : Books} {base : BusinessDate → ℕ} (h : b.Numbered base)
    (hsmall : ∀ day, base day < b.counter day → b.counter day < 10 ^ 6) {p : Payment}
    (hp : p ∈ b.payments) (hr : p.receiptNumber ≠ none) :
    isValidReceiptNumber p.receiptNumber = true := by
  obtain ⟨r, hr⟩ := Option.ne_none_iff_exists'.mp hr
  obtain ⟨day, n, rfl⟩ := h.allocated p hp r hr
  obtain ⟨hlt, hle⟩ := (h.consecutive day n).mp ⟨p, hp, hr⟩
  rw [hr, isValidReceiptNumber_receiptNumber]
  exact hle.trans_lt (hsmall day (hlt.trans_le hle))

/-- **Receipt numbers.** In every state served from a fresh tenant the receipts are distinct,
without a gap, recognised, replayed and printed exactly when no day has given out a number of
more than six digits; and whatever the state, the next number of a day is recognised exactly when
it has six. -/
theorem receiptsAccepted_iff (hfresh : db₀.Fresh) (h : Served PaymentRequest.Routed db₀ db) :
    db.books.Numbered db₀.books.counter ∧
    (ReceiptsAccepted db₀.books.counter db ↔ ∀ day, db₀.books.counter day < db.books.counter day →
      db.books.counter day < 10 ^ 6) ∧
    ∀ day b' number, db.books.allocateReceiptNumber day = .ok (b', number) →
      (isValidReceiptNumber (some number) = true ↔ db.books.counter day + 1 < 10 ^ 6) := by
  obtain ⟨hdecl, hnum⟩ := h.declared hfresh
  refine ⟨hnum, ⟨fun haccepted day hday => ?_, fun hsmall => ?_⟩, fun day b' number hnext => ?_⟩
  · -- the last number of the day is stored
    obtain ⟨p, hp, hreceipt⟩ := (hnum.consecutive day (db.books.counter day)).mpr ⟨hday, le_rfl⟩
    have hvalid := haccepted.recognised p hp (by simp [hreceipt])
    rwa [hreceipt, isValidReceiptNumber_receiptNumber] at hvalid
  · have hlinked : ∀ d ∈ db.declarations, d.status = .confirmed → ∃ p ∈ db.books.payments,
        d.confirmationPaymentId = some p.id ∧ isValidReceiptNumber p.receiptNumber = true := by
      intro d hd hst
      obtain ⟨p, hp, hlink, hconf⟩ := hdecl.linked d hd hst
      obtain ⟨day, n, hreceipt⟩ := hconf.receipt
      exact ⟨p, hp, hlink, hnum.recognised hsmall hp (by simp [hreceipt])⟩
    refine
      { numbered := hnum, recognised := fun p hp hr => hnum.recognised hsmall hp hr
        replayed := fun d hd hst ctx => ?_, printed := fun d hd hst => ?_ }
    · obtain ⟨p, hp, hlink, hvalid⟩ := hlinked d hd hst
      obtain ⟨res, hok, -⟩ := (hdecl.replay_iff hd hst hp hlink ctx).mpr hvalid
      exact ⟨res, hok⟩
    · obtain ⟨p, hp, hlink, hvalid⟩ := hlinked d hd hst
      exact (hdecl.printed_iff hd hst hp hlink).mpr hvalid
  · obtain ⟨rfl, -⟩ := Books.allocateReceiptNumber_eq_ok hnext
    exact isValidReceiptNumber_receiptNumber

end Printing

theorem receiptsAccepted_declaredRun :
    (run execute (sampleTenant 10000) declaredRun).books.payments.rows.map Payment.receiptNumber =
        [some "RCT-20260105-000001"] ∧
      ReceiptsAccepted (sampleTenant 10000).books.counter
        (run execute (sampleTenant 10000) declaredRun) := by
  refine ⟨by decide +kernel, (receiptsAccepted_iff (sampleTenant_fresh (by decide))
    (served_run .start declaredRun_routed)).2.1.mpr fun day _ => ?_⟩
  have hsequences : (run execute (sampleTenant 10000) declaredRun).books.receiptSequences.rows =
      [⟨sampleDay, 1⟩] := by decide +kernel
  exact (Books.counter_le_of_rows (by simp [hsequences])).trans_lt (by decide : 1 < 10 ^ 6)

/-- The millionth receipt of a day is stored with seven digits. -/
theorem receipts_unrecognised_busyTenant :
    (run execute busyTenant declaredRun).books.payments.rows.map Payment.receiptNumber =
        [some "RCT-20260105-1000000"] ∧
      ¬ReceiptsAccepted busyTenant.books.counter (run execute busyTenant declaredRun) := by
  have hrows : (run execute busyTenant declaredRun).books.payments.rows.map Payment.receiptNumber =
      [some "RCT-20260105-1000000"] := by decide +kernel
  refine ⟨hrows, fun h => ?_⟩
  obtain ⟨p, hp, hreceipt⟩ := List.mem_map.mp (hrows ▸ List.mem_singleton_self _)
  have hvalid := h.recognised p (Table.mem_rows.mp hp) (by simp [hreceipt])
  rw [hreceipt] at hvalid
  exact absurd hvalid (by decide +kernel)

end Mpango
