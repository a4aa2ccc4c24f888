import Mpango.Money.Lifecycle
import Mpango.Model.Bootstrap

/-!
# What the gates on a history accept

The gates read totals; a lifecycle is about rows. They meet because effective payments are
positive: a total of zero means no payments, and a credit of one row is that row. So an order that
passes has an account of the right shape (`Books.shape_of_gates`), and an order with a sound
account passes (`Books.gates_of_sound`). The one account the gates let through beside these is a voided order
with a released hold.
-/

namespace Mpango

open Decimal

/-- Positive amounts sum to nothing only when there are none. -/
theorem sum_eq_zero_of_pos {l : List ℤ} (h : ∀ x ∈ l, 0 < x) : l.sum = 0 ↔ l = [] := by
  constructor
  · intro hsum
    cases l with
    | nil => rfl
    | cons x xs =>
      have hx := h x List.mem_cons_self
      have hxs : 0 ≤ xs.sum := List.sum_nonneg fun y hy => (h y (List.mem_cons_of_mem _ hy)).le
      rw [List.sum_cons] at hsum
      omega
  · rintro rfl
    rfl

namespace Books

variable {b : Books} {o : Order} {foreign : Order → Bool} {splitCredit : Bool}

/-! ## Payments -/

theorem illegalPayment_eq_false {p : Payment} : b.illegalPayment foreign p = false ↔
    (p.isDeleted = false → 0 < p.amount.unscaled ∧ ∃ o ∈ b.orders, o.id = p.orderId ∧
      o.isDeleted = false ∧ foreign o = false ∧ p.retailerId = o.retailerId) := by
  unfold illegalPayment
  cases p.isDeleted with
  | true => simp
  | false =>
    cases hfind : b.orders.find? p.orderId with
    | none =>
      have hnone := Table.find?_eq_none.mp hfind
      simp only [Bool.not_false, Bool.true_and, Option.all_none, Bool.or_true, reduceCtorEq,
        true_imp_iff, false_iff]
      rintro ⟨-, o, ho, hid, -⟩
      exact hnone o ho hid
    | some x =>
      obtain ⟨hmem, hid⟩ := Table.find?_eq_some.mp hfind
      simp only [Bool.not_false, Bool.true_and, Option.all_some, Bool.or_eq_false_iff,
        decide_eq_false_iff_not, not_le, not_not, ne_eq, true_imp_iff, Bool.or_assoc]
      refine and_congr_right fun _ => ⟨fun ⟨hlive, hown, hret⟩ => ?_, ?_⟩
      · exact ⟨x, hmem, hid, hlive, hown, hret⟩
      · rintro ⟨y, hy, hyid, hlive, hown, hret⟩
        obtain rfl : y = x := Table.eq_of_key_eq hy hmem (hyid.trans hid.symm)
        exact ⟨hlive, hown, hret⟩

/-- The effective payments of an order are positive, and at most one of them is credit. -/
structure Legal (b : Books) (o : Order) : Prop where
  tenders_pos : ∀ t ∈ (b.account o).tenders, 0 < t
  credits_pos : ∀ t ∈ (b.account o).credits, 0 < t
  unsplit : (b.account o).credits.length ≤ 1

theorem legal_of_gates (hlegal : ∀ p ∈ b.payments, b.illegalPayment foreign p = false)
    (hunsplit : ∀ p ∈ b.payments, b.splitsCredit p = false) (o : Order) : b.Legal o := by
  have hpos : ∀ methods, ∀ t ∈ b.methodAmounts o.id methods, 0 < t := by
    intro methods t ht
    obtain ⟨p, hp, rfl⟩ := List.mem_map.mp ht
    obtain ⟨hmem, -, hlive, -⟩ := mem_orderPayments.mp hp
    exact (illegalPayment_eq_false.mp (hlegal p hmem) hlive).1
  refine ⟨hpos _, hpos _, ?_⟩
  -- a second credit payment would be on a payment the gate has passed
  have hlen : (b.account o).credits.length = b.countOrderPayments o.id .credit :=
    List.length_map ..
  rw [hlen]
  cases hp : b.orderPayments o.id [.credit] with
  | nil => simp [countOrderPayments, hp]
  | cons p ps =>
    obtain ⟨hmem, hid, hlive, -⟩ := mem_orderPayments.mp (hp ▸ List.mem_cons_self)
    have := hunsplit p hmem
    simpa [splitsCredit, hlive, hid] using this

theorem Legal.tenders_eq_nil (h : b.Legal o) : b.cashTotal o.id = 0 ↔ (b.account o).tenders = [] :=
  sum_eq_zero_of_pos h.tenders_pos

theorem Legal.credits_eq_nil (h : b.Legal o) : b.creditSold o.id = 0 ↔ (b.account o).credits = [] :=
  sum_eq_zero_of_pos h.credits_pos

theorem Legal.creditSold_nonneg (h : b.Legal o) : 0 ≤ b.creditSold o.id :=
  List.sum_nonneg fun t ht => (h.credits_pos t ht).le

theorem Legal.cashTotal_nonneg (h : b.Legal o) : 0 ≤ b.cashTotal o.id :=
  List.sum_nonneg fun t ht => (h.tenders_pos t ht).le

/-- The one credit payment of an order is its credit total. -/
theorem Legal.credits_eq_singleton (h : b.Legal o) (hpos : 0 < b.creditSold o.id) :
    (b.account o).credits = [b.creditSold o.id] := by
  have hlen := h.unsplit
  have hsum : b.creditSold o.id = (b.account o).credits.sum := rfl
  rw [hsum] at hpos ⊢
  cases hc : (b.account o).credits with
  | nil => simp [hc] at hpos
  | cons t ts =>
    rw [hc, List.length_cons] at hlen
    obtain rfl : ts = [] := List.length_eq_zero_iff.mp (by omega)
    simp

/-! ## The state matrix and the hold -/

theorem matrix_of_confirmed {total cash credit : ℤ} :
    matrixOffends .confirmed total cash credit splitCredit = false ↔
      0 < total ∧ cash = 0 ∧ credit = 0 := by
  simp [matrixOffends, holdBearingStatuses, terminalPaidStatuses, noHoldStatuses]

theorem matrix_of_partiallyPaid {total cash credit : ℤ} :
    matrixOffends .partiallyPaid total cash credit splitCredit = false ↔
      0 < total ∧ credit = 0 ∧ 0 < cash ∧ cash < total := by
  simp [matrixOffends, holdBearingStatuses, terminalPaidStatuses, noHoldStatuses, and_assoc]

theorem matrix_of_terminal {status : OrderState} {total cash credit : ℤ}
    (h : status ∈ terminalPaidStatuses) :
    matrixOffends status total cash credit splitCredit = false ↔
      0 < total ∧ (0 < credit → splitCredit = false ∧ credit = total ∧ 0 ≤ cash ∧ cash ≤ credit) ∧
        (credit = 0 → cash = total) := by
  simp only [terminalPaidStatuses, List.mem_cons, List.not_mem_nil, or_false] at h
  rcases h with rfl | rfl | rfl <;>
    simp [matrixOffends, holdBearingStatuses, terminalPaidStatuses, noHoldStatuses, and_assoc]

theorem matrix_of_noHold {status : OrderState} {total cash credit : ℤ}
    (h : status ∈ noHoldStatuses) :
    matrixOffends status total cash credit splitCredit = false ↔ cash = 0 ∧ credit = 0 := by
  simp only [noHoldStatuses, List.mem_cons, List.not_mem_nil, or_false] at h
  rcases h with rfl | rfl | rfl <;>
    simp [matrixOffends, holdBearingStatuses, terminalPaidStatuses, noHoldStatuses]

/-- The hold of an order that needs one is the one it should have. -/
theorem hold_of_needed (h : o.status ∈ holdBearingStatuses ++ terminalPaidStatuses) :
    b.holdOffends o = false ↔ (b.account o).hold = some
      ⟨wantStatus o.status (b.creditSold o.id), o.totalAmount.unscaled,
        wantRemaining o.status o.totalAmount.unscaled (b.cashTotal o.id) (b.creditSold o.id)⟩ := by
  have hother : o.status ≠ .draft ∧ o.status ≠ .cancelled ∧ o.status ≠ .voided := by
    revert h
    cases o.status <;> decide
  rw [holdOffends, account]
  cases b.creditHolds.find? o.id with
  | none => simp [h]
  | some row =>
    simp only [List.contains_eq_mem, h, decide_true, Option.all_some, Bool.true_and, hother,
      decide_false, Bool.false_and, Bool.or_false, List.mem_cons, List.not_mem_nil, or_false,
      Bool.or_eq_false_iff, decide_eq_false_iff_not, not_not, Option.map_some, Option.some.injEq,
      holdCents, Hold.mk.injEq, ne_eq, and_assoc]
    constructor
    · rintro ⟨hs, hr, ha⟩
      exact ⟨hs, by rw [ha], hr⟩
    · rintro ⟨hs, ha, hr⟩
      exact ⟨hs, hr, Numeric.ext ha⟩

theorem hold_of_draft (h : o.status = .draft) :
    b.holdOffends o = false ↔ (b.account o).hold = none := by
  rw [holdOffends, account, h]
  cases b.creditHolds.find? o.id with
  | none => simp [holdBearingStatuses, terminalPaidStatuses]
  | some row => simp [holdBearingStatuses, terminalPaidStatuses]

/-- A cancelled or voided order may have a released hold of its total. -/
theorem hold_of_dropped (h : o.status = .cancelled ∨ o.status = .voided) :
    b.holdOffends o = false ↔ (b.account o).hold = none ∨
      (b.account o).hold = some ⟨.released, o.totalAmount.unscaled, 0⟩ := by
  rw [holdOffends, account]
  cases b.creditHolds.find? o.id with
  | none => rcases h with h | h <;> simp [h, holdBearingStatuses, terminalPaidStatuses]
  | some row =>
    rcases h with h | h <;>
      simp [h, holdBearingStatuses, terminalPaidStatuses, holdCents, Numeric.ext_iff, and_comm,
        and_left_comm]

/-! ## Accounts and gates -/

theorem legal_of_sound (ha : (b.account o).Sound) : b.Legal o := by
  refine ⟨ha.tenders_pos, ha.credits_pos, ?_⟩
  have hs := ha.shape
  cases hst : o.status <;> simp only [Account.Shape, account_status, hst] at hs
  case draft | voided | cancelled | confirmed => simp [hs.2.2]
  case partiallyPaid => simp [hs.2.2.2]
  case paid | fulfilled | returned =>
    rcases hs with ⟨-, hcr, -⟩ | ⟨-, hcr, -⟩
    · simp [hcr]
    · simp [hcr]

/-- A sound account passes the gates. -/
theorem gates_of_sound (ha : (b.account o).Sound) :
    matrixOffends o.status o.totalAmount.unscaled (b.cashTotal o.id) (b.creditSold o.id) false =
      false ∧ b.holdOffends o = false := by
  have hl := legal_of_sound ha
  have hs := ha.shape
  have hpos := ha.total_pos
  have hcash : b.cashTotal o.id = (b.account o).tenders.sum := rfl
  have hcredit : b.creditSold o.id = (b.account o).credits.sum := rfl
  rw [account_total] at hpos
  cases hst : o.status <;> simp only [Account.Shape, account_status, account_total, hst] at hs
  case draft =>
    rw [hold_of_draft hst, matrix_of_noHold (by decide), hl.tenders_eq_nil, hl.credits_eq_nil]
    exact ⟨hs.2, hs.1⟩
  case voided =>
    rw [hold_of_dropped (.inr hst), matrix_of_noHold (by decide), hl.tenders_eq_nil,
      hl.credits_eq_nil]
    exact ⟨hs.2, .inl hs.1⟩
  case cancelled =>
    rw [hold_of_dropped (.inl hst), matrix_of_noHold (by decide), hl.tenders_eq_nil,
      hl.credits_eq_nil]
    exact ⟨hs.2, hs.1⟩
  case confirmed =>
    obtain ⟨hhold, hts, hcr⟩ := hs
    rw [hold_of_needed (by rw [hst]; decide), matrix_of_confirmed, hl.tenders_eq_nil,
      hl.credits_eq_nil, hcash, hcredit, hts, hcr, hst, hhold]
    exact ⟨⟨hpos (by simp [hhold]), rfl, rfl⟩, by simp [wantStatus, wantRemaining,
      holdBearingStatuses]⟩
  case partiallyPaid =>
    obtain ⟨hhold, hleft, hpart, hcr⟩ := hs
    rw [hold_of_needed (by rw [hst]; decide), matrix_of_partiallyPaid, hl.credits_eq_nil, hcash,
      hcredit, hcr, hst, hhold]
    refine ⟨⟨hpos (by simp [hhold]), rfl, by omega, by omega⟩, ?_⟩
    simp [wantStatus, wantRemaining, holdBearingStatuses]
  case paid | fulfilled | returned =>
    rw [hold_of_needed (by rw [hst]; decide), matrix_of_terminal (by decide), hcash, hcredit, hst]
    rcases hs with ⟨hhold, hcr, hsum⟩ | ⟨hhold, hcr, hnn, hle⟩
    · rw [hhold, hcr]
      refine ⟨⟨hpos (by simp [hhold]), by simp, fun _ => hsum⟩, ?_⟩
      simp [wantStatus, wantRemaining, holdBearingStatuses]
    · have htotal := hpos (by simp [hhold])
      rw [hhold, hcr, List.sum_singleton]
      refine ⟨⟨htotal, fun _ => ⟨rfl, rfl, hnn, hle⟩, fun h => by omega⟩, ?_⟩
      simp [wantStatus, wantRemaining, holdBearingStatuses, htotal]

/-- The account of an order that passes the gates has its shape, or the order is voided with a
released hold. -/
theorem shape_of_gates (hl : b.Legal o)
    (hm : matrixOffends o.status o.totalAmount.unscaled (b.cashTotal o.id) (b.creditSold o.id)
      splitCredit = false) (hh : b.holdOffends o = false) :
    (b.account o).Shape ∨ o.status = .voided ∧
      (b.account o).hold = some ⟨.released, o.totalAmount.unscaled, 0⟩ ∧
      (b.account o).tenders = [] ∧ (b.account o).credits = [] := by
  have hcash : b.cashTotal o.id = (b.account o).tenders.sum := rfl
  have hcredit : b.creditSold o.id = (b.account o).credits.sum := rfl
  cases hst : o.status
  case draft =>
    rw [hold_of_draft hst] at hh
    rw [hst, matrix_of_noHold (by decide), hl.tenders_eq_nil, hl.credits_eq_nil] at hm
    left
    simp only [Account.Shape, account_status, hst]
    exact ⟨hh, hm⟩
  case voided =>
    rw [hold_of_dropped (.inr hst)] at hh
    rw [hst, matrix_of_noHold (by decide), hl.tenders_eq_nil, hl.credits_eq_nil] at hm
    rcases hh with hh | hh
    · left
      simp only [Account.Shape, account_status, hst]
      exact ⟨hh, hm⟩
    · exact .inr ⟨rfl, hh, hm⟩
  case cancelled =>
    rw [hold_of_dropped (.inl hst)] at hh
    rw [hst, matrix_of_noHold (by decide), hl.tenders_eq_nil, hl.credits_eq_nil] at hm
    left
    simp only [Account.Shape, account_status, account_total, hst]
    exact ⟨hh, hm⟩
  case confirmed =>
    rw [hst, matrix_of_confirmed, hl.tenders_eq_nil, hl.credits_eq_nil] at hm
    obtain ⟨hpos, hts, hcr⟩ := hm
    rw [hold_of_needed (by rw [hst]; decide), hcash, hcredit, hts, hcr, hst] at hh
    left
    simp only [Account.Shape, account_status, account_total, hst]
    refine ⟨hh.trans ?_, hts, hcr⟩
    simp [wantStatus, wantRemaining, holdBearingStatuses]
  case partiallyPaid =>
    rw [hst, matrix_of_partiallyPaid, hl.credits_eq_nil] at hm
    obtain ⟨hpos, hcr, hpart, hleft⟩ := hm
    rw [hold_of_needed (by rw [hst]; decide), hcredit, hcr, hst] at hh
    left
    simp only [Account.Shape, account_status, account_total, hst]
    refine ⟨hh.trans ?_, by omega, by omega, hcr⟩
    simp [wantStatus, wantRemaining, holdBearingStatuses, hcash]
  case paid | fulfilled | returned =>
    rw [hst, matrix_of_terminal (by decide)] at hm
    obtain ⟨hpos, hsold, hsettled⟩ := hm
    rw [hold_of_needed (by rw [hst]; decide), hst] at hh
    left
    simp only [Account.Shape, account_status, account_total, hst]
    by_cases hzero : b.creditSold o.id = 0
    · refine .inl ⟨hh.trans ?_, hl.credits_eq_nil.mp hzero, hsettled hzero⟩
      simp [wantStatus, wantRemaining, holdBearingStatuses, hzero]
    · have hcreditpos : 0 < b.creditSold o.id := by
        have := hl.creditSold_nonneg
        omega
      obtain ⟨-, htotal, hnn, hle⟩ := hsold hcreditpos
      refine .inr ⟨hh.trans ?_, htotal ▸ hl.credits_eq_singleton hcreditpos, hnn, htotal ▸ hle⟩
      simp [wantStatus, wantRemaining, holdBearingStatuses, hcreditpos]

end Books

end Mpango
