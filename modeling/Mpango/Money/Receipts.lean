import Mpango.Spec.Execution
import Mpango.Money.Step

/-!
# Receipt numbers

The allocator writes a day's number with at least six digits; the recogniser asks for exactly six.
They agree below a million (`isValidReceiptNumber_receiptNumber`). Two numbers are the same only
when day and counter are (`receiptNumber_inj`), and along any history the numbers on a day's
payments are the ones the day's counter has passed (`Numbered`): a payment that is undone takes
its number back with it.
-/

namespace Mpango

open Decimal

/-! ## The format -/

theorem length_zeroPad (width n : ℕ) :
    (zeroPad width n).length = max width (Nat.toDigits 10 n).length := by
  unfold zeroPad
  rw [List.length_append, List.length_replicate]
  omega

theorem isDigit_of_mem_zeroPad {width n : ℕ} {c : Char} (h : c ∈ zeroPad width n) :
    c.isDigit = true := by
  rcases List.mem_append.mp h with h | h
  · rw [List.eq_of_mem_replicate h]
    decide
  · exact Nat.isDigit_of_mem_toDigits (by decide) (by decide) h

/-- Padding does not change the number. -/
theorem ofDigitChars_zeroPad (width n : ℕ) : Nat.ofDigitChars 10 (zeroPad width n) 0 = n := by
  unfold zeroPad
  rw [Nat.ofDigitChars_append, Nat.ofDigitChars_replicate_zero, Nat.mul_zero,
    Nat.ofDigitChars_ten_toDigits]

/-- A number fits its width exactly below the power of ten. -/
theorem length_zeroPad_eq {width n : ℕ} (hw : 0 < width) :
    (zeroPad width n).length = width ↔ n < 10 ^ width := by
  rw [length_zeroPad, max_eq_left_iff, Nat.length_toDigits_le_iff (by decide) hw]

theorem receiptNumber_toList (d : BusinessDate) (n : ℕ) :
    (receiptNumber d n).toList = "RCT-".toList ++ d.text.toList ++ ['-'] ++ zeroPad 6 n := by
  simp [receiptNumber]

theorem BusinessDate.length_toList (d : BusinessDate) : d.text.toList.length = 8 := by
  rw [String.length_toList]
  exact d.digits.1

/-- A receipt number tells its day and its counter. -/
theorem receiptNumber_inj {d e : BusinessDate} {m n : ℕ} :
    receiptNumber d m = receiptNumber e n ↔ d = e ∧ m = n := by
  constructor
  · intro h
    have hlist := congrArg String.toList h
    rw [receiptNumber_toList, receiptNumber_toList, List.append_assoc, List.append_assoc,
      List.append_assoc, List.append_assoc] at hlist
    have hrest := List.append_cancel_left hlist
    obtain ⟨hdate, hseq⟩ := List.append_inj hrest (by rw [d.length_toList, e.length_toList])
    have hpad := List.append_cancel_left hseq
    constructor
    · cases d
      cases e
      simpa [String.toList_inj] using hdate
    · rw [← ofDigitChars_zeroPad 6 m, hpad, ofDigitChars_zeroPad]
  · rintro ⟨rfl, rfl⟩
    rfl

/-- **Allocator and recogniser.** A number the allocator writes is recognised below a million,
and not from there on. -/
theorem isValidReceiptNumber_receiptNumber {d : BusinessDate} {n : ℕ} :
    isValidReceiptNumber (some (receiptNumber d n)) = true ↔ n < 10 ^ 6 := by
  have hdigits : (zeroPad 6 n).all Char.isDigit = true :=
    List.all_eq_true.mpr fun c hc => isDigit_of_mem_zeroPad hc
  have hlast : (receiptNumber d n).toList.getLast? ≠ some '\n' := by
    intro h
    have hmem : '\n' ∈ zeroPad 6 n := by
      rw [receiptNumber_toList, List.getLast?_append] at h
      cases hz : (zeroPad 6 n).getLast? with
      | none =>
        have := length_zeroPad 6 n
        rw [List.getLast?_eq_none_iff.mp hz, List.length_nil] at this
        omega
      | some c =>
        rw [hz, Option.some_or, Option.some.injEq] at h
        exact h ▸ List.mem_of_getLast? hz
    have := isDigit_of_mem_zeroPad hmem
    simp at this
  have hdate := d.length_toList
  have hall : d.text.toList.all Char.isDigit = true := d.digits.2
  have hseq : ("RCT-".toList ++ d.text.toList ++ ['-'] ++ zeroPad 6 n).drop 13 = zeroPad 6 n := by
    rw [List.drop_append_of_le_length (by simp [hdate]), List.drop_of_length_le (by simp [hdate]),
      List.nil_append]
  have hday : (("RCT-".toList ++ d.text.toList ++ ['-'] ++ zeroPad 6 n).drop 4).take 8 =
      d.text.toList := by
    rw [List.append_assoc, List.append_assoc, List.drop_left' (by decide),
      List.take_left' hdate]
  have hhead : ("RCT-".toList ++ d.text.toList ++ ['-'] ++ zeroPad 6 n).take 4 =
      "RCT-".toList := by
    rw [List.append_assoc, List.append_assoc, List.take_left' (by decide)]
  have hdash : ("RCT-".toList ++ d.text.toList ++ ['-'] ++ zeroPad 6 n)[12]? = some '-' := by
    rw [List.append_assoc, List.getElem?_append_right (by simp [hdate])]
    simp [hdate]
  rw [isValidReceiptNumber, Option.any_some, matchesReceiptNumberPattern, if_neg hlast,
    receiptNumber_toList, hseq, hday, hhead, hdash, hdate, hdigits, hall]
  simp [length_zeroPad_eq]

namespace Books

variable {b b' inserted : Books} {o : Order} {req : PaymentRequest} {plan : PaymentPlan}
  {row : Payment} {ctx : InsertContext} {res : CanonicalPaymentResult} {tenantId : Uuid}
  {admitted : PaymentRequest → Prop}

/-! ## The allocator -/

/-- The last number a day has given out. -/
def counter (b : Books) (d : BusinessDate) : ℕ :=
  (b.receiptSequences.find? d).elim 0 ReceiptSequence.nextSeq

theorem counter_congr (h : b'.receiptSequences = b.receiptSequences) :
    b'.counter = b.counter := by
  funext d
  rw [counter, counter, h]

theorem counter_le_of_rows {n : ℕ} (h : ∀ row ∈ b.receiptSequences.rows, row.nextSeq ≤ n)
    {d : BusinessDate} : b.counter d ≤ n := by
  unfold counter
  cases hfind : b.receiptSequences.find? d with
  | none => exact Nat.zero_le n
  | some row => exact h row (Table.mem_rows.mpr (Table.mem_of_find? hfind))

/-- The allocator gives out the next number of its day and counts it. -/
theorem allocateReceiptNumber_eq_ok {d : BusinessDate} {number : String}
    (h : b.allocateReceiptNumber d = .ok (b', number)) :
    number = receiptNumber d (b.counter d + 1) ∧
      b'.counter = Function.update b.counter d (b.counter d + 1) := by
  unfold allocateReceiptNumber at h
  split at h
  · next seq hseq =>
    simp only [bind_eq_ok, exists_unit_ok, pure_eq_ok, Prod.mk.injEq] at h
    obtain ⟨-, rfl, rfl⟩ := h
    obtain rfl : seq.businessDate = d := Table.key_of_find? hseq
    have hcount : b.counter seq.businessDate = seq.nextSeq := by
      rw [counter, hseq, Option.elim_some]
    refine ⟨by rw [hcount], ?_⟩
    funext e
    rw [hcount]
    show ((b.receiptSequences.set { seq with nextSeq := seq.nextSeq + 1 }).find? e).elim 0 _ = _
    by_cases he : e = seq.businessDate
    · subst he
      have hset := Table.find?_set_self (r := { seq with nextSeq := seq.nextSeq + 1 }) hseq
      rw [key_receiptSequence] at hset
      rw [hset, Option.elim_some, Function.update_self]
    · rw [Function.update_of_ne he, Table.find?_set_of_ne he, counter]
  · next hnone =>
    simp only [bind_eq_ok, orRefuse_eq_ok, pure_eq_ok, Prod.mk.injEq] at h
    obtain ⟨sequences, hins, rfl, rfl⟩ := h
    have hcount : b.counter d = 0 := by rw [counter, hnone, Option.elim_none]
    refine ⟨by rw [hcount], ?_⟩
    funext e
    rw [counter, Table.find?_insert? hins, key_receiptSequence]
    by_cases he : e = d
    · rw [if_pos he, Option.elim_some, he, Function.update_self, hcount]
    · rw [if_neg he, Function.update_of_ne he, counter]

/-- The receipt of a new row is the next number of its day, or there is none. -/
theorem Receipted.counter {receipt : Option String}
    (h : b.Receipted ctx req plan receipt b'.receiptSequences) :
    receipt = none ∧ b'.counter = b.counter ∨
      receipt = some (receiptNumber ctx.businessDate (b.counter ctx.businessDate + 1)) ∧
        b'.counter = Function.update b.counter ctx.businessDate
          (b.counter ctx.businessDate + 1) := by
  rcases h with ⟨hnone, hsame, -⟩ | ⟨-, -, b₁, number, halloc, hsome, hseq⟩
  · exact .inl ⟨hnone, counter_congr hsame⟩
  · obtain ⟨rfl, hcount⟩ := allocateReceiptNumber_eq_ok halloc
    exact .inr ⟨hsome, (counter_congr hseq).trans hcount⟩

/-! ## The numbers on the payments -/

/-- The numbers on the payments of a day are those between the counter the tenant started with
and the counter now; no number is on two payments. -/
structure Numbered (base : BusinessDate → ℕ) (b : Books) : Prop where
  consecutive : ∀ d n, (∃ p ∈ b.payments, p.receiptNumber = some (receiptNumber d n)) ↔
    base d < n ∧ n ≤ b.counter d
  allocated : ∀ p ∈ b.payments, ∀ r, p.receiptNumber = some r → ∃ d n, r = receiptNumber d n
  distinct : ∀ p ∈ b.payments, ∀ q ∈ b.payments, p.receiptNumber ≠ none →
    p.receiptNumber = q.receiptNumber → p = q

theorem Numbered.congr {base : BusinessDate → ℕ} (h : b.Numbered base)
    (hpay : b'.payments = b.payments) (hseq : b'.receiptSequences = b.receiptSequences) :
    b'.Numbered base where
  consecutive d n := by
    rw [hpay, counter_congr hseq]
    exact h.consecutive d n
  allocated p hp := h.allocated p (hpay ▸ hp)
  distinct p hp q hq := h.distinct p (hpay ▸ hp) q (hpay ▸ hq)

/-- An execution leaves the counters where the insert put them. -/
theorem Executed.counter (hx : b.Executed ctx o req plan row inserted b' res) :
    b'.counter = inserted.counter := by
  refine counter_congr ?_
  rcases hx.cases with ⟨-, -, ⟨hold', ht⟩, -⟩ | ⟨-, -, ht, -⟩ | ⟨-, ht, -⟩ <;> rw [ht.frame]

/-- The receipts after an execution are those before it and the new row's. -/
theorem Executed.receipts (hx : b.Executed ctx o req plan row inserted b' res) (r : String) :
    (∃ p ∈ b'.payments, p.receiptNumber = some r) ↔
      (∃ p ∈ b.payments, p.receiptNumber = some r) ∨ row.receiptNumber = some r := by
  obtain ⟨status, -, hmem⟩ := hx.mem_payments
  constructor
  · rintro ⟨p, hp, hr⟩
    obtain ⟨q, hq | rfl, rfl⟩ := (hmem p).mp hp
    · exact .inl ⟨q, hq, hr⟩
    · exact .inr hr
  · rintro (⟨p, hp, hr⟩ | hr)
    · exact ⟨_, (hmem _).mpr ⟨p, .inl hp, rfl⟩, hr⟩
    · exact ⟨_, (hmem _).mpr ⟨row, .inr rfl, rfl⟩, hr⟩

/-- An execution keeps the numbers consecutive. -/
theorem Numbered.executed {base : BusinessDate → ℕ} (h : b.Numbered base)
    (hbase : ∀ d, base d ≤ b.counter d)
    (hx : b.Executed ctx o req plan row inserted b' res) : b'.Numbered base := by
  obtain ⟨status, -, hmem⟩ := hx.mem_payments
  have hcount := hx.counter
  have hreceipt := hx.insert.receipt.counter
  rw [← hcount] at hreceipt
  have hallocated : ∀ q, (q ∈ b.payments ∨ q = row) → ∀ r, q.receiptNumber = some r →
      ∃ d n, r = receiptNumber d n := by
    rintro q (hq | rfl) r hr
    · exact h.allocated q hq r hr
    · rcases hreceipt with ⟨hnone, -⟩ | ⟨hsome, -⟩
      · simp [hnone] at hr
      · exact ⟨_, _, (Option.some.inj (hsome.symm.trans hr)).symm⟩
  -- the new number is on no payment yet
  have hfresh : row.receiptNumber ≠ none → ∀ q ∈ b.payments, q.receiptNumber ≠ row.receiptNumber := by
    intro hne q hq heq
    rcases hreceipt with ⟨hnone, -⟩ | ⟨hsome, -⟩
    · exact hne hnone
    · have := ((h.consecutive _ _).mp ⟨q, hq, heq.trans hsome⟩).2
      omega
  refine { consecutive := fun d n => ?_, allocated := fun p hp r hr => ?_
           distinct := fun p hp q hq hne heq => ?_ }
  · rw [hx.receipts, h.consecutive]
    rcases hreceipt with ⟨hnone, hsame⟩ | ⟨hsome, hnext⟩
    · simp [hnone, hsame]
    · rw [hsome, Option.some.injEq, receiptNumber_inj, hnext]
      by_cases hd : d = ctx.businessDate
      · subst hd
        have := hbase ctx.businessDate
        rw [Function.update_self]
        simp only [true_and]
        omega
      · rw [Function.update_of_ne hd]
        simp [Ne.symm hd]
  · obtain ⟨q, hq, rfl⟩ := (hmem p).mp hp
    exact hallocated q hq r hr
  · obtain ⟨x, hx', rfl⟩ := (hmem p).mp hp
    obtain ⟨y, hy', rfl⟩ := (hmem q).mp hq
    have hsame : x = y := by
      rcases hx' with hx' | rfl
      · rcases hy' with hy' | rfl
        · exact h.distinct x hx' y hy' hne heq
        · exact absurd heq (hfresh (heq ▸ hne) x hx')
      · rcases hy' with hy' | rfl
        · exact absurd heq.symm (hfresh hne y hy')
        · rfl
    rw [hsame]

/-- No counter goes back. -/
theorem Executed.counter_mono (hx : b.Executed ctx o req plan row inserted b' res)
    (d : BusinessDate) : b.counter d ≤ b'.counter d := by
  rw [hx.counter]
  rcases hx.insert.receipt.counter with ⟨-, hsame⟩ | ⟨-, hnext⟩
  · rw [hsame]
  · rw [hnext]
    by_cases hd : d = ctx.businessDate
    · rw [hd, Function.update_self]
      omega
    · rw [Function.update_of_ne hd]

/-- Every other write leaves payments and counters as they are. -/
theorem Step.payments_of_not_pay (h : Step tenantId (fun _ => False) b b') :
    b'.payments = b.payments ∧ b'.receiptSequences = b.receiptSequences := by
  cases h with
  | pay _ _ _ _ hreq _ => exact hreq.elim
  | _ => exact ⟨rfl, rfl⟩

end Books

end Mpango
