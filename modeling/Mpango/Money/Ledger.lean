import Mpango.Money.Lifecycle

/-!
# Cash in the ledger

Settling in full posts the order's total as cash, a collection what it collects, a return the
total as a refund; confirming and selling on credit post nothing. So the ledger always shows of an
order what its account has banked and refunded (`Ledgered`). For an order settled by tenders the
refund is what was received. For one sold on credit it is the whole total, however much of it was
collected; and the revenue and the receivable that a return and the payments post were never
posted the other way.
-/

namespace Mpango

open Decimal

/-! ## Groups and totals -/

/-- A ledger made of groups of two entries on one reference, each group posted at once and
balanced. -/
inductive Balanced : List LedgerEntry → Prop
  | nil : Balanced []
  | post {entries : List LedgerEntry} (debit credit : AccountType) (m n : LedgerAmount)
      (reference : LedgerReference) (id : Uuid) :
      Balanced entries → m.unscaled + n.unscaled = 0 →
      Balanced (entries ++ [⟨debit, m, reference, id⟩, ⟨credit, n, reference, id⟩])

/-- The total of an order's entries on certain accounts and references, in hundredths of a
cent. -/
def entryTotal (entries : List LedgerEntry) (id : Uuid)
    (p : AccountType → LedgerReference → Bool) : ℤ :=
  ((entries.filter fun e => e.referenceId = id && p e.accountType e.referenceType).map
    fun e => e.amount.unscaled).sum

namespace Books

/-- The cash entries of an order. -/
def cash (b : Books) (id : Uuid) : ℤ := entryTotal b.ledgerEntries id fun t _ => t = .cash

/-- The cash refunded for an order. -/
def refund (b : Books) (id : Uuid) : ℤ :=
  -entryTotal b.ledgerEntries id fun t r => t = .cash && r = .refund

/-- The balance of an account on an order. -/
def balance (b : Books) (id : Uuid) (account : AccountType) : ℤ :=
  entryTotal b.ledgerEntries id fun t _ => t = account

/-- The cash and transfer payments received for an order, in hundredths of a cent. -/
def received (b : Books) (id : Uuid) : ℤ := b.methodCents id [.cash, .transfer] * 100

end Books

/-- What the ledger should show of an account. -/
def Account.posted (a : Account) (p : AccountType → LedgerReference → Bool) : ℤ :=
  (if p .cash .order then a.banked else 0) - (if p .receivable .order then a.banked else 0) +
    (if p .revenue .refund then a.refunded else 0) - (if p .cash .refund then a.refunded else 0)

section Posting
variable {before after : List LedgerEntry} {debit credit : AccountType} {cents banked refunded : ℤ}
  {reference : LedgerReference} {id : Uuid} {p : AccountType → LedgerReference → Bool}

theorem Books.Posted.balanced (h : Posted before debit credit cents reference id after)
    (hb : Balanced before) : Balanced after := by
  obtain ⟨m, n, hm, hn, rfl⟩ := h
  exact .post debit credit m n reference id hb (by omega)

/-- A posting moves the totals of its own order. -/
theorem Books.Posted.total (h : Posted before debit credit cents reference id after) (i : Uuid) :
    entryTotal after i p = entryTotal before i p + if i = id then
      (if p debit reference then cents else 0) * 100 -
        (if p credit reference then cents else 0) * 100 else 0 := by
  obtain ⟨m, n, hm, hn, rfl⟩ := h
  unfold entryTotal
  rw [List.filter_append, List.map_append, List.sum_append]
  congr 1
  by_cases hi : i = id
  · subst hi
    rw [if_pos rfl]
    cases hd : p debit reference <;> cases hc : p credit reference <;> simp [hd, hc, hm, hn]
  · rw [if_neg hi]
    simp [Ne.symm hi]

theorem Books.Posts.balanced (h : Posts before id banked refunded after) (hb : Balanced before) :
    Balanced after := by
  cases h with
  | nothing => exact hb
  | received _ hpost => exact hpost.balanced hb
  | refunded _ hpost => exact hpost.balanced hb

theorem Books.Posts.total (h : Posts before id banked refunded after) (i : Uuid) :
    entryTotal after i p = entryTotal before i p + if i = id then
      ((if p .cash .order then banked else 0) - (if p .receivable .order then banked else 0) +
        (if p .revenue .refund then refunded else 0) -
          (if p .cash .refund then refunded else 0)) * 100 else 0 := by
  cases h with
  | nothing => simp
  | received _ hpost =>
    rw [hpost.total]
    simp [sub_mul]
  | refunded _ hpost =>
    rw [hpost.total]
    simp [sub_mul]

end Posting

/-! ## The ledger and the accounts -/

namespace Books

variable {b b' : Books} {o : Order} {tenantId : Uuid}

/-- The ledger is balanced, and shows of every order what its account has banked and refunded, and
nothing of anything else. -/
structure Ledgered (b : Books) : Prop where
  balanced : Balanced b.ledgerEntries
  absent : ∀ id, b.orders.find? id = none → ∀ p, entryTotal b.ledgerEntries id p = 0
  posted : ∀ o ∈ b.orders, ∀ p,
    entryTotal b.ledgerEntries o.id p = (b.account o).posted p * 100

theorem Ledgered.create {orders : Table Order} (hl : b.Ledgered)
    (hins : b.orders.insert? o = some orders) (hst : o.status = .draft) :
    Ledgered { b with orders } := by
  have hnew : b.orders.find? o.id = none := (Table.insert?_eq_some.mp hins).1
  refine { balanced := hl.balanced, absent := fun id hid p => ?_, posted := fun x hx p => ?_ }
  · have hfind := Table.find?_insert? hins id
    rw [hid] at hfind
    by_cases hne : id = o.id
    · simp [hne] at hfind
    · rw [key_order, if_neg hne] at hfind
      exact hl.absent id hfind.symm p
  · rcases (Table.mem_insert? hins).mp hx with hx | rfl
    · exact hl.posted x hx p
    · obtain ⟨hbanked, hrefunded⟩ := account_of_open (b := { b with orders }) (o := x)
        (by simp [hst])
      rw [Account.posted, hbanked, hrefunded]
      simpa using hl.absent x.id hnew p

theorem Ledgered.advance {target : OrderState} {delta : ℤ} (hl : b.Ledgered)
    (h : Advance b b' o target delta) : b'.Ledgered := by
  refine
    { balanced := h.ledger.balanced hl.balanced, absent := fun id hid p => ?_
      posted := fun x hx p => ?_ }
  · obtain ⟨hfind, hne⟩ := h.absent hid
    rw [h.ledger.total, if_neg hne, hl.absent id hfind, add_zero]
  · rw [h.orders, Table.mem_set] at hx
    rw [h.ledger.total]
    rcases hx with ⟨hx, hne⟩ | ⟨rfl, -⟩
    · have hid : x.id ≠ o.id := hne
      rw [if_neg hid, add_zero, hl.posted x hx, account_congr (h.holds x.id hid)
        (h.amounts x.id hid)]
    · rw [if_pos rfl, hl.posted o h.mem p, ← add_mul]
      congr 1
      unfold Account.posted
      split_ifs <;> ring

/-- A write in whole cents keeps the ledger and the accounts together. -/
theorem Ledgered.step (hl : b.Ledgered) (h : Step tenantId PaymentRequest.WholeCent b b') :
    b'.Ledgered := by
  rcases h.advance with ⟨o, orders, hins, -, hst, -, rfl⟩ | ⟨o, target, delta, hadv⟩
  · exact hl.create hins hst
  · exact hl.advance hadv

end Books

theorem Db.Fresh.ledgered {db : Db} (h : db.Fresh) : db.books.Ledgered where
  balanced := h.ledgerEntries ▸ .nil
  absent _ _ _ := by rw [h.ledgerEntries]; rfl
  posted := by simp [h.orders]

theorem Db.ledgered_of_reachable {db : Db} (h : Reachable execute Db.Fresh Command.WholeCent db) :
    db.books.Ledgered := by
  refine h.induction (fun _ => Db.Fresh.ledgered) fun db db' c r hl hc hx => ?_
  rcases (execute_books hc (fun _ => confirmationRequest_wholeCent) hx).2 with hsame | hstep
  · rw [hsame]
    exact hl
  · exact hl.step hstep

/-! ## Cash -/

/-- The cash of every order is what was received for it less what was refunded, is never
negative, and is refunded only as far as it was received; a returned order's entries cancel on
every account. -/
structure Books.CashKept (b : Books) : Prop where
  balanced : Balanced b.ledgerEntries
  nonneg : ∀ o ∈ b.orders, 0 ≤ b.cash o.id
  received : ∀ o ∈ b.orders, o.status = .paid ∨ o.status = .fulfilled ∨ o.status = .returned →
    b.cash o.id = b.received o.id - b.refund o.id
  covered : ∀ o ∈ b.orders, o.status = .returned → b.refund o.id ≤ b.received o.id
  netted : ∀ o ∈ b.orders, o.status = .returned → ∀ account, b.balance o.id account = 0

namespace Books

variable {b : Books} {o : Order} {tenantId : Uuid}

theorem Ledgered.cash (hl : b.Ledgered) (ho : o ∈ b.orders) :
    b.cash o.id = ((b.account o).banked - (b.account o).refunded) * 100 := by
  rw [Books.cash, hl.posted o ho]
  simp [Account.posted]

theorem Ledgered.refund (hl : b.Ledgered) (ho : o ∈ b.orders) :
    b.refund o.id = (b.account o).refunded * 100 := by
  rw [Books.refund, hl.posted o ho]
  simp [Account.posted]

theorem Ledgered.balance (hl : b.Ledgered) (ho : o ∈ b.orders) :
    b.balance o.id .revenue = (b.account o).refunded * 100 ∧
      b.balance o.id .receivable = -(b.account o).banked * 100 := by
  constructor
  · rw [Books.balance, hl.posted o ho]
    simp [Account.posted]
  · rw [Books.balance, hl.posted o ho]
    simp [Account.posted]

theorem banked_eq_received (h : o.status = .paid ∨ o.status = .fulfilled ∨ o.status = .returned) :
    (b.account o).banked * 100 = b.received o.id := by
  rw [Account.banked_of_paid h]
  rfl

theorem Sound.received_nonneg (hs : b.Sound tenantId) (ho : o ∈ b.orders) :
    0 ≤ b.received o.id :=
  mul_nonneg (hs.accounts o ho).tenders_nonneg (by norm_num)

/-- Once an order is paid its cash is what was received less what was refunded. -/
theorem Ledgered.cash_eq (hl : b.Ledgered) (ho : o ∈ b.orders)
    (h : o.status = .paid ∨ o.status = .fulfilled ∨ o.status = .returned) :
    b.cash o.id = b.received o.id - b.refund o.id := by
  rw [hl.cash ho, hl.refund ho, sub_mul, banked_eq_received h]

/-- Only a return refunds, and it refunds the total. -/
theorem Ledgered.refund_eq (hl : b.Ledgered) (ho : o ∈ b.orders) :
    b.refund o.id = if o.status = .returned then o.totalAmount.unscaled * 100 else 0 := by
  rw [hl.refund ho]
  split
  · next hst =>
    rw [Account.refunded_of_returned hst]
    rfl
  · next hst => rw [Account.refunded_of_not_returned hst, zero_mul]

/-- An order that is not returned has no negative cash. -/
theorem Ledgered.cash_nonneg (hl : b.Ledgered) (hs : b.Sound tenantId) (ho : o ∈ b.orders)
    (hst : o.status ≠ .returned) : 0 ≤ b.cash o.id := by
  have hreceived := hs.received_nonneg ho
  rw [hl.cash ho, Account.refunded_of_not_returned hst, sub_zero]
  by_cases hpaid : o.status = .paid ∨ o.status = .fulfilled ∨ o.status = .returned
  · rw [banked_eq_received hpaid]
    exact hreceived
  · rw [Account.banked_of_not_paid hpaid, zero_mul]

/-- A returned order has a positive total. -/
theorem Sound.total_pos_of_returned (hs : b.Sound tenantId) (ho : o ∈ b.orders)
    (hst : o.status = .returned) : 0 < o.totalAmount.unscaled := by
  have ha := hs.accounts o ho
  have hshape := ha.shape
  simp only [Account.Shape, account_status, hst] at hshape
  refine ha.total_pos ?_
  rcases hshape with ⟨hhold, -⟩ | ⟨hhold, -⟩
  · rw [hhold]
    exact Option.some_ne_none _
  · rw [hhold]
    exact Option.some_ne_none _

end Books

/-- **Cash in the ledger.** After any run in whole cents every posted group balances, and the cash
of a paid, fulfilled or returned order is what was received less what was refunded. It is never
negative, and the refund is covered, exactly unless the order is returned with less received than
its total. A return refunds the total and leaves it on the revenue account, so everything the
ledger should keep is kept exactly as long as no order is returned. -/
theorem cashKept_iff {db : Db} (h : Reachable execute Db.Fresh Command.WholeCent db) :
    (db.books.CashKept ↔ ∀ o ∈ db.books.orders, o.status ≠ .returned) ∧
    Balanced db.books.ledgerEntries ∧ ∀ o ∈ db.books.orders,
      (o.status = .paid ∨ o.status = .fulfilled ∨ o.status = .returned →
        db.books.cash o.id = db.books.received o.id - db.books.refund o.id) ∧
      (0 ≤ db.books.cash o.id ∧
          (o.status = .returned → db.books.refund o.id ≤ db.books.received o.id) ↔
        (o.status = .returned → o.totalAmount.unscaled * 100 ≤ db.books.received o.id)) ∧
      (o.status = .returned → db.books.refund o.id = o.totalAmount.unscaled * 100 ∧
        db.books.balance o.id .revenue = o.totalAmount.unscaled * 100 ∧
        db.books.balance o.id .receivable = -db.books.received o.id) := by
  have hl := Db.ledgered_of_reachable h
  have hs := Db.sound_of_reachable h
  have hreturned : ∀ o ∈ db.books.orders, o.status = .returned →
      db.books.refund o.id = o.totalAmount.unscaled * 100 ∧
        db.books.balance o.id .revenue = o.totalAmount.unscaled * 100 ∧
        db.books.balance o.id .receivable = -db.books.received o.id := by
    intro o ho hst
    obtain ⟨hrevenue, hreceivable⟩ := hl.balance ho
    refine ⟨by rw [hl.refund_eq ho, if_pos hst], ?_, ?_⟩
    · rw [hrevenue, Account.refunded_of_returned hst]
      rfl
    · rw [hreceivable, neg_mul, Books.banked_eq_received (.inr (.inr hst))]
  refine ⟨⟨fun hkept o ho hst => ?_, fun hnone => ?_⟩, hl.balanced, fun o ho =>
    ⟨hl.cash_eq ho, ⟨fun hcash hst => ?_, fun hcovered => ?_⟩, hreturned o ho⟩⟩
  · -- the total stays on the revenue account
    have hzero := hkept.netted o ho hst .revenue
    have hpos := hs.total_pos_of_returned ho hst
    rw [(hreturned o ho hst).2.1] at hzero
    omega
  · exact
      { balanced := hl.balanced, nonneg := fun o ho => hl.cash_nonneg hs ho (hnone o ho)
        received := fun o ho => hl.cash_eq ho
        covered := fun o ho hst => absurd hst (hnone o ho)
        netted := fun o ho hst => absurd hst (hnone o ho) }
  · rw [← (hreturned o ho hst).1]
    exact hcash.2 hst
  · by_cases hst : o.status = .returned
    · have hle := hcovered hst
      rw [← (hreturned o ho hst).1] at hle
      refine ⟨?_, fun _ => hle⟩
      rw [hl.cash_eq ho (.inr (.inr hst))]
      omega
    · exact ⟨hl.cash_nonneg hs ho hst, fun h => absurd h hst⟩

theorem cashKept_lifecycleRun :
    (run execute (sampleTenant 10000) lifecycleRun).books.ledgerEntries.map LedgerEntry.accountType =
        [.cash, .receivable] ∧
      (run execute (sampleTenant 10000) lifecycleRun).books.CashKept := by
  have hreach : Reachable execute Db.Fresh Command.WholeCent
      (run execute (sampleTenant 10000) lifecycleRun) :=
    ⟨_, _, sampleTenant_fresh (by decide), lifecycleRun_wholeCent, rfl⟩
  refine ⟨by decide +kernel, (cashKept_iff hreach).1.mpr fun o ho => ?_⟩
  have hnone : ∀ o ∈ (run execute (sampleTenant 10000) lifecycleRun).books.orders.rows,
      o.status ≠ .returned := by decide +kernel
  exact hnone o (Table.mem_rows.mpr ho)

/-- An order of 5.00 sold on credit, of which 2.00 are collected, and then returned: 5.00 are
refunded. -/
theorem cash_negative_lifecycleRun :
    (run execute (sampleTenant 10000) (lifecycleRun ++ [.returnOrder 51])).books.cash 51 = -30000 ∧
      ¬(run execute (sampleTenant 10000) (lifecycleRun ++ [.returnOrder 51])).books.CashKept := by
  have hcash : (run execute (sampleTenant 10000) (lifecycleRun ++ [.returnOrder 51])).books.cash 51 =
      -30000 := by decide +kernel
  refine ⟨hcash, fun h => ?_⟩
  obtain ⟨o, ho, hid⟩ : ∃ o ∈ (run execute (sampleTenant 10000)
      (lifecycleRun ++ [.returnOrder 51])).books.orders.rows, o.id = 51 := by decide +kernel
  have hnonneg := h.nonneg o (Table.mem_rows.mp ho)
  rw [hid, hcash] at hnonneg
  exact absurd hnonneg (by decide)

end Mpango
