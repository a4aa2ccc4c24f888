import Mpango.Model.StatementPrint
import Mpango.Model.Service

/-!
# Adjacent statements

The statements of two adjacent periods and of both together: their windows tile, the second opens
with what the first closed with, and the totals add up. All of it is exact but the closing balance,
which is rounded to the digits of the decimal context; the law holds up to there.
-/

namespace Mpango

open Decimal

/-! ## Days and windows -/

namespace CalendarDate

/-- Midnight at the end of the day. -/
def nextMidnight (d : CalendarDate) : Timestamp := d.midnight + microsecondsPerDay

theorem midnight_le_iff {d : CalendarDate} {t : Timestamp} :
    d.midnight ≤ t ↔ d.toordinal ≤ eatDay t := by
  have hday : (0 : ℤ) < microsecondsPerDay := by decide
  calc d.midnight ≤ t
    _ ↔ (d.toordinal - 1) * microsecondsPerDay ≤ t + eatUtcOffset := sub_le_iff_le_add
    _ ↔ d.toordinal - 1 ≤ (t + eatUtcOffset) / microsecondsPerDay :=
        (Int.le_ediv_iff_mul_le hday).symm
    _ ↔ d.toordinal ≤ eatDay t := sub_le_iff_le_add

theorem lt_nextMidnight_iff {d : CalendarDate} {t : Timestamp} :
    t < d.nextMidnight ↔ eatDay t ≤ d.toordinal := by
  have hday : (0 : ℤ) < microsecondsPerDay := by decide
  have hnext : d.nextMidnight = d.toordinal * microsecondsPerDay - eatUtcOffset := by
    unfold nextMidnight midnight
    ring
  calc t < d.nextMidnight
    _ ↔ t + eatUtcOffset < d.toordinal * microsecondsPerDay := by rw [hnext, lt_sub_iff_add_lt]
    _ ↔ (t + eatUtcOffset) / microsecondsPerDay < d.toordinal :=
        (Int.ediv_lt_iff_lt_mul hday).symm
    _ ↔ eatDay t ≤ d.toordinal := Int.lt_iff_add_one_le

/-- The next day begins where the day ends. -/
theorem midnight_of_next {d e : CalendarDate} (h : e.toordinal = d.toordinal + 1) :
    e.midnight = d.nextMidnight := by
  unfold nextMidnight midnight
  rw [h]
  ring

end CalendarDate

/-- A period a statement is printed for. -/
structure Admissible (dateFrom dateTo : CalendarDate) : Prop where
  ordered : dateFrom.toordinal ≤ dateTo.toordinal
  span : dateTo.toordinal - dateFrom.toordinal + 1 ≤ maxSpanDays
  representable : 0 ≤ dateFrom.midnight

theorem Admissible.midnight_le {dateFrom dateTo : CalendarDate} (h : Admissible dateFrom dateTo) :
    dateFrom.midnight ≤ dateTo.midnight := by
  have hday : (0 : ℤ) ≤ microsecondsPerDay := by decide
  apply sub_le_sub_right
  exact mul_le_mul_of_nonneg_right (sub_le_sub_right h.ordered 1) hday

theorem Admissible.midnight_le_nextMidnight {dateFrom dateTo : CalendarDate}
    (h : Admissible dateFrom dateTo) : dateFrom.midnight ≤ dateTo.nextMidnight :=
  le_trans h.midnight_le (le_add_of_nonneg_right (by decide))

theorem eatDateRangeToUtcHalfOpen_eq_ok {dateFrom dateTo : CalendarDate}
    {window : Timestamp × Timestamp} :
    eatDateRangeToUtcHalfOpen dateFrom dateTo = .ok window ↔
      Admissible dateFrom dateTo ∧ window = (dateFrom.midnight, dateTo.nextMidnight) := by
  unfold eatDateRangeToUtcHalfOpen eatMidnightToUtc
  simp only [bind_eq_ok, refuseIf_eq_ok, pure_eq_ok]
  constructor
  · rintro ⟨-, hordered, -, hspan, start, ⟨-, hstart, rfl⟩, stop, ⟨-, hstop, rfl⟩, rfl⟩
    exact ⟨⟨not_lt.mp hordered, not_lt.mp hspan, not_lt.mp hstart⟩, rfl⟩
  · rintro ⟨h, rfl⟩
    exact ⟨(), not_lt.mpr h.ordered, (), not_lt.mpr h.span, _,
      ⟨(), not_lt.mpr h.representable, rfl⟩, _,
      ⟨(), not_lt.mpr (le_trans h.representable h.midnight_le), rfl⟩, rfl⟩

/-! ## Sums of few amounts -/

/-- Amounts of so few digits, so few of them, are added without rounding. -/
theorem foldl_add_scaled {a : ℤ} {zs : List ℤ} (hzs : ∀ z ∈ zs, z.natAbs < 10 ^ 20)
    (hbound : a.natAbs + zs.length * 10 ^ 20 < 10 ^ contextPrecision) :
    (zs.map (scaled 4)).foldl Decimal.add (scaled 4 a) = scaled 4 (a + zs.sum) := by
  induction zs generalizing a with
  | nil => simp
  | cons z zs ih =>
    rw [List.forall_mem_cons] at hzs
    rw [List.length_cons] at hbound
    have hstep : (a + z).natAbs < 10 ^ contextPrecision := by
      have htriangle := Int.natAbs_add_le a z
      have hz := hzs.1
      omega
    rw [List.map_cons, List.foldl_cons, add_scaled hstep, ih hzs.2, List.sum_cons, add_assoc]
    have htriangle := Int.natAbs_add_le a z
    have hz := hzs.1
    omega

theorem sumDecimals_amounts {rows : List DatedEntry} (h : rows.length ≤ statementLineCap) :
    sumDecimals (rows.map DatedEntry.amount) = (rows.map DatedEntry.amount).sum := by
  have hrows : rows.map DatedEntry.amount =
      (rows.map fun e => e.entry.amount.unscaled).map (scaled 4) := by
    rw [List.map_map]
    rfl
  have hamounts : ∀ z ∈ rows.map fun e => e.entry.amount.unscaled, z.natAbs < 10 ^ 20 := by
    intro z hz
    obtain ⟨e, -, rfl⟩ := List.mem_map.mp hz
    exact e.entry.amount.bound
  have hbound : (0 : ℤ).natAbs + (rows.map fun e => e.entry.amount.unscaled).length * 10 ^ 20 <
      10 ^ contextPrecision := by
    rw [List.length_map]
    unfold statementLineCap at h
    unfold contextPrecision
    omega
  have hfold := foldl_add_scaled hamounts hbound
  rw [scaled_zero, zero_add] at hfold
  rw [sumDecimals, hrows, hfold, ← List.map_id (rows.map fun e => e.entry.amount.unscaled),
    ← sum_map_scaled]
  simp

/-- The totals of one sign. -/
theorem sumDecimals_filter {rows : List DatedEntry} (h : rows.length ≤ statementLineCap)
    (p : Decimal → Prop) [DecidablePred p] :
    sumDecimals ((rows.map DatedEntry.amount).filter (p ·)) =
      ((rows.filter fun e => p e.amount).map DatedEntry.amount).sum := by
  rw [List.filter_map]
  exact sumDecimals_amounts (le_trans (List.length_filter_le ..) h)

/-! ## What the queries read -/

section FirstLines
variable {α : Type} {at' : α → Timestamp} {id : α → Uuid} {rows : List α}

theorem length_firstLines :
    (firstLines at' id rows).length = min (statementLineCap + 1) rows.length := by
  rw [firstLines, List.length_take, List.length_mergeSort]

/-- A list within the cap is read whole. -/
theorem firstLines_perm (h : (firstLines at' id rows).length ≤ statementLineCap) :
    (firstLines at' id rows).Perm rows := by
  rw [length_firstLines] at h
  rw [firstLines, List.take_of_length_le]
  · exact List.mergeSort_perm ..
  · rw [List.length_mergeSort]
    omega

end FirstLines

namespace StatementDb

variable {s : StatementDb} {w r : Uuid} {dateFrom dateTo : CalendarDate} {pending : Bool}
  {view : StatementPrintView}

/-- The movements of whole days. -/
def movementsOf (s : StatementDb) (w r : Uuid) (dateFrom dateTo : CalendarDate) :
    List DatedEntry :=
  s.receivablePeriod w r dateFrom.midnight dateTo.nextMidnight

/-- The total of the movements of whole days that a condition picks. -/
def totalOf (s : StatementDb) (w r : Uuid) (dateFrom dateTo : CalendarDate) (p : Decimal → Prop)
    [DecidablePred p] : Decimal :=
  (((s.movementsOf w r dateFrom dateTo).filter fun e => p e.amount).map DatedEntry.amount).sum

/-- The exact balance at the end of a day. -/
def balanceThrough (s : StatementDb) (w r : Uuid) (d : CalendarDate) : Decimal :=
  s.sumReceivableBefore w r d.nextMidnight

/-- The lines that a statement would print besides its movements. -/
def otherLines (s : StatementDb) (w r : Uuid) (dateFrom dateTo : CalendarDate) (pending : Bool) :
    ℕ :=
  (s.settledPeriod w r dateFrom.midnight dateTo.nextMidnight).length +
    if pending then (s.pendingPeriod w r dateFrom.midnight dateTo.nextMidnight).length else 0

/-- Nothing that is checked stands against the statement. -/
structure Printable (s : StatementDb) (w r : Uuid) (dateFrom dateTo : CalendarDate)
    (pending : Bool) : Prop where
  period : Admissible dateFrom dateTo
  binding : bindingActive s.db.books w r = true
  scope : s.countOrphanReceivableRefs = 0
  ownership : s.countCompletedPaymentOwnershipMismatch w r = 0
  lines : (s.movementsOf w r dateFrom dateTo).length + s.otherLines w r dateFrom dateTo pending ≤
    statementLineCap
  movements : ∀ e ∈ s.movementsOf w r dateFrom dateTo, e.amount ≠ 0
  reconciles : s.db.books.reconcileStatement w r = .ok ()

/-- What a printed statement says. -/
structure Prints (s : StatementDb) (w r : Uuid) (dateFrom dateTo : CalendarDate)
    (view : StatementPrintView) : Prop where
  openingBalance : view.openingBalance = s.sumReceivableBefore w r dateFrom.midnight
  closingBalance : view.closingBalance =
    roundToPrecision contextPrecision (s.balanceThrough w r dateTo)
  chargeTotal : view.chargeTotal = s.totalOf w r dateFrom dateTo (0 < ·)
  collectionTotal : view.collectionTotal = -s.totalOf w r dateFrom dateTo (· < 0)
  netMovement : view.netMovement = s.totalOf w r dateFrom dateTo fun _ => True
  movements : view.movements.Perm ((s.movementsOf w r dateFrom dateTo).map movementView)

/-- The balance before a period and its movements make the balance at its end. -/
theorem sumReceivableBefore_add_totalOf (h : Admissible dateFrom dateTo) :
    s.sumReceivableBefore w r dateFrom.midnight + s.totalOf w r dateFrom dateTo (fun _ => True) =
      s.balanceThrough w r dateTo := by
  have hsum := Windows.sum_before_add_window DatedEntry.transactionDate DatedEntry.amount
    h.midnight_le_nextMidnight (s.receivableOfPair w r)
  rw [totalOf]
  simp only [decide_true, List.filter_true]
  exact hsum

/-- Charges less collections are the net movement. -/
theorem totalOf_pos_add_totalOf_neg (hzero : ∀ e ∈ s.movementsOf w r dateFrom dateTo, e.amount ≠ 0) :
    s.totalOf w r dateFrom dateTo (0 < ·) + s.totalOf w r dateFrom dateTo (· < 0) =
      s.totalOf w r dateFrom dateTo fun _ => True := by
  have hsplit := Windows.sum_filter_add_filter DatedEntry.amount
    (p := fun e => 0 < e.amount) (q := fun e => e.amount < 0)
    (r := fun e => 0 < e.amount ∨ e.amount < 0) (fun _ => Iff.rfl)
    (fun _ hpos => not_lt_of_gt hpos) (s.movementsOf w r dateFrom dateTo)
  have hall : ((s.movementsOf w r dateFrom dateTo).filter fun e => 0 < e.amount ∨ e.amount < 0) =
      (s.movementsOf w r dateFrom dateTo).filter fun _ => True := by
    apply List.filter_congr
    intro e he
    simpa using (hzero e he).symm.lt_or_gt
  rw [totalOf, totalOf, totalOf, hsplit, hall]

theorem totalOf_neg_nonpos : s.totalOf w r dateFrom dateTo (· < 0) ≤ 0 := by
  have hneg : ∀ x ∈ ((s.movementsOf w r dateFrom dateTo).filter fun e => e.amount < 0).map
      DatedEntry.amount, x ≤ 0 := by
    intro x hx
    obtain ⟨e, he, rfl⟩ := List.mem_map.mp hx
    exact le_of_lt (of_decide_eq_true (List.mem_filter.mp he).2)
  have hsum := List.sum_le_card_nsmul _ 0 hneg
  rw [smul_zero] at hsum
  exact hsum

/-- The lists within the cap, as the counts of the lines say it. -/
theorem lines_iff :
    (s.movementsOf w r dateFrom dateTo).length + s.otherLines w r dateFrom dateTo pending ≤
        statementLineCap ↔
      ((s.listMovements w r dateFrom.midnight dateTo.nextMidnight).1.length +
          (s.listSettledPayments w r dateFrom.midnight dateTo.nextMidnight).length +
          (if pending then s.listPendingDeclarations w r dateFrom.midnight dateTo.nextMidnight
            else []).length) ≤ statementLineCap := by
  unfold otherLines listMovements listSettledPayments listPendingDeclarations movementsOf
  simp only [length_firstLines]
  cases pending
  · simp only [Bool.false_eq_true, if_false, List.length_nil]
    omega
  · simp only [if_true, length_firstLines]
    omega

/-- What the service lists and adds up of a period whose movements it reads whole. -/
theorem listMovements_spec
    (h : (s.listMovements w r dateFrom.midnight dateTo.nextMidnight).1.length ≤ statementLineCap) :
    (s.listMovements w r dateFrom.midnight dateTo.nextMidnight).1.Perm
        (s.movementsOf w r dateFrom dateTo) ∧
      (s.listMovements w r dateFrom.midnight dateTo.nextMidnight).2 =
        s.totalOf w r dateFrom dateTo (fun _ => True) ∧
      ∀ (p : Decimal → Prop) [DecidablePred p],
        sumDecimals (((s.listMovements w r dateFrom.midnight dateTo.nextMidnight).1.map
            DatedEntry.amount).filter (p ·)) = s.totalOf w r dateFrom dateTo p := by
  have hperm : (s.listMovements w r dateFrom.midnight dateTo.nextMidnight).1.Perm
      (s.movementsOf w r dateFrom dateTo) := firstLines_perm h
  have htotals : ∀ (p : Decimal → Prop) [DecidablePred p],
      sumDecimals (((s.listMovements w r dateFrom.midnight dateTo.nextMidnight).1.map
        DatedEntry.amount).filter (p ·)) = s.totalOf w r dateFrom dateTo p := by
    intro p hp
    rw [sumDecimals_filter h, totalOf]
    exact ((hperm.filter _).map _).sum_eq
  refine ⟨hperm, ?_, htotals⟩
  have hall := htotals fun _ => True
  simp only [decide_true, List.filter_true] at hall
  exact hall

/-- A printed statement had nothing against it, and says what it should. -/
theorem prints_of_buildStatementPrint
    (h : s.buildStatementPrint w r dateFrom dateTo pending = .ok view) :
    s.Printable w r dateFrom dateTo pending ∧ s.Prints w r dateFrom dateTo view := by
  unfold buildStatementPrint at h
  simp only [bind_eq_ok, refuseIf_eq_ok, pure_eq_ok, mapError_eq_ok,
    eatDateRangeToUtcHalfOpen_eq_ok] at h
  obtain ⟨_, ⟨hperiod, rfl⟩, -, hbinding, -, hscope, -, hownership, -, hcap, -, -, -, hzero, -, -,
    -, -, -, hlines, _, hreconciles, rfl⟩ := h
  obtain ⟨hperm, hsum, htotals⟩ := listMovements_spec (not_lt.mp hcap)
  refine ⟨⟨hperiod, ?_, ?_, ?_, ?_, ?_, hreconciles⟩, ⟨rfl, ?_, ?_, ?_, ?_, ?_⟩⟩
  · exact Bool.not_eq_false _ ▸ hbinding
  · exact Nat.eq_zero_of_not_pos hscope
  · exact Nat.eq_zero_of_not_pos hownership
  · exact lines_iff.mpr (not_lt.mp hlines)
  · intro e he hamount
    exact hzero (List.any_eq_true.mpr ⟨e, hperm.mem_iff.mpr he, decide_eq_true hamount⟩)
  · rw [← sumReceivableBefore_add_totalOf hperiod, ← hsum]
    rfl
  · exact htotals (0 < ·)
  · show |sumDecimals _| = _
    rw [htotals (· < 0)]
    exact abs_of_nonpos totalOf_neg_nonpos
  · exact hsum
  · exact hperm.map movementView

/-- Nothing else stands against a statement. -/
theorem Printable.exists_view (h : s.Printable w r dateFrom dateTo pending) :
    ∃ view, s.buildStatementPrint w r dateFrom dateTo pending = .ok view := by
  have hlines := lines_iff.mp h.lines
  have hcap : (s.listMovements w r dateFrom.midnight dateTo.nextMidnight).1.length ≤
      statementLineCap := by omega
  have hsettled : (s.listSettledPayments w r dateFrom.midnight dateTo.nextMidnight).length ≤
      statementLineCap := by omega
  have hpending : (if pending then
      s.listPendingDeclarations w r dateFrom.midnight dateTo.nextMidnight else []).length ≤
      statementLineCap := by omega
  obtain ⟨hperm, hsum, -⟩ := listMovements_spec hcap
  have hperiod : s.sumReceivablePeriod w r dateFrom.midnight dateTo.nextMidnight =
      (s.listMovements w r dateFrom.midnight dateTo.nextMidnight).2 := by
    rw [hsum, totalOf]
    simp only [decide_true, List.filter_true]
    rfl
  have hzero : ¬((s.listMovements w r dateFrom.midnight dateTo.nextMidnight).1.any
      fun e => e.amount = 0) = true := by
    intro hany
    obtain ⟨e, he, hamount⟩ := List.any_eq_true.mp hany
    exact h.movements e (hperm.mem_iff.mp he) (of_decide_eq_true hamount)
  unfold buildStatementPrint
  simp only [bind_eq_ok, refuseIf_eq_ok, pure_eq_ok, mapError_eq_ok,
    eatDateRangeToUtcHalfOpen_eq_ok]
  refine ⟨_, _, ⟨h.period, rfl⟩, (), ?_, (), ?_, (), ?_, (), not_lt.mpr hcap, (),
    not_not.mpr hperiod, (), hzero, (), not_lt.mpr hsettled, (), not_lt.mpr hpending, (),
    not_lt.mpr hlines, (), h.reconciles, rfl⟩
  · simp only [h.binding, Bool.true_eq_false, not_false_iff]
  · rw [h.scope]
    exact lt_irrefl 0
  · rw [h.ownership]
    exact lt_irrefl 0

/-! ## Adjacent periods -/

/-- The decimal has no more digits than the context keeps. -/
def Representable (x : Decimal) : Prop := roundToPrecision contextPrecision x = x

/-- Every view printed adds up. -/
def Balanced (result : Except StatementPrintError StatementPrintView) : Prop :=
  ∀ view, result = .ok view →
    view.openingBalance + view.chargeTotal - view.collectionTotal = view.closingBalance

/-- A statement adds up exactly when its closing balance is not rounded. -/
theorem balanced_iff :
    Balanced (s.buildStatementPrint w r dateFrom dateTo pending) ↔
      (s.Printable w r dateFrom dateTo pending → Representable (s.balanceThrough w r dateTo)) := by
  have hadds : s.Printable w r dateFrom dateTo pending →
      ∀ view, s.Prints w r dateFrom dateTo view →
        view.openingBalance + view.chargeTotal - view.collectionTotal =
          s.balanceThrough w r dateTo := by
    intro h view hprints
    rw [hprints.openingBalance, hprints.chargeTotal, hprints.collectionTotal, sub_neg_eq_add,
      add_assoc, totalOf_pos_add_totalOf_neg h.movements, sumReceivableBefore_add_totalOf h.period]
  constructor
  · intro hbalanced h
    obtain ⟨view, hview⟩ := h.exists_view
    have hprints := (prints_of_buildStatementPrint hview).2
    have hview' := hbalanced view hview
    rw [hadds h view hprints, hprints.closingBalance] at hview'
    exact hview'.symm
  · intro hfits view hview
    obtain ⟨h, hprints⟩ := prints_of_buildStatementPrint hview
    rw [hadds h view hprints, hprints.closingBalance]
    exact (hfits h).symm

end StatementDb

/-- A period and the one that begins the day after it. -/
structure AdjacentPeriods where
  dateFrom : CalendarDate
  dateTo : CalendarDate
  nextFrom : CalendarDate
  nextTo : CalendarDate
  adjacent : nextFrom.toordinal = dateTo.toordinal + 1
  first : Admissible dateFrom dateTo
  second : Admissible nextFrom nextTo

namespace StatementDb

variable {w r : Uuid} {p : AdjacentPeriods} {pending₁ pending₂ pending : Bool}

/-- The statements of two adjacent periods and of both together, each with or without the pending
declarations, tile. -/
structure StatementsTile (s : StatementDb) (w r : Uuid) (p : AdjacentPeriods)
    (pending₁ pending₂ pending : Bool) : Prop where
  disjoint : ∀ {first second}, eatDateRangeToUtcHalfOpen p.dateFrom p.dateTo = .ok first →
    eatDateRangeToUtcHalfOpen p.nextFrom p.nextTo = .ok second → ∀ e ∈ s.ledger,
      ¬((first.1 ≤ e.transactionDate ∧ e.transactionDate < first.2) ∧
        second.1 ≤ e.transactionDate ∧ e.transactionDate < second.2)
  covers : ∀ {first second}, eatDateRangeToUtcHalfOpen p.dateFrom p.dateTo = .ok first →
    eatDateRangeToUtcHalfOpen p.nextFrom p.nextTo = .ok second → ∀ e ∈ s.ledger,
      (first.1 ≤ e.transactionDate ∧ e.transactionDate < first.2) ∨
          (second.1 ≤ e.transactionDate ∧ e.transactionDate < second.2) ↔
        p.dateFrom.toordinal ≤ eatDay e.transactionDate ∧
          eatDay e.transactionDate ≤ p.nextTo.toordinal
  balanced₁ : Balanced (s.buildStatementPrint w r p.dateFrom p.dateTo pending₁)
  balanced₂ : Balanced (s.buildStatementPrint w r p.nextFrom p.nextTo pending₂)
  balanced : Balanced (s.buildStatementPrint w r p.dateFrom p.nextTo pending)
  continues : ∀ {view₁ view₂},
    s.buildStatementPrint w r p.dateFrom p.dateTo pending₁ = .ok view₁ →
    s.buildStatementPrint w r p.nextFrom p.nextTo pending₂ = .ok view₂ →
    view₁.closingBalance = view₂.openingBalance
  whole : ∀ {view₁ view₂ view},
    s.buildStatementPrint w r p.dateFrom p.dateTo pending₁ = .ok view₁ →
    s.buildStatementPrint w r p.nextFrom p.nextTo pending₂ = .ok view₂ →
    s.buildStatementPrint w r p.dateFrom p.nextTo pending = .ok view →
    view.openingBalance = view₁.openingBalance ∧ view.closingBalance = view₂.closingBalance ∧
      view.chargeTotal = view₁.chargeTotal + view₂.chargeTotal ∧
      view.collectionTotal = view₁.collectionTotal + view₂.collectionTotal
  capped : ∀ dateFrom dateTo pending view,
    s.buildStatementPrint w r dateFrom dateTo pending = .ok view →
    (s.movementsOf w r dateFrom dateTo).length ≤ statementLineCap ∧
      view.movements.Perm ((s.movementsOf w r dateFrom dateTo).map movementView)

/-- The totals of two adjacent periods add up. -/
theorem totalOf_add_totalOf (s : StatementDb) (w r : Uuid) (p : AdjacentPeriods)
    (q : Decimal → Prop) [DecidablePred q] :
    s.totalOf w r p.dateFrom p.dateTo q + s.totalOf w r p.nextFrom p.nextTo q =
      s.totalOf w r p.dateFrom p.nextTo q := by
  have hmiddle := CalendarDate.midnight_of_next p.adjacent
  have hstart := p.first.midnight_le_nextMidnight
  have hstop := p.second.midnight_le_nextMidnight
  rw [hmiddle] at hstop
  unfold totalOf movementsOf receivablePeriod
  rw [hmiddle]
  exact Windows.sum_window_add_window DatedEntry.amount hstart hstop (fun e => q e.amount)
    (s.receivableOfPair w r)

/-- **Adjacent statements.** The statements of two adjacent periods and of both together tile
exactly when each of them that can be printed closes with a balance of no more digits than the
decimal context keeps. -/
theorem statementsTile_iff (s : StatementDb) (w r : Uuid) (p : AdjacentPeriods)
    (pending₁ pending₂ pending : Bool) :
    s.StatementsTile w r p pending₁ pending₂ pending ↔
      (s.Printable w r p.dateFrom p.dateTo pending₁ →
        Representable (s.balanceThrough w r p.dateTo)) ∧
      (s.Printable w r p.nextFrom p.nextTo pending₂ →
        Representable (s.balanceThrough w r p.nextTo)) ∧
      (s.Printable w r p.dateFrom p.nextTo pending →
        Representable (s.balanceThrough w r p.nextTo)) := by
  have hmiddle := CalendarDate.midnight_of_next p.adjacent
  constructor
  · intro h
    exact ⟨balanced_iff.mp h.balanced₁, balanced_iff.mp h.balanced₂, balanced_iff.mp h.balanced⟩
  rintro ⟨hfirst, hsecond, hwhole⟩
  refine ⟨?_, ?_, balanced_iff.mpr hfirst, balanced_iff.mpr hsecond, balanced_iff.mpr hwhole,
    ?_, ?_, ?_⟩
  · intro first second h₁ h₂ e he
    obtain ⟨-, rfl⟩ := eatDateRangeToUtcHalfOpen_eq_ok.mp h₁
    obtain ⟨-, rfl⟩ := eatDateRangeToUtcHalfOpen_eq_ok.mp h₂
    rintro ⟨⟨-, hlt⟩, hge, -⟩
    rw [hmiddle] at hge
    exact absurd hlt (not_lt_of_ge hge)
  · intro first second h₁ h₂ e he
    obtain ⟨hadmissible₁, rfl⟩ := eatDateRangeToUtcHalfOpen_eq_ok.mp h₁
    obtain ⟨hadmissible₂, rfl⟩ := eatDateRangeToUtcHalfOpen_eq_ok.mp h₂
    simp only [CalendarDate.midnight_le_iff, CalendarDate.lt_nextMidnight_iff]
    have hadjacent := p.adjacent
    have hordered₁ := hadmissible₁.ordered
    have hordered₂ := hadmissible₂.ordered
    omega
  · intro view₁ view₂ h₁ h₂
    obtain ⟨hprintable, hprints₁⟩ := prints_of_buildStatementPrint h₁
    rw [hprints₁.closingBalance, (prints_of_buildStatementPrint h₂).2.openingBalance, hmiddle]
    exact hfirst hprintable
  · intro view₁ view₂ view h₁ h₂ h
    have hprints₁ := (prints_of_buildStatementPrint h₁).2
    have hprints₂ := (prints_of_buildStatementPrint h₂).2
    have hprints := (prints_of_buildStatementPrint h).2
    refine ⟨?_, ?_, ?_, ?_⟩
    · rw [hprints.openingBalance, hprints₁.openingBalance]
    · rw [hprints.closingBalance, hprints₂.closingBalance]
    · rw [hprints.chargeTotal, hprints₁.chargeTotal, hprints₂.chargeTotal, totalOf_add_totalOf]
    · rw [hprints.collectionTotal, hprints₁.collectionTotal, hprints₂.collectionTotal, ← neg_add,
        totalOf_add_totalOf]
  · intro dateFrom dateTo pending view h
    obtain ⟨hprintable, hprints⟩ := prints_of_buildStatementPrint h
    exact ⟨le_trans (Nat.le_add_right ..) hprintable.lines, hprints.movements⟩

/-! ## A long history -/

/-- An order of 10.00 paid in cash. -/
def paidOrder : Db :=
  run execute (sampleTenant 10000)
    [.createOrder 50 2 [sampleItem 100 2], .confirmOrder 50 (some 9),
      .confirmPayment ⟨200, sampleDay⟩ (Uuid.text 50)
        (samplePayment (scaled 2 1000) .cash none "pay-0001")]

/-- A charge of the largest amount the ledger stores. -/
def largestCharge (id : ℕ) : DatedEntry where
  id := BitVec.ofNat 128 id
  transactionDate := 0
  description := none
  entry := ⟨.receivable, ⟨10 ^ 20 - 1, by decide⟩, .order, 50⟩

/-- A ledger of so many of them. -/
def longLedger (n : ℕ) : List DatedEntry := (List.range n).map largestCharge

def longHistory (n : ℕ) : StatementDb where
  db := { paidOrder with
    books := { paidOrder.books with ledgerEntries := (longLedger n).map DatedEntry.entry } }
  ledger := longLedger n
  paidAt := fun _ => 0
  submittedAt := fun _ => 0
  ledgerEntries := rfl

/-- January and February. -/
def winter : AdjacentPeriods where
  dateFrom := ⟨⟨2026, 1, 1⟩, by decide, by decide, by decide⟩
  dateTo := ⟨⟨2026, 1, 31⟩, by decide, by decide, by decide⟩
  nextFrom := ⟨⟨2026, 2, 1⟩, by decide, by decide, by decide⟩
  nextTo := ⟨⟨2026, 2, 28⟩, by decide, by decide, by decide⟩
  adjacent := by decide +kernel
  first := ⟨by decide +kernel, by decide +kernel, by decide +kernel⟩
  second := ⟨by decide +kernel, by decide +kernel, by decide +kernel⟩

section LongHistory
variable (n : ℕ)

theorem receivable_longHistory : (longHistory n).receivable = longLedger n := by
  apply List.filter_eq_self.mpr
  intro e he
  obtain ⟨i, -, rfl⟩ := List.mem_map.mp he
  rfl

theorem receivableOfPair_longHistory : (longHistory n).receivableOfPair 1 2 = longLedger n := by
  have hpair : paidOrder.books.orderOfPair 50 1 2 = true := by decide +kernel
  unfold receivableOfPair
  rw [receivable_longHistory, List.filter_eq_self]
  intro e he
  obtain ⟨i, -, rfl⟩ := List.mem_map.mp he
  exact hpair

theorem movementsOf_longHistory :
    (longHistory n).movementsOf 1 2 winter.dateFrom winter.dateTo = [] := by
  have hstart : 0 < winter.dateFrom.midnight := by decide +kernel
  unfold movementsOf receivablePeriod
  rw [receivableOfPair_longHistory]
  apply Windows.window_eq_nil
  intro e he
  obtain ⟨i, -, rfl⟩ := List.mem_map.mp he
  exact hstart

theorem printable_longHistory :
    (longHistory n).Printable 1 2 winter.dateFrom winter.dateTo false where
  period := winter.first
  binding := by
    have hactive : bindingActive paidOrder.books 1 2 = true := by decide +kernel
    exact hactive
  scope := by
    have hfound : (paidOrder.books.orders.find? 50).isNone = false := by decide +kernel
    rw [countOrphanReceivableRefs, receivable_longHistory, List.countP_eq_zero]
    intro e he
    obtain ⟨i, -, rfl⟩ := List.mem_map.mp he
    exact Bool.not_eq_true _ ▸ hfound
  ownership := by
    have hown : (paidOrder.books.payments.rows.countP fun p =>
        let order := paidOrder.books.orders.find? p.orderId
        p.status = .completed && !p.isDeleted &&
          (p.retailerId = 2 || order.any fun o => o.retailerId = 2) &&
          (order.isNone || p.retailerId ≠ 2 ||
            order.any fun o => o.retailerId ≠ 2 || o.wholesalerId ≠ 1)) = 0 := by decide +kernel
    exact hown
  lines := by
    have hstart : 0 < winter.dateFrom.midnight := by decide +kernel
    have hsettled : (longHistory n).settledPeriod 1 2 winter.dateFrom.midnight
        winter.dateTo.nextMidnight = [] := Windows.window_eq_nil fun _ _ => hstart
    rw [movementsOf_longHistory, otherLines, hsettled]
    exact Nat.zero_le _
  movements := by
    rw [movementsOf_longHistory]
    exact fun e he => absurd he List.not_mem_nil
  reconciles := by
    have hcash : paidOrder.books.relationshipHasNonCreditPayment 1 2 = true := by decide +kernel
    exact if_pos hcash

theorem balanceThrough_longHistory :
    (longHistory n).balanceThrough 1 2 winter.dateTo = n * scaled 4 (10 ^ 20 - 1) := by
  have hstop : 0 < winter.dateTo.nextMidnight := by decide +kernel
  have hall : Windows.before DatedEntry.transactionDate winter.dateTo.nextMidnight (longLedger n) =
      longLedger n := by
    apply Windows.before_eq_self
    intro e he
    obtain ⟨i, -, rfl⟩ := List.mem_map.mp he
    exact hstop
  have hamounts : (longLedger n).map DatedEntry.amount =
      List.replicate n (scaled 4 (10 ^ 20 - 1)) := by
    rw [longLedger, List.map_map, List.eq_replicate_iff]
    refine ⟨by rw [List.length_map, List.length_range], ?_⟩
    intro x hx
    obtain ⟨i, -, rfl⟩ := List.mem_map.mp hx
    rfl
  rw [balanceThrough, sumReceivableBefore, receivableOfPair_longHistory, hall, hamounts,
    List.sum_replicate, nsmul_eq_mul]

end LongHistory

/-- Nothing moved in January, and it closes with another balance than it opened with. -/
theorem statementsTile_broken_longHistory :
    ¬(longHistory 100000001).StatementsTile 1 2 winter false false false := by
  intro h
  have hfits := balanced_iff.mp h.balanced₁ (printable_longHistory _)
  rw [Representable, balanceThrough_longHistory] at hfits
  revert hfits
  decide +kernel

end StatementDb

end Mpango
