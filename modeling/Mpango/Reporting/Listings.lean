import Mpango.Model.Listings

/-!
# What paged reads lose and repeat

Batches and pages are windows of results that are ordered by `created_at` alone, so a row is sure to
be read once exactly if one window has all rows of its `created_at` and the others have none of them
(`pagedReads_iff`). A retailer's filter is one status, where what is shown may stand for several.
-/

namespace Mpango.Listings

open Paging

variable {α : Type}

/-! ## The loops are windows -/

/-- The batches of an export, of results as long as the rows they are of. -/
theorem generate_eq {results tables : List (List α)} {i : ℕ}
    (hlength : results.map List.length = tables.map List.length)
    (hends : Ends moreBatches i tables) :
    generate (i * batchSize) results = windows batchSize (i * batchSize) results := by
  induction results generalizing tables i with
  | nil => rfl
  | cons result results ih =>
    cases tables with
    | nil => cases hends
    | cons table tables =>
      obtain ⟨hresult, hresults⟩ := List.cons.inj hlength
      rw [generate, windows]
      cases tables with
      | nil =>
        obtain rfl := List.map_eq_nil_iff.mp hresults
        cases hrows : window (i * batchSize) batchSize result with
        | nil => rfl
        | cons row rows => simp [generate, windows]
      | cons next tables =>
        obtain ⟨hmore, hends⟩ := hends
        -- A batch that is followed by another one is full.
        have hfull : (window (i * batchSize) batchSize result).length = batchSize := by
          have hlong := of_decide_eq_true hmore
          rw [window, List.length_take, List.length_drop, hresult]
          rw [Nat.add_mul, one_mul] at hlong
          omega
        have hsome : (window (i * batchSize) batchSize result).isEmpty = false := by
          rw [List.isEmpty_eq_false_iff, ← List.length_pos_iff, hfull]
          decide
        have hrest := ih hresults hends
        rw [Nat.add_mul, one_mul] at hrest
        simp only [hsome, hfull, lt_irrefl, Bool.false_eq_true, if_false, hrest]

/-- The pages that a reader asks for. -/
theorem readPages_eq {size : ℕ} {results tables : List (List α)} {i : ℕ}
    (hlength : results.map List.length = tables.map List.length)
    (hends : Ends (morePages size) i tables) :
    readPages size (i + 1) results = windows size (i * size) results := by
  induction results generalizing tables i with
  | nil => rfl
  | cons result results ih =>
    cases tables with
    | nil => cases hends
    | cons table tables =>
      obtain ⟨hresult, hresults⟩ := List.cons.inj hlength
      rw [readPages, windows, listPage, Nat.add_sub_cancel]
      cases tables with
      | nil =>
        obtain rfl := List.map_eq_nil_iff.mp hresults
        simp [readPages, windows]
      | cons next tables =>
        obtain ⟨hmore, hends⟩ := hends
        have hnext : i + 1 < pages result.length size := by
          rw [hresult]
          exact of_decide_eq_true hmore
        have hrest := ih hresults hends
        rw [Nat.add_mul, one_mul] at hrest
        simp only [hnext, if_true, hrest]

theorem Arranged.length {createdAt : α → ℤ} {tables results : List (List α)}
    (h : Arranged createdAt tables results) :
    results.map List.length = tables.map List.length := by
  induction h with
  | nil => rfl
  | cons hresult _ ih => rw [List.map_cons, List.map_cons, hresult.perm.length_eq, ih]

/-! ## Reads -/

/-- A read that is a sequence of windows has each row once exactly if its rows are kept. -/
theorem readOnce_iff [DecidableEq α] {createdAt : α → ℤ} {tables : List (List α)} {size : ℕ}
    {read : List (List α) → List α} (hsize : 0 < size) (hdistinct : ∀ table ∈ tables, table.Nodup)
    (hread : ∀ results, Arranged createdAt tables results → read results = windows size 0 results) :
    ReadOnce createdAt tables read ↔ Kept createdAt size tables := by
  unfold ReadOnce Kept
  constructor
  · intro honce row hrow
    rw [← forall_reads_iff_captured hsize createdAt hdistinct hrow]
    intro results hresults
    rw [← hread results hresults]
    exact honce results hresults row hrow
  · intro hkept results hresults row hrow
    rw [hread results hresults]
    exact (forall_reads_iff_captured hsize createdAt hdistinct hrow 0).mpr (hkept row hrow) results
      hresults

theorem Reading.listed_nodup {lists : α → Bool} {more : ℕ → ℕ → Bool}
    (reading : Reading lists more) : ∀ table ∈ reading.listed, table.Nodup := by
  intro table htable
  obtain ⟨whole, hwhole, rfl⟩ := List.mem_map.mp htable
  exact (reading.distinct whole hwhole).filter _

theorem export_iff [DecidableEq α] {lists : α → Bool} (createdAt : α → ℤ)
    (reading : Reading lists moreBatches) :
    ReadOnce createdAt reading.listed (generate 0) ↔ Kept createdAt batchSize reading.listed := by
  refine readOnce_iff (by decide) reading.listed_nodup fun results hresults => ?_
  have hwindows := generate_eq (Arranged.length hresults) reading.ends
  rwa [Nat.zero_mul] at hwindows

theorem pages_iff [DecidableEq α] {lists : α → Bool} {size : ℕ} (hsize : 1 ≤ size)
    (createdAt : α → ℤ) (reading : Reading lists (morePages size)) :
    ReadOnce createdAt reading.listed (readPages size 1) ↔
      Kept createdAt size reading.listed := by
  refine readOnce_iff hsize reading.listed_nodup fun results hresults => ?_
  have hwindows := readPages_eq (Arranged.length hresults) reading.ends
  rwa [Nat.zero_mul] at hwindows

/-! ## The status filter -/

/-- What a retailer asks for is looked up as one status. -/
theorem internalStatus_filteredTo (query : RetailerQuery) (status : OrderState) :
    (query.filteredTo (clientVisibleStatus status)).internalStatus =
      statusMap.lookup (clientVisibleStatus status) := by
  have hlookup : ∀ status, ((some (clientVisibleStatus status)).filter (· ≠ "")).bind
      (fun status => statusMap.lookup status.toUpper) =
        statusMap.lookup (clientVisibleStatus status) := by
    intro status
    cases status <;> decide +kernel
  exact hlookup status

theorem lists_filteredTo (query : RetailerQuery) (status : OrderState) (order : OrderRow) :
    (query.filteredTo (clientVisibleStatus status)).lists order =
      (query.unfiltered.lists order &&
        (statusMap.lookup (clientVisibleStatus status)).all fun internal =>
          order.status = internal) := by
  unfold RetailerQuery.lists
  rw [internalStatus_filteredTo]
  simp [RetailerQuery.filteredTo, RetailerQuery.unfiltered, RetailerQuery.internalStatus]

/-- An order is found under the status it is shown with, and only there, unless its own status is
shown as another one. -/
theorem shown_iff (internal : OrderState) :
    (∀ status, ((statusMap.lookup (clientVisibleStatus status)).all fun found =>
        decide (internal = found)) =
      decide (clientVisibleStatus internal = clientVisibleStatus status)) ↔
      internal ∉ [OrderState.partiallyPaid, .paid, .voided] := by
  constructor
  · intro hall
    have hself := hall internal
    revert hself
    cases internal <;> decide +kernel
  · intro hplain status
    revert hplain
    cases internal <;> cases status <;> decide +kernel

theorem filter_eq_filter_iff {p q : α → Bool} {rows : List α} :
    rows.filter p = rows.filter q ↔ ∀ row ∈ rows, p row = q row := by
  refine ⟨fun h row hrow => ?_, List.filter_congr⟩
  have hmem : row ∈ rows.filter p ↔ row ∈ rows.filter q := by rw [h]
  rw [List.mem_filter, List.mem_filter, and_iff_right hrow, and_iff_right hrow] at hmem
  exact Bool.eq_iff_iff.mpr hmem

theorem filterExact_iff (query : RetailerQuery) (orders : List OrderRow) :
    FilterExact query orders ↔ ∀ order ∈ orders, query.unfiltered.lists order = true →
      order.status ∉ [OrderState.partiallyPaid, .paid, .voided] := by
  have hlists (status : OrderState) :
      (orders.filter (query.filteredTo (clientVisibleStatus status)).lists =
        (orders.filter query.unfiltered.lists).filter fun order =>
          clientVisibleStatus order.status = clientVisibleStatus status) ↔
      ∀ order ∈ orders, query.unfiltered.lists order = true →
        ((statusMap.lookup (clientVisibleStatus status)).all fun internal =>
          decide (order.status = internal)) =
        decide (clientVisibleStatus order.status = clientVisibleStatus status) := by
    rw [List.filter_filter, filter_eq_filter_iff]
    refine forall₂_congr fun order _ => ?_
    rw [lists_filteredTo]
    cases query.unfiltered.lists order <;> simp
  unfold FilterExact
  simp only [hlists]
  constructor
  · intro hall order horder hown
    exact (shown_iff order.status).mp fun status => hall status order horder hown
  · intro hplain status order horder hown
    exact (shown_iff order.status).mpr (hplain order horder hown) status

/-! ## The law -/

/-- Nothing is lost or repeated exactly if no tie and no change between two queries puts the rows of
one `created_at` into two windows or none, and a retailer's orders have only statuses that are shown
as themselves. -/
theorem pagedReads_iff (s : Situation) : PagedReads s ↔ Untorn s := by
  constructor
  · intro h
    exact {
      orderExport := (export_iff _ _).mp h.orderExport
      stockExport := (export_iff _ _).mp h.stockExport
      wholesaler := (pages_iff s.wholesaler.query.one_le_size _ _).mp h.wholesaler
      retailer := (pages_iff s.retailer.query.one_le_size _ _).mp h.retailer
      statuses := (filterExact_iff _ _).mp h.statuses }
  · intro h
    exact {
      orderExport := (export_iff _ _).mpr h.orderExport
      stockExport := (export_iff _ _).mpr h.stockExport
      wholesaler := (pages_iff s.wholesaler.query.one_le_size _ _).mpr h.wholesaler
      retailer := (pages_iff s.retailer.query.one_le_size _ _).mpr h.retailer
      statuses := (filterExact_iff _ _).mpr h.statuses }

/-! ### Two orders of one instant -/

def sampleOrder (id : Uuid) : OrderRow where
  id := id
  wholesalerId := 1
  retailerId := some 2
  status := .draft
  createdAt := 0

/-- Two orders that were created in one transaction. -/
def tiedOrders : List OrderRow := [sampleOrder 3, sampleOrder 4]

theorem tiedOrders_ends : Ends (morePages 1) 0 ([tiedOrders, tiedOrders].map
    (List.filter { size := 1, wholesalerId := none : WholesalerQuery }.lists)) := by
  refine ⟨?_, ?_⟩
  · decide +kernel
  · show morePages 1 _ 1 = false
    decide +kernel

/-- The wholesaler pages through the two orders one by one. -/
def tiedSituation : Situation where
  orderExport := { reading := { tables := [[]], distinct := by decide, ends := rfl } }
  stockExport := { tables := [[]], distinct := by decide, ends := rfl }
  wholesaler :=
    { query := { size := 1, wholesalerId := none }
      reading :=
        { tables := [tiedOrders, tiedOrders], distinct := by decide, ends := tiedOrders_ends } }
  retailer :=
    { query := { wholesalerId := Uuid.text 1, retailerId := Uuid.text 2 }
      reading := { tables := [[]], distinct := by decide, ends := rfl } }
  orders := []

theorem pagedReads_broken_tied : ¬PagedReads tiedSituation := by
  intro h
  have hread := h.wholesaler [[sampleOrder 3, sampleOrder 4], [sampleOrder 4, sampleOrder 3]]
    (.cons ⟨.refl _, by decide⟩ (.cons ⟨.swap _ _ _, by decide⟩ .nil)) (sampleOrder 4)
    (by decide)
  revert hread
  decide

end Mpango.Listings
