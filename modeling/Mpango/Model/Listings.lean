import Mpango.Library.Paging
import Mpango.Library.Text
import Mpango.Model.OrderState

/-!
# Exports and order lists

`api/v1/data_export.py`, `crud/order.py` and the client's order list. Rows are read in several
queries by `OFFSET` and `LIMIT`, ordered by `created_at` alone. Between two queries of a read the
tables may change; a query and the count that goes with it see the same rows. A listed row is here
the row itself.
-/

namespace Mpango.Listings

open Paging

/-! ## Rows -/

structure OrderRow where
  id : Uuid
  wholesalerId : Uuid
  retailerId : Option Uuid
  status : OrderState
  createdAt : ℤ
  isDeleted : Bool := false
deriving DecidableEq

structure StockRow where
  id : Uuid
  createdAt : ℤ
  isDeleted : Bool := false
deriving DecidableEq

/-- `OrderStatus(value)` -/
def orderStatus (value : String) : Option OrderState :=
  [.draft, .confirmed, .partiallyPaid, .paid, .fulfilled, .cancelled, .voided,
    .returned].find? fun status => status.value = value

/-! ## Exports -/

/-- `_BATCH_SIZE` -/
def batchSize : ℕ := 500

/-- `_generate`: the rows of the batches, from the results that the queries have. -/
def generate (offset : ℕ) : List (List α) → List α
  | [] => []
  | result :: results =>
    let rows := window offset batchSize result
    if rows.isEmpty then []
    else rows ++ if rows.length < batchSize then [] else generate (offset + batchSize) results

/-- An order of `export_orders_csv`; an invalid filter is ignored. -/
def exportedOrder (statusFilter : Option String) (order : OrderRow) : Bool :=
  !order.isDeleted && ((statusFilter.bind orderStatus).all fun status => order.status = status)

/-- A row of `export_inventory_csv`. -/
def exportedStock (stock : StockRow) : Bool := !stock.isDeleted

/-! ## Lists -/

/-- `ceil(total / size)` -/
def pages (total size : ℕ) : ℕ := if 0 < total then (total + size - 1) / size else 0

/-- The items of a page, and the number of pages the reader is told. -/
def listPage (page size : ℕ) (result : List α) : List α × ℕ :=
  (window ((page - 1) * size) size result, pages result.length size)

/-- A reader asks for one page after another, until there are no more. -/
def readPages (size page : ℕ) : List (List α) → List α
  | [] => []
  | result :: results =>
    let (items, last) := listPage page size result
    items ++ if page < last then readPages size (page + 1) results else []

/-- What a wholesaler asks for. -/
structure WholesalerQuery where
  size : ℕ := 10
  wholesalerId : Option String
  statusFilter : Option OrderState := none
  retailerId : Option String := none
  one_le_size : 1 ≤ size := by decide

/-- `get_orders_paginated`: an identifier that is none is ignored. -/
def WholesalerQuery.lists (query : WholesalerQuery) (order : OrderRow) : Bool :=
  !order.isDeleted &&
    ((query.wholesalerId.bind Uuid.parse).all fun wholesaler => order.wholesalerId = wholesaler) &&
    (query.statusFilter.all fun status => order.status = status) &&
    ((query.retailerId.bind Uuid.parse).all fun retailer => order.retailerId = some retailer)

/-- `CLIENT_VISIBLE_STATUSES` -/
def clientVisibleStatus : OrderState → String
  | .draft => "CREATED"
  | .confirmed => "CONFIRMED"
  | .partiallyPaid => "CONFIRMED"
  | .paid => "CONFIRMED"
  | .fulfilled => "DELIVERED"
  | .cancelled => "CANCELLED"
  | .voided => "CANCELLED"
  | .returned => "RETURNED"

/-- `status_map` -/
def statusMap : List (String × OrderState) :=
  [("CREATED", .draft), ("CONFIRMED", .confirmed), ("DELIVERED", .fulfilled),
    ("CANCELLED", .cancelled), ("RETURNED", .returned)]

/-- What a retailer asks for. -/
structure RetailerQuery where
  size : ℕ := 20
  wholesalerId : String
  retailerId : String
  orderStatus : Option String := none
  one_le_size : 1 ≤ size := by decide

namespace RetailerQuery

variable (query : RetailerQuery)

def internalStatus : Option OrderState :=
  (query.orderStatus.filter (· ≠ "")).bind fun status => statusMap.lookup status.toUpper

/-- `get_orders_for_retailer`: nothing without both identifiers. -/
@[irreducible] def lists (order : OrderRow) : Bool :=
  !order.isDeleted &&
    ((Uuid.parse query.wholesalerId).any fun wholesaler =>
      (Uuid.parse query.retailerId).any fun retailer =>
        order.wholesalerId = wholesaler && order.retailerId = some retailer) &&
    query.internalStatus.all fun status => order.status = status

/-- The same list, without a status and with one. -/
def unfiltered : RetailerQuery := { query with orderStatus := none }
def filteredTo (status : String) : RetailerQuery := { query with orderStatus := some status }

end RetailerQuery

/-! ## Reads -/

/-- Whether a batch is followed by another one. -/
def moreBatches (total i : ℕ) : Bool := (i + 1) * batchSize ≤ total

/-- Whether a page is followed by another one. -/
def morePages (size total i : ℕ) : Bool := i + 1 < pages total size

/-- The rows that a query is about, at each of the queries of a read: each but the last is followed
by another one. -/
def Ends (more : ℕ → ℕ → Bool) : ℕ → List (List α) → Prop
  | _, [] => False
  | i, [table] => more table.length i = false
  | i, table :: tables => more table.length i = true ∧ Ends more (i + 1) tables

/-- A read from its first to its last query. -/
structure Reading (lists : α → Bool) (more : ℕ → ℕ → Bool) where
  tables : List (List α)
  distinct : ∀ table ∈ tables, table.Nodup
  ends : Ends more 0 (tables.map (List.filter lists))

/-- The rows that the queries are about. -/
def Reading.listed {lists : α → Bool} {more : ℕ → ℕ → Bool} (reading : Reading lists more) :
    List (List α) :=
  reading.tables.map (List.filter lists)

/-- What is read has each row that is there from the first to the last query once, in whatever order
rows with one `created_at` come. -/
def ReadOnce [DecidableEq α] (createdAt : α → ℤ) (tables : List (List α))
    (read : List (List α) → List α) : Prop :=
  ∀ results, Arranged createdAt tables results → ∀ row, (∀ table ∈ tables, row ∈ table) →
    (read results).count row = 1

/-- The list of a status has the orders that are shown with it. -/
def FilterExact (query : RetailerQuery) (orders : List OrderRow) : Prop :=
  ∀ status, orders.filter (query.filteredTo (clientVisibleStatus status)).lists =
    (orders.filter query.unfiltered.lists).filter fun order =>
      clientVisibleStatus order.status = clientVisibleStatus status

/-- An export of orders. -/
structure OrderExport where
  status : Option String := none
  reading : Reading (exportedOrder status) moreBatches

/-- The pages of a wholesaler's list. -/
structure WholesalerPages where
  query : WholesalerQuery
  reading : Reading query.lists (morePages query.size)

/-- The pages of a retailer's list. -/
structure RetailerPages where
  query : RetailerQuery
  reading : Reading query.lists (morePages query.size)

/-- A read of each kind, and the orders a retailer's list is filtered from. -/
structure Situation where
  orderExport : OrderExport
  stockExport : Reading exportedStock moreBatches
  wholesaler : WholesalerPages
  retailer : RetailerPages
  orders : List OrderRow

structure PagedReads (s : Situation) : Prop where
  orderExport : ReadOnce OrderRow.createdAt
    (s.orderExport.reading.listed) (generate 0)
  stockExport : ReadOnce StockRow.createdAt s.stockExport.listed (generate 0)
  wholesaler : ReadOnce OrderRow.createdAt s.wholesaler.reading.listed
    (readPages s.wholesaler.query.size 1)
  retailer : ReadOnce OrderRow.createdAt s.retailer.reading.listed
    (readPages s.retailer.query.size 1)
  statuses : FilterExact s.retailer.query s.orders

/-- For each row that stays, one query of a read has all rows with its `created_at` in its window,
and the others have none of them, as the rows are at each. -/
def Kept (createdAt : α → ℤ) (size : ℕ) (tables : List (List α)) : Prop :=
  ∀ row, (∀ table ∈ tables, row ∈ table) → Captured createdAt size row 0 tables

structure Untorn (s : Situation) : Prop where
  orderExport : Kept OrderRow.createdAt batchSize s.orderExport.reading.listed
  stockExport : Kept StockRow.createdAt batchSize s.stockExport.listed
  wholesaler : Kept OrderRow.createdAt s.wholesaler.query.size s.wholesaler.reading.listed
  retailer : Kept OrderRow.createdAt s.retailer.query.size s.retailer.reading.listed
  /-- The orders of the retailer have statuses that stand for themselves. -/
  statuses : ∀ order ∈ s.orders, s.retailer.query.unfiltered.lists order = true →
    order.status ∉ [OrderState.partiallyPaid, .paid, .voided]

end Mpango.Listings
