import Mpango.Library.Table
import Mpango.Model.Errors

/-!
# The tables

The rows the order, payment and inventory commands read and write, with the columns those
commands use. The tables of the money side (`Books`) and those of the stock side (`Warehouse`)
are kept apart: no function of one side takes the other, which is the frame condition between
them.

Amounts and quantities are `NUMERIC(12,2)` columns, ledger amounts `NUMERIC(20,4)`. Audit columns,
names and free texts that no modelled function reads are left out.
-/

namespace Mpango

open Decimal

/-! ## Amounts -/

/-- A stored `NUMERIC(12,2)`; `unscaled` is the amount in cents. -/
abbrev Money := Numeric 12 2

/-- A stored ledger amount, `NUMERIC(20,4)`. -/
abbrev LedgerAmount := Numeric 20 4

/-- Store a computed amount. -/
def storeMoney (x : Decimal) : Except DatabaseError Money :=
  orRefuse (Numeric.store 12 2 x) .numericFieldOverflow

/-- Store a ledger amount. -/
def storeLedgerAmount (x : Decimal) : Except DatabaseError LedgerAmount :=
  orRefuse (Numeric.store 20 4 x) .numericFieldOverflow

theorem storeMoney_eq_ok {x : Decimal} {m : Money} :
    storeMoney x = .ok m ↔ m.unscaled = roundHalfAway (x * 10 ^ 2) := by
  rw [storeMoney, orRefuse_eq_ok, Numeric.store_eq_some]

theorem storeMoney_scaled {z : ℤ} {m : Money} :
    storeMoney (scaled 2 z) = .ok m ↔ m.unscaled = z := by
  rw [storeMoney, orRefuse_eq_ok, Numeric.store_scaled]

theorem storeLedgerAmount_eq_ok {x : Decimal} {m : LedgerAmount} :
    storeLedgerAmount x = .ok m ↔ m.unscaled = roundHalfAway (x * 10 ^ 4) := by
  rw [storeLedgerAmount, orRefuse_eq_ok, Numeric.store_eq_some]

theorem storeLedgerAmount_scaled {z : ℤ} {m : LedgerAmount} :
    storeLedgerAmount (scaled 2 z) = .ok m ↔ m.unscaled = z * 100 := by
  rw [storeLedgerAmount, orRefuse_eq_ok, scaled_eq_scaled_add 2 2]
  exact Numeric.store_scaled

/-- Two stored amounts are subtracted without rounding. -/
theorem Money.sub_toDecimal (m n : Money) :
    Decimal.sub m.toDecimal n.toDecimal = scaled 2 (m.unscaled - n.unscaled) := by
  refine sub_scaled ?_
  have hm := m.bound
  have hn := n.bound
  unfold contextPrecision
  omega

/-- Two stored amounts are added without rounding. -/
theorem Money.add_toDecimal (m n : Money) :
    Decimal.add m.toDecimal n.toDecimal = scaled 2 (m.unscaled + n.unscaled) := by
  refine add_scaled ?_
  have hm := m.bound
  have hn := n.bound
  unfold contextPrecision
  omega

/-! ## Rows of the money side -/

/-- `identity_status` of an order item. -/
inductive IdentityStatus | legacy | linkedLegacy | stable
  deriving DecidableEq, Repr

/-- A row of `order_items`. -/
structure OrderItem where
  id : Uuid
  sellableUnitId : Option Uuid
  identityStatus : IdentityStatus
  skuCode : String
  quantity : ℤ
  unitPrice : Money
  subtotal : Money
  deriving DecidableEq

/-- A row of `orders` with its items. -/
structure Order where
  id : Uuid
  wholesalerId : Uuid
  retailerId : Uuid
  status : OrderState
  totalAmount : Money
  items : List OrderItem
  isDeleted : Bool
  deriving DecidableEq

/-- `status` of a credit hold. -/
inductive HoldStatus | active | settled | released | converted
  deriving DecidableEq, Repr

/-- The stored spelling of a hold status. -/
def HoldStatus.value : HoldStatus → String
  | active => "active"
  | settled => "settled"
  | released => "released"
  | converted => "converted"

/-- A row of `order_credit_holds`; `order_id` is unique. -/
structure CreditHold where
  orderId : Uuid
  amount : Money
  remainingAmount : Money
  status : HoldStatus
  deriving DecidableEq

/-- `method` of a payment. -/
inductive PaymentMethod | cash | transfer | credit
  deriving DecidableEq, Repr

/-- The stored spelling of a method. -/
def PaymentMethod.value : PaymentMethod → String
  | cash => "cash"
  | transfer => "transfer"
  | credit => "credit"

/-- Cash and transfer settle; credit does not. -/
theorem PaymentMethod.mem_cash_transfer {m : PaymentMethod} :
    m ∈ [PaymentMethod.cash, .transfer] ↔ m ≠ .credit := by
  cases m <;> decide

/-- `status` of a payment. -/
inductive PaymentStatus | pending | completed
  deriving DecidableEq, Repr

/-- A row of `payments`. -/
structure Payment where
  id : Uuid
  orderId : Uuid
  retailerId : Uuid
  transactionId : Option String
  idempotencyKey : String
  amount : Money
  method : PaymentMethod
  status : PaymentStatus
  receiptNumber : Option String
  isDeleted : Bool
  deriving DecidableEq

/-- `account_type` of a ledger entry. -/
inductive AccountType | receivable | revenue | cash | liability
  deriving DecidableEq, Repr

/-- `reference_type` of a ledger entry. -/
inductive LedgerReference | order | refund
  deriving DecidableEq, Repr

/-- A row of `ledger_entries`. -/
structure LedgerEntry where
  accountType : AccountType
  amount : LedgerAmount
  referenceType : LedgerReference
  referenceId : Uuid
  deriving DecidableEq

/-- `status` of a wholesaler-retailer binding. -/
inductive BindingStatus | active | inactive
  deriving DecidableEq, Repr

/-- A row of `public.wholesaler_retailer_bindings`. -/
structure Binding where
  wholesalerId : Uuid
  retailerId : Uuid
  status : BindingStatus
  outstandingBalance : Money
  isDeleted : Bool
  deriving DecidableEq

/-- The date a receipt is numbered under, as `%Y%m%d`. -/
structure BusinessDate where
  text : String
  digits : text.length = 8 ∧ text.toList.all Char.isDigit = true
  deriving DecidableEq

/-- A row of `receipt_sequences`. -/
structure ReceiptSequence where
  businessDate : BusinessDate
  nextSeq : ℕ
  deriving DecidableEq

instance : Keyed Order Uuid := ⟨Order.id⟩
instance : Keyed CreditHold Uuid := ⟨CreditHold.orderId⟩
instance : Keyed Payment Uuid := ⟨Payment.id⟩
instance : Keyed Binding (Uuid × Uuid) := ⟨fun b => (b.wholesalerId, b.retailerId)⟩
instance : Keyed ReceiptSequence BusinessDate := ⟨ReceiptSequence.businessDate⟩

@[simp] theorem key_order (o : Order) : key o = o.id := rfl
@[simp] theorem key_creditHold (h : CreditHold) : key h = h.orderId := rfl
@[simp] theorem key_payment (p : Payment) : key p = p.id := rfl
@[simp] theorem key_binding (b : Binding) : key b = (b.wholesalerId, b.retailerId) := rfl
@[simp] theorem key_receiptSequence (r : ReceiptSequence) : key r = r.businessDate := rfl

/-- The money side of a tenant. -/
structure Books where
  orders : Table Order
  creditHolds : Table CreditHold
  payments : Table Payment
  ledgerEntries : List LedgerEntry
  bindings : Table Binding
  receiptSequences : Table ReceiptSequence
  deriving DecidableEq

/-! ## Rows of the stock side -/

/-- A row of `skus`. -/
structure Sku where
  id : Uuid
  skuCode : String
  catalogProductId : Uuid
  isActive : Bool
  isDeleted : Bool
  deriving DecidableEq

/-- A row of `catalog_products`. -/
structure CatalogProduct where
  id : Uuid
  isActive : Bool
  isDeleted : Bool
  deriving DecidableEq

/-- A row of `inventory_stocks`; `sku_id` is unique. -/
structure InventoryStock where
  skuId : Uuid
  quantityOnHand : Money
  quantityReserved : Money
  isDeleted : Bool
  deriving DecidableEq

/-- `status` of a reservation. -/
inductive ReservationStatus | reserved | consumed | released
  deriving DecidableEq, Repr

/-- A row of `inventory_reservations`. -/
structure InventoryReservation where
  orderId : Uuid
  orderItemId : Uuid
  skuId : Uuid
  skuCode : String
  quantity : Money
  status : ReservationStatus
  isDeleted : Bool
  deriving DecidableEq

/-- `movement_type` of a movement. -/
inductive MovementType | adjustment | deduction | restock
  deriving DecidableEq, Repr

/-- A row of `inventory_movements`; the reference is the order, if there is one. -/
structure InventoryMovement where
  skuId : Uuid
  movementType : MovementType
  quantity : Money
  quantityBefore : Money
  quantityAfter : Money
  referenceId : Option Uuid
  deriving DecidableEq

instance : Keyed Sku Uuid := ⟨Sku.id⟩
instance : Keyed CatalogProduct Uuid := ⟨CatalogProduct.id⟩
instance : Keyed InventoryStock Uuid := ⟨InventoryStock.skuId⟩

@[simp] theorem key_sku (s : Sku) : key s = s.id := rfl
@[simp] theorem key_catalogProduct (p : CatalogProduct) : key p = p.id := rfl
@[simp] theorem key_inventoryStock (s : InventoryStock) : key s = s.skuId := rfl

/-- The stock side of a tenant. Reservations and movements are in the order they were written. -/
structure Warehouse where
  skus : Table Sku
  catalogProducts : Table CatalogProduct
  stocks : Table InventoryStock
  reservations : List InventoryReservation
  movements : List InventoryMovement
  deriving DecidableEq

/-! ## Declarations and the whole database -/

/-- `status` of a payment declaration. -/
inductive DeclarationStatus | pending | confirmed | rejected
  deriving DecidableEq, Repr

/-- A row of `payment_declarations`. -/
structure PaymentDeclaration where
  id : Uuid
  orderId : Uuid
  retailerId : Uuid
  wholesalerId : Uuid
  declaredAmount : Money
  method : PaymentMethod
  transferReference : Option String
  status : DeclarationStatus
  idempotencyKey : String
  confirmationPaymentId : Option Uuid
  deriving DecidableEq

instance : Keyed PaymentDeclaration Uuid := ⟨PaymentDeclaration.id⟩

@[simp] theorem key_paymentDeclaration (d : PaymentDeclaration) : key d = d.id := rfl

/-- One tenant's schema, with the bindings of the public schema. -/
structure Db where
  /-- The wholesaler the tenant schema belongs to. -/
  tenantId : Uuid
  books : Books
  warehouse : Warehouse
  declarations : Table PaymentDeclaration
  deriving DecidableEq

end Mpango
