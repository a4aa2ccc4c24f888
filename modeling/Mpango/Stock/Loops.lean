import Mpango.Spec.Inventory

/-!
# What the loops over an order's items did

Reserving, releasing, deducting and restocking go through the items of an order one by one. Each
loop is summed up once: which reservations there are afterwards, which movements were written, and
by how much the reserved quantity of every SKU moved. A `Ticket` is what a reservation and an order
item have in common: the item, the SKU, its code and the quantity in cents.
-/

namespace Mpango

open Decimal CatalogIdentity

/-! ## Tickets -/

/-- An item, its SKU with the code, and a quantity in cents. -/
abbrev Ticket := Uuid × Option Uuid × String × ℤ

def InventoryReservation.ticket (r : InventoryReservation) : Ticket :=
  (r.orderItemId, some r.skuId, r.skuCode, r.quantity.unscaled)

def OrderItem.ticket (i : OrderItem) : Ticket :=
  (i.id, i.sellableUnitId, i.skuCode, i.quantity * 100)

/-- The line of a ticket, which takes nothing if it names no SKU. -/
def Ticket.line (t : Ticket) : Line :=
  match t.2.1 with
  | some skuId => (skuId, t.2.2.2)
  | none => (0, 0)

theorem InventoryReservation.line_ticket (r : InventoryReservation) :
    r.ticket.line = reservationLine r := rfl

theorem SellableItem.line_ticket (i : SellableItem) : i.item.ticket.line = itemLine i := by
  unfold Ticket.line OrderItem.ticket
  rw [i.linked]
  rfl

theorem map_line_of_items (items : List SellableItem) :
    (items.map fun i => i.item.ticket.line) = items.map itemLine :=
  List.map_congr_left fun i _ => i.line_ticket

/-! ## The demand of lines -/

namespace CatalogIdentity

@[simp] theorem demand_nil (k : Uuid) : demand [] k = 0 := rfl

theorem demand_append (ls ls' : List Line) (k : Uuid) :
    demand (ls ++ ls') k = demand ls k + demand ls' k := by
  unfold demand
  rw [List.map_append, List.sum_append]

/-- Lines of nothing negative ask for nothing negative. -/
theorem demand_nonneg {ls : List Line} (h : ∀ l ∈ ls, 0 ≤ l.2) (k : Uuid) : 0 ≤ demand ls k := by
  apply List.sum_nonneg
  intro z hz
  obtain ⟨l, hl, rfl⟩ := List.mem_map.mp hz
  split
  · exact h l hl
  · exact le_rfl

theorem demand_map_nonneg {α : Type} {f : α → Line} {xs : List α} (h : ∀ x ∈ xs, 0 ≤ (f x).2)
    (k : Uuid) : 0 ≤ demand (xs.map f) k := demand_nonneg (List.forall_mem_map.mpr h) k

theorem demand_itemLine_cons (i : SellableItem) (items : List SellableItem) (k : Uuid) :
    demand ((i :: items).map itemLine) k =
      (if i.sellableUnitId = k then i.item.quantity * 100 else 0) + demand (items.map itemLine) k :=
  demand_cons (itemLine i) (items.map itemLine) k

theorem demand_reservationLine_cons (r : InventoryReservation) (rs : List InventoryReservation)
    (k : Uuid) : demand ((r :: rs).map reservationLine) k =
      (if r.skuId = k then r.quantity.unscaled else 0) + demand (rs.map reservationLine) k :=
  demand_cons (reservationLine r) (rs.map reservationLine) k

/-- A list is split by a condition. -/
theorem demand_filter {α : Type} (f : α → Line) (p : α → Bool) (xs : List α) (k : Uuid) :
    demand (xs.map f) k =
      demand ((xs.filter p).map f) k + demand ((xs.filter fun x => !p x).map f) k := by
  rw [← demand_append, ← List.map_append]
  exact demand_perm ((List.filter_append_perm p xs).symm.map f) k

/-- A part of the lines asks for no more than all of them. -/
theorem demand_filter_le {α : Type} {f : α → Line} {p : α → Bool} {xs : List α}
    (h : ∀ x ∈ xs, 0 ≤ (f x).2) (k : Uuid) :
    demand ((xs.filter p).map f) k ≤ demand (xs.map f) k := by
  have hrest : 0 ≤ demand ((xs.filter fun x => !p x).map f) k :=
    demand_map_nonneg (fun x hx => h x (List.mem_filter.mp hx).1) k
  rw [demand_filter f p xs]
  omega

end CatalogIdentity

namespace Warehouse

/-! ## The reservations of an order -/

section Reservations
variable {w w' : Warehouse} {orderId : Uuid}

/-- All reservations of an order, whatever became of them. -/
def reservationsOf (w : Warehouse) (orderId : Uuid) : List InventoryReservation :=
  w.reservations.filter fun r => r.orderId = orderId

/-- The reservations with those that satisfy a condition in a new status. -/
def settle (p : InventoryReservation → Bool) (status : ReservationStatus)
    (rs : List InventoryReservation) : List InventoryReservation :=
  rs.map fun r => if p r then { r with status } else r

theorem mem_reservationsOf {r : InventoryReservation} :
    r ∈ w.reservationsOf orderId ↔ r ∈ w.reservations ∧ r.orderId = orderId := by
  simp [reservationsOf]

theorem mem_settle {p : InventoryReservation → Bool} {status : ReservationStatus}
    {rs : List InventoryReservation} {r : InventoryReservation} :
    r ∈ settle p status rs ↔ ∃ s ∈ rs, (if p s then { s with status } else s) = r :=
  List.mem_map

/-- The active reservations of an order are among the active ones. -/
theorem activeReservations_eq_filter (w : Warehouse) (orderId : Uuid) :
    w.activeReservations orderId = w.active.filter fun r => r.orderId = orderId := by
  unfold activeReservations active
  rw [List.filter_filter]
  refine List.filter_congr fun r _ => ?_
  cases decide (r.orderId = orderId) <;> cases decide (r.status = .reserved) <;>
    cases r.isDeleted <;> rfl

/-- A condition that only looks at what a new status keeps selects the same rows. -/
theorem filter_settle {p q : InventoryReservation → Bool} {status : ReservationStatus}
    {rs : List InventoryReservation} (hq : ∀ r, q { r with status } = q r) :
    (settle p status rs).filter q = settle p status (rs.filter q) := by
  unfold settle
  rw [List.filter_map]
  congr 1
  refine List.filter_congr fun r _ => ?_
  rw [Function.comp_apply]
  split
  · exact hq r
  · rfl

/-- Where the condition is never met, nothing changes. -/
theorem settle_eq_self {p : InventoryReservation → Bool} {status : ReservationStatus}
    {rs : List InventoryReservation} (h : ∀ r ∈ rs, p r = false) : settle p status rs = rs := by
  refine (List.map_congr_left fun r hr => ?_).trans (List.map_id rs)
  rw [h r hr]
  rfl

/-- Another order keeps its reservations. -/
theorem reservationsOf_settle {p : InventoryReservation → Bool} {status : ReservationStatus}
    {other : Uuid} (hw : w'.reservations = settle p status w.reservations)
    (hp : ∀ r, p r = true → r.orderId = orderId) (hne : other ≠ orderId) :
    w'.reservationsOf other = w.reservationsOf other := by
  unfold reservationsOf
  rw [hw, filter_settle fun r => rfl]
  apply settle_eq_self
  intro r hr
  have hother : r.orderId = other := by simpa using (List.mem_filter.mp hr).2
  cases hpr : p r with
  | false => rfl
  | true => exact absurd (hother.symm.trans (hp r hpr)) hne

/-- A new status keeps the tickets. -/
theorem map_ticket_settle {p : InventoryReservation → Bool} {status : ReservationStatus}
    {rs : List InventoryReservation} :
    (settle p status rs).map InventoryReservation.ticket =
      rs.map InventoryReservation.ticket := by
  unfold settle
  rw [List.map_map]
  refine List.map_congr_left fun r _ => ?_
  rw [Function.comp_apply]
  split <;> rfl

/-- The reservations that stay active are the active ones that did not meet the condition. -/
theorem active_settle {p : InventoryReservation → Bool} {status : ReservationStatus}
    (hstatus : status ≠ .reserved) (hw : w'.reservations = settle p status w.reservations) :
    w'.active = w.active.filter fun r => !p r := by
  unfold active
  rw [hw, settle]
  induction w.reservations with
  | nil => rfl
  | cons r rs ih =>
    by_cases hreserved : r.status = .reserved <;> cases hdeleted : r.isDeleted <;>
      cases hp : p r <;> simp [hreserved, hdeleted, hp, hstatus, ih]

end Reservations

/-! ## Reserving -/

section Reserve
variable {w w' : Warehouse} {orderId : Uuid}

/-- A reservation as it is written. -/
structure Opened (orderId : Uuid) (r : InventoryReservation) : Prop where
  orderId : r.orderId = orderId
  status : r.status = .reserved
  live : r.isDeleted = false
  pos : 0 < r.quantity.unscaled

/-- The loop of a confirmation wrote one reservation for each item, raised the reserved quantities
by what they hold, and did not reserve more than is on hand. -/
theorem reserveInventory_eq_ok {items : List SellableItem}
    (h : w.reserveInventory orderId items = .ok w') : ∃ rs,
      w'.reservations = w.reservations ++ rs ∧ (∀ r ∈ rs, Opened orderId r) ∧
      rs.map InventoryReservation.ticket = (items.map fun i => i.item.ticket) ∧
      Shift w w' (demand (rs.map reservationLine)) [] ∧
      ∀ k, w.reserved k ≤ w.onHand k → w'.reserved k ≤ w'.onHand k := by
  unfold reserveInventory at h
  induction items generalizing w with
  | nil =>
    rw [List.foldlM_nil, pure_eq_ok] at h
    subst h
    refine ⟨[], (List.append_nil _).symm, List.forall_mem_nil _, rfl, ?_, fun k hk => hk⟩
    exact Shift.refl rfl rfl rfl rfl
  | cons i items ih =>
    rw [List.foldlM_cons, bind_eq_ok] at h
    obtain ⟨w₁, hone, h⟩ := h
    obtain ⟨quantity, hquantity, hpos, havailable, hrows, hshift⟩ := reserveItem_eq_ok hone
    obtain ⟨rs, hrest, hopened, htickets, hshifts, hcovered⟩ := ih h
    have hticket : (reservationOf orderId i quantity).ticket = i.item.ticket := by
      unfold InventoryReservation.ticket reservationOf OrderItem.ticket
      rw [hquantity, i.linked]
    refine ⟨reservationOf orderId i quantity :: rs, ?_, ?_, ?_, ?_, fun k hk => hcovered k ?_⟩
    · rw [hrest, hrows, List.append_assoc, List.singleton_append]
    · intro r hr
      rcases List.mem_cons.mp hr with rfl | hr
      · exact ⟨rfl, rfl, rfl, hpos⟩
      · exact hopened r hr
    · rw [List.map_cons, List.map_cons, hticket, htickets]
    · refine (hshift.trans hshifts).congr fun k => ?_
      rw [demand_reservationLine_cons]
      rfl
    · have honHand : w₁.onHand k = w.onHand k := (chained_nil.mp (hshift.chained k)).symm
      rw [hshift.reserved, honHand]
      split
      · next hsame =>
        subst hsame
        omega
      · omega

end Reserve

/-! ## Releasing -/

section Release
variable {w w' : Warehouse} {orderId : Uuid}

/-- The reservation is an active one of the order. -/
def owns (orderId : Uuid) (r : InventoryReservation) : Bool :=
  r.orderId = orderId && r.status = .reserved && !r.isDeleted

theorem activeReservations_eq_owns (w : Warehouse) (orderId : Uuid) :
    w.activeReservations orderId = w.active.filter (owns orderId) := by
  rw [activeReservations_eq_filter]
  refine List.filter_congr fun r hr => ?_
  obtain ⟨-, hstatus, hlive⟩ := mem_active.mp hr
  simp [owns, hstatus, hlive]

theorem releaseStocks_eq_ok {rs : List InventoryReservation}
    (h : rs.foldlM releaseStock w = .ok w') : w'.reservations = w.reservations ∧
      Shift w w' (fun k => -demand (rs.map reservationLine) k) [] := by
  induction rs generalizing w with
  | nil =>
    rw [List.foldlM_nil, pure_eq_ok] at h
    subst h
    exact ⟨rfl, Shift.refl rfl rfl rfl rfl⟩
  | cons r rs ih =>
    rw [List.foldlM_cons, bind_eq_ok] at h
    obtain ⟨w₁, hone, h⟩ := h
    obtain ⟨-, hrows, hshift⟩ := releaseStock_eq_ok hone
    obtain ⟨hrest, hshifts⟩ := ih h
    refine ⟨hrest.trans hrows, (hshift.trans hshifts).congr fun k => ?_⟩
    rw [demand_reservationLine_cons, neg_add]
    congr 1
    split
    · rfl
    · exact neg_zero.symm

/-- Releasing takes what the active reservations of the order hold off the reserved quantities, and
closes them. -/
theorem releaseReservations_eq_ok (h : w.releaseReservations orderId = .ok w') :
    w'.reservations = settle (owns orderId) .released w.reservations ∧
      Shift w w' (fun k => -demand ((w.activeReservations orderId).map reservationLine) k) [] := by
  unfold releaseReservations at h
  simp only [bind_eq_ok, pure_eq_ok] at h
  obtain ⟨w₁, hfold, rfl⟩ := h
  obtain ⟨hrows, hshift⟩ := releaseStocks_eq_ok hfold
  have hperm : (w.ownedReservations orderId).Perm (w.activeReservations orderId) :=
    List.perm_insertionSort _ _
  refine ⟨congrArg (settle (owns orderId) .released) hrows, ?_⟩
  have hclosed : Shift w₁ { w₁ with
      reservations := settle (owns orderId) .released w₁.reservations } (fun _ => 0) [] :=
    Shift.refl rfl rfl rfl rfl
  refine (hshift.trans hclosed).congr fun k => ?_
  rw [add_zero, demand_perm (hperm.map reservationLine)]

end Release

/-! ## Fulfilling and returning -/

section Fulfil
variable {w w' : Warehouse} {orderId : Uuid}

/-- The quantities a request may ask for. -/
def Bounded (items : List SellableItem) : Prop :=
  ∀ i ∈ items, 1 ≤ i.item.quantity ∧ i.item.quantity ≤ 10000

theorem Bounded.demand_nonneg {items : List SellableItem} (h : Bounded items) (k : Uuid) :
    0 ≤ demand (items.map itemLine) k := by
  refine demand_map_nonneg (fun i hi => ?_) k
  have := (h i hi).1
  show 0 ≤ i.item.quantity * 100
  omega

theorem Bounded.tail {items : List SellableItem} {i : SellableItem} (h : Bounded (i :: items)) :
    Bounded items := fun j hj => h j (List.mem_cons_of_mem i hj)

/-- The reservation is an active one of the order, for one of some items. -/
def ownsOne (orderId : Uuid) (ids : List Uuid) (r : InventoryReservation) : Bool :=
  r.orderId = orderId && ids.contains r.orderItemId && r.status = .reserved && !r.isDeleted

/-- Consuming the reservations of one item and then those of others. -/
theorem settle_consume {id : Uuid} {ids : List Uuid} {rs : List InventoryReservation} :
    settle (ownsOne orderId ids) .consumed (consume orderId id rs) =
      settle (ownsOne orderId (id :: ids)) .consumed rs := by
  unfold settle consume
  rw [List.map_map]
  refine List.map_congr_left fun r _ => ?_
  rw [Function.comp_apply]
  unfold ownsOne
  by_cases horder : r.orderId = orderId <;> by_cases hitem : r.orderItemId = id <;>
    by_cases hstatus : r.status = .reserved <;> cases hdeleted : r.isDeleted <;>
    simp [horder, hitem, hstatus, hdeleted]

/-- The movements are those of the items, one for each and in their order. -/
def Moved (type : MovementType) (orderId : Uuid) (sign : ℤ) (items : List SellableItem)
    (moved : List InventoryMovement) : Prop :=
  List.Forall₂ (fun i m => movementOf type orderId i (sign * (i.item.quantity * 100)) m) items moved

/-- The loop of a fulfilment, when every item has reservations: one deduction for each item, its
reservations consumed, and the reserved quantities lowered by what the items ask for. -/
theorem deductItems_eq_ok {items : List SellableItem} (hbounded : Bounded items)
    (hnodup : (items.map (·.item.id)).Nodup)
    (hreserved : ∀ i ∈ items, w.itemReservations orderId i.item.id ≠ [])
    (h : items.foldlM (deductOnFulfillment orderId) w = .ok w') : ∃ moved,
      Moved .deduction orderId (-1) items moved ∧
      w'.reservations =
        settle (ownsOne orderId (items.map (·.item.id))) .consumed w.reservations ∧
      Shift w w' (fun k => -demand (items.map itemLine) k) moved := by
  induction items generalizing w with
  | nil =>
    rw [List.foldlM_nil, pure_eq_ok] at h
    subst h
    refine ⟨[], .nil, (settle_eq_self fun r _ => ?_).symm, Shift.refl rfl rfl rfl rfl⟩
    simp [ownsOne]
  | cons i items ih =>
    rw [List.foldlM_cons, bind_eq_ok] at h
    obtain ⟨w₁, hone, h⟩ := h
    obtain ⟨hlow, hhigh⟩ := hbounded i List.mem_cons_self
    obtain ⟨m, z, hm, -, hrows, hcase, hshift⟩ := deductOnFulfillment_eq_ok hlow hhigh hone
    rw [List.map_cons, List.nodup_cons] at hnodup
    have hrest : ∀ j ∈ items, w₁.itemReservations orderId j.item.id ≠ [] := by
      intro j hj
      have hne : j.item.id ≠ i.item.id := by
        intro hid
        exact hnodup.1 (List.mem_map.mpr ⟨j, hj, hid⟩)
      rw [itemReservations_consume hrows hne]
      exact hreserved j (List.mem_cons_of_mem i hj)
    obtain ⟨moved, hmoved, hrows', hshifts⟩ :=
      ih hbounded.tail hnodup.2 hrest h
    have hz : z = i.item.quantity * 100 := by
      rcases hcase with ⟨hnil, -⟩ | ⟨-, hz⟩
      · exact absurd hnil (hreserved i List.mem_cons_self)
      · exact hz
    refine ⟨m :: moved, .cons ?_ hmoved, ?_, ?_⟩
    · rwa [neg_one_mul]
    · rw [hrows', hrows, settle_consume, List.map_cons]
    · refine (hshift.trans hshifts).congr fun k => ?_
      rw [demand_itemLine_cons, neg_add, hz]
      congr 1
      split
      · rfl
      · exact neg_zero.symm

/-- The loop of a return: one restock for each item, and the reservations as they were. -/
theorem restockItems_eq_ok {items : List SellableItem} (hbounded : Bounded items)
    (h : items.foldlM (restockOnReturn orderId) w = .ok w') : ∃ moved,
      Moved .restock orderId 1 items moved ∧ w'.reservations = w.reservations ∧
      Shift w w' (fun _ => 0) moved := by
  induction items generalizing w with
  | nil =>
    rw [List.foldlM_nil, pure_eq_ok] at h
    subst h
    exact ⟨[], .nil, rfl, Shift.refl rfl rfl rfl rfl⟩
  | cons i items ih =>
    rw [List.foldlM_cons, bind_eq_ok] at h
    obtain ⟨w₁, hone, h⟩ := h
    obtain ⟨hlow, hhigh⟩ := hbounded i List.mem_cons_self
    obtain ⟨m, hm, hrows, hshift⟩ := restockOnReturn_eq_ok hlow hhigh hone
    obtain ⟨moved, hmoved, hrows', hshifts⟩ :=
      ih hbounded.tail h
    refine ⟨m :: moved, .cons ?_ hmoved, hrows'.trans hrows, ?_⟩
    · rwa [one_mul]
    · exact (hshift.trans hshifts).congr fun k => add_zero 0

end Fulfil

end Warehouse

end Mpango
