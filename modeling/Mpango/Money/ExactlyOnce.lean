import Mpango.Money.Replay
import Mpango.Model.System
import Mathlib.Logic.Function.Basic

/-!
# Payments in flight are executed exactly once

`PhaseOk` says what a call may rely on in each phase: the lock on its order, a request that is
its own, checks that still hold. A move of another call keeps all of it, because it holds another
order's lock and an execution changes nothing of another order (`Kept`, `PhaseOk.kept`); a move of
the call itself leads from one phase to the next (`Moved.phaseOk`). So the committed books are
always those of a serial history of executions, one for each committed payment.
-/

namespace Mpango

open Decimal

/-! ## What a call stands for -/

namespace Call

/-- The order a call names. -/
def orderId? (call : Call) (db : Db) : Option Uuid :=
  match call with
  | payment _ orderId _ => Uuid.parse orderId
  | confirmation _ declarationId _ =>
    (db.declarations.find? declarationId).map PaymentDeclaration.orderId

/-- The request a call makes. -/
def request? (call : Call) (db : Db) : Option PaymentRequest :=
  match call with
  | payment _ _ request => some request
  | confirmation _ declarationId _ =>
    (db.declarations.find? declarationId).map confirmationRequest

/-- A confirmation that has passed its checks has a pending declaration on the order, of a pair
that is bound. -/
def Pending (call : Call) (db : Db) (o : Order) : Prop :=
  match call with
  | payment _ _ _ => True
  | confirmation _ declarationId wholesalerId =>
    ∃ d, db.declarations.find? declarationId = some d ∧ d.wholesalerId = wholesalerId ∧
      d.status = .pending ∧ d.orderId = o.id ∧
      db.books.ActivelyBound d.wholesalerId d.retailerId

variable {call : Call} {db db' : Db} {books : Books} {o : Order} {res : CanonicalPaymentResult}

/-- The request of a call carries its key. -/
theorem key_of_request? {req : PaymentRequest} (h : call.request? db = some req) :
    req.idempotencyKey = call.idempotencyKey := by
  cases call with
  | payment ctx orderId request => exact congrArg _ (Option.some.inj h).symm
  | confirmation ctx declarationId wholesalerId =>
    obtain ⟨d, hfind, rfl⟩ := Option.map_eq_some_iff.mp h
    have hid : d.id = declarationId := Table.key_of_find? hfind
    show declarationKey d.id = declarationKey declarationId
    rw [hid]

/-- A pending call can complete. -/
theorem Pending.complete (h : call.Pending db o) : ∃ db', call.complete db books res = .ok db' := by
  cases call with
  | payment ctx orderId request => exact ⟨_, rfl⟩
  | confirmation ctx declarationId wholesalerId =>
    obtain ⟨d, hfind, hw, hst, -, -⟩ := h
    exact ⟨_, Db.markConfirmed_eq_ok.mpr ⟨d, hfind, hw, hst, rfl⟩⟩

theorem complete_books (h : call.complete db books res = .ok db') : db'.books = books := by
  cases call with
  | payment ctx orderId request => exact Except.ok.inj h ▸ rfl
  | confirmation ctx declarationId wholesalerId =>
    obtain ⟨d, -, -, -, rfl⟩ := Db.markConfirmed_eq_ok.mp h
    rfl

/-- Completing a call changes no declaration but its status and its payment. -/
theorem complete_declaration (h : call.complete db books res = .ok db') (id : Uuid) :
    db'.declarations.find? id = db.declarations.find? id ∨
      ∃ ctx wholesalerId d paymentId, call = .confirmation ctx id wholesalerId ∧
        db.declarations.find? id = some d ∧ db'.declarations.find? id =
          some { d with status := .confirmed, confirmationPaymentId := some paymentId } := by
  cases call with
  | payment ctx orderId request => exact .inl (Except.ok.inj h ▸ rfl)
  | confirmation ctx declarationId wholesalerId =>
    obtain ⟨d, hfind, -, -, rfl⟩ := Db.markConfirmed_eq_ok.mp h
    obtain rfl : d.id = declarationId := Table.key_of_find? hfind
    by_cases hc : id = d.id
    · subst hc
      exact .inr ⟨ctx, wholesalerId, d, res.paymentRecord.id, rfl, hfind,
        Table.find?_set_self (t := db.declarations) (r := ({ d with
          status := .confirmed
          confirmationPaymentId := some res.paymentRecord.id } : PaymentDeclaration)) hfind⟩
    · exact .inl (Table.find?_set_of_ne hc)

/-- No call stands for anything else when one completes. -/
theorem complete_kept (h : call.complete db books res = .ok db') (call' : Call) :
    call'.orderId? db' = call'.orderId? db ∧ call'.request? db' = call'.request? db := by
  cases call' with
  | payment ctx orderId request => exact ⟨rfl, rfl⟩
  | confirmation ctx declarationId wholesalerId =>
    dsimp only [orderId?, request?]
    rcases complete_declaration h declarationId with hsame | ⟨_, _, d, _, -, hfind, hfind'⟩
    · rw [hsame]
      exact ⟨rfl, rfl⟩
    · rw [hfind, hfind']
      exact ⟨rfl, rfl⟩

/-- A declaration on another order stays pending. -/
theorem complete_pending {call' : Call} {o' : Order} (h : call.complete db books res = .ok db')
    (hkept : db.books.BindingsKept books) (hp : call.Pending db o) (ho : o'.id ≠ o.id)
    (hp' : call'.Pending db o') : call'.Pending db' o' := by
  cases call' with
  | payment ctx orderId request => trivial
  | confirmation ctx declarationId wholesalerId =>
    obtain ⟨d, hfind, hw, hst, hid, hbound⟩ := hp'
    rcases complete_declaration h declarationId with hsame | ⟨_, _, d', _, rfl, hfind', -⟩
    · exact ⟨d, hsame.trans hfind, hw, hst, hid, complete_books h ▸ hkept _ _ hbound⟩
    · -- the same declaration would be on both orders
      obtain ⟨d'', hfind'', -, -, hid'', -⟩ := hp
      obtain rfl : d = d'' := Option.some.inj (hfind.symm.trans hfind'')
      exact absurd (hid.symm.trans hid'') ho

end Call

namespace Books

/-- A payment carries the key. -/
def HasKey (b : Books) (key : String) : Prop := ∃ p ∈ b.payments, p.idempotencyKey = key

/-- The unique index on the idempotency key. -/
def UniqueKeys (b : Books) : Prop :=
  ∀ p ∈ b.payments, ∀ q ∈ b.payments, p.idempotencyKey = q.idempotencyKey → p = q

end Books

namespace Service

variable {ι : Type} [DecidableEq ι] {calls : ι → Call} {s s' : Service ι} {i j : ι} {o : Order}
  {req : PaymentRequest} {res : CanonicalPaymentResult}

/-! ## What a call relies on -/

omit [DecidableEq ι] in
/-- A call holds the lock of an order, which is as it was when it was locked. -/
structure Locks (s : Service ι) (i : ι) (o : Order) : Prop where
  held : s.holder o.id = some i
  mem : o ∈ s.db.books.orders
  live : o.isDeleted = false

/-- A request is a call's own, on an order it names. -/
structure Requests (call : Call) (db : Db) (o : Order) (req : PaymentRequest) : Prop where
  orderId : call.orderId? db = some o.id
  request : call.request? db = some req
  pending : call.Pending db o

/-- A call was answered by a payment under its key, which repeats its request on the order it
names. -/
structure Replays (call : Call) (db : Db) (seen : Option Payment)
    (res : CanonicalPaymentResult) : Prop where
  seen : seen = some res.paymentRecord
  stored : ∃ status, { res.paymentRecord with status } ∈ db.books.payments
  orderId : call.orderId? db = some res.order.id
  belongs : res.paymentRecord.orderId = res.order.id
  repeats : ∃ req, call.request? db = some req ∧ res.paymentRecord.Repeats req
  replayed : res.replayed = true

/-- A call that saw a payment under its key was refused by it. -/
def Refuses (call : Call) (db : Db) (seen : Option Payment) (e : CommandError) : Prop :=
  ∀ p, seen = some p → (∃ status, { p with status } ∈ db.books.payments) ∧
    ∃ req, call.request? db = some req ∧ Books.RefusedBy p req (call.orderId? db) e

/-- What is known of a call by its phase. -/
def PhaseOk (calls : ι → Call) (s : Service ι) (i : ι) : Phase → Prop
  | .ready => True
  | .searched => True
  | .aborted => True
  | .locked o => s.Locks i o ∧ (calls i).orderId? s.db = some o.id
  | .entered o req => s.Locks i o ∧ Requests (calls i) s.db o req
  | .rechecked o req => s.Locks i o ∧ Requests (calls i) s.db o req ∧ 0 < req.amount
  | .planned o req plan => s.Locks i o ∧ Requests (calls i) s.db o req ∧ 0 < req.amount ∧
      (s.db.books.Settlement o req plan ∨ s.db.books.Collection o req plan)
  | .finished seen (.ok res) => (seen = none ∧ ∃ a ∈ s.applied, a.call = i ∧ a.result = res) ∨
      Replays (calls i) s.db seen res
  | .finished seen (.error e) => Refuses (calls i) s.db seen e

/-! ## One move -/

/-- What a call can do next, with what the part of the transaction has established. -/
inductive Moved (calls : ι → Call) (s : Service ι) (i : ι) : Service ι → Prop
  | search : s.phase i = .ready → Moved calls s i (s.enter i .searched)
  | lock {phase : Phase} (o : Order) :
      s.phase i = .ready ∨ s.phase i = .searched → s.holder o.id = none →
      o ∈ s.db.books.orders → o.isDeleted = false → (calls i).orderId? s.db = some o.id →
      (phase = .locked o ∨ ∃ req, phase = .entered o req ∧ Requests (calls i) s.db o req) →
      Moved calls s i
        { s.enter i phase with holder := Function.update s.holder o.id (some i) }
  | check (o : Order) (req : PaymentRequest) :
      s.phase i = .locked o → Requests (calls i) s.db o req →
      Moved calls s i (s.enter i (.entered o req))
  | recheck (o : Order) (req : PaymentRequest) :
      s.phase i = .entered o req → 0 < req.amount →
      Moved calls s i (s.enter i (.rechecked o req))
  | plan (o : Order) (req : PaymentRequest) (plan : Books.PaymentPlan) :
      s.phase i = .rechecked o req →
      s.db.books.Settlement o req plan ∨ s.db.books.Collection o req plan →
      Moved calls s i (s.enter i (.planned o req plan))
  | refuse (seen : Option Payment) (e : CommandError) :
      (∀ seen answer, s.phase i ≠ .finished seen answer) → Refuses (calls i) s.db seen e →
      Moved calls s i (s.finish i seen (.error e))
  | answer (seen : Option Payment) (res : CanonicalPaymentResult) :
      (∀ seen answer, s.phase i ≠ .finished seen answer) → Replays (calls i) s.db seen res →
      Moved calls s i (s.finish i seen (.ok res))
  | replay {db : Db} (o : Order) (seen : Option Payment) (res : CanonicalPaymentResult) :
      (∀ seen answer, s.phase i ≠ .finished seen answer) → s.Locks i o →
      (calls i).Pending s.db o → (calls i).complete s.db s.db.books res = .ok db →
      Replays (calls i) s.db seen res →
      Moved calls s i ({ s with db }.finish i seen (.ok res))
  | write {db : Db} {inserted books : Books} (a : Applied ι) :
      a.call = i → s.phase i = .planned a.order a.request a.plan → s.Locks i a.order →
      Requests (calls i) s.db a.order a.request →
      s.db.books.Executed (calls i).ctx a.order a.request a.plan a.row inserted books a.result →
      (calls i).complete s.db books a.result = .ok db →
      Moved calls s i ({ s with db, applied := s.applied ++ [a] }.finish i none (.ok a.result))

/-- A lookup that answers names the call's order and repeats its request. -/
theorem Replays.of_found {call : Call} {db : Db} {seen : Option Payment}
    (hreq : call.request? db = some req) (hid : call.orderId? db = some res.order.id)
    (h : db.books.Found req res) (hseen : seen = some res.paymentRecord) :
    Replays call db seen res where
  seen := hseen
  stored := ⟨_, (Books.getByIdempotencyKey_some h.found).1⟩
  orderId := hid
  belongs := h.orderId.symm
  repeats := ⟨req, hreq, h.same⟩
  replayed := h.replayed

/-- A lookup that refuses is refused by a stored payment. -/
theorem Refuses.of_found {call : Call} {db : Db} {seen : Option Payment} {e : CommandError}
    (hreq : call.request? db = some req)
    (hstored : ∀ p, seen = some p → p ∈ db.books.payments)
    (h : ∀ p, seen = some p → Books.RefusedBy p req (call.orderId? db) e) :
    Refuses call db seen e := by
  intro p hp
  exact ⟨⟨p.status, hstored p hp⟩, req, hreq, h p hp⟩

theorem Refuses.none {call : Call} {db : Db} {e : CommandError} : Refuses call db none e :=
  fun _ hp => absurd hp (by simp)

theorem seen_mem {b : Books} {p : Payment} (h : b.seen req = some p) : p ∈ b.payments := by
  unfold Books.seen at h
  split at h
  · simp at h
  · exact (Books.getByIdempotencyKey_some h).1

theorem seenByRace_mem {b : Books} {error : DatabaseError} {p : Payment}
    (h : b.seenByRace error req = some p) : p ∈ b.payments := by
  unfold Books.seenByRace at h
  split at h
  · exact (Books.getByIdempotencyKey_some h).1
  · simp at h

/-- Locking an order, if the call need not wait. -/
theorem lock_eq_some {phase : Phase} (h : s.lock i o phase = some s') : s.holder o.id = none ∧
    s' = { s.enter i phase with holder := Function.update s.holder o.id (some i) } := by
  unfold lock at h
  split at h
  · next hfree => exact ⟨hfree, (Option.some.inj h).symm⟩
  · simp at h

/-- Answering with a payment that was found, by a call that holds a lock. -/
theorem replay_moved {seen : Option Payment}
    (hrun : ∀ seen answer, s.phase i ≠ .finished seen answer) (hlock : s.Locks i o)
    (hpending : (calls i).Pending s.db o) (h : Replays (calls i) s.db seen res) :
    Moved calls s i (s.replay i (calls i) seen res) := by
  obtain ⟨db, hdb⟩ : ∃ db, (calls i).complete s.db s.db.books res = .ok db := hpending.complete
  unfold replay
  rw [hdb]
  exact .replay o seen res hrun hlock hpending hdb h

/-- The writes. -/
theorem write_moved {plan : Books.PaymentPlan} (hphase : s.phase i = .planned o req plan)
    (hlock : s.Locks i o) (hreq : Requests (calls i) s.db o req) (hpos : 0 < req.amount)
    (hchecked : s.db.books.Settlement o req plan ∨ s.db.books.Collection o req plan) :
    Moved calls s i (s.write i (calls i) o req plan) := by
  have hrun : ∀ seen answer, s.phase i ≠ .finished seen answer := by
    intro seen answer
    rw [hphase]
    simp
  unfold write
  split
  · -- the insert failed
    next error _ =>
    split
    · next e hclass =>
      refine .refuse _ _ hrun (.of_found hreq.request (fun p => seenByRace_mem) fun p hp => ?_)
      rw [hreq.orderId]
      exact Books.classify_refuses hclass hp
    · next r hclass =>
      obtain ⟨hfound, hid, hseen⟩ := Books.classify_answers hlock.mem hclass
      exact replay_moved hrun hlock hreq.pending
        (.of_found hreq.request (hreq.orderId.trans (congrArg some hid.symm)) hfound hseen)
  · next inserted row hins =>
    split
    · exact .refuse _ _ hrun .none
    · next settled order' hsettle =>
      dsimp only
      split
      · exact .refuse _ _ hrun .none
      · next db hdb =>
        have hx : s.db.books.Executed (calls i).ctx o req plan row inserted settled
            ⟨order', (settled.getPaymentById row.id).getD row, false⟩ :=
          { positive := hpos, checked := hchecked, insert := Books.insertPayment_eq_ok hins
            settle := hsettle, replayed := rfl, record := rfl }
        exact .write ⟨i, o, req, plan, row, _⟩ rfl hphase hlock hreq hx hdb

/-- A call that moves does one of these. -/
theorem advance_moved (hok : PhaseOk calls s i (s.phase i))
    (h : s.advance calls i = some s') : Moved calls s i s' := by
  unfold advance at h
  split at h
  · -- the first lookup
    next ctx orderId req hphase hcall =>
    have hrun : ∀ seen answer, s.phase i ≠ .finished seen answer := by simp [hphase]
    have hreq : (calls i).request? s.db = some req := by rw [hcall]; rfl
    have hid : (calls i).orderId? s.db = Uuid.parse orderId := by rw [hcall]; rfl
    split at h
    · next e hsearch =>
      obtain rfl := Option.some.inj h
      refine .refuse _ _ hrun (.of_found hreq (fun p => seen_mem) fun p hp => ?_)
      rw [hid]
      exact Books.search_refuses hsearch hp
    · next r hsearch =>
      obtain rfl := Option.some.inj h
      obtain ⟨hfound, hparse, hseen⟩ := Books.search_answers hsearch
      exact .answer _ _ hrun (.of_found hreq (hid.trans hparse) hfound hseen)
    · obtain rfl := Option.some.inj h
      exact .search hphase
  · -- the lock of a confirmation
    next ctx declarationId wholesalerId hphase hcall =>
    have hrun : ∀ seen answer, s.phase i ≠ .finished seen answer := by simp [hphase]
    split at h
    · obtain rfl := Option.some.inj h
      exact .refuse _ _ hrun .none
    · next o hlock =>
      obtain ⟨hfree, rfl⟩ := lock_eq_some h
      obtain ⟨hmem, hlive, d, hfind, hid⟩ := lockOrderForDeclaration_eq_ok hlock
      refine .lock o (.inl hphase) hfree hmem hlive ?_ (.inl rfl)
      rw [hcall]
      show (s.db.declarations.find? declarationId).map _ = _
      rw [hfind, Option.map_some, hid]
  · -- the lock of a payment
    next ctx orderId req hphase hcall =>
    have hrun : ∀ seen answer, s.phase i ≠ .finished seen answer := by simp [hphase]
    split at h
    · obtain rfl := Option.some.inj h
      exact .refuse _ _ hrun .none
    · next o hlock =>
      obtain ⟨hfree, rfl⟩ := lock_eq_some h
      unfold Books.lockOrderForPayment at hlock
      rw [orRefuse_eq_ok, Option.bind_eq_some_iff] at hlock
      obtain ⟨id, hparse, ho⟩ := hlock
      obtain ⟨hmem, rfl, hlive⟩ := Books.liveOrder?_eq_some.mp ho
      have hid : (calls i).orderId? s.db = some o.id := by rw [hcall]; exact hparse
      have hpending : (calls i).Pending s.db o := by rw [hcall]; trivial
      exact .lock o (.inr hphase) hfree hmem hlive hid
        (.inr ⟨req, rfl, ⟨hid, by rw [hcall]; rfl, hpending⟩⟩)
  · -- the checks of a declaration
    next o ctx declarationId wholesalerId hphase hcall =>
    have hrun : ∀ seen answer, s.phase i ≠ .finished seen answer := by simp [hphase]
    rw [hphase] at hok
    obtain ⟨hlock, hid⟩ := hok
    split at h
    · obtain rfl := Option.some.inj h
      exact .refuse _ _ hrun .none
    · next d r hcheck =>
      obtain rfl := Option.some.inj h
      obtain ⟨hfind, -, -, rfl, hmem, hbelongs, hrep, hreplayed⟩ := checkDeclaration_answers hcheck
      refine .answer _ _ hrun
        { seen := rfl, stored := ⟨_, hmem⟩, orderId := hid, belongs := hbelongs
          repeats := ⟨_, ?_, hrep⟩, replayed := hreplayed }
      rw [hcall]
      show (s.db.declarations.find? declarationId).map _ = _
      rw [hfind, Option.map_some]
    · next d hcheck =>
      obtain rfl := Option.some.inj h
      obtain ⟨hfind, hw, hst, horder, hbound⟩ := checkDeclaration_passes hcheck
      refine .check o _ hphase ⟨hid, ?_, ?_⟩
      · rw [hcall]
        show (s.db.declarations.find? declarationId).map _ = _
        rw [hfind, Option.map_some]
      · rw [hcall]
        exact ⟨d, hfind, hw, hst, horder, hbound⟩
  · -- the lookup under the lock
    next o req hphase =>
    have hrun : ∀ seen answer, s.phase i ≠ .finished seen answer := by simp [hphase]
    rw [hphase] at hok
    obtain ⟨hlock, hreq⟩ := hok
    split at h
    · next e hcheck =>
      obtain rfl := Option.some.inj h
      refine .refuse _ _ hrun (.of_found hreq.request (fun p => seen_mem) fun p hp => ?_)
      rw [hreq.orderId]
      exact Books.recheck_refuses hcheck hp
    · next r hcheck =>
      obtain rfl := Option.some.inj h
      obtain ⟨hfound, hid, hseen⟩ := Books.recheck_answers hlock.mem hcheck
      exact replay_moved hrun hlock hreq.pending
        (.of_found hreq.request (hreq.orderId.trans (congrArg some hid.symm)) hfound hseen)
    · next hcheck =>
      obtain rfl := Option.some.inj h
      exact .recheck o req hphase (Books.recheck_passes hcheck)
  · -- the checks before the first write
    next o req hphase =>
    have hrun : ∀ seen answer, s.phase i ≠ .finished seen answer := by simp [hphase]
    rw [hphase] at hok
    obtain ⟨hlock, -, -⟩ := hok
    split at h
    · obtain rfl := Option.some.inj h
      exact .refuse _ _ hrun .none
    · next plan hplan =>
      obtain rfl := Option.some.inj h
      exact .plan o req plan hphase
        (Books.paymentPlan_eq_ok (Table.find?_key hlock.mem) hlock.live hplan)
  · -- the writes
    next o req plan hphase =>
    obtain rfl := Option.some.inj h
    rw [hphase] at hok
    obtain ⟨hlock, hreq, hpos, hchecked⟩ := hok
    exact write_moved hphase hlock hreq hpos hchecked
  · simp at h

/-! ## What a move leaves to the others -/

/-- Everything a call relies on is still there. -/
structure Kept (s s' : Service ι) (j : ι) : Prop where
  phase : s'.phase j = s.phase j
  held : ∀ id, s.holder id = some j → s'.holder id = some j
  stands : ∀ call : Call, call.orderId? s'.db = call.orderId? s.db ∧
    call.request? s'.db = call.request? s.db
  pending : ∀ (call : Call) (o : Order), s.holder o.id = some j → call.Pending s.db o →
    call.Pending s'.db o
  mem : ∀ o, s.holder o.id = some j → o ∈ s.db.books.orders → o ∈ s'.db.books.orders
  settlement : ∀ o req plan, s.holder o.id = some j → s.db.books.Settlement o req plan →
    s'.db.books.Settlement o req plan
  collection : ∀ o req plan, s.holder o.id = some j → s.db.books.Collection o req plan →
    s'.db.books.Collection o req plan
  stored : ∀ p : Payment, (∃ status, { p with status } ∈ s.db.books.payments) →
    ∃ status, { p with status } ∈ s'.db.books.payments
  applied : ∀ a ∈ s.applied, a ∈ s'.applied

omit [DecidableEq ι] in
theorem Replays.kept {call : Call} {seen : Option Payment} (h : Kept s s' j)
    (hr : Replays call s.db seen res) : Replays call s'.db seen res where
  seen := hr.seen
  stored := h.stored _ hr.stored
  orderId := (h.stands call).1.trans hr.orderId
  belongs := hr.belongs
  repeats := by rw [(h.stands call).2]; exact hr.repeats
  replayed := hr.replayed

omit [DecidableEq ι] in
theorem Refuses.kept {call : Call} {seen : Option Payment} {e : CommandError} (h : Kept s s' j)
    (hr : Refuses call s.db seen e) : Refuses call s'.db seen e := by
  intro p hp
  rw [(h.stands call).1, (h.stands call).2]
  exact (hr p hp).imp (h.stored p) id

omit [DecidableEq ι] in
theorem Requests.kept {call : Call} (h : Kept s s' j) (hlock : s.Locks j o)
    (hr : Requests call s.db o req) : Requests call s'.db o req where
  orderId := (h.stands call).1.trans hr.orderId
  request := (h.stands call).2.trans hr.request
  pending := h.pending call o hlock.held hr.pending

omit [DecidableEq ι] in
theorem Locks.kept (h : Kept s s' j) (hlock : s.Locks j o) : s'.Locks j o where
  held := h.held _ hlock.held
  mem := h.mem o hlock.held hlock.mem
  live := hlock.live

omit [DecidableEq ι] in
/-- A call's phase is as sound after another call's move as before. -/
theorem PhaseOk.kept {phase : Phase} (h : Kept s s' j) (hok : PhaseOk calls s j phase) :
    PhaseOk calls s' j phase := by
  cases phase with
  | ready => trivial
  | searched => trivial
  | aborted => trivial
  | locked o =>
    obtain ⟨hlock, hid⟩ := hok
    exact ⟨hlock.kept h, (h.stands _).1.trans hid⟩
  | entered o req =>
    obtain ⟨hlock, hreq⟩ := hok
    exact ⟨hlock.kept h, hreq.kept h hlock⟩
  | rechecked o req =>
    obtain ⟨hlock, hreq, hpos⟩ := hok
    exact ⟨hlock.kept h, hreq.kept h hlock, hpos⟩
  | planned o req plan =>
    obtain ⟨hlock, hreq, hpos, hchecked⟩ := hok
    exact ⟨hlock.kept h, hreq.kept h hlock, hpos,
      hchecked.imp (h.settlement o req plan hlock.held) (h.collection o req plan hlock.held)⟩
  | finished seen answer =>
    cases answer with
    | error e => exact Refuses.kept h hok
    | ok res =>
      rcases hok with ⟨hseen, a, ha, hcall, hres⟩ | hr
      · exact .inl ⟨hseen, a, h.applied a ha, hcall, hres⟩
      · exact .inr (hr.kept h)

/-- A move that leaves the tenant as it is, and the locks of the others. -/
theorem Kept.of_local {phase : Phase} {holder : Uuid → Option ι} (hij : j ≠ i)
    (hheld : ∀ id, s.holder id = some j → holder id = some j) :
    Kept s { s.enter i phase with holder } j where
  phase := Function.update_of_ne hij _ _
  held := hheld
  stands _ := ⟨rfl, rfl⟩
  pending _ _ _ h := h
  mem _ _ h := h
  settlement _ _ _ _ h := h
  collection _ _ _ _ h := h
  stored _ h := h
  applied _ h := h

/-- Giving up one's locks takes none from another call. -/
theorem held_of_release {holder : Uuid → Option ι} (hij : j ≠ i) {id : Uuid}
    (h : holder id = some j) : (if holder id = some i then none else holder id) = some j := by
  rw [if_neg, h]
  rw [h, Option.some.injEq]
  exact hij

/-- The commit of a call that holds a lock keeps what another call relies on, if the books changed
on its order alone. -/
theorem Kept.of_commit {db : Db} {books : Books} {applied : List (Applied ι)} {seen : Option Payment}
    {answer : Except CommandError CanonicalPaymentResult} (hij : j ≠ i) (hlock : s.Locks i o)
    (hpending : (calls i).Pending s.db o) (hdb : (calls i).complete s.db books res = .ok db)
    (hbooks : s.db.books.Isolated books o) (hkept : s.db.books.BindingsKept books)
    (hstored : ∀ p : Payment, (∃ status, { p with status } ∈ s.db.books.payments) →
      ∃ status, { p with status } ∈ books.payments)
    (happlied : ∀ a ∈ s.applied, a ∈ applied) :
    Kept s ({ s with db, applied }.finish i seen answer) j := by
  have hsame : db.books = books := Call.complete_books hdb
  -- the other call holds the lock of another order
  have hother : ∀ x : Order, s.holder x.id = some j → x.id ≠ o.id := by
    intro x hx hid
    rw [hid, hlock.held, Option.some.injEq] at hx
    exact hij hx.symm
  exact
    { phase := Function.update_of_ne hij _ _
      held := fun id h => held_of_release hij h
      stands := fun call => Call.complete_kept hdb call
      pending := fun call x hx h => Call.complete_pending hdb hkept hpending (hother x hx) h
      mem := fun x hx h => by
        show x ∈ db.books.orders
        have hfind := (hbooks.orders x.id (hother x hx)).trans (Table.find?_key h)
        exact hsame ▸ Table.mem_of_find? hfind
      settlement := fun x req plan hx h => by
        show db.books.Settlement x req plan
        exact hsame ▸ hbooks.settlement (hother x hx) h
      collection := fun x req plan hx h => by
        show db.books.Collection x req plan
        exact hsame ▸ hbooks.collection (hother x hx) h
      stored := fun p h => by
        show ∃ status, { p with status } ∈ db.books.payments
        exact hsame ▸ hstored p h
      applied := happlied }

/-- A move of one call keeps what every other call relies on. -/
theorem Moved.kept (hij : j ≠ i) (h : Moved calls s i s') : Kept s s' j := by
  cases h with
  | search _ | check _ _ _ _ | recheck _ _ _ _ | plan _ _ _ _ _ =>
    exact .of_local hij fun _ h => h
  | lock o _ hfree _ _ _ _ =>
    refine .of_local hij fun id hid => ?_
    rw [Function.update_of_ne, hid]
    rintro rfl
    rw [hfree] at hid
    simp at hid
  | refuse _ _ _ _ | answer _ _ _ _ =>
    exact .of_local hij fun _ h => held_of_release hij h
  | replay o seen res _ hlock hpending hdb _ =>
    exact .of_commit hij hlock hpending hdb (.refl s.db.books o) (.refl rfl) (fun _ h => h)
      fun _ h => h
  | write a _ _ hlock hreq hx hdb =>
    refine .of_commit hij hlock hreq.pending hdb hx.isolated hx.bindingsKept (fun p hp => ?_)
      fun _ h => List.mem_append_left _ h
    obtain ⟨status, hmem⟩ := hp
    obtain ⟨status', -, hstatus'⟩ := hx.mem_payments
    exact ⟨_, (hstatus' _).mpr ⟨_, .inl hmem, rfl⟩⟩

/-- A move leads to the next phase of its own call. -/
theorem Moved.phaseOk (hok : PhaseOk calls s i (s.phase i)) (h : Moved calls s i s') :
    PhaseOk calls s' i (s'.phase i) := by
  cases h with
  | search _ =>
    show PhaseOk calls _ i (Function.update s.phase i _ i)
    rw [Function.update_self]
    trivial
  | @lock phase o _ _ hmem hlive hid hnext =>
    show PhaseOk calls _ i (Function.update s.phase i _ i)
    rw [Function.update_self]
    have hlock : Locks { s.enter i phase with holder := Function.update s.holder o.id (some i) } i o :=
      ⟨Function.update_self .., hmem, hlive⟩
    rcases hnext with rfl | ⟨req, rfl, hreq⟩
    · exact ⟨hlock, hid⟩
    · exact ⟨hlock, hreq⟩
  | check o req hphase hreq =>
    show PhaseOk calls _ i (Function.update s.phase i _ i)
    rw [Function.update_self]
    rw [hphase] at hok
    exact ⟨⟨hok.1.held, hok.1.mem, hok.1.live⟩, hreq⟩
  | recheck o req hphase hpos =>
    show PhaseOk calls _ i (Function.update s.phase i _ i)
    rw [Function.update_self]
    rw [hphase] at hok
    exact ⟨⟨hok.1.held, hok.1.mem, hok.1.live⟩, hok.2, hpos⟩
  | plan o req plan hphase hchecked =>
    show PhaseOk calls _ i (Function.update s.phase i _ i)
    rw [Function.update_self]
    rw [hphase] at hok
    exact ⟨⟨hok.1.held, hok.1.mem, hok.1.live⟩, hok.2.1, hok.2.2, hchecked⟩
  | refuse seen e _ hr =>
    show PhaseOk calls _ i (Function.update s.phase i _ i)
    rw [Function.update_self]
    exact hr
  | answer seen res _ hr =>
    show PhaseOk calls _ i (Function.update s.phase i _ i)
    rw [Function.update_self]
    exact .inr hr
  | @replay db o seen res _ _ _ hdb hr =>
    show PhaseOk calls _ i (Function.update s.phase i _ i)
    rw [Function.update_self]
    obtain ⟨hid, hreq⟩ := Call.complete_kept hdb (calls i)
    have hsame : db.books = s.db.books := Call.complete_books hdb
    refine .inr
      { seen := hr.seen, stored := ?_, orderId := hid.trans hr.orderId, belongs := hr.belongs
        repeats := ?_, replayed := hr.replayed }
    · show ∃ status, { res.paymentRecord with status } ∈ db.books.payments
      exact hsame ▸ hr.stored
    · show ∃ req, (calls i).request? db = some req ∧ _
      rw [hreq]
      exact hr.repeats
  | write a hcall _ _ _ _ _ =>
    show PhaseOk calls _ i (Function.update s.phase i _ i)
    rw [Function.update_self]
    exact .inl ⟨rfl, a, List.mem_append_right _ (List.mem_singleton.mpr rfl), hcall, rfl⟩

/-! ## The serial history -/

/-- The effect of a committed payment: its request was executed on its order, and nothing of
another order changed. -/
structure Effect (calls : ι → Call) (a : Applied ι) (before after : Books) : Prop where
  mem : a.order ∈ before.orders
  live : a.order.isDeleted = false
  executed : ∃ inserted,
    before.Executed (calls a.call).ctx a.order a.request a.plan a.row inserted after a.result
  isolated : before.Isolated after a.order

omit [DecidableEq ι] in
/-- A committed payment has a new key, and puts it on a row. -/
theorem Effect.hasKey {a : Applied ι} {b b' : Books} (h : Effect calls a b b') :
    ¬b.HasKey a.row.idempotencyKey ∧
      ∀ k, b'.HasKey k ↔ b.HasKey k ∨ a.row.idempotencyKey = k := by
  obtain ⟨inserted, hx⟩ := h.executed
  obtain ⟨status, -, hmem⟩ := hx.mem_payments
  have hfresh := (Books.paymentUniqueViolation?_eq_none.mp hx.insert.fresh).2.1
  constructor
  · rintro ⟨p, hp, hk⟩
    exact hfresh p hp hk
  · intro k
    constructor
    · rintro ⟨p, hp, rfl⟩
      obtain ⟨q, hq | rfl, rfl⟩ := (hmem p).mp hp
      · exact .inl ⟨q, hq, rfl⟩
      · exact .inr rfl
    · rintro (⟨q, hq, rfl⟩ | rfl)
      · exact ⟨_, (hmem _).mpr ⟨q, .inl hq, rfl⟩, rfl⟩
      · exact ⟨_, (hmem _).mpr ⟨a.row, .inr rfl, rfl⟩, rfl⟩

omit [DecidableEq ι] in
theorem Effect.uniqueKeys {a : Applied ι} {b b' : Books} (h : Effect calls a b b')
    (hu : b.UniqueKeys) : b'.UniqueKeys := by
  obtain ⟨inserted, hx⟩ := h.executed
  obtain ⟨status, -, hmem⟩ := hx.mem_payments
  have hfresh := (Books.paymentUniqueViolation?_eq_none.mp hx.insert.fresh).2.1
  intro p hp q hq hk
  obtain ⟨p, hp' | rfl, rfl⟩ := (hmem p).mp hp
  · obtain ⟨q, hq' | rfl, rfl⟩ := (hmem q).mp hq
    · obtain rfl := hu p hp' q hq' hk
      rfl
    · exact absurd hk (hfresh p hp')
  · obtain ⟨q, hq' | rfl, rfl⟩ := (hmem q).mp hq
    · exact absurd hk.symm (hfresh q hq')
    · rfl

omit [DecidableEq ι] in
/-- The keys of a history: those at its start and those of its payments, each once. -/
theorem keys_of_serial {log : List (Applied ι)} {b₀ b : Books}
    (h : Serial (Effect calls) b₀ log b) :
    (∀ k, b.HasKey k ↔ b₀.HasKey k ∨ k ∈ log.map fun a => a.row.idempotencyKey) ∧
      (∀ k ∈ log.map fun a => a.row.idempotencyKey, ¬b₀.HasKey k) ∧
      (log.map fun a => a.row.idempotencyKey).Nodup := by
  induction h with
  | nil => exact ⟨fun k => by simp, by simp, List.nodup_nil⟩
  | @snoc log b b' a _ he ih =>
    obtain ⟨hkeys, hnew, hnodup⟩ := ih
    obtain ⟨hfresh, hafter⟩ := he.hasKey
    rw [hkeys, not_or] at hfresh
    refine ⟨fun k => ?_, fun k hk => ?_, ?_⟩
    · rw [hafter, hkeys, List.map_append, List.mem_append, List.map_singleton,
        List.mem_singleton, or_assoc, eq_comm (b := k)]
    · rw [List.map_append, List.mem_append, List.map_singleton, List.mem_singleton] at hk
      rcases hk with hk | rfl
      · exact hnew k hk
      · exact hfresh.1
    · rw [List.map_append, List.map_singleton, ← List.concat_eq_append]
      exact hnodup.concat hfresh.2

/-! ## Any interleaving -/

/-- Every call's phase is sound, the books are those of the serial history of the committed
payments, and each of these is the answer of its call. -/
structure Inv (calls : ι → Call) (db : Db) (s : Service ι) : Prop where
  phases : ∀ i, PhaseOk calls s i (s.phase i)
  serial : Serial (Effect calls) db.books s.applied s.db.books
  applied : ∀ a ∈ s.applied, s.phase a.call = .finished none (.ok a.result) ∧
    (calls a.call).orderId? s.db = some a.order.id ∧ (calls a.call).request? s.db = some a.request

theorem Moved.running (h : Moved calls s i s') : ∀ seen answer,
    s.phase i ≠ .finished seen answer := by
  intro seen answer
  cases h with
  | search hphase | check _ _ hphase _ | recheck _ _ hphase _ | plan _ _ _ hphase _
  | write _ _ hphase _ _ _ _ => simp [hphase]
  | lock _ hphase _ _ _ _ _ => rcases hphase with hphase | hphase <;> simp [hphase]
  | refuse _ _ hrun _ | answer _ _ hrun _ | replay _ _ _ hrun _ _ _ _ => exact hrun seen answer

/-- A move commits one payment, its own call's, or leaves the books as they are. -/
theorem Moved.committed (h : Moved calls s i s') :
    (s'.applied = s.applied ∧ s'.db.books = s.db.books) ∨
      ∃ a, s'.applied = s.applied ++ [a] ∧ a.call = i ∧
        Effect calls a s.db.books s'.db.books ∧ s'.phase i = .finished none (.ok a.result) ∧
        (calls i).orderId? s'.db = some a.order.id ∧
        (calls i).request? s'.db = some a.request := by
  cases h with
  | search _ | check _ _ _ _ | recheck _ _ _ _ | plan _ _ _ _ _ | lock _ _ _ _ _ _ _
  | refuse _ _ _ _ | answer _ _ _ _ => exact .inl ⟨rfl, rfl⟩
  | replay _ _ _ _ _ _ hdb _ => exact .inl ⟨rfl, Call.complete_books hdb⟩
  | @write db inserted books a hcall _ hlock hreq hx hdb =>
    subst hcall
    obtain ⟨hid, hrequest⟩ := Call.complete_kept hdb (calls a.call)
    have hsame : db.books = books := Call.complete_books hdb
    refine .inr ⟨a, rfl, rfl, ?_, Function.update_self .., hid.trans hreq.orderId,
      hrequest.trans hreq.request⟩
    show Effect calls a s.db.books db.books
    rw [hsame]
    exact ⟨hlock.mem, hlock.live, ⟨inserted, hx⟩, hx.isolated⟩

theorem Inv.moved {db : Db} (hinv : Inv calls db s) (h : Moved calls s i s') :
    Inv calls db s' := by
  have hrun := h.running
  have hold : ∀ a ∈ s.applied, s'.phase a.call = .finished none (.ok a.result) ∧
      (calls a.call).orderId? s'.db = some a.order.id ∧
      (calls a.call).request? s'.db = some a.request := by
    intro a ha
    obtain ⟨hphase, hid, hreq⟩ := hinv.applied a ha
    have hne : a.call ≠ i := by
      intro hc
      rw [hc] at hphase
      exact hrun _ _ hphase
    have hkept := h.kept hne
    exact ⟨hkept.phase.trans hphase, (hkept.stands _).1.trans hid, (hkept.stands _).2.trans hreq⟩
  have hphases : ∀ j, PhaseOk calls s' j (s'.phase j) := by
    intro j
    by_cases hij : j = i
    · subst hij
      exact h.phaseOk (hinv.phases j)
    · have hkept := h.kept hij
      rw [hkept.phase]
      exact (hinv.phases j).kept hkept
  rcases h.committed with ⟨hlog, hbooks⟩ | ⟨a, hlog, rfl, heffect, hphase, hid, hreq⟩
  · exact
      { phases := hphases, serial := by rw [hlog, hbooks]; exact hinv.serial
        applied := by rw [hlog]; exact hold }
  · refine { phases := hphases, serial := by rw [hlog]; exact hinv.serial.snoc heffect
             applied := fun x hx => ?_ }
    rw [hlog, List.mem_append, List.mem_singleton] at hx
    rcases hx with hx | rfl
    · exact hold x hx
    · exact ⟨hphase, hid, hreq⟩

theorem Inv.abort {db : Db} (hinv : Inv calls db s) (i : ι) : Inv calls db (s.abort i) := by
  unfold Service.abort
  split
  · exact hinv
  · next hrun =>
    have hkept : ∀ j, j ≠ i → Kept s ((s.enter i .aborted).release i) j :=
      fun j hij => .of_local hij fun _ h => held_of_release hij h
    refine { phases := fun j => ?_, serial := hinv.serial, applied := fun a ha => ?_ }
    · by_cases hij : j = i
      · subst hij
        show PhaseOk calls _ j (Function.update s.phase j _ j)
        rw [Function.update_self]
        trivial
      · rw [(hkept j hij).phase]
        exact (hinv.phases j).kept (hkept j hij)
    · obtain ⟨hphase, hid, hreq⟩ := hinv.applied a ha
      have hne : a.call ≠ i := by
        rintro rfl
        exact hrun _ _ hphase
      exact ⟨(hkept _ hne).phase.trans hphase, hid, hreq⟩

theorem Inv.handle {db : Db} (hinv : Inv calls db s) (event : Event ι) :
    Inv calls db (s.handle calls event) := by
  cases event with
  | abort i => exact hinv.abort i
  | advance i =>
    show Inv calls db ((s.advance calls i).getD s)
    cases h : s.advance calls i with
    | none => exact hinv
    | some s' => exact hinv.moved (advance_moved (hinv.phases i) h)

/-- Every interleaving keeps the invariant. -/
theorem inv_serve (calls : ι → Call) (db : Db) (events : List (Event ι)) :
    Inv calls db (serve calls db events) := by
  unfold serve
  suffices h : ∀ s, Inv calls db s → Inv calls db (events.foldl (handle calls) s) by
    exact h _
      { phases := fun _ => trivial, serial := .nil, applied := fun a ha => by simp [start] at ha }
  induction events with
  | nil => exact fun _ h => h
  | cons event events ih => exact fun s h => ih _ (h.handle event)

/-! ## Exactly once -/

/-- The state of the service after any number of calls have been at work. -/
structure ExactlyOnce (calls : ι → Call) (db : Db) (s : Service ι) : Prop where
  /-- No key is on two payments. -/
  unique : s.db.books.UniqueKeys
  /-- The books are those at the start after the committed payments, one after the other. -/
  serial : Serial (Effect calls) db.books s.applied s.db.books
  /-- A key was committed at most once, and exactly when its payment is there and was not at the
  start. -/
  once : ∀ key, (s.applied.map fun a => a.row.idempotencyKey).count key ≤ 1 ∧
    ((s.applied.map fun a => a.row.idempotencyKey).count key = 1 ↔
      s.db.books.HasKey key ∧ ¬db.books.HasKey key)
  /-- A committed payment is its call's: its key, its order, its request and its answer. -/
  applied : ∀ a ∈ s.applied, s.phase a.call = .finished none (.ok a.result) ∧
    a.result.replayed = false ∧
    varchar 64 (calls a.call).idempotencyKey = some a.row.idempotencyKey ∧
    (calls a.call).orderId? s.db = some a.order.id ∧
    (calls a.call).request? s.db = some a.request ∧ a.result.order.id = a.order.id ∧
    a.result.paymentRecord.orderId = a.order.id ∧
    a.result.paymentRecord.idempotencyKey = a.row.idempotencyKey
  /-- Every other answered call committed nothing and repeats the payment under its key. -/
  answered : ∀ i seen res, s.phase i = .finished seen (.ok res) →
    (∃ a ∈ s.applied, a.call = i ∧ a.result = res) ∨
      (∀ a ∈ s.applied, a.call ≠ i) ∧ Replays (calls i) s.db seen res
  /-- A refused call committed nothing, and if it saw the payment under its key, that one refused
  it. -/
  refused : ∀ i seen e, s.phase i = .finished seen (.error e) →
    (∀ a ∈ s.applied, a.call ≠ i) ∧ Refuses (calls i) s.db seen e

/-- **Exactly once.** However any number of payment calls and confirmations of declarations
interleave, every key is executed exactly once if its payment is there and never otherwise, and
every other call with the key changes nothing. -/
theorem exactlyOnce {calls : ι → Call} {db : Db} (h : db.books.UniqueKeys)
    (events : List (Event ι)) : ExactlyOnce calls db (serve calls db events) := by
  have hinv := inv_serve calls db events
  obtain ⟨hkeys, hnew, hnodup⟩ := keys_of_serial hinv.serial
  refine
    { unique := hinv.serial.induction h fun _ _ _ hu he => he.uniqueKeys hu
      serial := hinv.serial, once := fun key => ?_, applied := fun a ha => ?_
      answered := fun i seen res hi => ?_, refused := fun i seen e hi => ?_ }
  · refine ⟨List.nodup_iff_count_le_one.mp hnodup key, ?_⟩
    rw [hnodup.count, hkeys]
    constructor
    · intro hone
      have hmem := Decidable.byContradiction fun hc => absurd hone (by rw [if_neg hc]; simp)
      exact ⟨.inr hmem, hnew key hmem⟩
    · rintro ⟨hold | hmem, habsent⟩
      · exact absurd hold habsent
      · exact if_pos hmem
  · obtain ⟨hphase, hid, hreq⟩ := hinv.applied a ha
    obtain ⟨before, after, heffect⟩ := hinv.serial.of_mem ha
    obtain ⟨inserted, hx⟩ := heffect.executed
    obtain ⟨⟨status, hrec⟩, -, -⟩ := hx.record_eq
    obtain ⟨-, horder, -⟩ := hx.order_mem heffect.mem heffect.live
    refine ⟨hphase, hx.replayed, ?_, hid, hreq, horder, ?_, ?_⟩
    · rw [← Call.key_of_request? hreq]
      exact hx.insert.idempotencyKey
    · rw [hrec]
      exact hx.insert.orderId
    · rw [hrec]
  · have hok := hinv.phases i
    rw [hi] at hok
    rcases hok with ⟨-, a, ha, hcall, hres⟩ | hr
    · exact .inl ⟨a, ha, hcall, hres⟩
    · refine .inr ⟨fun a ha hcall => ?_, hr⟩
      have hphase := (hinv.applied a ha).1
      rw [hcall, hi, hr.seen] at hphase
      simp at hphase
  · have hok := hinv.phases i
    rw [hi] at hok
    refine ⟨fun a ha hcall => ?_, hok⟩
    have hphase := (hinv.applied a ha).1
    rw [hcall, hi] at hphase
    simp at hphase

/-! ## A race -/

/-- The code a call was refused with. -/
def refusal? (s : Service ι) (i : ι) : Option ErrorCode :=
  match s.phase i with
  | .finished _ (.error e) => e.code?
  | _ => none

/-- Two confirmed orders. -/
def confirmedOrders : Db :=
  run execute (sampleTenant 10000) [.createOrder 50 2 [sampleItem 100 2],
    .createOrder 51 2 [sampleItem 101 1], .confirmOrder 50 (some 9), .confirmOrder 51 (some 9)]

/-- The same key on both orders; the references may agree. -/
def racingCalls (reference : String) (i : Fin 2) : Call :=
  if i = 0 then .payment ⟨200, sampleDay⟩ (Uuid.text 50)
    (samplePayment (scaled 2 400) .transfer (some "T-17") "pay-0001")
  else .payment ⟨201, sampleDay⟩ (Uuid.text 51)
    (samplePayment (scaled 2 400) .transfer (some reference) "pay-0001")

/-- The second call passes both lookups before the first commits. -/
def race : List (Event (Fin 2)) :=
  [.advance 1, .advance 1, .advance 1, .advance 0, .advance 0, .advance 0, .advance 0, .advance 0,
    .advance 1, .advance 1]

theorem exactlyOnce_race : ExactlyOnce (racingCalls "T-17") confirmedOrders
    (serve (racingCalls "T-17") confirmedOrders race) :=
  exactlyOnce (by unfold Books.UniqueKeys; decide +kernel) race

/-- The second call of the key is refused, but for its reference, not for its key. -/
theorem race_refused_by_reference :
    (∀ i, (racingCalls "T-17" i).idempotencyKey = "pay-0001") ∧
    (serve (racingCalls "T-17") confirmedOrders race).db.books.payments.rows.map
      Payment.idempotencyKey = ["pay-0001"] ∧
    refusal? (serve (racingCalls "T-17") confirmedOrders race) 1 =
      some .duplicateTransferReference := by
  refine ⟨by decide, ?_, ?_⟩ <;> decide +kernel

-- with a reference of its own it gets as far as the insert, and the key refuses it there
example : refusal? (serve (racingCalls "T-18") confirmedOrders (race.take 3 ++ [.advance 1] ++
    race.drop 3)) 1 = some .idempotencyKeyConflict := by decide +kernel

end Service

end Mpango
