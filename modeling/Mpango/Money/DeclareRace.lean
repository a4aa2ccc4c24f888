import Mpango.Model.DeclareEndpoint
import Mpango.Model.System
import Mpango.Spec.Declarations

/-!
# A declaration that loses the race

Two submissions with one key. When the first is committed before the second begins, the service
finds its row and compares it with the second request. When it is committed between the second's
lookup and its insert, the endpoint does. Both compare the same four things, but the service has
normalised the order id and the reference of a cash declaration by then, and the endpoint has not.
-/

namespace Mpango

open Decimal

namespace DeclarationSubmission

variable {s first second : DeclarationSubmission} {db db' : Db} {o : Order}
  {reference : Option String} {record : PaymentDeclaration}

/-- `submit_declaration` is its lookups and its insert. -/
theorem submitDeclaration_eq (s : DeclarationSubmission) (db : Db) :
    submitDeclaration db s.newId s.orderId s.retailerId s.wholesalerId s.declaredAmount s.method
        s.transferReference s.idempotencyKey =
      (do match ← s.prepare db with
        | .existing existing => return (db, existing, true)
        | .absent order reference => do
          let (db, record) ← dbError (s.insert db order reference)
          return (db, record, false)) := by
  unfold submitDeclaration prepare
  simp only [bind_assoc]
  refine bind_congr fun _ => bind_congr fun _ => bind_congr fun ref => bind_congr fun order => ?_
  cases db.getByRetailerIdempotency s.retailerId s.idempotencyKey with
  | none =>
    simp only [pure_bind]
    rfl
  | some existing =>
    by_cases hsame :
        sameDeclarationRequest existing order.id.text s.declaredAmount s.method ref = true
    · simp only [hsame, if_true, pure_bind]
    · simp only [hsame, Bool.false_eq_true, if_false, error_bind]

/-- What a submission has seen when no declaration has its key yet. -/
structure Seen (s : DeclarationSubmission) (db : Db) (order : Order) (reference : Option String) :
    Prop where
  amount : ¬s.declaredAmount ≤ 0
  method : s.method ≠ .credit
  reference : normalizeTransferReference s.method s.transferReference = .ok reference
  order : ((Uuid.parse s.orderId).bind db.books.liveOrder?).filter (fun o =>
    o.retailerId = s.retailerId && o.wholesalerId = s.wholesalerId) = some order

theorem prepare_eq_absent : s.prepare db = .ok (.absent o reference) ↔
    s.Seen db o reference ∧ db.getByRetailerIdempotency s.retailerId s.idempotencyKey = none := by
  unfold prepare
  simp only [bind_eq_ok, refuseIf_eq_ok, orRefuse_eq_ok, exists_const]
  constructor
  · rintro ⟨hamount, hmethod, ref, href, order, horder, h⟩
    cases hexisting : db.getByRetailerIdempotency s.retailerId s.idempotencyKey with
    | some existing =>
      simp only [hexisting] at h
      split at h
      · cases h
      · cases h
    | none =>
      simp only [hexisting, pure_eq_ok, Prepared.absent.injEq] at h
      obtain ⟨rfl, rfl⟩ := h
      exact ⟨⟨hamount, hmethod, href, horder⟩, rfl⟩
  · rintro ⟨⟨hamount, hmethod, href, horder⟩, hnone⟩
    refine ⟨hamount, hmethod, reference, href, o, horder, ?_⟩
    rw [hnone]
    rfl

/-- With the row there, the same request is a replay and any other a conflict. -/
theorem prepare_of_existing (h : s.Seen db o reference)
    (hexisting : db.getByRetailerIdempotency s.retailerId s.idempotencyKey = some record) :
    s.prepare db = if sameDeclarationRequest record o.id.text s.declaredAmount s.method reference
      then .ok (.existing record)
      else .error (.conflict .declarationIdempotencyKeyConflict
        "Declaration idempotency key was already used with a different request") := by
  unfold prepare
  rw [refuseIf_neg h.amount, refuseIf_neg h.method, h.reference, h.order, hexisting]
  simp only [ok_bind, orRefuse_some]
  split
  · rfl
  · rfl

/-- A row that was inserted holds what was submitted, as its columns store it. -/
structure Stored (s : DeclarationSubmission) (order : Order) (reference : Option String)
    (record : PaymentDeclaration) : Prop where
  orderId : record.orderId = order.id
  retailerId : record.retailerId = s.retailerId
  amount : storeMoney s.declaredAmount = .ok record.declaredAmount
  method : record.method = s.method
  reference : storeTransactionId reference = .ok record.transferReference
  key : varchar 64 s.idempotencyKey = some record.idempotencyKey

theorem insert_eq_ok (h : s.insert db o reference = .ok (db', record)) :
    s.Stored o reference record ∧ ∃ declarations,
      db.declarations.insert? record = some declarations ∧ db' = { db with declarations } := by
  unfold insert Db.createDeclaration at h
  simp only [bind_eq_ok, refuseIf_eq_ok, exists_const, orRefuse_eq_ok, pure_eq_ok,
    Prod.mk.injEq] at h
  obtain ⟨amount, hamount, ref, href, key, hkey, -, declarations, hinsert, -, rfl, rfl⟩ := h
  exact ⟨⟨rfl, rfl, hamount, rfl, href, hkey⟩, declarations, hinsert, rfl⟩

/-- The reference that is normalised is stored as it is: none for cash, and at most 128 long. -/
theorem storeTransactionId_normalized (h : normalizeTransferReference s.method s.transferReference =
    .ok reference) {stored : Option String} (hstored : storeTransactionId reference = .ok stored) :
    stored = reference := by
  cases reference with
  | none => exact (Except.ok.inj hstored).symm
  | some t =>
    have hlength : t.length ≤ 128 := by
      cases hmethod : s.method with
      | transfer =>
        simp only [normalizeTransferReference, hmethod, bind_eq_ok, refuseIf_eq_ok, exists_const,
          pure_eq_ok] at h
        obtain ⟨-, hlong, heq⟩ := h
        rw [heq, Option.getD_some] at hlong
        omega
      | cash => simp [normalizeTransferReference, hmethod] at h
      | credit => simp [normalizeTransferReference, hmethod] at h
    rw [storeTransactionId, varchar_of_le hlength] at hstored
    exact (Except.ok.inj hstored).symm

theorem varchar_key (s : DeclarationSubmission) :
    varchar 64 s.idempotencyKey = some s.idempotencyKey := by
  have hvalid := s.key_valid
  simp only [isDeclarationKey, Bool.and_eq_true, decide_eq_true_eq] at hvalid
  exact varchar_of_le hvalid.1.1.2

/-- The second submission looks before the first is committed, and inserts after it. -/
structure LosesRace (db₀ db₁ : Db) (first second : DeclarationSubmission) : Prop where
  retailerId : second.retailerId = first.retailerId
  key : second.idempotencyKey = first.idempotencyKey
  created : ∃ record, submitDeclaration db₀ first.newId first.orderId first.retailerId
    first.wholesalerId first.declaredAmount first.method first.transferReference
    first.idempotencyKey = .ok (db₁, record, false)
  refused : ∃ order reference, second.prepare db₀ = .ok (.absent order reference) ∧
    second.insert db₁ order reference =
      .error (.uniqueViolation .uxPaymentDeclarationsRetailerIdem)

/-- The second submission asks for what the first one did: the same order, the amount that was
stored, the same method, and for a transfer the same reference up to blanks around it. -/
structure Repeats (first second : DeclarationSubmission) : Prop where
  order : Uuid.parse second.orderId = Uuid.parse first.orderId
  amount : ∀ m, storeMoney first.declaredAmount = .ok m → m.toDecimal = second.declaredAmount
  method : second.method = first.method
  reference : second.method = .transfer →
    second.transferReference.map strip = first.transferReference.map strip

/-- The order id is not in its canonical spelling, or a cash declaration names a reference. -/
def Respelt (s : DeclarationSubmission) : Prop :=
  (∀ id, Uuid.parse s.orderId = some id → s.orderId ≠ id.text) ∨
    s.method = .cash ∧ orNone (s.transferReference.map strip) ≠ none

theorem created_absent {db₀ db₁ : Db} (h : submitDeclaration db₀ s.newId s.orderId s.retailerId
    s.wholesalerId s.declaredAmount s.method s.transferReference s.idempotencyKey =
      .ok (db₁, record, false)) :
    ∃ order reference, s.prepare db₀ = .ok (.absent order reference) ∧
      s.insert db₀ order reference = .ok (db₁, record) := by
  rw [submitDeclaration_eq, bind_eq_ok] at h
  obtain ⟨prepared, hprepared, h⟩ := h
  cases prepared with
  | existing d => simp at h
  | absent order reference =>
    simp only [bind_eq_ok, dbError_eq_ok, pure_eq_ok, Prod.mk.injEq, Prod.exists] at h
    obtain ⟨_, _, hinsert, rfl, rfl, -⟩ := h
    exact ⟨order, reference, hprepared, hinsert⟩

/-- The row that was inserted is the only one of its key. -/
theorem getByRetailerIdempotency_insert
    (hnone : db.getByRetailerIdempotency s.retailerId s.idempotencyKey = none)
    (h : s.insert db o reference = .ok (db', record)) :
    db'.getByRetailerIdempotency s.retailerId s.idempotencyKey = some record := by
  obtain ⟨hstored, declarations, hinsert, rfl⟩ := insert_eq_ok h
  have hkey : record.idempotencyKey = s.idempotencyKey := by
    have hkey := hstored.key
    rw [varchar_key] at hkey
    exact (Option.some.inj hkey).symm
  unfold Db.getByRetailerIdempotency at hnone ⊢
  rw [List.head?_eq_none_iff] at hnone
  rw [Table.select_insert? hinsert, hnone]
  simp [hstored.retailerId, hkey]

/-! ## The two comparisons -/

theorem Seen.parse (h : s.Seen db o reference) : Uuid.parse s.orderId = some o.id := by
  have horder := h.order
  simp only [Option.filter_eq_some_iff, Option.bind_eq_some_iff] at horder
  obtain ⟨⟨id, hparse, hlive⟩, -⟩ := horder
  obtain ⟨-, hid, -⟩ := Books.liveOrder?_eq_some.mp hlive
  rw [hparse, hid]

theorem Seen.reference_transfer (h : s.Seen db o reference) (hmethod : s.method = .transfer) :
    reference = s.transferReference.map strip ∧ orNone reference = reference := by
  have href := h.reference
  simp only [normalizeTransferReference, hmethod, bind_eq_ok, refuseIf_eq_ok, exists_const,
    pure_eq_ok] at href
  obtain ⟨hsome, -, rfl⟩ := href
  refine ⟨rfl, ?_⟩
  cases hstripped : s.transferReference.map strip with
  | none => rfl
  | some t =>
    rw [hstripped] at hsome
    have hne : t ≠ "" := by
      rintro rfl
      exact hsome rfl
    rw [orNone, Option.filter_some, if_pos (by simpa using hne)]

theorem Seen.reference_cash (h : s.Seen db o reference) (hmethod : s.method ≠ .transfer) :
    reference = none := by
  have href := h.reference
  unfold normalizeTransferReference at href
  cases hcases : s.method with
  | transfer => exact absurd hcases hmethod
  | cash => simpa [hcases] using href.symm
  | credit => simpa [hcases] using href.symm

/-- The endpoint strips a reference only if there is one, which comes to the same. -/
theorem orNone_map_strip (t : Option String) :
    orNone ((orNone t).map strip) = orNone (t.map strip) := by
  cases t with
  | none => rfl
  | some x =>
    by_cases hx : x = ""
    · rw [hx]
      decide
    · rw [orNone.eq_def (some x), Option.filter_some, if_pos (by simpa using hx)]

variable {db₀ db₁ : Db} {o₁ o₂ : Order} {ref₁ ref₂ : Option String}

/-- The service compares with the normalised request. -/
theorem sameDeclarationRequest_iff (hfirst : first.Seen db₀ o₁ ref₁)
    (hstored : first.Stored o₁ ref₁ record) (hsecond : second.Seen db₀ o₂ ref₂) :
    sameDeclarationRequest record o₂.id.text second.declaredAmount second.method ref₂ = true ↔
      Repeats first second := by
  have hreference : record.transferReference = ref₁ :=
    storeTransactionId_normalized hfirst.reference hstored.reference
  unfold sameDeclarationRequest
  simp only [Bool.and_eq_true, decide_eq_true_eq, hstored.orderId, Uuid.text_inj,
    hstored.method, hreference]
  constructor
  · rintro ⟨⟨⟨horder, hamount⟩, hmethod⟩, href⟩
    refine ⟨by rw [hfirst.parse, hsecond.parse, horder], fun m hm => ?_, hmethod.symm, fun ht => ?_⟩
    · rw [hstored.amount] at hm
      rw [← Except.ok.inj hm, hamount]
    · obtain ⟨h₁, hsome₁⟩ := hfirst.reference_transfer (hmethod.trans ht)
      obtain ⟨h₂, hsome₂⟩ := hsecond.reference_transfer ht
      rw [hsome₁, hsome₂] at href
      rw [← h₁, ← h₂, href]
  · intro h
    have horder : o₁.id = o₂.id := by
      have hparse := h.order
      rw [hfirst.parse, hsecond.parse] at hparse
      exact (Option.some.inj hparse).symm
    refine ⟨⟨⟨horder, h.amount _ hstored.amount⟩, h.method.symm⟩, ?_⟩
    by_cases ht : second.method = .transfer
    · rw [(hfirst.reference_transfer (h.method.symm.trans ht)).1,
        (hsecond.reference_transfer ht).1, h.reference ht]
    · rw [hsecond.reference_cash ht, hfirst.reference_cash (by rwa [← h.method])]

/-- An order's canonical id is the request's when both name it and the request spells it so. -/
theorem text_eq_orderId_iff (hsecond : second.Seen db₀ o₂ ref₂) {id : Uuid} :
    id.text = second.orderId ↔ id.text = o₂.id.text ∧ second.orderId = o₂.id.text := by
  constructor
  · intro h
    have hparse := hsecond.parse
    rw [← h, Uuid.parse_text] at hparse
    rw [← h, Option.some.inj hparse]
    exact ⟨rfl, rfl⟩
  · rintro ⟨hid, hspelt⟩
    rw [hid, hspelt]

/-- Only a cash declaration loses its reference on the way to the service. -/
theorem reference_iff (hfirst : first.Seen db₀ o₁ ref₁) (hsecond : second.Seen db₀ o₂ ref₂)
    (hmethod : first.method = second.method) :
    orNone ref₁ = orNone (second.transferReference.map strip) ↔
      orNone ref₁ = orNone ref₂ ∧
        ¬(second.method = .cash ∧ orNone (second.transferReference.map strip) ≠ none) := by
  cases hcases : second.method with
  | transfer =>
    rw [(hsecond.reference_transfer hcases).1]
    simp
  | cash =>
    have hcash : second.method ≠ .transfer := by
      rw [hcases]
      nofun
    rw [hfirst.reference_cash (by rwa [hmethod]), hsecond.reference_cash hcash]
    simp [orNone, eq_comm]
  | credit => exact absurd hcases hsecond.method

theorem and_spelt_iff {order spelt amount method same keeps : Prop} :
    (((order ∧ spelt) ∧ amount) ∧ method) ∧ same ∧ keeps ↔
      (((order ∧ amount) ∧ method) ∧ same) ∧ spelt ∧ keeps := by
  tauto

/-- The endpoint compares with the request as it came. -/
theorem sameAsRequest_iff (hfirst : first.Seen db₀ o₁ ref₁)
    (hstored : first.Stored o₁ ref₁ record) (hsecond : second.Seen db₀ o₂ ref₂) :
    second.sameAsRequest record = true ↔ Repeats first second ∧ ¬Respelt second := by
  have hreference : record.transferReference = ref₁ :=
    storeTransactionId_normalized hfirst.reference hstored.reference
  have hspelt : (∀ id, Uuid.parse second.orderId = some id → second.orderId ≠ id.text) ↔
      second.orderId ≠ o₂.id.text := by
    rw [hsecond.parse]
    simp
  rw [← sameDeclarationRequest_iff hfirst hstored hsecond, Respelt, hspelt]
  unfold sameAsRequest sameDeclarationRequest
  simp only [Bool.and_eq_true, decide_eq_true_eq, hstored.orderId, hstored.method, hreference,
    orNone_map_strip, text_eq_orderId_iff hsecond]
  by_cases hmethod : first.method = second.method
  · rw [reference_iff hfirst hsecond hmethod, ne_eq, not_or, not_not]
    exact and_spelt_iff
  · exact iff_of_false (fun h => hmethod h.1.2) fun h => hmethod h.1.1.2

/-! ## The law -/

/-- The endpoint's answer once the row of the key is there. -/
theorem declare_race {db₀ db₁ : Db} (hprepared : second.prepare db₀ = .ok (.absent o₂ ref₂))
    (hrefused : second.insert db₁ o₂ ref₂ =
      .error (.uniqueViolation .uxPaymentDeclarationsRetailerIdem))
    (hexisting : db₁.getByRetailerIdempotency second.retailerId second.idempotencyKey =
      some record) :
    second.declare db₀ db₁ = if second.sameAsRequest record then .ok (second.respond db₁ 200 record)
      else .error (.conflict .declarationIdempotencyKeyConflict
        "Declaration idempotency key was already used with a different request") := by
  unfold declare classify
  rw [hprepared, ok_bind]
  simp only [hrefused, hexisting, ne_eq, not_true_eq_false, if_false]
  split
  · rfl
  · rfl

theorem declare_existing (hseen : second.Seen db o₂ ref₂)
    (hexisting : db.getByRetailerIdempotency second.retailerId second.idempotencyKey =
      some record) :
    second.declare db db =
      if sameDeclarationRequest record o₂.id.text second.declaredAmount second.method ref₂ then
        .ok (second.respond db 200 record)
      else .error (.conflict .declarationIdempotencyKeyConflict
        "Declaration idempotency key was already used with a different request") := by
  unfold declare
  rw [prepare_of_existing hseen hexisting]
  split
  · rfl
  · rfl

/-- The race is answered as the service answers, unless the second submission repeats the first in
another spelling. -/
theorem declare_race_iff {db₀ db₁ : Db} (h : LosesRace db₀ db₁ first second) :
    second.declare db₀ db₁ = second.declare db₁ db₁ ↔ ¬(Repeats first second ∧ Respelt second) := by
  obtain ⟨record, hcreated⟩ := h.created
  obtain ⟨o₂, ref₂, hprepared, hrefused⟩ := h.refused
  obtain ⟨o₁, ref₁, hprepared₁, hinsert⟩ := created_absent hcreated
  obtain ⟨hfirst, hnone⟩ := prepare_eq_absent.mp hprepared₁
  obtain ⟨hsecond, -⟩ := prepare_eq_absent.mp hprepared
  have hexisting := getByRetailerIdempotency_insert hnone hinsert
  rw [← h.retailerId, ← h.key] at hexisting
  obtain ⟨hstored, declarations, -, hdb⟩ := insert_eq_ok hinsert
  -- Only the declarations have changed, so the order is found again.
  have hsecond₁ : second.Seen db₁ o₂ ref₂ := by
    rw [hdb]
    exact ⟨hsecond.amount, hsecond.method, hsecond.reference, hsecond.order⟩
  have hservice := sameDeclarationRequest_iff hfirst hstored hsecond
  have hendpoint := sameAsRequest_iff hfirst hstored hsecond
  rw [declare_race hprepared hrefused hexisting, declare_existing hsecond₁ hexisting]
  by_cases hrepeats : Repeats first second
  · rw [if_pos (hservice.mpr hrepeats)]
    by_cases hrespelt : Respelt second
    · rw [if_neg fun hsame => (hendpoint.mp hsame).2 hrespelt]
      exact iff_of_false nofun fun hno => hno ⟨hrepeats, hrespelt⟩
    · rw [if_pos (hendpoint.mpr ⟨hrepeats, hrespelt⟩)]
      exact iff_of_true rfl fun hboth => hrespelt hboth.2
  · rw [if_neg (mt hservice.mp hrepeats), if_neg fun hsame => hrepeats (hendpoint.mp hsame).1]
    exact iff_of_true rfl fun hboth => hrepeats hboth.1

/-! ## Two races -/

/-- The tables after a submission. -/
def committed (s : DeclarationSubmission) (db : Db) : Db :=
  match submitDeclaration db s.newId s.orderId s.retailerId s.wholesalerId s.declaredAmount s.method
    s.transferReference s.idempotencyKey with
  | .ok (db', _, _) => db'
  | .error _ => db

/-- Whether a submission stores a declaration of its own. -/
def creates (s : DeclarationSubmission) (db : Db) : Bool :=
  match submitDeclaration db s.newId s.orderId s.retailerId s.wholesalerId s.declaredAmount s.method
    s.transferReference s.idempotencyKey with
  | .ok (_, _, replayed) => !replayed
  | .error _ => false

/-- How the insert that a submission prepared for fails. -/
def insertFailure (s : DeclarationSubmission) (db db' : Db) : Option DatabaseError :=
  match s.prepare db with
  | .ok (.absent order reference) =>
    match s.insert db' order reference with
    | .ok _ => none
    | .error e => some e
  | _ => none

theorem losesRace_of {db : Db} (hretailer : second.retailerId = first.retailerId)
    (hkey : second.idempotencyKey = first.idempotencyKey) (hcreates : first.creates db = true)
    (hfailure : second.insertFailure db (first.committed db) =
      some (.uniqueViolation .uxPaymentDeclarationsRetailerIdem)) :
    LosesRace db (first.committed db) first second where
  retailerId := hretailer
  key := hkey
  created := by
    unfold creates at hcreates
    unfold committed
    split at hcreates
    · next db' record replayed hok =>
      rw [Bool.not_eq_true'] at hcreates
      exact ⟨record, by simp only [hok, hcreates]⟩
    · cases hcreates
  refused := by
    generalize first.committed db = db' at hfailure ⊢
    unfold insertFailure at hfailure
    split at hfailure
    · next order reference hprepared =>
      split at hfailure
      · cases hfailure
      · next e hinsert =>
        exact ⟨order, reference, hprepared, by rw [hinsert, Option.some.inj hfailure]⟩
    · cases hfailure

/-- An order of 10.00 that nothing is declared for. -/
def openOrder : Db := run execute (sampleTenant 10000) [.createOrder 50 2 [sampleItem 100 2]]

/-- 4.00 in cash for it. -/
def sampleDeclaration (newId : Uuid) (orderId : String) : DeclarationSubmission where
  newId
  orderId
  retailerId := 2
  wholesalerId := 1
  declaredAmount := scaled 2 400
  method := .cash
  transferReference := none
  idempotencyKey := "decl-0001"
  key_valid := by decide

/-- The order id as it is printed: both ways are a replay. -/
theorem declare_race_iff_printed :
    (sampleDeclaration 301 (Uuid.text 50)).declare openOrder
        ((sampleDeclaration 300 (Uuid.text 50)).committed openOrder) =
      (sampleDeclaration 301 (Uuid.text 50)).declare
        ((sampleDeclaration 300 (Uuid.text 50)).committed openOrder)
        ((sampleDeclaration 300 (Uuid.text 50)).committed openOrder) := by
  have hrace : LosesRace openOrder ((sampleDeclaration 300 (Uuid.text 50)).committed openOrder)
      (sampleDeclaration 300 (Uuid.text 50)) (sampleDeclaration 301 (Uuid.text 50)) :=
    losesRace_of rfl rfl (by decide +kernel) (by decide +kernel)
  refine (declare_race_iff hrace).mpr ?_
  rintro ⟨-, hspelt | ⟨-, hreference⟩⟩
  · exact hspelt 50 (Uuid.parse_text 50) rfl
  · exact hreference rfl

/-- The order id without hyphens: the service answers with a replay, the race with a conflict. -/
theorem declare_race_broken_hex :
    LosesRace openOrder ((sampleDeclaration 300 (Uuid.text 50)).committed openOrder)
        (sampleDeclaration 300 (Uuid.text 50)) (sampleDeclaration 301 (Uuid.hex 50)) ∧
      (sampleDeclaration 301 (Uuid.hex 50)).declare openOrder
          ((sampleDeclaration 300 (Uuid.text 50)).committed openOrder) ≠
        (sampleDeclaration 301 (Uuid.hex 50)).declare
          ((sampleDeclaration 300 (Uuid.text 50)).committed openOrder)
          ((sampleDeclaration 300 (Uuid.text 50)).committed openOrder) := by
  refine ⟨losesRace_of rfl rfl (by decide +kernel) (by decide +kernel), fun h => ?_⟩
  have hstatus := congrArg (fun answer => answer.toOption.map Prod.fst) h
  revert hstatus
  decide +kernel

end DeclarationSubmission

end Mpango
