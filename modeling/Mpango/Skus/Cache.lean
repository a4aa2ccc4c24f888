import Mpango.Library.Run
import Mpango.Library.Numbering
import Mpango.Model.SkuListing

/-!
# The cache of the SKU list

What is stored is read back, so a request that finds an entry of its own is answered as the query
would answer it. The key tells the requests apart, except that an absent search text is spelt as
the search text `None` (`cacheKey_eq_iff`). Where no two requests of a run meet in that way, the
cache is not seen.
-/

namespace Mpango.Skus

open Numbering (not_mem_toString toString_inj)
open Tenancy (isSafeIdentifier)

/-! ## The result is read back -/

section Reading

variable (pydantic : Pydantic)

theorem plain_textOrNull (s : Option String) : Json.Plain (textOrNull s) := by
  cases s <;> simp [textOrNull, Json.Plain]

theorem plain_skuItem (sku : Sku) : Json.Plain (skuItem sku) := by
  unfold skuItem
  rw [Json.Plain]
  exact ⟨by simp, by simp [Json.PlainFields, Json.Plain, plain_textOrNull]⟩

theorem plainItems_map (items : List Sku) : Json.PlainItems (items.map skuItem) := by
  induction items with
  | nil => trivial
  | cons sku items ih => exact ⟨plain_skuItem sku, ih⟩

theorem plain_listingJson (items : List Sku) (total : ℕ) : Json.Plain (listingJson items total) := by
  unfold listingJson
  rw [Json.Plain]
  exact ⟨by simp, by simp [Json.PlainFields, Json.Plain, plainItems_map]⟩

/-- `json.loads` gives back what `json.dumps` made of a listing. -/
theorem load_dump_listingJson (items : List Sku) (total : ℕ) :
    Json.load (Json.dump .default (listingJson items total)) = some (listingJson items total) :=
  Json.load_dump Json.Separators.default_valid (plain_listingJson items total)

@[simp] theorem jsonOptionalText_textOrNull (s : Option String) :
    jsonOptionalText (textOrNull s) = some s := by
  cases s <;> rfl

theorem readItem_skuItem (sku : Sku) : readItem pydantic (skuItem sku) = some (skuToRead sku) := by
  have htext : jsonOptionalText (.str sku.catalogProductId.text) =
      some (some sku.catalogProductId.text) := rfl
  simp [readItem, skuItem, skuToRead, Dict.get_cons, jsonText, htext, pydantic.quantity_text,
    pydantic.datetime_isoformat]

theorem mapM_readItem (items : List Sku) :
    (items.map skuItem).mapM (readItem pydantic) = some (items.map skuToRead) := by
  induction items with
  | nil => rfl
  | cons sku items ih =>
    rw [List.map_cons, List.mapM_cons, readItem_skuItem, ih]
    rfl

theorem respond_listingJson (r : Request) (items : List Sku) (total : ℕ) :
    respond pydantic r (listingJson items total) =
      some ⟨items.map skuToRead, pagination r total⟩ := by
  have hread := mapM_readItem pydantic items
  simp only [respond, listingJson, Dict.get_cons, Option.bind_eq_bind]
  simp [hread]

/-- What the endpoint makes of the undecorated function is the answer of the query. -/
theorem bind_respond_listSkus (ilike : Ilike) (rows : List Sku) (r : Request) :
    (listSkus ilike rows r).bind (respond pydantic r) = answerUncached ilike rows r := by
  unfold listSkus answerUncached
  cases listPaginated ilike rows r.page r.size r.isActive r.q with
  | none => rfl
  | some p => exact respond_listingJson pydantic r p.1 p.2

end Reading

/-! ## Keys -/

/-- One request has no search text, and the other, alike in all else, searches for `None`. -/
def Confusable (r r' : Request) : Prop :=
  r.tenantSchema = r'.tenantSchema ∧ r.page = r'.page ∧ r.size = r'.size ∧
    r.isActive = r'.isActive ∧ (r.q = none ∧ r'.q = some "None" ∨ r.q = some "None" ∧ r'.q = none)

instance (r r' : Request) : Decidable (Confusable r r') := by
  unfold Confusable
  infer_instance

theorem not_mem_of_isSafeIdentifier {schema : String} (h : isSafeIdentifier schema = true) :
    ':' ∉ schema.toList := by
  intro hmem
  have hrest : ':' ∈ (if schema.toList.getLast? = some '\n' then schema.toList.dropLast
      else schema.toList) := by
    split
    · next hlast =>
      have hne : schema.toList ≠ [] := by
        rintro hnil
        rw [hnil] at hlast
        cases hlast
      have hgetLast := List.dropLast_append_getLast hne
      rw [← hgetLast, List.mem_append, List.mem_singleton] at hmem
      rcases hmem with hmem | hcolon
      · exact hmem
      · rw [List.getLast?_eq_some_getLast hne, ← hcolon] at hlast
        exact absurd hlast (by decide)
    · exact hmem
  unfold isSafeIdentifier at h
  dsimp only at h
  split at h
  · cases h
  · next c cs hcs =>
    simp only [hcs, List.mem_cons] at hrest
    simp only [Bool.and_eq_true, Bool.or_eq_true, decide_eq_true_eq, List.all_eq_true] at h
    rcases hrest with rfl | hrest
    · exact absurd h.1.1 (by decide)
    · exact absurd (h.2 ':' hrest) (by decide)

theorem flagText_inj {a b : Option Bool} : (flagText a).toList = (flagText b).toList ↔ a = b := by
  refine ⟨fun h => ?_, fun h => by rw [h]⟩
  have htext := String.toList_inj.mp h
  revert htext
  revert a b
  decide

theorem not_mem_flagText (a : Option Bool) : ':' ∉ (flagText a).toList := by
  revert a
  decide

theorem getD_None_eq_iff {q q' : Option String} : q.getD "None" = q'.getD "None" ↔
    q = q' ∨ (q = none ∧ q' = some "None" ∨ q = some "None" ∧ q' = none) := by
  cases q <;> cases q' <;> simp [eq_comm]

namespace Request

theorem cacheKey_eq (r : Request) : r.cacheKey = some ("skus_list" ++ ":" ++ (r.tenantSchema ++
    ":" ++ toString r.page ++ ":" ++ toString r.size ++ ":" ++ flagText r.isActive ++ ":" ++
    r.q.getD "None")) := by
  unfold cacheKey skusListCacheKey
  dsimp only
  rw [if_pos r.safe]
  rfl

@[ext] theorem ext' {r r' : Request} (hschema : r.tenantSchema = r'.tenantSchema)
    (hpage : r.page = r'.page) (hsize : r.size = r'.size) (hactive : r.isActive = r'.isActive)
    (hq : r.q = r'.q) : r = r' := by
  cases r
  cases r'
  simp_all

/-- The key tells a request from every other that it cannot be confused with. -/
theorem cacheKey_eq_iff {r r' : Request} :
    r.cacheKey = r'.cacheKey ↔ r = r' ∨ Confusable r r' := by
  rw [cacheKey_eq, cacheKey_eq, Option.some.injEq, ← String.toList_inj]
  simp only [String.toList_append, List.append_assoc, List.append_cancel_left_eq]
  rw [show ":".toList = [':'] from rfl]
  simp only [List.singleton_append]
  rw [append_sep_inj (not_mem_of_isSafeIdentifier r.safe) (not_mem_of_isSafeIdentifier r'.safe),
    append_sep_inj (not_mem_toString rfl _) (not_mem_toString rfl _),
    append_sep_inj (not_mem_toString rfl _) (not_mem_toString rfl _),
    append_sep_inj (not_mem_flagText _) (not_mem_flagText _), toString_inj, toString_inj,
    flagText_inj, String.toList_inj, String.toList_inj, getD_None_eq_iff]
  unfold Confusable
  constructor
  · rintro ⟨hschema, hpage, hsize, hactive, hq | hq⟩
    · exact .inl (ext' hschema hpage hsize hactive hq)
    · exact .inr ⟨hschema, hpage, hsize, hactive, hq⟩
  · rintro (rfl | ⟨hschema, hpage, hsize, hactive, hq⟩)
    · exact ⟨rfl, rfl, rfl, rfl, .inl rfl⟩
    · exact ⟨hschema, hpage, hsize, hactive, .inr hq⟩

end Request

/-- A request that searches for anything else is confused with none. -/
theorem not_confusable_of_search {r r' : Request} (hsome : r'.q ≠ none)
    (hNone : r'.q ≠ some "None") : ¬Confusable r r' := by
  rintro ⟨-, -, -, -, ⟨-, h⟩ | ⟨-, h⟩⟩
  · exact hNone h
  · exact hsome h

theorem Confusable.ne {r r' : Request} (h : Confusable r r') : r ≠ r' := by
  rintro rfl
  rcases h.2.2.2.2 with ⟨h₁, h₂⟩ | ⟨h₁, h₂⟩ <;> rw [h₁] at h₂ <;> cases h₂

/-! ## Runs -/

/-- The catalogue of a tenant changes only when Redis holds no list of that tenant any more. -/
def Steady (w : World) : Event → Prop
  | .change schema _ => ∀ key e, w.entry key = some e → e.request.tenantSchema ≠ schema
  | _ => True

/-- No request finds what a request that it can be confused with has stored. -/
def Unconfused (w : World) : Event → Prop
  | .request r getFails _ => getFails = false →
    ∀ key e, r.cacheKey = some key → w.entry key = some e → ¬Confusable e.request r
  | _ => True

/-- What a request finds was stored for the same request of the same tenant. -/
def FindsOwn (w : World) : Event → Prop
  | .request r getFails _ => getFails = false →
    ∀ key e, r.cacheKey = some key → w.entry key = some e → e.request = r
  | _ => True

def World.start (catalogue : String → List Sku) : World := { catalogue := catalogue }

section Runs

variable {ilike : Ilike} {pydantic : Pydantic} {w : World}

/-- An entry is the listing that the query gives now for the request that stored it, under the key
of that request; every answer so far is the one the query gave. -/
structure Sound (ilike : Ilike) (w : World) : Prop where
  stored : ∀ key e, w.entry key = some e → e.request.cacheKey = some key ∧ ∃ items total,
    listSkus ilike (w.catalogue e.request.tenantSchema) e.request =
      some (listingJson items total) ∧ e.text = Json.dump .default (listingJson items total)
  answered : ∀ a ∈ w.answers, a.given = answerUncached ilike a.rows a.request

theorem sound_start (catalogue : String → List Sku) : Sound ilike (World.start catalogue) :=
  ⟨fun _ _ h => by simp [World.entry, World.start] at h, fun _ h => absurd h List.not_mem_nil⟩

/-- A request that is not confused finds its own entry. -/
theorem Sound.findsOwn (hw : Sound ilike w) {event : Event} (h : Unconfused w event) :
    FindsOwn w event := by
  cases event with
  | request r getFails set =>
    intro hget key e hkey he
    have hkeys := (hw.stored key e he).1.trans hkey.symm
    exact (Request.cacheKey_eq_iff.mp hkeys).resolve_right (h hget key e hkey he)
  | wait duration => trivial
  | evict key => trivial
  | change schema rows => trivial

namespace Sound

theorem cachedResult_eq (hw : Sound ilike w) {r : Request} {getFails : Bool} {set : SetOutcome}
    (hown : FindsOwn w (.request r getFails set)) {key : String} (hkey : r.cacheKey = some key)
    {result : Json} (h : cachedResult w key getFails = some result) :
    listSkus ilike (w.catalogue r.tenantSchema) r = some result := by
  unfold cachedResult at h
  split at h
  · cases h
  · next hget =>
    obtain ⟨e, he, hload⟩ := Option.bind_eq_some_iff.mp h
    obtain ⟨-, items, total, hlist, htext⟩ := hw.stored key e he
    rw [hown (Bool.eq_false_iff.mpr hget) key e hkey he] at hlist
    rw [htext, load_dump_listingJson] at hload
    rw [hlist, hload]

/-- The decorated function gives what the undecorated one does, whatever Redis does. -/
theorem listSkusCached_fst (hw : Sound ilike w) {r : Request} {getFails : Bool} {set : SetOutcome}
    (hown : FindsOwn w (.request r getFails set)) :
    (listSkusCached ilike w r getFails set).1 = listSkus ilike (w.catalogue r.tenantSchema) r := by
  unfold listSkusCached
  have hsome := r.cacheKey_eq
  split
  · next hnone =>
    rw [hsome] at hnone
    cases hnone
  · next key hkey =>
    split
    · next result hhit => exact (hw.cachedResult_eq hown hkey hhit).symm
    · split
      · next hlist => exact hlist.symm
      · next result hlist =>
        rw [hlist]
        split <;> rfl

/-- The cache after a request is the one before it, or has its listing stored too. -/
theorem listSkusCached_snd (r : Request) (getFails : Bool) (set : SetOutcome) :
    (listSkusCached ilike w r getFails set).2 = w.cache ∨
      ∃ key result, r.cacheKey = some key ∧
        listSkus ilike (w.catalogue r.tenantSchema) r = some result ∧
        (listSkusCached ilike w r getFails set).2 =
          Dict.set w.cache key ⟨Json.dump .default result, w.now + ttl, r⟩ := by
  unfold listSkusCached
  split
  · exact .inl rfl
  · next key hkey =>
    split
    · exact .inl rfl
    · split
      · exact .inl rfl
      · next result hlist =>
        split
        · exact .inl rfl
        · exact .inr ⟨key, result, hkey, hlist, rfl⟩

theorem request (hw : Sound ilike w) {r : Request} {getFails : Bool} {set : SetOutcome}
    (hown : FindsOwn w (.request r getFails set)) :
    Sound ilike (w.step ilike pydantic (.request r getFails set)) := by
  constructor
  · intro key e he
    change ((Dict.get (listSkusCached ilike w r getFails set).2 key).filter _) = some e at he
    obtain hcache | ⟨key', result, hkey, hlist, hcache⟩ := listSkusCached_snd r getFails set
    · rw [hcache] at he
      exact hw.stored key e he
    · rw [hcache, Dict.get_set] at he
      split at he
      · next hsame =>
        obtain ⟨⟨items, total⟩, -, hjson⟩ := Option.map_eq_some_iff.mp hlist
        obtain rfl := Option.some.inj (Option.filter_eq_some_iff.mp he).1
        exact ⟨hsame ▸ hkey, items, total, hjson ▸ hlist, hjson ▸ rfl⟩
      · exact hw.stored key e he
  · intro a ha
    rcases List.mem_cons.mp ha with rfl | ha
    · show (listSkusCached ilike w r getFails set).1.bind (respond pydantic r) = _
      rw [hw.listSkusCached_fst hown, bind_respond_listSkus]
    · exact hw.answered a ha

theorem step (hw : Sound ilike w) {event : Event} (hsteady : Steady w event)
    (hunconfused : Unconfused w event) : Sound ilike (w.step ilike pydantic event) := by
  cases event with
  | request r getFails set => exact hw.request (hw.findsOwn hunconfused)
  | wait duration =>
    refine ⟨fun key e he => hw.stored key e ?_, hw.answered⟩
    -- an entry that is alive later is alive now
    obtain ⟨hget, hlive⟩ := Option.filter_eq_some_iff.mp he
    refine Option.filter_eq_some_iff.mpr ⟨hget, ?_⟩
    rw [decide_eq_true_eq] at hlive ⊢
    exact Nat.lt_of_le_of_lt (Nat.le_add_right _ _) hlive
  | evict gone =>
    refine ⟨fun key e he => hw.stored key e ?_, hw.answered⟩
    obtain ⟨hget, hlive⟩ := Option.filter_eq_some_iff.mp he
    change Dict.get (w.cache.filter fun p => p.1 ≠ gone) key = some e at hget
    rw [Dict.get_filter_ne] at hget
    split at hget
    · cases hget
    · exact Option.filter_eq_some_iff.mpr ⟨hget, hlive⟩
  | change schema rows =>
    refine ⟨fun key e he => ?_, hw.answered⟩
    change w.entry key = some e at he
    obtain ⟨hkey, hlisting⟩ := hw.stored key e he
    refine ⟨hkey, ?_⟩
    show ∃ items total, listSkus ilike (if e.request.tenantSchema = schema then rows else
      w.catalogue e.request.tenantSchema) e.request = _ ∧ _
    rw [if_neg (hsteady key e he)]
    exact hlisting

end Sound

/-- Along a run that confuses no requests, every request finds only what it stored itself. -/
theorem sound_foldl {events : List Event} (hw : Sound ilike w)
    (hsteady : Along (World.step ilike pydantic) Steady w events)
    (hunconfused : Along (World.step ilike pydantic) Unconfused w events) :
    Along (World.step ilike pydantic) FindsOwn w events ∧
      Sound ilike (events.foldl (World.step ilike pydantic) w) := by
  induction events generalizing w with
  | nil => exact ⟨trivial, hw⟩
  | cons event events ih =>
    obtain ⟨hown, hsound⟩ := ih (hw.step hsteady.1 hunconfused.1) hsteady.2 hunconfused.2
    exact ⟨⟨hw.findsOwn hunconfused.1, hown⟩, hsound⟩

end Runs

/-- Two requests share a key only if they are the same request, unless they are confusable. In a
run in which no request finds what one confusable with it stored, the cache is not seen: every
answer is the one the query gives. -/
theorem cache_transparent (ilike : Ilike) (pydantic : Pydantic) (catalogue : String → List Sku)
    (events : List Event)
    (hsteady : Along (World.step ilike pydantic) Steady (World.start catalogue) events)
    (hunconfused : Along (World.step ilike pydantic) Unconfused (World.start catalogue) events) :
    (∀ r r' : Request, (r.cacheKey = r'.cacheKey → r = r') ↔ ¬Confusable r r') ∧
      Along (World.step ilike pydantic) FindsOwn (World.start catalogue) events ∧
      ∀ a ∈ (events.foldl (World.step ilike pydantic) (World.start catalogue)).answers,
        a.given = answerUncached ilike a.rows a.request := by
  obtain ⟨hown, hsound⟩ := sound_foldl (sound_start catalogue) hsteady hunconfused
  refine ⟨fun r r' => ?_, hown, hsound.answered⟩
  rw [Request.cacheKey_eq_iff]
  refine ⟨fun h hconfusable => hconfusable.ne (h (.inr hconfusable)), fun h hor => ?_⟩
  exact hor.resolve_right h

/-! ## A search for `None` -/

/-- Read what `quantityText` spells. -/
def readQuantity (s : String) : Option ℕ := do
  let cs ← expect '.' (s.toList.dropWhile Char.isDigit)
  let (thousandths, _) ← readDigits 3 cs
  some (Nat.ofDigitChars 10 (s.toList.takeWhile Char.isDigit) 0 * 1000 + thousandths)

theorem readQuantity_quantityText (n : ℕ) : readQuantity (quantityText n) = some n := by
  have hdigit : ∀ c ∈ Nat.toDigits 10 (n / 1000), c.isDigit = true := fun c hc =>
    Nat.isDigit_of_mem_toDigits (by decide) (by decide) hc
  have hlast := readDigits_decimalDigits (w := 3) (n := n % 1000) (Nat.mod_lt n (by decide)) []
  rw [List.append_nil] at hlast
  unfold readQuantity quantityText
  rw [String.toList_ofList, List.dropWhile_append_of_pos hdigit,
    List.takeWhile_append_of_pos hdigit]
  have hdot : ('.').isDigit = false := rfl
  simp only [List.dropWhile_cons, List.takeWhile_cons, hdot, Bool.false_eq_true, if_false,
    expect_cons, Option.bind_eq_bind, Option.bind_some, hlast, List.append_nil,
    Nat.ofDigitChars_ten_toDigits]
  rw [Nat.mul_comm, Nat.div_add_mod]

/-- A reader of exactly the spellings that occur. -/
def spellings : Pydantic where
  quantity := readQuantity
  datetime := UtcTime.ofIsoformat
  quantity_text := readQuantity_quantityText
  datetime_isoformat := UtcTime.ofIsoformat_isoformat

/-- A catalogue with one row, which no search for `None` finds. -/
def sugar : Sku where
  id := 1
  catalogProductId := 2
  skuCode := "SUG-1"
  name := "Sugar 1kg"
  createdAt := { year := 2026, month := 3, day := 1, hour := 8, minute := 0, second := 0,
                 microsecond := 0 }
  updatedAt := { year := 2026, month := 3, day := 1, hour := 8, minute := 0, second := 0,
                 microsecond := 0 }

/-- PostgreSQL on the texts of that row, for the searches below. -/
def ilikeSugar : Ilike := fun _ pattern => pattern = "%sug%"

/-- A search is made twice within its lifetime, by another tenant while Redis fails, and once more
when the entry has expired. -/
theorem cache_transparent_sugar :
    let search (schema : String) (safe : isSafeIdentifier schema = true) : Request :=
      { tenantSchema := schema, safe := safe, q := some "sug" }
    let events : List Event := [.request (search "tenant_a" (by decide)) false .acknowledged,
      .wait 30000000, .request (search "tenant_a" (by decide)) false .acknowledged,
      .request (search "tenant_b" (by decide)) true .failedStored, .wait 61000000,
      .request (search "tenant_a" (by decide)) false .failed]
    ∀ a ∈ (events.foldl (World.step ilikeSugar spellings) (World.start fun _ => [sugar])).answers,
      a.given = answerUncached ilikeSugar a.rows a.request := by
  intro search events
  have hsearch : ∀ (schema : String) (safe : isSafeIdentifier schema = true) (r : Request),
      ¬Confusable r (search schema safe) := fun schema safe r =>
    not_confusable_of_search nofun (by simp [search])
  exact (cache_transparent ilikeSugar spellings (fun _ => [sugar]) events
    ⟨trivial, trivial, trivial, trivial, trivial, trivial, trivial⟩
    ⟨fun _ _ e _ _ => hsearch _ _ e.request, trivial, fun _ _ e _ _ => hsearch _ _ e.request,
      nofun, trivial, fun _ _ e _ _ => hsearch _ _ e.request, trivial⟩).2.2

/-- The list with no search text is given again for a search for `None`. -/
theorem cache_confuses_none : ¬∀ (ilike : Ilike) (pydantic : Pydantic)
    (catalogue : String → List Sku) (events : List Event),
    Along (World.step ilike pydantic) Steady (World.start catalogue) events →
      (∀ r r' : Request, r.cacheKey = r'.cacheKey → r = r') ∧
      ∀ a ∈ (events.foldl (World.step ilike pydantic) (World.start catalogue)).answers,
        a.given = answerUncached ilike a.rows a.request := by
  intro h
  have hanswers := (h ilikeSugar spellings (fun _ => [sugar])
    [.request { tenantSchema := "tenant_a" } false .acknowledged,
      .request { tenantSchema := "tenant_a", q := some "None" } false .acknowledged]
    ⟨trivial, trivial, trivial⟩).2
  exact absurd hanswers (by decide +kernel)

end Mpango.Skus
