import Mathlib.Data.List.Sort
import Mpango.Library.Json
import Mpango.Library.UtcTime
import Mpango.Model.Tokens

/-!
# The SKU list and its cache

`api/v1/skus.py`, `repositories/sku_repository.py` and the decorator of `core/cache.py`. The list
of a tenant is read through Redis: a key is built from the tenant's schema and the parameters, and
what was stored under it in the last 60 seconds is given instead of a query. PostgreSQL's `ILIKE`
and the parsing of a field by pydantic are parameters.
-/

namespace Mpango.Skus

open Tenancy (isSafeIdentifier)

/-! ## Rows -/

/-- A row of `skus`; `package_quantity` is `NUMERIC(12, 3)`, in thousandths. -/
structure Sku where
  id : Uuid
  catalogProductId : Uuid
  skuCode : String
  name : String
  description : Option String := none
  unit : String := "unit"
  packageQuantity : ℕ := 1000
  category : Option String := none
  isActive : Bool := true
  isDeleted : Bool := false
  createdAt : UtcTime
  updatedAt : UtcTime
deriving DecidableEq

/-- `str` of a quantity: the column keeps three places. -/
def quantityText (thousandths : ℕ) : String :=
  String.ofList (Nat.toDigits 10 (thousandths / 1000) ++
    '.' :: decimalDigits 3 (thousandths % 1000))

/-- The operator `ILIKE` of PostgreSQL: does a text match a pattern, in either case? -/
abbrev Ilike := (text pattern : String) → Bool

/-! ## A request -/

/-- The parameters of `GET /skus`, in the session of a tenant. -/
structure Request where
  /-- `session.info["tenant_schema"]`, which `create_tenant_session` has validated. -/
  tenantSchema : String
  safe : isSafeIdentifier tenantSchema = true := by decide
  page : ℕ := 1
  page_ge : 1 ≤ page := by decide
  size : ℕ := 10
  size_ge : 1 ≤ size := by decide
  size_le : size ≤ 100 := by decide
  isActive : Option Bool := none
  q : Option String := none
deriving DecidableEq

/-- The rows of a page and the number of rows on all pages. A NUL in the pattern and an offset
that is no `bigint` are refused by the database. -/
def listPaginated (ilike : Ilike) (rows : List Sku) (page size : ℕ) (isActive : Option Bool)
    (q : Option String) : Option (List Sku × ℕ) :=
  let stmt := rows.filter fun sku => !sku.isDeleted
  let stmt := match isActive with
    | some active => stmt.filter fun (sku : Sku) => sku.isActive = active
    | none => stmt
  let like := "%" ++ strip (q.getD "") ++ "%"
  let stmt := if q.getD "" ≠ "" then
      stmt.filter fun sku => ilike sku.skuCode like || ilike sku.name like
    else stmt
  if q.getD "" ≠ "" ∧ '\x00' ∈ like.toList then none
  else if page = 0 ∨ 2 ^ 63 ≤ (page - 1) * size then none
  else
    let ordered := stmt.insertionSort fun (a b : Sku) => b.createdAt.position ≤ a.createdAt.position
    some ((ordered.drop ((page - 1) * size)).take size, stmt.length)

/-! ## What is stored -/

def textOrNull : Option String → Json
  | some s => .str s
  | none => .null

/-- An item of the result of `_list_skus_cached`. -/
def skuItem (sku : Sku) : Json :=
  .object [("id", .str sku.id.text), ("catalog_product_id", .str sku.catalogProductId.text),
    ("sku_code", .str sku.skuCode), ("name", .str sku.name),
    ("description", textOrNull sku.description), ("unit", .str sku.unit),
    ("package_quantity", .str (quantityText sku.packageQuantity)),
    ("category", textOrNull sku.category), ("is_active", .bool sku.isActive),
    ("created_at", .str sku.createdAt.isoformat), ("updated_at", .str sku.updatedAt.isoformat)]

def listingJson (items : List Sku) (total : ℕ) : Json :=
  .object [("items", .array (items.map skuItem)), ("total", .int total)]

/-- The body of `_list_skus_cached`, without the decorator. -/
def listSkus (ilike : Ilike) (rows : List Sku) (r : Request) : Option Json :=
  (listPaginated ilike rows r.page r.size r.isActive r.q).map fun p => listingJson p.1 p.2

/-- The lifetime of an entry, in microseconds. -/
def ttl : ℕ := 60 * 1000000

/-- `str` of a flag that may be missing. -/
def flagText : Option Bool → String
  | none => "None"
  | some true => "True"
  | some false => "False"

/-- `_skus_list_cache_key`: nothing for a session without a usable schema. -/
def skusListCacheKey (tenantSchema : Option String) (page size : ℕ) (isActive : Option Bool)
    (q : Option String) : Option String :=
  match tenantSchema with
  | none => none
  | some schema =>
    if isSafeIdentifier schema then
      some (schema ++ ":" ++ toString page ++ ":" ++ toString size ++ ":" ++ flagText isActive ++
        ":" ++ q.getD "None")
    else none

/-- The key under which the decorator stores a request. -/
def Request.cacheKey (r : Request) : Option String :=
  (skusListCacheKey (some r.tenantSchema) r.page r.size r.isActive r.q).map fun suffix =>
    "skus_list" ++ ":" ++ suffix

/-! ## What is answered -/

structure SkuRead where
  id : String
  catalogProductId : Option String
  skuCode : String
  name : String
  description : Option String
  unit : String
  packageQuantity : ℕ
  category : Option String
  isActive : Bool
  createdAt : UtcTime
  updatedAt : UtcTime
deriving DecidableEq

structure Pagination where
  page : ℕ
  size : ℕ
  total : ℕ
  pages : ℕ
deriving DecidableEq

structure Listing where
  items : List SkuRead
  pagination : Pagination
deriving DecidableEq

/-- How pydantic reads the texts of a quantity and of a moment; it reads the ones that `str` and
`isoformat` spell. -/
structure Pydantic where
  quantity : String → Option ℕ
  datetime : String → Option UtcTime
  quantity_text : ∀ n, quantity (quantityText n) = some n
  datetime_isoformat : ∀ t : UtcTime, datetime t.isoformat = some t

/-- `_sku_to_read`. -/
def skuToRead (sku : Sku) : SkuRead where
  id := sku.id.text
  catalogProductId := some sku.catalogProductId.text
  skuCode := sku.skuCode
  name := sku.name
  description := sku.description
  unit := sku.unit
  packageQuantity := sku.packageQuantity
  category := sku.category
  isActive := sku.isActive
  createdAt := sku.createdAt
  updatedAt := sku.updatedAt

def jsonText : Json → Option String
  | .str s => some s
  | _ => none

def jsonOptionalText : Json → Option (Option String)
  | .str s => some (some s)
  | .null => some none
  | _ => none

/-- `SKURead(...)` of an item that may come from the cache. -/
def readItem (pydantic : Pydantic) : Json → Option SkuRead
  | .object item => do
    let id ← jsonText (← Dict.get item "id")
    let catalogProductId ← jsonOptionalText (← Dict.get item "catalog_product_id")
    let skuCode ← jsonText (← Dict.get item "sku_code")
    let name ← jsonText (← Dict.get item "name")
    let description ← jsonOptionalText (← Dict.get item "description")
    let unit ← jsonText (← Dict.get item "unit")
    let packageQuantity ← pydantic.quantity (← jsonText (← Dict.get item "package_quantity"))
    let category ← jsonOptionalText (← Dict.get item "category")
    let isActive ← match ← Dict.get item "is_active" with
      | .bool b => some b
      | _ => none
    let createdAt ← pydantic.datetime (← jsonText (← Dict.get item "created_at"))
    let updatedAt ← pydantic.datetime (← jsonText (← Dict.get item "updated_at"))
    some { id, catalogProductId, skuCode, name, description, unit, packageQuantity, category,
           isActive, createdAt, updatedAt }
  | _ => none

/-- `ceil(total / size) if total > 0 else 0`. -/
def pageCount (total size : ℕ) : ℕ := if 0 < total then (total + size - 1) / size else 0

def pagination (r : Request) (total : ℕ) : Pagination :=
  ⟨r.page, r.size, total, pageCount total r.size⟩

/-- The rest of the endpoint: what it makes of the result of the decorated function. -/
def respond (pydantic : Pydantic) (r : Request) : Json → Option Listing
  | .object result => do
    let .int total ← Dict.get result "total" | none
    let .array items ← Dict.get result "items" | none
    let items ← items.mapM (readItem pydantic)
    some ⟨items, pagination r total.toNat⟩
  | _ => none

/-- The answer the query gives, with no cache between. -/
def answerUncached (ilike : Ilike) (rows : List Sku) (r : Request) : Option Listing :=
  (listPaginated ilike rows r.page r.size r.isActive r.q).map fun p =>
    ⟨p.1.map skuToRead, pagination r p.2⟩

/-! ## The cache -/

/-- A text Redis holds until a moment, and whose request it answered first. -/
structure Entry where
  text : List Char
  expires : ℕ
  request : Request

/-- How `setex` ends: the value is stored, or the call fails, and then Redis may have stored it
or not. -/
inductive SetOutcome where
  | acknowledged
  | failedStored
  | failed
deriving DecidableEq

/-- A request that was answered, with the catalogue of its tenant then. -/
structure Answered where
  request : Request
  rows : List Sku
  given : Option Listing

structure World where
  now : ℕ := 0
  /-- The rows of each schema. -/
  catalogue : String → List Sku
  cache : Dict String Entry := []
  answers : List Answered := []

namespace World

/-- What `GET` finds: an entry that has not expired. -/
def entry (w : World) (key : String) : Option Entry :=
  (Dict.get w.cache key).filter fun e => w.now < e.expires

end World

/-- What the decorator finds in Redis before it calls the function. A failed read and a text that
is no JSON are passed over. -/
def cachedResult (w : World) (key : String) (getFails : Bool) : Option Json :=
  if getFails then none else (w.entry key).bind fun e => Json.load e.text

/-- The decorated function: its result, and the cache after it. -/
def listSkusCached (ilike : Ilike) (w : World) (r : Request) (getFails : Bool) (set : SetOutcome) :
    Option Json × Dict String Entry :=
  match r.cacheKey with
  | none => (none, w.cache)
  | some key =>
    match cachedResult w key getFails with
    | some result => (some result, w.cache)
    | none =>
      match listSkus ilike (w.catalogue r.tenantSchema) r with
      | none => (none, w.cache)
      | some result =>
        if set = .failed then (some result, w.cache)
        else (some result,
          Dict.set w.cache key ⟨Json.dump .default result, w.now + ttl, r⟩)

inductive Event where
  /-- A request, and what Redis does in it. -/
  | request (r : Request) (getFails : Bool) (set : SetOutcome)
  | wait (duration : ℕ)
  /-- Redis loses an entry before its time. -/
  | evict (key : String)
  | change (schema : String) (rows : List Sku)

def World.step (ilike : Ilike) (pydantic : Pydantic) (w : World) : Event → World
  | .request r getFails set =>
    let p := listSkusCached ilike w r getFails set
    { w with
      cache := p.2
      answers := ⟨r, w.catalogue r.tenantSchema, p.1.bind (respond pydantic r)⟩ :: w.answers }
  | .wait duration => { w with now := w.now + duration }
  | .evict key => { w with cache := w.cache.filter fun p => p.1 ≠ key }
  | .change schema rows =>
    { w with catalogue := fun s => if s = schema then rows else w.catalogue s }

end Mpango.Skus
