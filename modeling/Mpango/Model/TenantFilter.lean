import Mpango.Library.Joins
import Mpango.Library.Text

/-!
# The global tenant filter

`db/tenant_filter.py`: before an ORM statement is executed, conditions on the tenant are added to
it, or it is refused. A statement is a tree of joined sources, with what is selected, changed or
deleted, and with inner queries that read further classes; its clauses, conditions and results are
any functions of these. `all_mappers` has the classes of the entities in the result rows of a
`SELECT`, or the target of an `UPDATE` or `DELETE`. `Select.where` puts the class of a condition
into the `FROM` list if it is not there yet.

A UUID column is read and compared as its text.
-/

namespace Mpango.TenantFilter

open Joins

/-! ## Rows and statements -/

/-- A mapped class, with the tenant columns it has. -/
structure ModelClass where
  name : String
  hasTenantId : Bool := false
  hasWholesalerId : Bool := false
deriving DecidableEq

structure Row where
  tenantId : Option String := none
  wholesalerId : Option Uuid := none
  cells : List (Option String) := []
deriving DecidableEq

abbrev Database := ModelClass → List Row

/-- What the inner queries of a statement see. -/
def Database.only (db : Database) (inner : List ModelClass) : Database := fun cls =>
  if cls ∈ inner then db cls else []

/-- A class, plain or under an alias, or an inner query. -/
inductive Source where
  | entity (cls : ModelClass) (aliasName : Option String)
  | subquery (name : String)
deriving DecidableEq

inductive Verb where
  | select (entities : List Source)
  | update (cls : ModelClass) (aliasName : Option String)
  | delete (cls : ModelClass) (aliasName : Option String)
deriving DecidableEq

def Verb.entities : Verb → List Source
  | .select entities => entities
  | .update cls aliasName => [.entity cls aliasName]
  | .delete cls aliasName => [.entity cls aliasName]

/-- Which classes a statement reaches, and how. -/
structure Shape where
  verb : Verb
  tree : JoinTree Source
  /-- The classes that inner queries read. -/
  inner : List ModelClass := []
  distinct : tree.sources.Nodup := by decide
  placed : ∀ s ∈ verb.entities, s ∈ tree.sources := by decide

/-- A statement of a shape. -/
structure Statement (ρ : Type) where
  subquery : String → Database → List Row := fun _ _ => []
  on : ℕ → Database → Env Source Row → Bool := fun _ _ _ => true
  condition : Database → Env Source Row → Bool := fun _ _ => true
  /-- What an `UPDATE` makes of a row. -/
  assign : Database → Env Source Row → Row → Row := fun _ _ row => row
  result : Database → List (Env Source Row) → ρ

/-! ## The session -/

/-- `session.info`, the context variables, and the execution option of the statement. -/
structure Scope where
  infoTenantId : Option String := none
  infoTenantSchema : Option String := none
  infoSystemScopeReason : Option String := none
  currentTenantId : Option String := none
  currentTenantSchema : Option String := none
  systemScopeReason : Option String := none
  ignoreTenant : Bool := false
deriving DecidableEq

/-- `first or second` -/
def firstOr (first second : Option String) : Option String :=
  if first.any (· ≠ "") then first else second

/-- A text that is there and not empty. -/
def truthy (value : Option String) : Option String := value.filter (· ≠ "")

namespace Scope

variable (scope : Scope)

/-- `_get_effective_tenant_id`, as far as it is a tenant id. -/
def tenantId : Option String := truthy (firstOr scope.infoTenantId scope.currentTenantId)

/-- `_get_effective_tenant_schema` -/
def tenantSchema : Option String :=
  truthy (firstOr scope.infoTenantSchema scope.currentTenantSchema)

/-- `_is_system_scope_bypass` -/
def isSystemScopeBypass : Bool :=
  scope.ignoreTenant || (firstOr scope.infoSystemScopeReason scope.systemScopeReason).isSome

end Scope

/-! ## The filter -/

/-- `_mapper_requires_tenant_id_filter` -/
def ModelClass.scoped (cls : ModelClass) : Bool := cls.hasTenantId || cls.hasWholesalerId

def Source.cls? : Source → Option ModelClass
  | .entity cls _ => some cls
  | .subquery _ => none

namespace Shape

variable (shape : Shape)

/-- `all_mappers` -/
def allMappers : List ModelClass := (shape.verb.entities.filterMap Source.cls?).dedup

/-- `_require_tenant_context`: the text of a `TenantContextMissingError`. -/
def requireTenantContext (scope : Scope) : Except String Unit :=
  if scope.tenantSchema = none then .error "Tenant context required"
  else if shape.allMappers.any ModelClass.scoped then
    match scope.tenantId with
    | none => .error "Tenant context missing: tenant_id required for tenant-scoped query"
    | some tenantId =>
      if shape.allMappers.any ModelClass.hasWholesalerId ∧ Uuid.parse tenantId = none then
        .error "Tenant context invalid: tenant_id must be a UUID for wholesaler-scoped query"
      else .ok ()
  else .ok ()

end Shape

/-- A `FROM` list with conditions. -/
structure Query where
  tree : JoinTree Source
  criteria : Env Source Row → Bool := fun _ => true

/-- `Select.where` with a condition on a column of a class. -/
def Query.whereColumn (q : Query) (cls : ModelClass) (p : Row → Bool) : Query where
  tree := if .entity cls none ∈ q.tree.sources then q.tree
    else .join .inner none q.tree (.source (.entity cls none))
  criteria env := q.criteria env && (env (.entity cls none)).any p

/-- The condition on the tenant column of a class. -/
def criterion (tenantId : String) (cls : ModelClass) : Option (Row → Bool) :=
  if cls.hasTenantId then some fun row => row.tenantId = some tenantId
  else if cls.hasWholesalerId then
    (Uuid.parse tenantId).map fun tenantUuid row => row.wholesalerId = some tenantUuid
  else none

/-- `_maybe_apply_tenant_id_criteria` -/
def applyTenantIdCriteria (scope : Scope) (shape : Shape) : Query :=
  match scope.tenantId with
  | none => { tree := shape.tree }
  | some tenantId =>
    shape.allMappers.foldl (fun q cls =>
      match criterion tenantId cls with
      | some p => q.whereColumn cls p
      | none => q) { tree := shape.tree }

/-- `_do_orm_execute` -/
def doOrmExecute (scope : Scope) (shape : Shape) : Except String Query :=
  if scope.isSystemScopeBypass then .ok { tree := shape.tree }
  else do
    shape.requireTenantContext scope
    return applyTenantIdCriteria scope shape

/-! ## Execution -/

section Execution
variable {ρ : Type} (shape : Shape) (stmt : Statement ρ) (q : Query) (db : Database)

def sourceRows : Source → List Row
  | .entity cls _ => db cls
  | .subquery name => stmt.subquery name (db.only shape.inner)

/-- The environments that meet all conditions. -/
def selected : List (Env Source Row) :=
  (q.tree.envs (sourceRows shape stmt db) fun clause => stmt.on clause (db.only shape.inner)).filter
    fun env => stmt.condition (db.only shape.inner) env && q.criteria env

/-- What becomes of a row of a class; nothing, if it is deleted. -/
def after (cls : ModelClass) (row : Row) : Option Row :=
  let hit (target : Source) := (selected shape stmt q db).find? fun env => env target = some row
  match shape.verb with
  | .select _ => some row
  | .update target aliasName =>
    match hit (.entity target aliasName) with
    | some env => if cls = target then some (stmt.assign (db.only shape.inner) env row) else some row
    | none => some row
  | .delete target aliasName =>
    if cls = target ∧ (hit (.entity target aliasName)).isSome then none else some row

end Execution

/-- What a statement does: it is refused, or it returns something and leaves the rows changed. -/
inductive Outcome (ρ : Type) where
  | refused (detail : String)
  | ran (returned : ρ) (after : ModelClass → Row → Option Row)

def Outcome.returned : Outcome ρ → Except String ρ
  | .refused detail => .error detail
  | .ran returned _ => .ok returned

def Outcome.after : Outcome ρ → ModelClass → Row → Option Row
  | .refused _ => fun _ row => some row
  | .ran _ after => after

/-- A statement goes through the filter to the database. -/
def execute (scope : Scope) (shape : Shape) (stmt : Statement ρ) (db : Database) : Outcome ρ :=
  match doOrmExecute scope shape with
  | .error detail => .refused detail
  | .ok q => .ran (stmt.result (db.only shape.inner) (selected shape stmt q db))
      (after shape stmt q db)

/-! ## The barrier -/

/-- A row that belongs to another tenant. -/
def foreign (tenantId : String) (cls : ModelClass) (row : Row) : Bool :=
  if cls.hasTenantId then row.tenantId.any fun t => t ≠ tenantId
  else if cls.hasWholesalerId then row.wholesalerId.any fun w => Uuid.parse tenantId ≠ some w
  else false

/-- Two databases that differ in rows of other tenants only. -/
def SameFor (tenantId : String) (db db' : Database) : Prop :=
  ∀ cls, (db cls).filter (fun row => !foreign tenantId cls row) =
    (db' cls).filter fun row => !foreign tenantId cls row

/-- A tenant id that can be compared with the tenant column of a class. -/
def Scope.ValidFor (scope : Scope) (cls : ModelClass) : Prop :=
  ∃ tenantId, scope.tenantId = some tenantId ∧
    (cls.hasWholesalerId = true → (Uuid.parse tenantId).isSome = true)

/-- The classes a statement reads or writes. -/
def Shape.involved (shape : Shape) : List ModelClass :=
  shape.tree.sources.filterMap Source.cls? ++ shape.inner

structure Barrier (scope : Scope) (shape : Shape) (stmt : Statement ρ) : Prop where
  confined : ∀ tenantId, scope.tenantId = some tenantId → ∀ db db', SameFor tenantId db db' →
    (execute scope shape stmt db).returned = (execute scope shape stmt db').returned
  harmless : ∀ tenantId, scope.tenantId = some tenantId → ∀ db cls row, row ∈ db cls →
    foreign tenantId cls row = true → (execute scope shape stmt db).after cls row = some row
  refused : (∃ cls ∈ shape.involved, cls.scoped = true ∧ ¬scope.ValidFor cls) →
    ∃ detail, ∀ db, execute scope shape stmt db = .refused detail

/-- The context lacks what the classes in the result rows need. -/
def Shape.Unmet (shape : Shape) (scope : Scope) : Prop :=
  scope.tenantSchema = none ∨ ∃ cls ∈ shape.allMappers, cls.scoped = true ∧ ¬scope.ValidFor cls

/-- Every tenant-scoped class stands in the statement itself, without an alias, and is one of the
classes in the result rows, or the target. -/
def Shape.Covered (shape : Shape) : Prop :=
  (∀ cls aliasName, .entity cls aliasName ∈ shape.tree.sources → cls.scoped = true →
    aliasName = none ∧ cls ∈ shape.allMappers) ∧
  ∀ cls ∈ shape.inner, cls.scoped = false

end Mpango.TenantFilter
