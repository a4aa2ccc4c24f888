import Mpango.Library.RegexLanguage
import Mpango.Library.SqlTokens

/-!
# The payment method constraint

Migration 032 (`032_payment_method_integrity.py`): the recogniser of a CHECK constraint that allows
the three payment methods, the plan for one tenant's payments table, and what applying the plan does
to the table. The recogniser reads the text PostgreSQL prints for a constraint.

What the order of the constraint rows decides is left out: it is the order of the names in a
refusal. The registry of tenants, and the loop over their schemas, are left out too.
-/

namespace Mpango

namespace MethodIntegrity

/-- `CONSTRAINT_NAME`. -/
def constraintName : String := "ck_payments_method_canonical"

/-- `CANONICAL_METHODS`. -/
def canonicalMethods : List String := ["cash", "transfer", "credit"]

/-! ## Catalogue rows -/

/-- An array of names, which the driver returns as a list or as PostgreSQL's text of it. -/
inductive CatalogNames
  | absent
  | text (s : String)
  | names (xs : List String)

/-- `str.strip`, of given characters. -/
def stripChars (cs : List Char) (s : List Char) : List Char :=
  (s.dropWhile (· ∈ cs)).rdropWhile (· ∈ cs)

/-- `_catalog_column_names`. -/
def catalogColumnNames : CatalogNames → List String
  | .absent => []
  | .text s =>
    (((stripChars ['{', '}'] s.toList).splitOn ',').filter (· ≠ [])).map fun part =>
      String.ofList (stripChars ['"'] ((part.dropWhile isBlank).rdropWhile isBlank))
  | .names xs => xs

/-- A constraint of the table. -/
structure ConstraintRow where
  conname : String
  contype : String
  convalidated : Bool
  constraintDef : Option String
  checkExpr : Option String
  columnNames : CatalogNames

/-- `row.get("check_expr") or row.get("constraint_def") or ""`. -/
def ConstraintRow.expression (row : ConstraintRow) : String :=
  match row.checkExpr.filter (· ≠ "") with
  | some text => text
  | none => row.constraintDef.getD ""

/-! ## Normalised texts -/

/-- The Unicode data a text is normalised and searched with. -/
structure Unicode where
  lower : Sql.Lower
  classes : CharClasses

variable (env : Unicode)

/-- `_normalize_expression`. -/
def normalizeExpression (sql : String) : List Char := Sql.joinBlank (env.lower.lower sql.toList)

/-- `_compact_sql`. -/
def compactSql (sql : String) : List Char := (Sql.splitBlank (env.lower.lower sql.toList)).flatten

/-- `text in cs`. -/
def contains (text : String) (cs : List Char) : Bool :=
  cs.tails.any fun rest => text.toList.isPrefixOf rest

/-- `_has_forbidden_boolean_or_negative_semantics`. -/
def hasForbiddenSemantics (normalized compact : List Char) : Bool :=
  let word (s : String) := Regex.all [.edge env.classes.word, .text s, .edge env.classes.word]
  (Regex.any [word "or", word "and", word "not"]).found normalized ||
    (Regex.any [word "current_user", word "current_role"]).found normalized ||
    contains "<>" normalized || contains "!=" normalized || contains "||" normalized ||
    contains "<>all" compact || contains "notin" compact || contains "isdistinctfrom" compact

/-! ## Members -/

def isTypeStart (c : Char) : Bool := c.isLower || c = '_'

def isTypeWordChar (c : Char) : Bool := c.isLower || c.isDigit || c = '_'

def isTypeChar (c : Char) : Bool := isTypeWordChar c || c = '.'

/-- `[a-z_][a-z0-9_.]*(?:\s+[a-z_][a-z0-9_]*)?`. -/
def typeName : Regex :=
  .all [.one isTypeStart, .run isTypeChar 0 none,
    .opt (.all [.run isBlank 1 none, .one isTypeStart, .run isTypeWordChar 0 none])]

/-- `(?:::…)?`. -/
def cast : Regex := .opt (.all [.text "::", typeName])

/-- `(?:::…\[\])?`. -/
def arrayCast : Regex := .opt (.all [.text "::", typeName, .text "[]"])

/-- `method_lhs`. -/
def methodLhs : Regex := .all [.opt (.text "("), .text "method", .opt (.text ")"), cast]

def spaces (least : ℕ) : Regex := .run isBlank least none

def inHead : Regex := .all [methodLhs, spaces 1, .text "in", spaces 0, .text "("]

def anyHead : Regex :=
  .all [methodLhs, spaces 0, .text "=", spaces 0, .text "any", spaces 0, .text "(", spaces 0,
    .text "array["]

def anyTail : Regex := .all [.text "]", arrayCast, spaces 0, .text ")"]

/-- `(?P<members>.*)\)`, to the end: as much as there is before the last bracket. -/
def greedyMembers (rest : List Char) : Option (List Char) :=
  if rest.getLast? = some ')' ∧ '\n' ∉ rest.dropLast then some rest.dropLast else none

/-- `(?P<members>.*?)` before the tail, to the end: as little as leaves the tail. -/
def shortestMembers : List Char → Option (List Char)
  | [] => none
  | c :: cs =>
    if anyTail.fullmatch (c :: cs) then some []
    else if c = '\n' then none
    else (shortestMembers cs).map (c :: ·)

/-- `_split_top_level_sql_members`, from a position on: the member at hand stands in `acc`, its last
character first. -/
def splitFrom : ℕ → Bool → List Char → List Char → List (List Char)
  | _, _, acc, [] => [stripBlank acc.reverse]
  | depth, inQuote, acc, c :: cs =>
    if c = '\'' then splitFrom depth (!inQuote) (c :: acc) cs
    else if inQuote then splitFrom depth inQuote (c :: acc) cs
    else if c = '(' ∨ c = '[' then splitFrom (depth + 1) inQuote (c :: acc) cs
    else if (c = ')' ∨ c = ']') ∧ 0 < depth then splitFrom (depth - 1) inQuote (c :: acc) cs
    else if c = ',' ∧ depth = 0 then stripBlank acc.reverse :: splitFrom depth inQuote [] cs
    else splitFrom depth inQuote (c :: acc) cs
where
  stripBlank (cs : List Char) : List Char := (cs.dropWhile isBlank).rdropWhile isBlank

/-- `_split_top_level_sql_members`. -/
def splitTopLevelSqlMembers (memberSql : List Char) : List (List Char) :=
  splitFrom 0 false [] memberSql

/-- The value of `'([^']+)'` with a cast, if a member is one. -/
def literalValue : List Char → Option (List Char)
  | '\'' :: rest =>
    match rest.dropWhile (· ≠ '\'') with
    | '\'' :: suffix =>
      let value := rest.takeWhile (· ≠ '\'')
      if value ≠ [] ∧ cast.fullmatch suffix then some value else none
    | _ => none
  | _ => none

/-- `_direct_string_literal_members`. -/
def directStringLiteralMembers (memberSql : List Char) : Option (List (List Char)) :=
  (splitTopLevelSqlMembers memberSql).mapM literalValue

/-- `_positive_method_members`. -/
def positiveMethodMembers (normalized : List Char) : Option (List (List Char)) :=
  match (inHead.tries (none, normalized)).findSome? fun x => greedyMembers x.2 with
  | some members => directStringLiteralMembers members
  | none =>
    match (anyHead.tries (none, normalized)).findSome? fun x => shortestMembers x.2 with
    | some members => directStringLiteralMembers members
    | none => none

/-! ## The recogniser -/

/-- Whether a list and another hold the same elements, as sets. -/
def sameSet {α : Type} [DecidableEq α] (xs ys : List α) : Bool :=
  xs.all (· ∈ ys) && ys.all (· ∈ xs)

/-- `_is_equivalent_payment_method_constraint`. -/
def isEquivalent (row : ConstraintRow) : Bool :=
  if row.contype ≠ "c" ∨ row.convalidated = false then false
  else if catalogColumnNames row.columnNames ≠ ["method"] then false
  else
    let normalized := normalizeExpression env row.expression
    if hasForbiddenSemantics env normalized (compactSql env row.expression) then false
    else
      match positiveMethodMembers normalized with
      | none => false
      | some members =>
        members.length = canonicalMethods.length ∧
          sameSet members (canonicalMethods.map String.toList)

/-- `re.findall(r"'([^']+)'", …)`: what stands after the quote at hand, if one is open. -/
def quotedValues : Option (List Char) → List Char → List (List Char)
  | _, [] => []
  | none, c :: cs => quotedValues (if c = '\'' then some [] else none) cs
  | some acc, c :: cs =>
    if c ≠ '\'' then quotedValues (some (c :: acc)) cs
    else if acc = [] then quotedValues (some []) cs
    else acc.reverse :: quotedValues none cs

/-- `_is_payment_method_constraint_candidate`. -/
def isCandidate (row : ConstraintRow) : Bool :=
  (catalogColumnNames row.columnNames).contains "method" ||
    sameSet (quotedValues none row.expression.toList) (canonicalMethods.map String.toList)

/-! ## Planning -/

/-- A payments table: the methods of its rows and its constraints, of any type. PostgreSQL has no
two constraints of one name on a table. -/
structure PaymentsTable where
  methods : List (Option String)
  constraints : List ConstraintRow
  distinct : (constraints.map (·.conname)).Nodup

inductive Action
  | none
  | rename (legacyConstraintName : String)
  | add
  deriving DecidableEq

/-- `PreflightFailure`, from `_plan_schema`. -/
inductive PreflightFailure
  | tableMissing
  | invalidRows (count : ℕ)
  | duplicateCanonical
  | canonicalIncompatible
  | duplicateEquivalent
  | incompatible (names : List String)
  | multipleEquivalent
  deriving DecidableEq

/-- `_invalid_method_count`. -/
def invalidMethodCount (table : PaymentsTable) : ℕ :=
  table.methods.countP fun method => method.all (· ∉ canonicalMethods)

/-- `_payment_method_constraint_rows`. -/
def constraintRows (table : PaymentsTable) : List ConstraintRow :=
  table.constraints.filter (·.contype = "c")

/-- `_plan_schema`. -/
def planSchema : Option PaymentsTable → Except PreflightFailure Action
  | none => .error .tableMissing
  | some table =>
    if 0 < invalidMethodCount table then .error (.invalidRows (invalidMethodCount table))
    else
      let rows := constraintRows table
      let canonicalRows := rows.filter (·.conname = constraintName)
      let equivalentRows := rows.filter (isEquivalent env)
      let incompatibleRows := rows.filter fun row => !isEquivalent env row && isCandidate row
      if 1 < canonicalRows.length then .error .duplicateCanonical
      else match canonicalRows with
        | row :: _ =>
          if isEquivalent env row = false then .error .canonicalIncompatible
          else if equivalentRows.any (·.conname ≠ constraintName) then .error .duplicateEquivalent
          else if incompatibleRows ≠ [] then
            .error (.incompatible (incompatibleRows.map (·.conname)))
          else .ok .none
        | [] =>
          if incompatibleRows ≠ [] then
            .error (.incompatible (incompatibleRows.map (·.conname)))
          else if 1 < equivalentRows.length then .error .multipleEquivalent
          else match equivalentRows with
            | row :: _ => .ok (.rename row.conname)
            | [] => .ok .add

/-! ## Applying a plan -/

/-- The types of text that compare character by character. -/
inductive TextType
  | text
  | varchar

/-- What PostgreSQL prints for `method IN ('cash', 'transfer', 'credit')`. -/
def addedExpr : TextType → String
  | .text => "method = ANY (ARRAY['cash'::text, 'transfer'::text, 'credit'::text])"
  | .varchar =>
    "method::text = ANY (ARRAY['cash'::character varying, 'transfer'::character varying, " ++
      "'credit'::character varying]::text[])"

/-- The driver: how it returns the columns of a constraint on `method`, and which names reach the
database as they stand in a text, whose colons may name parameters. -/
structure Driver where
  methodColumn : CatalogNames
  reads : catalogColumnNames methodColumn = ["method"]
  handsOver : String → Bool
  handsOver_of_no_colon : ∀ name : String, ':' ∉ name.toList → handsOver name = true

/-- The row of the constraint the migration adds. -/
def addedRow (driver : Driver) (columnType : TextType) : ConstraintRow where
  conname := constraintName
  contype := "c"
  convalidated := true
  constraintDef := some ("CHECK (" ++ addedExpr columnType ++ ")")
  checkExpr := some (addedExpr columnType)
  columnNames := driver.methodColumn

/-- What the database or the driver refuse. -/
inductive ApplyFailure
  | unboundParameter
  | undefinedObject
  | duplicateObject
  | checkViolation

namespace PaymentsTable

variable (table : PaymentsTable)

/-- The names of the table's constraints. -/
def names : List String := table.constraints.map (·.conname)

/-- A row under its new name. -/
def renamed (legacy new : String) (row : ConstraintRow) : ConstraintRow :=
  if row.conname = legacy then { row with conname := new } else row

theorem renamed_conname (legacy new : String) (row : ConstraintRow) :
    (renamed legacy new row).conname = if row.conname = legacy then new else row.conname := by
  unfold renamed
  split <;> rfl

theorem nodup_renamed {legacy new : String} (h : new ∉ table.names) :
    ((table.constraints.map (renamed legacy new)).map (·.conname)).Nodup := by
  have hnames : (table.constraints.map (renamed legacy new)).map (·.conname) =
      table.names.map fun name => if name = legacy then new else name := by
    rw [names, List.map_map, List.map_map]
    exact List.map_congr_left fun row _ => renamed_conname legacy new row
  rw [hnames]
  refine List.Nodup.map_on (fun name hname name' hname' heq => ?_) table.distinct
  split at heq
  · split at heq
    · simp_all
    · exact absurd (heq ▸ hname') h
  · split at heq
    · exact absurd (heq ▸ hname) h
    · exact heq

theorem nodup_added {row : ConstraintRow} (h : row.conname ∉ table.names) :
    ((table.constraints ++ [row]).map (·.conname)).Nodup := by
  rw [List.map_append, List.map_singleton, List.nodup_append']
  refine ⟨table.distinct, List.nodup_singleton _, ?_⟩
  exact List.disjoint_singleton.mpr h

/-- `ALTER TABLE … RENAME CONSTRAINT … TO …`. -/
def rename (legacy new : String) : Except ApplyFailure PaymentsTable :=
  if legacy ∉ table.names then .error .undefinedObject
  else if h : new ∈ table.names then .error .duplicateObject
  else .ok ⟨table.methods, table.constraints.map (renamed legacy new), table.nodup_renamed h⟩

/-- `ALTER TABLE … ADD CONSTRAINT …`, which checks the rows there are. -/
def add (row : ConstraintRow) : Except ApplyFailure PaymentsTable :=
  if h : row.conname ∈ table.names then .error .duplicateObject
  else if table.methods.any fun method => method.any (· ∉ canonicalMethods) then
    .error .checkViolation
  else .ok ⟨table.methods, table.constraints ++ [row], table.nodup_added h⟩

end PaymentsTable

/-- `_apply_plan`. -/
def applyPlan (driver : Driver) (columnType : TextType) (table : PaymentsTable) :
    Action → Except ApplyFailure PaymentsTable
  | .none => .ok table
  | .rename legacy =>
    if driver.handsOver legacy then table.rename legacy constraintName
    else .error .unboundParameter
  | .add => table.add (addedRow driver columnType)

end MethodIntegrity

end Mpango
