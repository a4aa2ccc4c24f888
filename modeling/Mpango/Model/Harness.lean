import Mpango.Library.Pattern
import Mpango.Library.Subsequence
import Mpango.Library.Text
import Mathlib.Data.Prod.Lex
import Mathlib.Data.List.Sort

/-!
# The harness governance validator

The gate compares the governance documents of a head with those of a baseline. Inventory nodes may
not disappear, change their names, their order or their status, and governed paths may not change,
unless a protocol delta, a record or a waiver says so. Each check emits violations; a comparison is
accepted when it emits none.

A document holds the fields the checks read; the others of a record are kept together (`fields`).
A missing id is the empty text, which the checks treat the same way.
-/

namespace Mpango

namespace Harness

/-! ## Documents -/

inductive NodeStatus
  | pass
  | fail
  | blocked
  | notRun
  | notApplicable
  deriving DecidableEq

inductive DebtStatus
  | blocked
  | notCovered
  | closed
  deriving DecidableEq

inductive DeltaKind
  | removal
  | rename
  | reorder
  | reclassify
  | governance
  deriving DecidableEq

/-- The other fields of a record, by name. -/
abbrev Fields := List (String × String)

structure Node where
  id : String
  status : Option NodeStatus
  renamedFrom : Option String
  sourceAnchors : List String
  fields : Fields
  notes : Option String
  deriving DecidableEq

structure Interaction where
  interactionId : String
  sourceAnchors : List String
  affectedPaths : List String
  fields : Fields
  notes : Option String
  deriving DecidableEq

structure Debt where
  debtId : String
  status : Option DebtStatus
  affectedPaths : List String
  fields : Fields
  notes : Option String
  deriving DecidableEq

structure Delta where
  deltaId : String
  kind : Option DeltaKind
  affectedIds : List String
  affectedPaths : List String
  baseSha : Option String
  fields : Fields
  notes : Option String
  deriving DecidableEq

structure Waiver where
  waiverId : String
  scope : String
  openedOn : Option String
  expiresOn : Option String
  paths : List String
  deriving DecidableEq

/-- The records whose changes cover paths. -/
structure Records where
  nodes : List Node
  interactions : List Interaction
  debts : List Debt

/-- What the head is compared with. The inventory of the baseline may be missing. -/
structure Baseline where
  governancePresent : Bool
  changed : List String
  inventory : Option (List Node)
  records : Records
  deltas : List Delta
  baseSha : Option String

/-! ## Violations -/

inductive ViolationCode
  | deltaBaseMismatch
  | deltaReplay
  | driftSilentDelete
  | driftRenameUnknown
  | driftReorder
  | statusUnauthorized
  | syncProtectedPath
  | syncSemanticMissing
  | wvrInvalidDate
  | wvrExpired
  | wvrPathInvalid
  | wvrPathProtected
  deriving DecidableEq

def ViolationCode.text : ViolationCode → String
  | deltaBaseMismatch => "DELTA-BASE-MISMATCH"
  | deltaReplay => "DELTA-REPLAY"
  | driftSilentDelete => "DRIFT-SILENT-DELETE"
  | driftRenameUnknown => "DRIFT-RENAME-UNKNOWN"
  | driftReorder => "DRIFT-REORDER"
  | statusUnauthorized => "STATUS-UNAUTHORIZED"
  | syncProtectedPath => "SYNC-PROTECTED-PATH"
  | syncSemanticMissing => "SYNC-SEMANTIC-MISSING"
  | wvrInvalidDate => "WVR-INVALID-DATE"
  | wvrExpired => "WVR-EXPIRED"
  | wvrPathInvalid => "WVR-PATH-INVALID"
  | wvrPathProtected => "WVR-PATH-PROTECTED"

structure Violation where
  code : ViolationCode
  path : String
  deriving DecidableEq

def configRelpath : String := "harness-governance/governed-paths.json"
def inventoryRelpath : String := "harness-governance/inventory/inventory.json"
def debtRelpath : String := "harness-governance/inventory/coverage-debt.json"
def waiversRelpath : String := "harness-governance/inventory/waivers.json"
def deltasRelpath : String := "harness-governance/inventory/protocol-deltas.json"

/-- `PROTECTED_PATHS`. -/
def protectedPaths : List String :=
  [".github/workflows/harness-governance-gate.yml",
    ".secrets.baseline",
    "harness-governance/governed-paths.json",
    "harness-governance/validator/",
    "harness-governance/schemas/",
    "harness-governance/tests/",
    "harness-governance/inventory/execution-traps.json",
    "harness-governance/schemas/execution-traps.schema.json",
    "harness-governance/inventory/authority-profiles.json",
    "harness-governance/validator/authority_runner.py"]

/-- `NODE_EXECUTION_TRANSITIONS`. -/
def nodeExecutionTransitions : List (NodeStatus × NodeStatus) :=
  [(.notRun, .pass), (.notRun, .fail), (.notRun, .blocked), (.blocked, .pass), (.blocked, .fail)]

/-! ## Small helpers -/

/-- `moved_ids`: the ids of both orders that are not on the subsequence common to them. -/
def movedIds (baselineOrder headOrder : List String) : List String :=
  let commonBase := baselineOrder.filter (· ∈ headOrder)
  let commonHead := headOrder.filter (· ∈ baselineOrder)
  (commonHead.filter (· ∉ lcs commonBase commonHead)).dedup

/-- `path_matches`: the path is the place, or lies under it. -/
def pathMatches (path place : String) : Bool :=
  let place := String.ofList (place.toList.rdropWhile (· = '/'))
  path = place || (place ++ "/").toList.isPrefixOf path.toList

/-- The line part of an anchor: a number, or two with a dash between them. -/
def isLinePart (classes : CharClasses) (part : List Char) : Bool :=
  match part.splitOn '-' with
  | [start] => start ≠ [] ∧ start.all classes.decimal
  | [start, last] => (start ≠ [] ∧ start.all classes.decimal) ∧ last ≠ [] ∧ last.all classes.decimal
  | _ => false

/-- The path of `parse_anchor`: an anchor without its line part. -/
def anchorPath (classes : CharClasses) (anchor : String) : String :=
  let cs := anchor.toList
  let linePart := cs.rtakeWhile (· ≠ ':')
  let path := (cs.rdropWhile (· ≠ ':')).dropLast
  if ':' ∈ cs ∧ path ≠ [] ∧ isLinePart classes linePart then String.ofList path else anchor

/-- `semantic_view`: a record without its notes. -/
def Node.semanticView (n : Node) : Node := { n with notes := none }
def Interaction.semanticView (i : Interaction) : Interaction := { i with notes := none }
def Debt.semanticView (d : Debt) : Debt := { d with notes := none }
def Delta.semanticView (d : Delta) : Delta := { d with notes := none }

/-! ## Dates -/

structure Date where
  year : ℕ
  month : ℕ
  day : ℕ
  deriving DecidableEq

namespace Date

/-- Dates in the order of the calendar. -/
def position (d : Date) : ℕ ×ₗ ℕ ×ₗ ℕ := toLex (d.year, toLex (d.month, d.day))

def daysInMonth (year month : ℕ) : ℕ :=
  match month with
  | 2 => if year % 4 = 0 ∧ (year % 100 ≠ 0 ∨ year % 400 = 0) then 29 else 28
  | 4 | 6 | 9 | 11 => 30
  | _ => 31

def digit? (c : Char) : Option ℕ := if c.isDigit then some (c.toNat - 48) else none

def number? (cs : List Char) : Option ℕ :=
  cs.foldlM (fun n c => (digit? c).map (10 * n + ·)) 0

/-- `parse_date`. -/
def parse (value : String) : Option Date :=
  match value.toList with
  | [y₁, y₂, y₃, y₄, '-', m₁, m₂, '-', d₁, d₂] => do
    let year ← number? [y₁, y₂, y₃, y₄]
    let month ← number? [m₁, m₂]
    let day ← number? [d₁, d₂]
    if 1 ≤ year ∧ 1 ≤ month ∧ month ≤ 12 ∧ 1 ≤ day ∧ day ≤ daysInMonth year month then
      some ⟨year, month, day⟩
    else none
  | _ => none

end Date

/-! ## Delta eligibility -/

/-- What becomes of a request for authorization. -/
inductive Authorization
  | authorized
  | unusable (code : ViolationCode)
  | missing
  deriving DecidableEq

/-- The delta of a baseline with an id, without its notes: the last one of it. -/
def baseById (baseDeltas : List Delta) (deltaId : String) : Option Delta :=
  (baseDeltas.filter fun d => d.deltaId ≠ "" ∧ d.deltaId = deltaId).getLast?.map Delta.semanticView

structure DeltaAuthorizer where
  baseSha : Option String
  new : List Delta
  historical : List Delta
  baseMismatch : List Delta

/-- Whether a delta is in the baseline as it is in the head. -/
def Delta.isHistorical (baseDeltas : List Delta) (d : Delta) : Bool :=
  baseById baseDeltas d.deltaId = some d.semanticView

namespace DeltaAuthorizer

/-- `DeltaAuthorizer(head_deltas, base_deltas, base_sha)`. -/
def make (headDeltas baseDeltas : List Delta) (baseSha : Option String) : DeltaAuthorizer :=
  let identified := headDeltas.filter (·.deltaId ≠ "")
  let new := identified.filter fun d => !d.isHistorical baseDeltas
  { baseSha
    new
    historical := identified.filter (·.isHistorical baseDeltas)
    baseMismatch := new.filter (·.baseSha ≠ baseSha) }

/-- `_matches`. -/
def isMatch (d : Delta) (kind : DeltaKind) (ids : Option (List String)) (path : Option String) :
    Bool :=
  d.kind = some kind ∧ (∀ is ∈ ids, ∀ i ∈ is, i ∈ d.affectedIds) ∧
    ∀ p ∈ path, d.affectedPaths.any (pathMatches p)

/-- `authorize`. -/
def authorize (a : DeltaAuthorizer) (kind : DeltaKind) (ids : Option (List String))
    (path : Option String) : Authorization :=
  if (a.new.filter (· ∉ a.baseMismatch)).any (isMatch · kind ids path) then .authorized
  else if a.baseMismatch.any (isMatch · kind ids path) then .unusable .deltaBaseMismatch
  else if a.historical.any (isMatch · kind ids path) then .unusable .deltaReplay
  else .missing

/-- `covered_paths`. -/
def coveredPaths (a : DeltaAuthorizer) (kinds : Option (List DeltaKind)) : List String :=
  ((a.new.filter (· ∉ a.baseMismatch)).filter fun d =>
    decide (∀ ks ∈ kinds, ∃ k ∈ d.kind, k ∈ ks)).flatMap (·.affectedPaths)

end DeltaAuthorizer

/-! ## Drift -/

section Drift
variable (a : DeltaAuthorizer)

/-- A change that needs an eligible delta, and is a violation of its own without one. -/
def demand (kind : DeltaKind) (id : String) (violation : Violation) : List Violation :=
  match a.authorize kind (some [id]) none with
  | .authorized => []
  | .unusable code => [⟨code, deltasRelpath⟩, violation]
  | .missing => [violation]

/-- The name a node had, if it says so. -/
def Node.previous (n : Node) : Option String := n.renamedFrom.filter (· ≠ "")

/-- `_check_drift`. -/
def checkDrift (baseline : Baseline) (nodes : List Node) : List Violation :=
  match baseline.governancePresent, baseline.inventory with
  | true, some baselineNodes =>
    let baselineIds := baselineNodes.map (·.id)
    let headIds := nodes.map (·.id)
    let renamedAway := nodes.filterMap (·.previous)
    let deletes := baselineIds.flatMap fun id =>
      if id ∈ headIds ∨ id ∈ renamedAway then []
      else demand a .removal id ⟨.driftSilentDelete, inventoryRelpath⟩
    let renames := nodes.flatMap fun node =>
      match node.previous with
      | none => []
      | some previous =>
        if previous ∉ baselineIds then [⟨.driftRenameUnknown, inventoryRelpath⟩]
        else match a.authorize .rename (some [previous, node.id]) none with
          | .unusable code => [⟨code, deltasRelpath⟩]
          | _ => []
    let reorders := ((movedIds baselineIds headIds).mergeSort (· ≤ ·)).flatMap fun id =>
      demand a .reorder id ⟨.driftReorder, inventoryRelpath⟩
    deletes ++ renames ++ reorders
  | _, _ => []

/-- The status a dictionary of the baseline has for an id: that of the last node with it. -/
def baseStatus (baseNodes : List Node) (id : String) : Option NodeStatus :=
  (baseNodes.filter (·.id = id)).getLast?.bind (·.status)

def baseDebtStatus (baseDebts : List Debt) (debtId : String) : Option DebtStatus :=
  (baseDebts.filter (·.debtId = debtId)).getLast?.bind (·.status)

/-- Whether two statuses are those of an execution. -/
def executes (was : NodeStatus) (status : Option NodeStatus) : Bool :=
  status.any fun s => (was, s) ∈ nodeExecutionTransitions

/-- `_check_status_transitions`. -/
def checkStatusTransitions (baseline : Baseline) (nodes : List Node) (debts : List Debt) :
    List Violation :=
  if baseline.governancePresent then
    (nodes.zipIdx.flatMap fun (node, idx) =>
      match baseStatus (baseline.inventory.getD []) node.id with
      | none => []
      | some was =>
        if some was = node.status ∨ executes was node.status then []
        else demand a .reclassify node.id
          ⟨.statusUnauthorized, inventoryRelpath ++ "#/nodes/" ++ toString idx ++ "/status"⟩) ++
    debts.zipIdx.flatMap fun (debt, idx) =>
      match baseDebtStatus baseline.records.debts debt.debtId with
      | none => []
      | some was =>
        if some was = debt.status ∨ debt.status = some .closed ∨ was ≠ .closed then []
        else demand a .reclassify debt.debtId
          ⟨.statusUnauthorized, debtRelpath ++ "#/debts/" ++ toString idx ++ "/status"⟩
  else []

end Drift

/-! ## Semantic sync -/

section Sync
variable (classes : CharClasses)

inductive RecordKind
  | node
  | interaction
  | debt
  deriving DecidableEq

/-- What a record covers: the files of its anchors, and the places it affects. -/
structure Coverage where
  anchors : List String
  affected : List String

/-- The semantic content of a record. -/
inductive Content
  | node (n : Node)
  | interaction (i : Interaction)
  | debt (d : Debt)
  deriving DecidableEq

/-- The files of anchors that are not blank. -/
def anchorFiles (sourceAnchors : List String) : List String :=
  (sourceAnchors.filter fun a => strip a ≠ "").map fun a => anchorPath classes (strip a)

def affectedPlaces (affectedPaths : List String) : List String :=
  affectedPaths.filter fun p => strip p ≠ ""

/-- An entry of a dictionary of records. -/
abbrev Entry (β : Type) := (RecordKind × String) × β

/-- `_head_records`, entry by entry: a later one replaces an earlier one. -/
def headRecords (records : Records) : List (Entry Coverage) :=
  ((records.nodes.filter (·.id ≠ "")).map fun n =>
    ((.node, n.id), ⟨anchorFiles classes n.sourceAnchors, []⟩)) ++
  ((records.interactions.filter (·.interactionId ≠ "")).map fun i =>
    ((.interaction, i.interactionId),
      ⟨anchorFiles classes i.sourceAnchors, affectedPlaces i.affectedPaths⟩)) ++
  ((records.debts.filter (·.debtId ≠ "")).map fun d =>
    ((.debt, d.debtId), ⟨[], affectedPlaces d.affectedPaths⟩))

/-- `_raw_records`. -/
def rawRecords (records : Records) : List (Entry Content) :=
  ((records.nodes.filter (·.id ≠ "")).map fun n => ((.node, n.id), .node n.semanticView)) ++
  ((records.interactions.filter (·.interactionId ≠ "")).map fun i =>
    ((.interaction, i.interactionId), .interaction i.semanticView)) ++
  ((records.debts.filter (·.debtId ≠ "")).map fun d => ((.debt, d.debtId), .debt d.semanticView))

/-- A look into a dictionary that was filled entry by entry. -/
def lookup? {β : Type} (entries : List (Entry β)) (key : RecordKind × String) : Option β :=
  (entries.filter (·.1 = key)).getLast?.map (·.2)

/-- The keys of the records that are new, or differ from those of the baseline. -/
def changedKeys (head base : Records) : List (RecordKind × String) :=
  ((rawRecords head).map (·.1)).filter fun key =>
    lookup? (rawRecords base) key ≠ lookup? (rawRecords head) key

/-- `covered_by_records`. -/
def coveredByRecords (head base : Records) (path : String) : Bool :=
  (changedKeys head base).any fun key =>
    (lookup? (headRecords classes head) key).any fun c =>
      path ∈ c.anchors ∨ c.affected.any (pathMatches path)

/-- `covered_by_delta`. -/
def coveredByDelta (a : DeltaAuthorizer) (path : String) : Bool :=
  (a.coveredPaths none).any (pathMatches path)

/-- A waiver that a comparison may use on a day. -/
def Waiver.isActive (today : Date) (w : Waiver) : Bool :=
  w.scope = "inventory-sync" ∧
    (w.expiresOn.bind Date.parse).any fun expires => today.position ≤ expires.position

/-- `covered_by_waivers`. -/
def coveredByWaivers (waivers : List Waiver) (today : Date) (path : String) : Bool :=
  (waivers.filter (·.isActive today)).any fun w => w.paths.any (pathMatches path)

def isProtected (path : String) : Bool := protectedPaths.any (pathMatches path)

/-- The changed paths that are governed. -/
def governedChanged (governedPrefixes changed : List String) : List String :=
  (changed.filter fun path => (governedPrefixes ++ protectedPaths).any (pathMatches path)).mergeSort
    (· ≤ ·)

/-- `_check_semantic_sync`, less its warnings. -/
def checkSemanticSync (baseline : Baseline) (head : Records) (governedPrefixes : List String)
    (waivers : List Waiver) (today : Date) (a : DeltaAuthorizer) : List Violation :=
  if baseline.governancePresent then
    let governed := governedChanged governedPrefixes baseline.changed
    let records := coveredByRecords classes head baseline.records
    let protectedUncovered := governed.filter fun path =>
      isProtected path ∧ ¬(coveredByDelta a path ∨ records path)
    let semanticUncovered := governed.filter fun path =>
      ¬isProtected path ∧
        ¬(records path ∨ coveredByDelta a path ∨ coveredByWaivers waivers today path)
    (protectedUncovered.map fun path => ⟨.syncProtectedPath, path⟩) ++
      if semanticUncovered = [] then [] else [⟨.syncSemanticMissing, configRelpath⟩]
  else []

end Sync

/-! ## Waivers -/

/-- `WILDCARD_RE`. -/
def hasWildcard (path : String) : Bool := path.toList.any (· ∈ ['*', '?', '['])

/-- What is wrong with a path of a waiver. -/
def checkWaiverPath (place path : String) : List Violation :=
  if strip path = "" then [⟨.wvrPathInvalid, place⟩]
  else
    (if strip path ∈ ["", ".", "/", ".."] then [⟨.wvrPathInvalid, place⟩] else []) ++
    (if hasWildcard path then [⟨.wvrPathInvalid, place⟩] else []) ++
    if protectedPaths.any fun p => pathMatches path p ∨ pathMatches p path then
      [⟨.wvrPathProtected, place⟩] else []

/-- What is wrong with the dates of a waiver. -/
def checkWaiverDates (pointer : String) (today : Date) (w : Waiver) : List Violation :=
  match w.openedOn.bind Date.parse, w.expiresOn.bind Date.parse with
  | some opened, some expires =>
    if expires.position < opened.position then [⟨.wvrInvalidDate, pointer⟩]
    else if expires.position < today.position then [⟨.wvrExpired, pointer⟩]
    else []
  | _, _ => [⟨.wvrInvalidDate, pointer⟩]

/-- `_check_waivers`. -/
def checkWaivers (waivers : List Waiver) (today : Date) : List Violation :=
  waivers.zipIdx.flatMap fun (w, idx) =>
    let pointer := waiversRelpath ++ "#[" ++ toString idx ++ "]"
    checkWaiverDates pointer today w ++ w.paths.zipIdx.flatMap fun (path, pidx) =>
      checkWaiverPath (pointer ++ "/paths/" ++ toString pidx) path

example : anchorPath CharClasses.ascii "backend/api/app.py:75-92" = "backend/api/app.py" := by
  decide +kernel
example : pathMatches "frontend/src/App.tsx" "frontend/src/" = true := by decide +kernel
example : Date.parse "2024-02-30" = none := by decide +kernel

end Harness

end Mpango
