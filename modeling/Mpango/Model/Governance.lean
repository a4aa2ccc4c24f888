import Mathlib.Data.Finset.Sort
import Mathlib.Data.String.Basic
import Mpango.Library.Text

/-!
# Access to business intelligence assets

`core/governance`: the assets and their access lists (`models.py`), the role matrix (`roles.py`),
the static registry (`registry.py`) and the policy engine (`policy.py`).

Display names, descriptions, freshness, tags and the like are left out: no policy reads them.
-/

namespace Mpango.Governance

/-- `BIAction`. -/
inductive BIAction
  | view
  | interact
  | exportData
  | manage
  deriving DecidableEq

def BIAction.value : BIAction → String
  | view => "view"
  | interact => "interact"
  | exportData => "export"
  | manage => "manage"

/-! ## Assets -/

inductive ResourceType
  | dashboard
  | report
  | metric
  | view
  | exportTemplate
  deriving DecidableEq

def ResourceType.value : ResourceType → String
  | dashboard => "dashboard"
  | report => "report"
  | metric => "metric"
  | view => "view"
  | exportTemplate => "export_template"

inductive BIDomain
  | finance
  | sales
  | operations
  | executive
  deriving DecidableEq

def BIDomain.value : BIDomain → String
  | finance => "finance"
  | sales => "sales"
  | operations => "operations"
  | executive => "executive"

/-- `[a-z0-9]`. -/
def isLowerAlnum (c : Char) : Bool := 'a' ≤ c && c ≤ 'z' || '0' ≤ c && c ≤ '9'

/-- `^[a-z0-9][a-z0-9_-]*$`, of at most 128 characters. -/
def isIdentifier (s : String) : Bool :=
  match s.toList with
  | [] => false
  | c :: cs => isLowerAlnum c && (cs.all fun d => isLowerAlnum d || d = '_' || d = '-') &&
      cs.length < 128

structure BiUrn where
  resourceType : ResourceType
  domain : BIDomain
  identifier : String
  valid : isIdentifier identifier = true

def BiUrn.urn (u : BiUrn) : String :=
  "urn:bi" ++ ":" ++ u.resourceType.value ++ ":" ++ u.domain.value ++ ":" ++ u.identifier

def startsWith (head s : String) : Bool := head.toList.isPrefixOf s.toList

/-- `validate_acl_entries`, for one entry. -/
def isAclEntry (entry : String) : Bool :=
  (["user:", "role:", "tenant:"].any fun head => startsWith head entry) &&
    strip (partition ':' entry).2 ≠ ""

/-- `ACL_MAX_ACTIONS`. -/
def aclMaxActions : List BIAction := [.view, .interact, .exportData]

/-- `BIAsset`, with what its validators let through. -/
structure BIAsset where
  urn : BiUrn
  tenantId : Option String
  ownerId : Option String
  acl : List String
  tenantId_valid : ∀ t ∈ tenantId, strip t ≠ ""
  acl_valid : ∀ entry ∈ acl, isAclEntry entry = true

namespace BIAsset

variable (asset : BIAsset)

def urnString : String := asset.urn.urn

def isSystemWide : Bool := asset.tenantId.isNone

def hasOwner : Bool := asset.ownerId.isSome

def isShared : Bool := 0 < asset.acl.length

def isOwnedBy (userId : String) : Bool := asset.ownerId = some userId

/-- `check_acl`: some entry names the user, the whole tenant or a role of the user. -/
def checkAcl (userId : String) (roles : Finset String) : Bool :=
  asset.acl.any fun entry =>
    entry = "user:" ++ userId || entry = "tenant:*" ||
      startsWith "role:" entry && String.ofList (entry.toList.drop 5) ∈ roles

end BIAsset

/-! ## Roles -/

/-- `DEFAULT_BI_PERMISSIONS`. -/
def defaultBiPermissions : List (String × List BIAction) :=
  [("finance", [.view, .interact, .exportData]), ("sales", [.view, .interact]),
    ("warehouse", [.view]), ("viewer", [.view])]

def adminRoleName : String := "admin"

def getAllowedActions (roleName : String) : List BIAction :=
  (defaultBiPermissions.lookup roleName).getD []

/-! ## The registry -/

/-- `_asset`: an asset of the whole system. -/
def systemAsset (resourceType : ResourceType) (domain : BIDomain) (identifier : String)
    (valid : isIdentifier identifier = true) : BIAsset where
  urn := ⟨resourceType, domain, identifier, valid⟩
  tenantId := none
  ownerId := none
  acl := []
  tenantId_valid := nofun
  acl_valid := nofun

/-- `_ALL_ASSETS`. -/
def allAssets : List BIAsset :=
  [systemAsset .view .sales "mv_sales_daily" (by decide),
    systemAsset .view .finance "rpt_receivables_summary" (by decide),
    systemAsset .view .finance "rpt_cash_flow_daily" (by decide),
    systemAsset .metric .sales "revenue" (by decide),
    systemAsset .metric .sales "transaction_count" (by decide),
    systemAsset .metric .finance "outstanding_balance" (by decide),
    systemAsset .metric .finance "receivable_entry_count" (by decide),
    systemAsset .metric .finance "net_cash_change" (by decide),
    systemAsset .metric .finance "running_balance" (by decide),
    systemAsset .metric .finance "cash_transaction_count" (by decide),
    systemAsset .dashboard .executive "executive_summary" (by decide),
    systemAsset .dashboard .sales "sales_trend" (by decide),
    systemAsset .dashboard .finance "cash_flow_trend" (by decide),
    systemAsset .report .sales "adhoc_sales_analysis" (by decide),
    systemAsset .report .finance "adhoc_receivables_analysis" (by decide),
    systemAsset .report .finance "adhoc_cash_flow_analysis" (by decide),
    systemAsset .exportTemplate .sales "sales_daily_csv" (by decide),
    systemAsset .exportTemplate .sales "sales_daily_xlsx" (by decide)]

/-- `get_asset`: the static registry only. -/
def getAsset (urn : String) : Option BIAsset := allAssets.find? fun a => a.urnString = urn

/-! ## The policy engine -/

structure PolicySubject where
  userId : String
  tenantId : String
  roles : Finset String
  userId_valid : userId ≠ ""
  tenantId_valid : tenantId ≠ ""

def PolicySubject.isAdmin (subject : PolicySubject) : Bool := adminRoleName ∈ subject.roles

structure PolicyResult where
  allowed : Bool
  reason : String
  policyName : String
  subjectId : String
  assetUrn : String
  action : String

/-- What a rule decides: a result without the fields of the request. -/
structure Ruling where
  allowed : Bool
  reason : String
  policyName : String

/-- The `asset` argument. -/
inductive AssetArgument
  | asset (asset : BIAsset)
  | urn (urn : String)
  | other (typeName : String)

inductive PolicyError
  | valueError (message : String)
  | typeError (message : String)

/-- `_resolve_asset`. -/
def resolveAsset : AssetArgument → Except PolicyError BIAsset
  | .asset asset => .ok asset
  | .urn urn =>
    match getAsset urn with
    | some asset => .ok asset
    | none => .error (.valueError ("URN '" ++ urn ++ "' not found in governance registry. " ++
        "Cannot evaluate policy for unregistered assets."))
  | .other typeName =>
    .error (.typeError ("asset must be BIAsset or URN string, got " ++ typeName))

section Rules

variable (subject : PolicySubject) (action : BIAction) (asset : BIAsset)

/-- `_check_tenant_isolation`. -/
def checkTenantIsolation : Bool :=
  if asset.isSystemWide then true else asset.tenantId = some subject.tenantId

/-- `_check_owner_bypass`. -/
def checkOwnerBypass : Option Ruling :=
  if asset.isSystemWide then none
  else if !asset.hasOwner then none
  else if !asset.isOwnedBy subject.userId then none
  else if asset.tenantId ≠ some subject.tenantId then none
  else some {
    allowed := true
    reason := "Asset owner '" ++ subject.userId ++ "' granted '" ++ action.value ++
      "' on owned tenant asset"
    policyName := "owner_bypass" }

/-- `_check_acl`. -/
def checkAcl : Option Ruling :=
  if action ∉ aclMaxActions then none
  else if !asset.isShared then none
  else if !asset.checkAcl subject.userId subject.roles then none
  else some {
    allowed := true
    reason := "ACL grants '" ++ action.value ++ "' on shared asset " ++
      "(independent authorization channel, ceiling: EXPORT)"
    policyName := "acl_grant" }

/-- `_check_role_matrix`: the first of the subject's roles, in order, that grants the action. -/
def checkRoleMatrix : Option String :=
  (subject.roles.sort (· ≤ ·)).find? fun roleName => action ∈ getAllowedActions roleName

/-- The rules in the order they are asked. -/
def ruling : Ruling :=
  if checkTenantIsolation subject asset = false then {
    allowed := false
    reason := "Tenant isolation violation: subject tenant '" ++ subject.tenantId ++
      "' does not match asset tenant '" ++ asset.tenantId.getD "None" ++ "'"
    policyName := "tenant_isolation" }
  else if subject.isAdmin then {
    allowed := true
    reason := "Admin role grants unrestricted BI access within tenant scope"
    policyName := "admin_bypass" }
  else match checkOwnerBypass subject action asset with
  | some r => r
  | none =>
    match checkAcl subject action asset with
    | some r => r
    | none =>
      match checkRoleMatrix subject action with
      | some role => {
        allowed := true
        reason := "Role '" ++ role ++ "' grants '" ++ action.value ++
          "' action in the default baseline matrix"
        policyName := "role_matrix_baseline" }
      | none => {
        allowed := false
        reason := "No policy grants '" ++ action.value ++ "' action for roles [" ++
          (if subject.roles = ∅ then "(none)"
            else ", ".intercalate (subject.roles.sort (· ≤ ·))) ++ "]. Default deny applied."
        policyName := "default_deny" }

end Rules

/-- `evaluate_policy`. -/
def evaluatePolicy (subject : PolicySubject) (action : BIAction) (argument : AssetArgument) :
    Except PolicyError PolicyResult := do
  let asset ← resolveAsset argument
  let r := ruling subject action asset
  return {
    allowed := r.allowed
    reason := r.reason
    policyName := r.policyName
    subjectId := subject.userId
    assetUrn := asset.urnString
    action := action.value }

end Mpango.Governance
