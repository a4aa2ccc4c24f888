import Mpango.Library.Text

/-!
# The claims of a token

`core/security.py`: an identity token names a user only; a contextual token also names the tenant
the user has selected and its schema.
-/

namespace Mpango.Tenancy

/-- What a decoded JWT says (`TokenPayload`). -/
structure TokenPayload where
  userId : String
  tenantId : Option String := none
  tenantSchema : Option String := none
  roles : List String := []
  exp : Option ℤ := none
  type : String := "access"
  /-- The tenants a login verified, each with the user's identifier there. -/
  tmap : List (String × String) := []
deriving DecidableEq

namespace TokenPayload

def isIdentityOnly (token : TokenPayload) : Bool :=
  token.tenantId.isNone || token.tenantSchema.isNone

def isSuperAdmin (token : TokenPayload) : Bool :=
  "super_admin" ∈ token.roles

end TokenPayload

/-- `SAFE_IDENTIFIER_RE`: a letter or an underscore, then at most 62 letters, digits and
underscores. The `$` of the pattern also matches before a final line feed. -/
def isSafeIdentifier (value : String) : Bool :=
  let cs := value.toList
  match if cs.getLast? = some '\n' then cs.dropLast else cs with
  | [] => false
  | c :: cs => (c.isAlpha || c = '_') && cs.length ≤ 62 && cs.all fun c => c.isAlphanum || c = '_'

end Mpango.Tenancy
