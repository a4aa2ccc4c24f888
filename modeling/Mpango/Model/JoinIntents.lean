import Mpango.Library.Base64
import Mpango.Library.Double
import Mpango.Library.Json

/-!
# Join intents

`core/join_intent.py`: a signed text that binds a supplier code to a wholesaler until it expires.
Moments are microseconds of UTC since 1970. The keyed hash, the value of a literal with a fraction
and `str` of what is no text are parameters.
-/

namespace Mpango.Joining

abbrev Moment := ℤ

/-- What `datetime` can name: the years 1 to 9999. -/
def inRange (t : Moment) : Bool := -62135596800000000 ≤ t && t < 253402300800000000

structure Runtime where
  /-- HMAC-SHA256 under the domain key, of an ASCII text. -/
  hmac : String → List UInt8
  float : String → Option ℚ
  str : Json → String

/-! ## Issuing -/

/-- A call of `issue_join_intent`, with the moment it reads and the nonce it draws. -/
structure Issue where
  wholesalerId : Uuid
  wholesalerCode : String
  ttlSeconds : ℤ := 900
  issuedAt : Moment
  jti : String

namespace Issue

def expiresAt (i : Issue) : Moment := i.issuedAt + i.ttlSeconds * 1000000

/-- `int(expires_at.timestamp())`: the quotient is a double. -/
def exp (i : Issue) : ℤ := Double.truncate (Double.round (i.expiresAt / 1000000))

/-- The payload with its keys sorted. -/
def payload (i : Issue) : Json :=
  .object [("code", .str i.wholesalerCode), ("exp", .int i.exp), ("jti", .str i.jti),
    ("v", .int 1), ("ws", .str i.wholesalerId.text)]

end Issue

/-- The bytes of a text in UTF-8. -/
def utf8 (s : String) : List UInt8 := s.toByteArray.data.toList

def ofUtf8 (bytes : List UInt8) : Option String := String.fromUTF8? ⟨bytes.toArray⟩

/-- `_b64encode`. -/
def b64encode (raw : List UInt8) : String := String.ofList (Base64.unpadded raw)

/-- `_b64decode`. -/
def b64decode (text : String) : Option (List UInt8) := Base64.decode (Base64.padded text.toList)

def Issue.payloadB64 (i : Issue) : String :=
  b64encode (utf8 (String.ofList (Json.dump .compact i.payload)))

/-- The intent and its expiry, or an `OverflowError`. -/
def issueJoinIntent (runtime : Runtime) (i : Issue) : Option (String × Moment) :=
  if inRange i.expiresAt then
    some (i.payloadB64 ++ "." ++ b64encode (runtime.hmac i.payloadB64), i.expiresAt)
  else none

/-! ## Verifying -/

structure JoinIntentPayload where
  wholesalerId : Uuid
  wholesalerCode : String
  expiresAt : Moment
deriving DecidableEq

/-- `text.split(".", 1)`, where it gives two parts. -/
def splitDot (text : String) : Option (String × String) :=
  if '.' ∈ text.toList then some (partition '.' text) else none

/-- `value == 1`. -/
def isOne (runtime : Runtime) : Json → Bool
  | .int n => n = 1
  | .bool b => b
  | .float spelling => runtime.float spelling = some 1
  | _ => false

/-- `datetime.fromtimestamp(value, tz=timezone.utc)`. -/
def fromTimestamp (runtime : Runtime) (value : Json) : Option Moment :=
  let t := match value with
    | .int n => some (n * 1000000)
    | .bool b => some (if b then 1000000 else 0)
    | .float spelling => (runtime.float spelling).map fun x => Decimal.roundHalfEven (x * 1000000)
    | _ => none
  t.filter inRange

/-- `uuid.UUID(value)`. -/
def uuidOf : Json → Option Uuid
  | .str s => Uuid.parse s
  | _ => none

/-- `str(value)`. -/
def strOf (runtime : Runtime) : Json → String
  | .str s => s
  | value => runtime.str value

/-- `verify_join_intent`. Whatever is raised inside becomes a `JoinIntentError`. -/
def verifyJoinIntent (runtime : Runtime) (intent : String) (now : Moment) :
    Option JoinIntentPayload := do
  let (payloadB64, signatureB64) ← splitDot intent
  let payloadBytes ← b64decode payloadB64
  let signature ← b64decode signatureB64
  match ← Json.load (← ofUtf8 payloadBytes).toList with
  | .object payload =>
    if ((Dict.get payload "v").map (isOne runtime)).getD false = false then none
    else if signature ≠ runtime.hmac payloadB64 then none
    else
      let expiresAt ← fromTimestamp runtime (← Dict.get payload "exp")
      if expiresAt ≤ now then none
      else
        let wholesalerId ← uuidOf (← Dict.get payload "ws")
        let code ← Dict.get payload "code"
        some ⟨wholesalerId, strOf runtime code, expiresAt⟩
  | _ => none

end Mpango.Joining
