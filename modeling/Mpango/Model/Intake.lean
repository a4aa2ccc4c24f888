import Mpango.Library.Dict
import Mpango.Library.Numbering

/-!
# Staged columns

How `services/intake_service.py` names the columns of an uploaded sheet: the keys its cells are
stored under, the normalised names a mapping refers to, and the values a mapping copies out of a
row. A sheet is taken as the cell texts its reader yields.
-/

namespace Mpango.Intake

open Numbering

/-- `TARGET_FIELDS`. -/
def targetFields : List String := ["sku_code", "name", "unit", "category", "unit_price", "barcode"]

/-- `_cell_to_string`, of a text or a cell that is not there. -/
def cellToString (value : Option String) : String := value.elim "" strip

/-! ## Names -/

/-- `[a-z0-9]`. -/
def isAlnum (c : Char) : Bool := 'a' ≤ c && c ≤ 'z' || '0' ≤ c && c ≤ '9'

/-- `str.lower`, one character at a time. Only these characters lower to letters `a` to `z`; what
becomes of the others is not kept by `normalize_header`. -/
def lower (c : Char) : List Char :=
  if 'A' ≤ c ∧ c ≤ 'Z' then [Char.ofNat (c.toNat + 32)]
  else if c = Char.ofNat 0x130 then ['i', Char.ofNat 0x307]
  else if c = Char.ofNat 0x212A then ['k']
  else [c]

/-- `re.sub` of every run of characters in the class by one `_`, `inRun` where one has begun. -/
def collapse (inClass : Char → Bool) (inRun : Bool) : List Char → List Char
  | [] => []
  | c :: cs =>
    if inClass c then
      if inRun then collapse inClass true cs else '_' :: collapse inClass true cs
    else c :: collapse inClass false cs

/-- `str.strip("_")`. -/
def stripUnderscores (cs : List Char) : List Char :=
  (cs.dropWhile (· = '_')).rdropWhile (· = '_')

/-- `normalize_header`. -/
def normalizeHeader (header : String) : String :=
  let value := (strip header).toList.flatMap lower
  let value := collapse (fun c => !isAlnum c) false value
  let value := stripUnderscores (collapse (fun c => c = '_') false value)
  if value = [] then "column" else String.ofList value

/-! ## Columns -/

/-- `_header_keys`. -/
def headerKeys (headers : List String) : List String := number (suffixed "__") headers

/-- `normalize_headers`: the name of each key. -/
def normalizeHeaders (headers : List String) : Dict String String :=
  Dict.ofPairs
    ((headerKeys headers).zip (number (suffixed "_") (headers.map normalizeHeader)))

/-- `_row_dict`. -/
def rowDict (headers values : List String) : Dict String String :=
  Dict.ofPairs ((headerKeys headers).mapIdx fun index header =>
    (header, cellToString values[index]?))

/-- `source_lookup`: the targets of a mapping by the normal forms of its sources. -/
def sourceLookup (mapping : Dict String String) : Dict String String :=
  Dict.ofPairs (mapping.map fun p => (normalizeHeader p.1, p.2))

/-- What a column contributes: its value under the target of its name, if the name has one. -/
def mapColumn (headerMap lookup : Dict String String) (column : String × String) :
    Option (String × String) :=
  let normalizedSource := (Dict.get headerMap column.1).getD (normalizeHeader column.1)
  match Dict.get lookup normalizedSource with
  | some target => if target = "" then none else some (target, column.2)
  | none => none

/-- `_build_normalized_values`. -/
def buildNormalizedValues (rawValues headerMap mapping : Dict String String) :
    Dict String String :=
  Dict.ofPairs (rawValues.filterMap (mapColumn headerMap (sourceLookup mapping)))

end Mpango.Intake
