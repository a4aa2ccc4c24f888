import Mpango.Library.Dict
import Mpango.Library.Text

/-!
# JSON texts

`json.dumps` writes a value in ASCII, and `json.loads` reads it back. A text that another program
wrote may spell a number as a fraction; such a number is kept as it is spelt.
-/

namespace Mpango

/-- A JSON value. -/
inductive Json where
  | null
  | bool (b : Bool)
  | int (n : ℤ)
  | float (spelling : String)
  | str (s : String)
  | array (xs : List Json)
  | object (fields : List (String × Json))

namespace Json

/-! ## Writing -/

/-- The `\u` escape of a code unit. -/
def unitEscape (n : ℕ) : List Char := '\\' :: 'u' :: Uuid.hexDigits 4 n

/-- A character in a text: printable ASCII stands for itself. -/
def escape (c : Char) : List Char :=
  if c = '"' then ['\\', '"']
  else if c = '\\' then ['\\', '\\']
  else if c = '\n' then ['\\', 'n']
  else if c = '\r' then ['\\', 'r']
  else if c = '\t' then ['\\', 't']
  else if c = '\x0c' then ['\\', 'f']
  else if c = '\x08' then ['\\', 'b']
  else if 0x20 ≤ c.toNat ∧ c.toNat ≤ 0x7e then [c]
  else if c.toNat < 0x10000 then unitEscape c.toNat
  else unitEscape (0xd800 + (c.toNat - 0x10000) / 0x400) ++
    unitEscape (0xdc00 + (c.toNat - 0x10000) % 0x400)

def dumpString (s : String) : List Char := '"' :: (s.toList.flatMap escape ++ ['"'])

def dumpInt (n : ℤ) : List Char :=
  if n < 0 then '-' :: Nat.toDigits 10 n.natAbs else Nat.toDigits 10 n.natAbs

/-- What `dumps` puts between items, and between a key and its value. -/
structure Separators where
  item : List Char
  key : List Char

/-- The default, and the compact one. -/
def Separators.default : Separators := ⟨[',', ' '], [':', ' ']⟩
def Separators.compact : Separators := ⟨[','], [':']⟩

mutual

/-- `json.dumps`. -/
def dump (sep : Separators) : Json → List Char
  | .null => ['n', 'u', 'l', 'l']
  | .bool true => ['t', 'r', 'u', 'e']
  | .bool false => ['f', 'a', 'l', 's', 'e']
  | .int n => dumpInt n
  | .float spelling => spelling.toList
  | .str s => dumpString s
  | .array [] => ['[', ']']
  | .array (x :: xs) => '[' :: (dump sep x ++ dumpItems sep xs)
  | .object [] => ['{', '}']
  | .object ((k, x) :: fields) =>
    '{' :: (dumpString k ++ sep.key ++ dump sep x ++ dumpFields sep fields)

/-- The items after the first, and the bracket. -/
def dumpItems (sep : Separators) : List Json → List Char
  | [] => [']']
  | x :: xs => sep.item ++ dump sep x ++ dumpItems sep xs

/-- The entries after the first, and the brace. -/
def dumpFields (sep : Separators) : List (String × Json) → List Char
  | [] => ['}']
  | (k, x) :: fields => sep.item ++ dumpString k ++ sep.key ++ dump sep x ++ dumpFields sep fields

end

/-! ## Reading -/

def isWhitespace (c : Char) : Bool := c = ' ' || c = '\t' || c = '\n' || c = '\r'

def skip (cs : List Char) : List Char := cs.dropWhile isWhitespace

/-- The code unit of an escape, after `\u`. -/
def scanUnit : List Char → Option (ℕ × List Char)
  | a :: b :: c :: d :: cs => (Uuid.hexValue? 0 [a, b, c, d]).map fun n => (n, cs)
  | _ => none

/-- The character that a single letter escapes. -/
def unescape (c : Char) : Option Char :=
  if c = '"' ∨ c = '\\' ∨ c = '/' then some c
  else if c = 'b' then some '\x08'
  else if c = 'f' then some '\x0c'
  else if c = 'n' then some '\n'
  else if c = 'r' then some '\r'
  else if c = 't' then some '\t'
  else none

/-- A character after a backslash and `u`; a surrogate is only read with the other half. -/
def scanEscaped (cs : List Char) : Option (Char × List Char) := do
  let (n, cs) ← scanUnit cs
  if 0xd800 ≤ n ∧ n < 0xdc00 then
    match cs with
    | '\\' :: 'u' :: cs =>
      let (m, cs) ← scanUnit cs
      if 0xdc00 ≤ m ∧ m < 0xe000 then
        some (Char.ofNat (0x10000 + (n - 0xd800) * 0x400 + (m - 0xdc00)), cs)
      else none
    | _ => none
  else if 0xdc00 ≤ n ∧ n < 0xe000 then none
  else some (Char.ofNat n, cs)

/-- The next character of a string, or nothing at its closing quote. -/
def scanChar : List Char → Option (Option Char × List Char)
  | '"' :: cs => some (none, cs)
  | '\\' :: 'u' :: cs => (scanEscaped cs).map fun p => (some p.1, p.2)
  | '\\' :: c :: cs => (unescape c).map fun c => (some c, cs)
  | c :: cs => if c.toNat < 0x20 then none else some (some c, cs)
  | [] => none

/-- The rest of a string after its opening quote. -/
def scanString : ℕ → List Char → Option (List Char × List Char)
  | 0, _ => none
  | fuel + 1, cs =>
    match scanChar cs with
    | some (none, cs) => some ([], cs)
    | some (some c, cs) => (scanString fuel cs).map fun p => (c :: p.1, p.2)
    | none => none

/-- The fraction and the exponent of a number. -/
def scanFraction (cs : List Char) : List Char × List Char :=
  match cs with
  | '.' :: c :: cs =>
    if c.isDigit then ('.' :: c :: cs.takeWhile Char.isDigit, cs.dropWhile Char.isDigit)
    else ([], '.' :: c :: cs)
  | cs => ([], cs)

def scanExponent (cs : List Char) : List Char × List Char :=
  match cs with
  | e :: cs =>
    if e = 'e' ∨ e = 'E' then
      let (sign, digits) := match cs with
        | '+' :: cs => (['+'], cs)
        | '-' :: cs => (['-'], cs)
        | cs => ([], cs)
      if (digits.takeWhile Char.isDigit).isEmpty then ([], e :: cs)
      else (e :: (sign ++ digits.takeWhile Char.isDigit), digits.dropWhile Char.isDigit)
    else ([], e :: cs)
  | [] => ([], [])

/-- The digits of an integer: no zero is in front of another. -/
def scanDigits : List Char → Option (List Char × List Char)
  | '0' :: cs => some (['0'], cs)
  | c :: cs =>
    if c.isDigit then some (c :: cs.takeWhile Char.isDigit, cs.dropWhile Char.isDigit) else none
  | [] => none

def scanNumber (cs : List Char) : Option (Json × List Char) := do
  let (negative, cs) := match cs with
    | '-' :: cs => (true, cs)
    | cs => (false, cs)
  let (digits, cs) ← scanDigits cs
  let (fraction, cs) := scanFraction cs
  let (exponent, cs) := scanExponent cs
  let magnitude := Nat.ofDigitChars 10 digits 0
  if fraction = [] ∧ exponent = [] then
    some (.int (if negative then -(magnitude : ℤ) else magnitude), cs)
  else
    some (.float (String.ofList
      ((if negative then ['-'] else []) ++ digits ++ fraction ++ exponent)), cs)

/-- A word, if the text begins with it. -/
def scanWord (word : List Char) (v : Json) (cs : List Char) : Option (Json × List Char) :=
  if word.isPrefixOf cs then some (v, cs.drop word.length) else none

/-- The words that are values. -/
def scanConstant (cs : List Char) : Option (Json × List Char) :=
  (scanWord ['n', 'u', 'l', 'l'] .null cs).or <|
  (scanWord ['t', 'r', 'u', 'e'] (.bool true) cs).or <|
  (scanWord ['f', 'a', 'l', 's', 'e'] (.bool false) cs).or <|
  (scanWord "NaN".toList (.float "NaN") cs).or <|
  (scanWord "Infinity".toList (.float "Infinity") cs).or <|
  (scanWord "-Infinity".toList (.float "-Infinity") cs).or <|
  scanNumber cs

mutual

/-- A value, at its first character. -/
def scanValue : ℕ → List Char → Option (Json × List Char)
  | 0, _ => none
  | fuel + 1, cs =>
    match cs with
    | '"' :: cs => (scanString fuel cs).map fun p => (.str (String.ofList p.1), p.2)
    | '[' :: cs =>
      match skip cs with
      | ']' :: cs => some (.array [], cs)
      | cs => (scanItems fuel cs).map fun p => (.array p.1, p.2)
    | '{' :: cs =>
      match skip cs with
      | '}' :: cs => some (.object [], cs)
      | cs => (scanFields fuel cs).map fun p => (.object (Dict.ofPairs p.1), p.2)
    | cs => scanConstant cs

/-- Items up to the bracket. -/
def scanItems : ℕ → List Char → Option (List Json × List Char)
  | 0, _ => none
  | fuel + 1, cs => do
    let (x, cs) ← scanValue fuel cs
    match skip cs with
    | ']' :: cs => some ([x], cs)
    | ',' :: cs =>
      let (xs, cs) ← scanItems fuel (skip cs)
      some (x :: xs, cs)
    | _ => none

/-- Entries up to the brace. -/
def scanFields : ℕ → List Char → Option (List (String × Json) × List Char)
  | 0, _ => none
  | fuel + 1, cs => do
    match cs with
    | '"' :: cs =>
      let (k, cs) ← scanString fuel cs
      match skip cs with
      | ':' :: cs =>
        let (x, cs) ← scanValue fuel (skip cs)
        match skip cs with
        | '}' :: cs => some ([(String.ofList k, x)], cs)
        | ',' :: cs =>
          let (fields, cs) ← scanFields fuel (skip cs)
          some ((String.ofList k, x) :: fields, cs)
        | _ => none
      | _ => none
    | _ => none

end

/-- `json.loads`. -/
def load (cs : List Char) : Option Json :=
  match scanValue (cs.length + 1) (skip cs) with
  | some (v, rest) => if skip rest = [] then some v else none
  | none => none

/-! ## Strings are read back -/

theorem scanUnit_hexDigits {n : ℕ} (h : n < 0x10000) (rest : List Char) :
    scanUnit (Uuid.hexDigits 4 n ++ rest) = some (n, rest) := by
  have hlength := Uuid.length_hexDigits 4 n
  have hvalue := Uuid.hexValue?_hexDigits 4 n 0
  generalize Uuid.hexDigits 4 n = digits at hlength hvalue
  match digits, hlength with
  | [a, b, c, d], _ =>
    simp only [List.cons_append, List.nil_append, scanUnit, hvalue, Option.map_some]
    rw [Nat.mod_eq_of_lt (by omega), Nat.zero_mul, Nat.zero_add]

theorem scanEscaped_unit {c : Char} (h : c.toNat < 0x10000) (rest : List Char) :
    scanEscaped (Uuid.hexDigits 4 c.toNat ++ rest) = some (c, rest) := by
  have hvalid := c.valid
  unfold scanEscaped
  rw [scanUnit_hexDigits h]
  have hnot : ¬(0xd800 ≤ c.toNat ∧ c.toNat < 0xdc00) ∧ ¬(0xdc00 ≤ c.toNat ∧ c.toNat < 0xe000) := by
    simp only [UInt32.isValidChar, Nat.isValidChar] at hvalid
    change c.toNat < 0xd800 ∨ 0xdfff < c.toNat ∧ c.toNat < 0x110000 at hvalid
    omega
  show (if 0xd800 ≤ c.toNat ∧ c.toNat < 0xdc00 then _ else
    if 0xdc00 ≤ c.toNat ∧ c.toNat < 0xe000 then none else some (Char.ofNat c.toNat, rest)) = _
  rw [if_neg hnot.1, if_neg hnot.2, Char.ofNat_toNat]

theorem scanEscaped_surrogates {high low : ℕ} (hhigh : 0xd800 ≤ high ∧ high < 0xdc00)
    (hlow : 0xdc00 ≤ low ∧ low < 0xe000) (rest : List Char) :
    scanEscaped (Uuid.hexDigits 4 high ++ (unitEscape low ++ rest)) =
      some (Char.ofNat (0x10000 + (high - 0xd800) * 0x400 + (low - 0xdc00)), rest) := by
  unfold scanEscaped unitEscape
  rw [scanUnit_hexDigits (by omega)]
  simp only [Option.bind_eq_bind, Option.bind_some, List.cons_append]
  rw [if_pos hhigh, scanUnit_hexDigits (by omega), Option.bind_some, if_pos hlow]

theorem scanEscaped_pair {c : Char} (h : 0x10000 ≤ c.toNat) (rest : List Char) :
    scanEscaped (Uuid.hexDigits 4 (0xd800 + (c.toNat - 0x10000) / 0x400) ++
      (unitEscape (0xdc00 + (c.toNat - 0x10000) % 0x400) ++ rest)) = some (c, rest) := by
  have hvalid : c.toNat < 0x110000 := by
    have := c.valid
    simp only [UInt32.isValidChar, Nat.isValidChar] at this
    change c.toNat < 0xd800 ∨ 0xdfff < c.toNat ∧ c.toNat < 0x110000 at this
    omega
  have hnumber : 0x10000 + (0xd800 + (c.toNat - 0x10000) / 0x400 - 0xd800) * 0x400 +
      (0xdc00 + (c.toNat - 0x10000) % 0x400 - 0xdc00) = c.toNat := by omega
  rw [scanEscaped_surrogates (by omega) (by omega), hnumber, Char.ofNat_toNat]

theorem scanChar_escape (c : Char) (rest : List Char) :
    scanChar (escape c ++ rest) = some (some c, rest) := by
  unfold escape
  split
  · next h => rw [h]; rfl
  split
  · next h => rw [h]; rfl
  split
  · next h => rw [h]; rfl
  split
  · next h => rw [h]; rfl
  split
  · next h => rw [h]; rfl
  split
  · next h => rw [h]; rfl
  split
  · next h => rw [h]; rfl
  next hquote hback _ _ _ _ _ =>
  split
  · next hprint =>
    rw [List.singleton_append]
    unfold scanChar
    split
    · next heq => exact absurd (List.cons.inj heq).1 hquote
    · next heq => exact absurd (List.cons.inj heq).1 hback
    · next heq => exact absurd (List.cons.inj heq).1 hback
    · next heq =>
      obtain ⟨rfl, rfl⟩ := List.cons.inj heq
      exact if_neg (by omega)
    · next heq => cases heq
  · split
    · next hsmall =>
      show (scanEscaped (Uuid.hexDigits 4 c.toNat ++ rest)).map _ = _
      rw [scanEscaped_unit hsmall]
      rfl
    · next hlarge =>
      rw [List.append_assoc]
      conv_lhs => rw [unitEscape, List.cons_append, List.cons_append, scanChar]
      rw [scanEscaped_pair (by omega)]
      rfl

/-- The characters of a string are read back, and its closing quote ends it. -/
theorem scanString_escape (cs rest : List Char) {fuel : ℕ} (h : cs.length < fuel) :
    scanString fuel (cs.flatMap escape ++ '"' :: rest) = some (cs, rest) := by
  induction cs generalizing fuel with
  | nil =>
    obtain ⟨fuel, rfl⟩ := Nat.exists_eq_succ_of_ne_zero (Nat.ne_of_gt h)
    rfl
  | cons c cs ih =>
    obtain ⟨fuel, rfl⟩ := Nat.exists_eq_succ_of_ne_zero (Nat.ne_of_gt (Nat.zero_lt_of_lt h))
    rw [List.flatMap_cons, List.append_assoc, scanString, scanChar_escape]
    dsimp only
    rw [ih (Nat.lt_of_succ_lt_succ h)]
    rfl

theorem length_escape_pos (c : Char) : 0 < (escape c).length := by
  unfold escape unitEscape
  repeat' split
  all_goals simp

theorem length_flatMap_escape (cs : List Char) : cs.length ≤ (cs.flatMap escape).length := by
  induction cs with
  | nil => exact le_rfl
  | cons c cs ih =>
    have hpos := length_escape_pos c
    rw [List.flatMap_cons, List.length_append, List.length_cons]
    omega

/-- A string is read back with as much fuel as its text is long. -/
theorem scanString_dumpString (s : String) (rest : List Char) {fuel : ℕ}
    (h : (dumpString s).length ≤ fuel + 1) :
    scanString fuel (s.toList.flatMap escape ++ '"' :: rest) = some (s.toList, rest) := by
  apply scanString_escape
  have hle := length_flatMap_escape s.toList
  simp only [dumpString, List.length_cons, List.length_append] at h
  omega

/-! ## Numbers are read back -/

/-- What stands behind a value ends it. -/
def Stops (rest : List Char) : Prop := ∀ c ∈ rest.head?, c = ',' ∨ c = ']' ∨ c = '}'

theorem Stops.not_digit {rest : List Char} (h : Stops rest) : rest.takeWhile Char.isDigit = [] ∧
    rest.dropWhile Char.isDigit = rest := by
  cases rest with
  | nil => exact ⟨rfl, rfl⟩
  | cons c cs =>
    have hc : c.isDigit = false := by
      rcases h c rfl with rfl | rfl | rfl <;> decide
    simp [hc]

theorem Stops.integer {rest : List Char} (h : Stops rest) :
    scanFraction rest = ([], rest) ∧ scanExponent rest = ([], rest) := by
  cases rest with
  | nil => exact ⟨rfl, rfl⟩
  | cons c cs => rcases h c rfl with rfl | rfl | rfl <;> exact ⟨rfl, rfl⟩

/-- No zero is in front of another digit. -/
theorem head_toDigits (n : ℕ) : ∃ c cs, Nat.toDigits 10 n = c :: cs ∧ (c = '0' → cs = []) := by
  induction n using Nat.strong_induction_on with
  | _ n ih =>
    by_cases h : n < 10
    · exact ⟨n.digitChar, [], Nat.toDigits_of_lt_base h, fun _ => rfl⟩
    · obtain ⟨c, cs, hcs, hzero⟩ := ih (n / 10) (by omega)
      refine ⟨c, cs ++ [(n % 10).digitChar], ?_, fun hc => ?_⟩
      · rw [Nat.toDigits_of_base_le (by decide) (by omega), hcs]
        rfl
      · exfalso
        have hvalue := Nat.ofDigitChars_ten_toDigits (n := n / 10)
        rw [hcs, hzero hc, hc] at hvalue
        have hpos : 0 < n / 10 := Nat.div_pos (by omega) (by decide)
        exact absurd (show (0 : ℕ) = n / 10 from hvalue) (by omega)

theorem scanDigits_toDigits (n : ℕ) {rest : List Char} (h : Stops rest) :
    scanDigits (Nat.toDigits 10 n ++ rest) = some (Nat.toDigits 10 n, rest) := by
  obtain ⟨c, cs, hcs, hzero⟩ := head_toDigits n
  have hdigit : ∀ d ∈ c :: cs, d.isDigit = true := by
    intro d hd
    rw [← hcs] at hd
    exact Nat.isDigit_of_mem_toDigits (by decide) (by decide) hd
  have htake : (cs ++ rest).takeWhile Char.isDigit = cs := by
    rw [List.takeWhile_append_of_pos fun d hd => hdigit d (List.mem_cons_of_mem c hd),
      h.not_digit.1, List.append_nil]
  have hdrop : (cs ++ rest).dropWhile Char.isDigit = rest := by
    rw [List.dropWhile_append_of_pos fun d hd => hdigit d (List.mem_cons_of_mem c hd),
      h.not_digit.2]
  rw [hcs, List.cons_append]
  unfold scanDigits
  split
  · next heq =>
    obtain ⟨rfl, rfl⟩ := List.cons.inj heq
    rw [hzero rfl, List.nil_append]
  · next heq =>
    obtain ⟨rfl, rfl⟩ := List.cons.inj heq
    rw [if_pos (hdigit c List.mem_cons_self), htake, hdrop]
  · next heq => cases heq

theorem scanNumber_dumpInt (n : ℤ) {rest : List Char} (h : Stops rest) :
    scanNumber (dumpInt n ++ rest) = some (.int n, rest) := by
  have hscan := scanDigits_toDigits n.natAbs h
  have hvalue := Nat.ofDigitChars_ten_toDigits (n := n.natAbs)
  unfold dumpInt
  split
  · next hneg =>
    unfold scanNumber
    simp only [List.cons_append, hscan, Option.bind_eq_bind, Option.bind_some, h.integer.1,
      h.integer.2, hvalue, and_self, if_true]
    rw [show -((n.natAbs : ℕ) : ℤ) = n by omega]
  · next hpos =>
    obtain ⟨c, cs, hcs, -⟩ := head_toDigits n.natAbs
    have hminus : c ≠ '-' := by
      rintro rfl
      have hdigit := Nat.isDigit_of_mem_toDigits (b := 10) (n := n.natAbs) (c := '-') (by decide)
        (by decide) (by rw [hcs]; exact List.mem_cons_self)
      exact absurd hdigit (by decide)
    unfold scanNumber
    have hmatch : (match Nat.toDigits 10 n.natAbs ++ rest with
        | '-' :: cs => (true, cs)
        | cs => (false, cs)) = (false, Nat.toDigits 10 n.natAbs ++ rest) := by
      rw [hcs, List.cons_append]
      split
      · next heq => exact absurd (List.cons.inj heq).1 hminus
      · rfl
    rw [hmatch]
    simp only [hscan, Option.bind_eq_bind, Option.bind_some, h.integer.1, h.integer.2, hvalue,
      and_self, if_true, Bool.false_eq_true, if_false]
    rw [show ((n.natAbs : ℕ) : ℤ) = n by omega]

theorem scanWord_of_ne {w c : Char} (h : w ≠ c) (ws cs : List Char) (v : Json) :
    scanWord (w :: ws) v (c :: cs) = none := by
  simp [scanWord, List.isPrefixOf, h]

/-- An integer begins with a digit, or with a sign and a digit. -/
theorem dumpInt_head (n : ℤ) : ∃ d cs, d.isDigit = true ∧
    (dumpInt n = d :: cs ∨ dumpInt n = '-' :: d :: cs) := by
  obtain ⟨d, cs, hcs, -⟩ := head_toDigits n.natAbs
  have hdigit : d.isDigit = true :=
    Nat.isDigit_of_mem_toDigits (b := 10) (by decide) (by decide)
      (by rw [hcs]; exact List.mem_cons_self)
  refine ⟨d, cs, hdigit, ?_⟩
  unfold dumpInt
  rw [hcs]
  split
  · exact .inr rfl
  · exact .inl rfl

theorem scanConstant_dumpInt (n : ℤ) {rest : List Char} (h : Stops rest) :
    scanConstant (dumpInt n ++ rest) = some (.int n, rest) := by
  have hnumber := scanNumber_dumpInt n h
  have hne : ∀ {w d : Char}, w.isDigit = false → d.isDigit = true → w ≠ d := by
    rintro w d hw hd rfl
    rw [hw] at hd
    cases hd
  obtain ⟨d, cs, hd, hcs | hcs⟩ := dumpInt_head n
  · rw [hcs, List.cons_append] at hnumber ⊢
    unfold scanConstant
    rw [scanWord_of_ne (hne (by decide) hd), scanWord_of_ne (hne (by decide) hd),
      scanWord_of_ne (hne (by decide) hd),
      show "NaN".toList = ['N', 'a', 'N'] from rfl, scanWord_of_ne (hne (by decide) hd),
      show "Infinity".toList = 'I' :: "nfinity".toList from rfl,
      scanWord_of_ne (hne (by decide) hd),
      show "-Infinity".toList = '-' :: "Infinity".toList from rfl,
      scanWord_of_ne (hne (by decide) hd)]
    exact hnumber
  · rw [hcs, List.cons_append, List.cons_append] at hnumber ⊢
    have hinfinity : scanWord "-Infinity".toList (.float "-Infinity") ('-' :: d :: (cs ++ rest)) =
        none := by
      have hI : 'I' ≠ d := hne (by decide) hd
      rw [show "-Infinity".toList = '-' :: 'I' :: "nfinity".toList from rfl]
      simp [scanWord, List.isPrefixOf, hI]
    unfold scanConstant
    rw [scanWord_of_ne (by decide), scanWord_of_ne (by decide), scanWord_of_ne (by decide),
      show "NaN".toList = ['N', 'a', 'N'] from rfl, scanWord_of_ne (by decide),
      show "Infinity".toList = 'I' :: "nfinity".toList from rfl, scanWord_of_ne (by decide),
      hinfinity]
    exact hnumber

/-! ## Values are read back -/

mutual

/-- A value as `loads` makes them, without fractions: no key of an object repeats. -/
def Plain : Json → Prop
  | .float _ => False
  | .array xs => PlainItems xs
  | .object fields => (fields.map Prod.fst).Nodup ∧ PlainFields fields
  | _ => True

def PlainItems : List Json → Prop
  | [] => True
  | x :: xs => Plain x ∧ PlainItems xs

def PlainFields : List (String × Json) → Prop
  | [] => True
  | (_, x) :: fields => Plain x ∧ PlainFields fields

end

/-- Separators that stand for a comma and a colon. -/
structure Separators.Valid (sep : Separators) : Prop where
  item : ∃ ws, sep.item = ',' :: ws ∧ ∀ c ∈ ws, isWhitespace c = true
  key : ∃ ws, sep.key = ':' :: ws ∧ ∀ c ∈ ws, isWhitespace c = true

theorem Separators.default_valid : Separators.default.Valid :=
  ⟨⟨[' '], rfl, List.forall_mem_singleton.mpr rfl⟩,
    ⟨[' '], rfl, List.forall_mem_singleton.mpr rfl⟩⟩

theorem Separators.compact_valid : Separators.compact.Valid :=
  ⟨⟨[], rfl, nofun⟩, ⟨[], rfl, nofun⟩⟩

theorem skip_append {ws cs : List Char} {c : Char} (hws : ∀ c ∈ ws, isWhitespace c = true)
    (hc : isWhitespace c = false) : skip (ws ++ c :: cs) = c :: cs := by
  unfold skip
  rw [List.dropWhile_append_of_pos hws, List.dropWhile_cons, if_neg (by simp [hc])]

theorem skip_cons {cs : List Char} {c : Char} (hc : isWhitespace c = false) :
    skip (c :: cs) = c :: cs :=
  (skip_append (by nofun) hc : skip ([] ++ c :: cs) = c :: cs)

theorem isWhitespace_of_isDigit {c : Char} (h : c.isDigit = true) : isWhitespace c = false := by
  unfold isWhitespace
  rw [Bool.eq_false_iff]
  intro hws
  simp only [Bool.or_eq_true, decide_eq_true_eq] at hws
  rcases hws with ((rfl | rfl) | rfl) | rfl <;> exact absurd h (by decide)

/-- A value begins with a character that is not skipped. -/
theorem dump_head (sep : Separators) {v : Json} (h : Plain v) :
    ∃ c cs, dump sep v = c :: cs ∧ isWhitespace c = false ∧ c ≠ ']' := by
  cases v with
  | null => exact ⟨_, _, by rw [dump], by decide, by decide⟩
  | bool b => cases b <;> exact ⟨_, _, by rw [dump], by decide, by decide⟩
  | int n =>
    obtain ⟨d, cs, hd, hcs | hcs⟩ := dumpInt_head n
    · refine ⟨d, cs, by rw [dump, hcs], isWhitespace_of_isDigit hd, ?_⟩
      rintro rfl
      exact absurd hd (by decide)
    · exact ⟨'-', d :: cs, by rw [dump, hcs], by decide, by decide⟩
  | float spelling => exact h.elim
  | str s => exact ⟨_, _, by rw [dump, dumpString], by decide, by decide⟩
  | array xs => cases xs <;> exact ⟨_, _, by rw [dump], by decide, by decide⟩
  | object fields => cases fields <;> exact ⟨_, _, by rw [dump], by decide, by decide⟩

theorem scanValue_bracket {c : Char} (hws : isWhitespace c = false) (hc : c ≠ ']') (fuel : ℕ)
    (cs : List Char) : scanValue (fuel + 1) ('[' :: c :: cs) =
      (scanItems fuel (c :: cs)).map fun p => (.array p.1, p.2) := by
  rw [scanValue, skip_cons hws]
  split
  · next heq => exact absurd (List.cons.inj heq).1 hc
  · rfl

theorem scanValue_constant {c : Char} (hquote : c ≠ '"') (hbracket : c ≠ '[') (hbrace : c ≠ '{')
    (fuel : ℕ) (cs : List Char) : scanValue (fuel + 1) (c :: cs) = scanConstant (c :: cs) := by
  unfold scanValue
  split
  · next heq => exact absurd (List.cons.inj heq).1 hquote
  · next heq => exact absurd (List.cons.inj heq).1 hbracket
  · next heq => exact absurd (List.cons.inj heq).1 hbrace
  · rfl

theorem stops_dumpItems {sep : Separators} (hsep : sep.Valid) (xs : List Json) (rest : List Char) :
    Stops (dumpItems sep xs ++ rest) := by
  obtain ⟨ws, hws, -⟩ := hsep.item
  intro c hc
  cases xs with
  | nil =>
    rw [dumpItems] at hc
    exact .inr (.inl (Option.some.inj hc).symm)
  | cons x xs =>
    rw [dumpItems, hws] at hc
    exact .inl (Option.some.inj hc).symm

theorem stops_dumpFields {sep : Separators} (hsep : sep.Valid) (fields : List (String × Json))
    (rest : List Char) : Stops (dumpFields sep fields ++ rest) := by
  obtain ⟨ws, hws, -⟩ := hsep.item
  intro c hc
  cases fields with
  | nil =>
    rw [dumpFields] at hc
    exact .inr (.inr (Option.some.inj hc).symm)
  | cons field fields =>
    obtain ⟨k, x⟩ := field
    rw [dumpFields, hws] at hc
    exact .inl (Option.some.inj hc).symm


theorem scanValue_brace (fuel : ℕ) (cs : List Char) : scanValue (fuel + 1) ('{' :: '"' :: cs) =
    (scanFields fuel ('"' :: cs)).map fun p => (.object (Dict.ofPairs p.1), p.2) := by
  rw [scanValue, skip_cons (by decide)]
  rfl

theorem length_dumpItems_pos {sep : Separators} (hsep : sep.Valid) (xs : List Json) :
    0 < (dumpItems sep xs).length := by
  cases xs with
  | nil => simp [dumpItems]
  | cons y ys =>
    obtain ⟨ws, hws, -⟩ := hsep.item
    simp [dumpItems, hws]

/-- What is read back with this fuel: a value, items and entries whose texts are shorter. -/
structure ReadsBack (sep : Separators) (fuel : ℕ) : Prop where
  value : ∀ {v} rest, Plain v → Stops rest → (dump sep v).length < fuel →
    scanValue fuel (dump sep v ++ rest) = some (v, rest)
  items : ∀ {x} xs rest, Plain x → PlainItems xs →
    (dump sep x ++ dumpItems sep xs).length < fuel →
    scanItems fuel (dump sep x ++ (dumpItems sep xs ++ rest)) = some (x :: xs, rest)
  fields : ∀ k {x} fields rest, Plain x → PlainFields fields →
    (dumpString k ++ sep.key ++ dump sep x ++ dumpFields sep fields).length < fuel →
    scanFields fuel (dumpString k ++ sep.key ++ dump sep x ++ dumpFields sep fields ++ rest) =
      some ((k, x) :: fields, rest)

namespace ReadsBack

variable {sep : Separators} {fuel : ℕ}

theorem value_succ (ih : ReadsBack sep fuel) {v : Json} (rest : List Char)
    (hv : Plain v) (hrest : Stops rest) (h : (dump sep v).length < fuel + 1) :
    scanValue (fuel + 1) (dump sep v ++ rest) = some (v, rest) := by
  cases v with
  | null =>
    rw [dump]
    rfl
  | bool b =>
    cases b with
    | true =>
      rw [dump]
      rfl
    | false =>
      rw [dump]
      rfl
  | int n =>
    rw [dump] at h ⊢
    have hscan := scanConstant_dumpInt n hrest
    obtain ⟨d, cs, hd, hcs | hcs⟩ := dumpInt_head n
    · rw [hcs, List.cons_append] at hscan ⊢
      have hne : ∀ {w : Char}, w.isDigit = false → d ≠ w := by
        rintro w hw rfl
        rw [hd] at hw
        cases hw
      rw [scanValue_constant (hne (by decide)) (hne (by decide)) (hne (by decide)), hscan]
    · rw [hcs, List.cons_append] at hscan ⊢
      rw [scanValue_constant (by decide) (by decide) (by decide), hscan]
  | float spelling => exact hv.elim
  | str s =>
    rw [dump] at h ⊢
    have hscan := scanString_dumpString s rest (Nat.le_of_lt h)
    unfold dumpString
    rw [List.cons_append, List.append_assoc, List.singleton_append, scanValue, hscan,
      Option.map_some, String.ofList_toList]
  | array xs =>
    cases xs with
    | nil =>
      rw [dump]
      rfl
    | cons x xs =>
      rw [dump, List.length_cons] at h
      rw [Plain, PlainItems] at hv
      have hscan := ih.items xs rest hv.1 hv.2 (by omega)
      obtain ⟨c, cs, hcs, hws, hc⟩ := dump_head sep hv.1
      rw [dump, List.cons_append, List.append_assoc]
      rw [hcs, List.cons_append] at hscan ⊢
      rw [scanValue_bracket hws hc, hscan]
      rfl
  | object fields =>
    cases fields with
    | nil =>
      rw [dump]
      rfl
    | cons field fields =>
      obtain ⟨k, x⟩ := field
      rw [dump, List.length_cons] at h
      rw [Plain, PlainFields] at hv
      have hscan := ih.fields k fields rest hv.2.1 hv.2.2 (by omega)
      rw [dump, List.cons_append]
      unfold dumpString at hscan ⊢
      simp only [List.cons_append, List.append_assoc] at hscan ⊢
      rw [scanValue_brace, hscan, Option.map_some, Dict.ofPairs_of_nodup hv.1]

theorem items_succ (hsep : sep.Valid) (ih : ReadsBack sep fuel) {x : Json} (xs : List Json)
    (rest : List Char) (hx : Plain x) (hxs : PlainItems xs)
    (h : (dump sep x ++ dumpItems sep xs).length < fuel + 1) :
    scanItems (fuel + 1) (dump sep x ++ (dumpItems sep xs ++ rest)) = some (x :: xs, rest) := by
  have htail := length_dumpItems_pos hsep xs
  rw [List.length_append] at h
  rw [scanItems, ih.value _ hx (stops_dumpItems hsep xs rest) (by omega)]
  simp only [Option.bind_eq_bind, Option.bind_some]
  cases xs with
  | nil =>
    rw [dumpItems, List.singleton_append, skip_cons (by decide)]
    rfl
  | cons y ys =>
    obtain ⟨ws, hws, hall⟩ := hsep.item
    obtain ⟨c, cs, hcs, hc, -⟩ := dump_head sep hxs.1
    have hrest := ih.items ys rest hxs.1 hxs.2 (by
      simp only [dumpItems, hws, List.length_append, List.length_cons] at h ⊢
      omega)
    have hskip : skip (ws ++ (dump sep y ++ (dumpItems sep ys ++ rest))) =
        dump sep y ++ (dumpItems sep ys ++ rest) := by
      rw [hcs, List.cons_append, skip_append hall hc]
    rw [dumpItems, hws]
    simp only [List.cons_append, List.append_assoc]
    rw [skip_cons (by decide)]
    show (scanItems fuel (skip (ws ++ (dump sep y ++ (dumpItems sep ys ++ rest))))).bind _ = _
    rw [hskip, hrest]
    rfl

theorem fields_succ (hsep : sep.Valid) (ih : ReadsBack sep fuel) (k : String) {x : Json}
    (fields : List (String × Json)) (rest : List Char) (hx : Plain x)
    (hfields : PlainFields fields)
    (h : (dumpString k ++ sep.key ++ dump sep x ++ dumpFields sep fields).length < fuel + 1) :
    scanFields (fuel + 1) (dumpString k ++ sep.key ++ dump sep x ++ dumpFields sep fields ++ rest) =
      some ((k, x) :: fields, rest) := by
  simp only [List.length_append] at h
  obtain ⟨kws, hkey, hkall⟩ := hsep.key
  obtain ⟨c, cs, hcs, hc, -⟩ := dump_head sep hx
  have hkeyFuel : (dumpString k).length ≤ fuel + 1 := by omega
  have hkeyScan := scanString_dumpString k
    (sep.key ++ (dump sep x ++ (dumpFields sep fields ++ rest))) hkeyFuel
  have hscan := ih.value (dumpFields sep fields ++ rest) hx
    (stops_dumpFields hsep fields rest) (by
      have hpos : 0 < sep.key.length := by simp [hkey]
      have hquote : 0 < (dumpString k).length := by simp [dumpString]
      omega)
  have hskip : skip (kws ++ (dump sep x ++ (dumpFields sep fields ++ rest))) =
      dump sep x ++ (dumpFields sep fields ++ rest) := by
    rw [hcs, List.cons_append, skip_append hkall hc]
  unfold dumpString
  simp only [List.cons_append, List.append_assoc, List.nil_append]
  rw [scanFields, hkeyScan]
  simp only [Option.bind_eq_bind, Option.bind_some, hkey, List.cons_append]
  rw [skip_cons (by decide)]
  show (scanValue fuel (skip (kws ++ (dump sep x ++ (dumpFields sep fields ++ rest))))).bind _ = _
  rw [hskip, hscan]
  simp only [Option.bind_some, String.ofList_toList]
  cases fields with
  | nil =>
    rw [dumpFields, List.singleton_append, skip_cons (by decide)]
    rfl
  | cons field fields =>
    obtain ⟨j, y⟩ := field
    obtain ⟨ws, hws, hall⟩ := hsep.item
    have hrest := ih.fields j fields rest hfields.1 hfields.2 (by
      simp only [dumpFields, hws, List.length_append, List.length_cons] at h ⊢
      omega)
    have hskip : skip (ws ++ (dumpString j ++ sep.key ++ dump sep y ++ dumpFields sep fields ++
        rest)) = dumpString j ++ sep.key ++ dump sep y ++ dumpFields sep fields ++ rest := by
      unfold dumpString
      simp only [List.cons_append]
      rw [skip_append hall (by decide)]
    rw [dumpFields, hws]
    simp only [List.cons_append, List.append_assoc] at hskip hrest ⊢
    rw [skip_cons (by decide)]
    show (scanFields fuel (skip (ws ++ (dumpString j ++ (sep.key ++ (dump sep y ++
      (dumpFields sep fields ++ rest))))))).bind _ = _
    rw [hskip, hrest]
    rfl

end ReadsBack

theorem readsBack {sep : Separators} (hsep : sep.Valid) (fuel : ℕ) : ReadsBack sep fuel := by
  induction fuel with
  | zero => exact ⟨fun _ _ _ h => absurd h (Nat.not_lt_zero _),
      fun _ _ _ _ h => absurd h (Nat.not_lt_zero _),
      fun _ _ _ _ _ _ h => absurd h (Nat.not_lt_zero _)⟩
  | succ fuel ih => exact ⟨ih.value_succ, ih.items_succ hsep, ih.fields_succ hsep⟩

/-- What is written is read back. -/
theorem load_dump {sep : Separators} (hsep : sep.Valid) {v : Json} (hv : Plain v) :
    load (dump sep v) = some v := by
  have hscan := (readsBack hsep _).value [] hv nofun (Nat.lt_succ_self _)
  obtain ⟨c, cs, hcs, hc, -⟩ := dump_head sep hv
  have hskip : skip (dump sep v) = dump sep v := by rw [hcs, skip_cons hc]
  rw [List.append_nil] at hscan
  unfold load
  rw [hskip, hscan]
  rfl

end Json

end Mpango
