import Mpango.Library.Decimal
import Mathlib.Data.List.DropRight
import Mathlib.Data.Nat.Digits.Defs

/-!
# Identifiers and column texts

A `Uuid` is its 128 bits. It has one canonical spelling, `Uuid.text`, and many spellings a reader
accepts (`Uuid.parse`: upper case, no hyphens, braces, a URN prefix); the two meet in
`Uuid.parse_text`. `varchar n` is what a `VARCHAR(n)` column keeps of a text.
-/

namespace Mpango

/-- A universally unique identifier. -/
abbrev Uuid := BitVec 128

namespace Uuid

/-! ## The canonical spelling -/

/-- A hexadecimal digit, in lower case. -/
def hexDigit (d : ℕ) : Char :=
  if d < 10 then Char.ofNat ('0'.toNat + d) else Char.ofNat ('a'.toNat + (d - 10))

/-- The lowest `w` hexadecimal digits of a number, most significant first. -/
def hexDigits : ℕ → ℕ → List Char
  | 0, _ => []
  | w + 1, n => hexDigits w (n / 16) ++ [hexDigit (n % 16)]

/-- The 32 digits without hyphens. -/
def hex (u : Uuid) : String := String.ofList (hexDigits 32 u.toNat)

/-- The canonical text: groups of 8, 4, 4, 4 and 12 digits. -/
def text (u : Uuid) : String :=
  let h := hexDigits 32 u.toNat
  String.ofList (h.take 8 ++ '-' :: ((h.drop 8).take 4 ++ '-' :: ((h.drop 12).take 4 ++
    '-' :: ((h.drop 16).take 4 ++ '-' :: h.drop 20))))

/-! ## Reading any spelling -/

/-- The value of a hexadecimal digit in either case. -/
def digitValue? (c : Char) : Option ℕ :=
  if '0' ≤ c ∧ c ≤ '9' then some (c.toNat - '0'.toNat)
  else if 'a' ≤ c ∧ c ≤ 'f' then some (c.toNat - 'a'.toNat + 10)
  else if 'A' ≤ c ∧ c ≤ 'F' then some (c.toNat - 'A'.toNat + 10)
  else none

/-- The number a list of hexadecimal digits spells. -/
def hexValue? (acc : ℕ) (cs : List Char) : Option ℕ :=
  cs.foldlM (fun acc c => (digitValue? c).map (16 * acc + ·)) acc

/-- Remove every occurrence of a pattern, from left to right; the number counts the characters
of a match that are still to be skipped. -/
def eraseAll (pattern : List Char) : ℕ → List Char → List Char
  | _, [] => []
  | skip + 1, _ :: cs => eraseAll pattern skip cs
  | 0, c :: cs =>
    if pattern.isPrefixOf (c :: cs) then eraseAll pattern (pattern.length - 1) cs
    else c :: eraseAll pattern 0 cs

/-- Remove the braces at both ends. -/
def stripBraces (cs : List Char) : List Char :=
  (cs.dropWhile fun c => c = '{' ∨ c = '}').rdropWhile fun c => c = '{' ∨ c = '}'

/-- Read an identifier: the URN prefix, braces and hyphens are optional, the case is free. -/
def parse (s : String) : Option Uuid :=
  let cs := eraseAll "uuid:".toList 0 (eraseAll "urn:".toList 0 s.toList)
  let digits := (stripBraces cs).filter (· ≠ '-')
  if digits.length = 32 then (hexValue? 0 digits).map (BitVec.ofNat 128) else none

/-! ## Reading the canonical spelling -/

theorem digitValue?_hexDigit : ∀ d < 16, digitValue? (hexDigit d) = some d := by decide

/-- A digit is none of the characters a reader treats specially. -/
theorem hexDigit_ne : ∀ d < 16, hexDigit d ≠ '-' ∧ hexDigit d ≠ '{' ∧ hexDigit d ≠ '}' ∧
    hexDigit d ≠ 'u' := by decide

@[simp] theorem length_hexDigits (w n : ℕ) : (hexDigits w n).length = w := by
  induction w generalizing n with
  | zero => rfl
  | succ w ih => rw [hexDigits, List.length_append, ih, List.length_singleton]

theorem mem_hexDigits {w n : ℕ} {c : Char} (h : c ∈ hexDigits w n) : ∃ d < 16, c = hexDigit d := by
  induction w generalizing n with
  | zero => exact absurd h List.not_mem_nil
  | succ w ih =>
    rw [hexDigits, List.mem_append, List.mem_singleton] at h
    rcases h with h | rfl
    · exact ih h
    · exact ⟨n % 16, Nat.mod_lt _ (by decide), rfl⟩

/-- Reading the digits of `n` after `acc` appends them to `acc`. -/
theorem hexValue?_hexDigits (w n acc : ℕ) :
    hexValue? acc (hexDigits w n) = some (acc * 16 ^ w + n % 16 ^ w) := by
  induction w generalizing n with
  | zero => simp [hexDigits, hexValue?, Nat.mod_one]
  | succ w ih =>
    have hih := ih (n / 16)
    unfold hexValue? at hih ⊢
    rw [hexDigits, List.foldlM_append, hih]
    simp only [Option.bind_eq_bind, Option.bind_some, List.foldlM_cons, List.foldlM_nil,
      digitValue?_hexDigit _ (Nat.mod_lt n (by decide : 0 < 16)), Option.map_some]
    have hmod : n % 16 ^ (w + 1) = n % 16 + 16 * (n / 16 % 16 ^ w) := by
      rw [pow_succ', Nat.mod_mul]
    rw [hmod, pow_succ]
    simp only [Option.pure_def, Option.some.injEq]
    ring

theorem eraseAll_of_not_mem {p : Char} {ps cs : List Char} (h : ∀ c ∈ cs, c ≠ p) :
    eraseAll (p :: ps) 0 cs = cs := by
  induction cs with
  | nil => rfl
  | cons c cs ih =>
    have hc : (p :: ps).isPrefixOf (c :: cs) = false := by
      simp [List.isPrefixOf, (h c List.mem_cons_self).symm]
    rw [eraseAll, hc, if_neg (by simp), ih fun c hc => h c (List.mem_cons_of_mem _ hc)]

theorem stripBraces_of_not_mem {cs : List Char} (h : ∀ c ∈ cs, c ≠ '{' ∧ c ≠ '}') :
    stripBraces cs = cs := by
  have hno : ∀ c ∈ cs, decide (c = '{' ∨ c = '}') = false := fun c hc => by simpa using h c hc
  have hfront : (cs.dropWhile fun c => decide (c = '{' ∨ c = '}')) = cs := by
    cases cs with
    | nil => rfl
    | cons c cs => rw [List.dropWhile_cons, hno c List.mem_cons_self, if_neg (by simp)]
  unfold stripBraces
  rw [hfront, List.rdropWhile_eq_self_iff]
  intro hne
  simpa using h _ (List.getLast_mem hne)

/-- The canonical text without its hyphens is the plain hexadecimal text. -/
theorem filter_text (u : Uuid) : u.text.toList.filter (· ≠ '-') = hexDigits 32 u.toNat := by
  have hkeep : ∀ l : List Char, (∀ c ∈ l, c ∈ hexDigits 32 u.toNat) →
      l.filter (· ≠ '-') = l := by
    intro l hl
    refine List.filter_eq_self.mpr fun c hc => ?_
    obtain ⟨d, hd, rfl⟩ := mem_hexDigits (hl c hc)
    simpa using (hexDigit_ne d hd).1
  have htake : ∀ i j : ℕ, ∀ c ∈ ((hexDigits 32 u.toNat).drop i).take j,
      c ∈ hexDigits 32 u.toNat := fun i j c hc => List.mem_of_mem_drop (List.mem_of_mem_take hc)
  have hdrop : ∀ i : ℕ, ∀ c ∈ (hexDigits 32 u.toNat).drop i, c ∈ hexDigits 32 u.toNat :=
    fun i c hc => List.mem_of_mem_drop hc
  have hhead : ∀ c ∈ (hexDigits 32 u.toNat).take 8, c ∈ hexDigits 32 u.toNat :=
    fun c hc => List.mem_of_mem_take hc
  have hjoin : ∀ (l : List Char) (i j : ℕ),
      (l.drop i).take j ++ l.drop (i + j) = l.drop i := fun l i j => by
    rw [← List.drop_drop]; exact List.take_append_drop j (l.drop i)
  simp only [text, String.toList_ofList, List.filter_append, List.filter_cons, ne_eq,
    not_true_eq_false, decide_false, Bool.false_eq_true, if_false]
  simp only [ne_eq] at hkeep
  rw [hkeep _ hhead, hkeep _ (htake 8 4), hkeep _ (htake 12 4), hkeep _ (htake 16 4),
    hkeep _ (hdrop 20), hjoin _ 16 4, hjoin _ 12 4, hjoin _ 8 4, List.take_append_drop]

private theorem mem_text {u : Uuid} {c : Char} (h : c ∈ u.text.toList) :
    c = '-' ∨ ∃ d < 16, c = hexDigit d := by
  by_cases hc : c = '-'
  · exact .inl hc
  · refine .inr (mem_hexDigits (w := 32) (n := u.toNat) ?_)
    rw [← filter_text, List.mem_filter]
    exact ⟨h, by simpa using hc⟩

private theorem text_chars {u : Uuid} {c : Char} (h : c ∈ u.text.toList) :
    c ≠ '{' ∧ c ≠ '}' ∧ c ≠ 'u' := by
  rcases mem_text h with rfl | ⟨d, hd, rfl⟩
  · decide
  · exact (hexDigit_ne d hd).2

/-- The canonical spelling is read back as the identifier it spells. -/
theorem parse_text (u : Uuid) : parse u.text = some u := by
  have hu : ∀ c ∈ u.text.toList, c ≠ 'u' := fun c hc => (text_chars hc).2.2
  have hbraces : ∀ c ∈ u.text.toList, c ≠ '{' ∧ c ≠ '}' :=
    fun c hc => ⟨(text_chars hc).1, (text_chars hc).2.1⟩
  have hurn : "urn:".toList = 'u' :: "rn:".toList := by decide
  have huuid : "uuid:".toList = 'u' :: "uid:".toList := by decide
  unfold parse
  simp only [hurn, huuid]
  rw [eraseAll_of_not_mem hu, eraseAll_of_not_mem hu, stripBraces_of_not_mem hbraces, filter_text,
    if_pos (length_hexDigits 32 _), hexValue?_hexDigits, Option.map_some, zero_mul, zero_add,
    Nat.mod_eq_of_lt (by simpa using u.isLt)]
  simp

theorem text_ne_empty (u : Uuid) : u.text ≠ "" := by
  intro h
  have hparse := parse_text u
  rw [h] at hparse
  exact absurd hparse (by rw [show parse "" = none by decide +kernel]; nofun)

/-- Two identifiers with the same canonical text are the same. -/
@[simp] theorem text_inj {u v : Uuid} : u.text = v.text ↔ u = v := by
  refine ⟨fun h => ?_, fun h => h ▸ rfl⟩
  have := congrArg parse h
  rwa [parse_text, parse_text, Option.some.injEq] at this

/-- Two identifiers with the same digits are the same. -/
@[simp] theorem hex_inj {u v : Uuid} : u.hex = v.hex ↔ u = v := by
  refine ⟨fun h => ?_, fun h => h ▸ rfl⟩
  have hdigits : hexDigits 32 u.toNat = hexDigits 32 v.toNat := by
    simpa [hex] using congrArg String.toList h
  have hvalue := congrArg (hexValue? 0) hdigits
  rw [hexValue?_hexDigits, hexValue?_hexDigits, Option.some.injEq, zero_mul, zero_add, zero_add,
    Nat.mod_eq_of_lt (by simpa using u.isLt), Nat.mod_eq_of_lt (by simpa using v.isLt)] at hvalue
  exact BitVec.eq_of_toNat_eq hvalue

@[simp] theorem length_hex (u : Uuid) : u.hex.length = 32 := by
  rw [hex, String.length_ofList, length_hexDigits]

end Uuid

/-! ## Column texts -/

/-- Storing a text into `VARCHAR(n)`: a longer text is an error unless only blanks are cut off. -/
def varchar (n : ℕ) (s : String) : Option String :=
  if s.length ≤ n then some s
  else if (s.toList.drop n).all (· = ' ') then some (String.ofList (s.toList.take n))
  else none

theorem varchar_of_le {n : ℕ} {s : String} (h : s.length ≤ n) : varchar n s = some s := if_pos h

/-- What is stored is the text itself exactly when the text fits. -/
theorem varchar_eq_self_iff {n : ℕ} {s t : String} (h : varchar n s = some t) :
    t = s ↔ s.length ≤ n := by
  unfold varchar at h
  split at h
  · next hle => exact ⟨fun _ => hle, fun _ => (Option.some.inj h).symm⟩
  · next hle =>
    refine ⟨fun hts => ?_, fun hle' => absurd hle' hle⟩
    split at h
    · have hlen := congrArg String.length (Option.some.inj h)
      rw [hts, String.length_ofList, List.length_take, String.length_toList] at hlen
      omega
    · simp at h

/-- What is stored fits. -/
theorem varchar_length {n : ℕ} {s t : String} (h : varchar n s = some t) : t.length ≤ n := by
  unfold varchar at h
  split at h
  · next hle => exact Option.some.inj h ▸ hle
  · split at h
    · rw [← Option.some.inj h, String.length_ofList, List.length_take]
      exact min_le_left _ _
    · simp at h

/-- A stored text is not empty unless the text is. -/
theorem varchar_ne_empty {n : ℕ} {s t : String} (hn : 0 < n) (h : varchar n s = some t)
    (hs : s ≠ "") : t ≠ "" := by
  unfold varchar at h
  split at h
  · exact Option.some.inj h ▸ hs
  · split at h
    · next hle _ =>
      have hlen := congrArg String.length (Option.some.inj h)
      rw [String.length_ofList, List.length_take, String.length_toList] at hlen
      rintro rfl
      rw [String.length_empty] at hlen
      omega
    · simp at h

/-! ## Fields and separators -/

/-- A field that does not contain the separator after it is read back from a text. -/
theorem append_sep_inj {α : Type} {sep : α} {field field' rest rest' : List α} (h : sep ∉ field)
    (h' : sep ∉ field') :
    field ++ sep :: rest = field' ++ sep :: rest' ↔ field = field' ∧ rest = rest' := by
  constructor
  · intro heq
    induction field generalizing field' with
    | nil =>
      cases field' with
      | nil => exact ⟨rfl, (List.cons.inj heq).2⟩
      | cons a as => exact absurd ((List.cons.inj heq).1 ▸ List.mem_cons_self) h'
    | cons a as ih =>
      cases field' with
      | nil => exact absurd ((List.cons.inj heq).1 ▸ List.mem_cons_self) h
      | cons b bs =>
        obtain ⟨rfl, htail⟩ := List.cons.inj heq
        obtain ⟨rfl, hrest⟩ := ih (fun hmem => h (List.mem_cons_of_mem _ hmem))
          (fun hmem => h' (List.mem_cons_of_mem _ hmem)) htail
        exact ⟨rfl, hrest⟩
  · rintro ⟨rfl, rfl⟩
    rfl

/-- `str.partition`: what stands before and after the first separator. -/
def partition (sep : Char) (s : String) : String × String :=
  (String.ofList (s.toList.takeWhile (· ≠ sep)), String.ofList (s.toList.dropWhile (· ≠ sep)).tail)

/-- The characters Unicode counts as blank. -/
def isBlank (c : Char) : Bool :=
  let n := c.toNat
  9 ≤ n && n ≤ 13 || 28 ≤ n && n ≤ 32 || n = 0x85 || n = 0xA0 || n = 0x1680 ||
    0x2000 ≤ n && n ≤ 0x200A || n = 0x2028 || n = 0x2029 || n = 0x202F || n = 0x205F || n = 0x3000

/-- A text without the blanks at its ends. -/
def strip (s : String) : String :=
  String.ofList ((s.toList.dropWhile isBlank).rdropWhile isBlank)

theorem strip_of_not_blank {s : String} (h : ∀ c ∈ s.toList, isBlank c = false) : strip s = s := by
  have hfront : s.toList.dropWhile isBlank = s.toList := by
    cases hs : s.toList with
    | nil => rfl
    | cons c cs =>
      rw [List.dropWhile_cons, h c (by rw [hs]; exact List.mem_cons_self), if_neg (by simp)]
  have hback : s.toList.rdropWhile isBlank = s.toList := by
    rw [List.rdropWhile_eq_self_iff]
    intro hne
    simpa using h _ (List.getLast_mem hne)
  rw [strip, hfront, hback, String.ofList_toList]

/-- Trimming twice is trimming once. -/
theorem strip_strip (s : String) : strip (strip s) = strip s := by
  unfold strip
  rw [String.toList_ofList]
  -- what is left begins with what the front left first, which is not blank
  have hfront : ((s.toList.dropWhile isBlank).rdropWhile isBlank).dropWhile isBlank =
      (s.toList.dropWhile isBlank).rdropWhile isBlank := by
    obtain ⟨back, hback⟩ := List.rdropWhile_prefix isBlank (s.toList.dropWhile isBlank)
    rw [List.dropWhile_eq_self_iff]
    intro hlen hblank
    have hnonempty : 0 < (s.toList.dropWhile isBlank).length := by
      rw [← hback, List.length_append]
      omega
    have hfirst := (List.getElem_of_eq hback.symm hnonempty).trans (List.getElem_append_left hlen)
    apply List.dropWhile_get_zero_not isBlank s.toList hnonempty
    rw [List.get_eq_getElem, hfirst]
    exact hblank
  rw [hfront, List.rdropWhile_idempotent]

/-- A decimal in positional notation, with at least two places. -/
def Decimal.text (x : Decimal) : String :=
  let places := (((List.range 27).find? fun k => (x * 10 ^ (k + 2)).isInt).getD 26) + 2
  let digits := (Nat.digits 10 ((x * 10 ^ places).num.natAbs)).map fun d => Char.ofNat (48 + d)
  let padded := digits ++ List.replicate (places + 1 - digits.length) '0'
  (if x < 0 then "-" else "") ++
    String.ofList ((padded.drop places).reverse ++ '.' :: (padded.take places).reverse)

example : (1 : Uuid).text = "00000000-0000-0000-0000-000000000001" := by decide +kernel
example : Uuid.parse "{00000000-0000-0000-0000-00000000000A}" = some 10 := by decide +kernel
example : strip "  decl 7 " = "decl 7" := by decide +kernel
example : Decimal.text (-5 / 4) = "-1.25" := by decide +kernel

end Mpango
