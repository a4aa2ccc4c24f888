import Mathlib
import Mpango.Library.Text

/-!
# SQL tokens

How PostgreSQL cuts the text of an expression into tokens: words, which it folds to lower case,
quoted names and string constants, operators, and single marks. A number is read as words around
its point. `lexFrom` reads on from a mode, which holds back the token that may still grow.

Two rewritings of a text are followed through its tokens. `str.lower` changes what stands in quotes
only (`lexFrom_lower`), and so does joining the words of a text by single blanks (`lex_joinBlank`);
neither touches a token outside quotes.
-/

namespace Mpango

namespace Sql

inductive Token
  | word (name : List Char)
  | quoted (name : List Char)
  | text (value : List Char)
  | operator (name : List Char)
  | mark (c : Char)
  deriving DecidableEq

/-! ## Characters -/

def isWordChar (c : Char) : Bool := c.isAlphanum || c = '_' || c = '$'

def isOperatorChar (c : Char) : Bool :=
  c ∈ ['+', '-', '*', '/', '<', '>', '=', '~', '!', '@', '#', '%', '^', '&', '|', '\x60', '?', ':']

def isMark (c : Char) : Bool := c ∈ ['(', ')', '[', ']', ',', ';', '.']

/-- The blanks between tokens. -/
def isSpace (c : Char) : Bool := c ∈ [' ', '\t', '\n', '\r', '\x0b', '\x0c']

/-! ## Reading tokens -/

/-- What has been read of the token at hand, the last character first. After a closing quote the
token may go on with another quote. -/
inductive Mode
  | between
  | word (acc : List Char)
  | operator (acc : List Char)
  | text (acc : List Char)
  | textEnd (acc : List Char)
  | quoted (acc : List Char)
  | quotedEnd (acc : List Char)
  deriving DecidableEq

/-- The token a mode holds back, unless a quote is open. -/
def Mode.held : Mode → Option (List Token)
  | between => some []
  | word acc => some [.word acc.reverse]
  | operator acc => some [.operator acc.reverse]
  | textEnd acc => some [.text acc.reverse]
  | quotedEnd acc => some [.quoted acc.reverse]
  | text _ | quoted _ => none

/-- The token at hand with one more character, if it goes on. -/
def Mode.extend : Mode → Char → Option Mode
  | between, _ => none
  | word acc, c => if isWordChar c then some (.word (c.toLower :: acc)) else none
  | operator acc, c => if isOperatorChar c then some (.operator (c :: acc)) else none
  | text acc, c => some (if c = '\'' then .textEnd acc else .text (c :: acc))
  | textEnd acc, c => if c = '\'' then some (.text (c :: acc)) else none
  | quoted acc, c => some (if c = '"' then .quotedEnd acc else .quoted (c :: acc))
  | quotedEnd acc, c => if c = '"' then some (.quoted (c :: acc)) else none

/-- A character between tokens: the marks it is, and the token it begins. -/
def opens (c : Char) : Option (List Token × Mode) :=
  if isSpace c then some ([], .between)
  else if c = '\'' then some ([], .text [])
  else if c = '"' then some ([], .quoted [])
  else if isWordChar c then some ([], .word [c.toLower])
  else if isOperatorChar c then some ([], .operator [c])
  else if isMark c then some ([.mark c], .between)
  else none

def lexFrom : Mode → List Char → Option (List Token)
  | m, [] => m.held
  | m, c :: cs =>
    match m.extend c with
    | some m' => lexFrom m' cs
    | none =>
      match m.held, opens c with
      | some held, some (marks, m') => (lexFrom m' cs).map (held ++ marks ++ ·)
      | _, _ => none

/-- The tokens of a text. -/
def lex (cs : List Char) : Option (List Token) := lexFrom .between cs

example : lex "A IN ('it''s')".toList =
    some [.word ['a'], .word ['i', 'n'], .mark '(', .text ['i', 't', '\'', 's'], .mark ')'] := by
  decide +kernel

theorem lexFrom_of_extend {m m' : Mode} {c : Char} (h : m.extend c = some m') (cs : List Char) :
    lexFrom m (c :: cs) = lexFrom m' cs := by
  rw [lexFrom, h]

theorem lexFrom_of_opens {m m' : Mode} {c : Char} {held marks : List Token}
    (h : m.extend c = none) (hheld : m.held = some held) (hopens : opens c = some (marks, m'))
    (cs : List Char) : lexFrom m (c :: cs) = (lexFrom m' cs).map (held ++ marks ++ ·) := by
  rw [lexFrom, h, hheld, hopens]

/-- What a step of a reading can be. -/
theorem lexFrom_cons {m : Mode} {c : Char} {cs : List Char} {ts : List Token}
    (h : lexFrom m (c :: cs) = some ts) :
    (∃ m', m.extend c = some m' ∧ lexFrom m' cs = some ts) ∨
      ∃ held marks m' rest, m.extend c = none ∧ m.held = some held ∧ opens c = some (marks, m') ∧
        lexFrom m' cs = some rest ∧ ts = held ++ marks ++ rest := by
  rw [lexFrom] at h
  split at h
  · next m' hextend => exact .inl ⟨m', hextend, h⟩
  · next hextend =>
    split at h
    · next held marks m' hheld hopens =>
      obtain ⟨rest, hrest, rfl⟩ := Option.map_eq_some_iff.mp h
      exact .inr ⟨held, marks, m', rest, hextend, hheld, hopens, hrest, rfl⟩
    · cases h

/-! ## Texts one after the other -/

/-- Two characters that may belong to one token. -/
def glues (a c : Char) : Bool :=
  isWordChar a && isWordChar c || isOperatorChar a && isOperatorChar c ||
    a = '\'' && c = '\'' || a = '"' && c = '"'

theorem extend_eq_none_of_extend {m m' : Mode} {a c : Char} (h : m.extend a = some m')
    (hheld : m'.held.isSome) (hglue : glues a c = false) : m'.extend c = none := by
  cases m with
  | between => cases h
  | word acc =>
    simp only [Mode.extend, Option.ite_none_right_eq_some, Option.some.injEq] at h
    obtain ⟨ha, rfl⟩ := h
    simp_all [glues, Mode.extend]
  | operator acc =>
    simp only [Mode.extend, Option.ite_none_right_eq_some, Option.some.injEq] at h
    obtain ⟨ha, rfl⟩ := h
    simp_all [glues, Mode.extend]
  | text acc =>
    simp only [Mode.extend, Option.some.injEq] at h
    split at h
    · subst h
      simp_all [glues, Mode.extend]
    · subst h
      cases hheld
  | textEnd acc =>
    simp only [Mode.extend, Option.ite_none_right_eq_some, Option.some.injEq] at h
    obtain ⟨ha, rfl⟩ := h
    cases hheld
  | quoted acc =>
    simp only [Mode.extend, Option.some.injEq] at h
    split at h
    · subst h
      simp_all [glues, Mode.extend]
    · subst h
      cases hheld
  | quotedEnd acc =>
    simp only [Mode.extend, Option.ite_none_right_eq_some, Option.some.injEq] at h
    obtain ⟨ha, rfl⟩ := h
    cases hheld

theorem extend_eq_none_of_opens {m' : Mode} {a c : Char} {marks : List Token}
    (h : opens a = some (marks, m')) (hheld : m'.held.isSome) (hglue : glues a c = false) :
    m'.extend c = none := by
  unfold opens at h
  split at h
  · cases h
    rfl
  · split at h
    · cases h
      cases hheld
    · split at h
      · cases h
        cases hheld
      · split at h
        · cases h
          simp_all [glues, Mode.extend]
        · split at h
          · cases h
            simp_all [glues, Mode.extend]
          · split at h
            · cases h
              rfl
            · cases h

theorem lexFrom_flush {m : Mode} {c : Char} {held : List Token} (h : m.extend c = none)
    (hheld : m.held = some held) (cs : List Char) :
    lexFrom m (c :: cs) = (lex (c :: cs)).map (held ++ ·) := by
  have hbetween : Mode.between.extend c = none := rfl
  unfold lex
  rw [lexFrom, lexFrom, h, hheld, hbetween]
  cases opens c with
  | none => rfl
  | some opened =>
    obtain ⟨marks, m'⟩ := opened
    simp only [Mode.held, Option.map_map, List.nil_append]
    congr 1
    funext rest
    exact List.append_assoc ..

/-- A text that ends where a token ends is read before what follows. -/
theorem lexFrom_append {m : Mode} {w : List Char} {ts : List Token} (h : lexFrom m w = some ts)
    {c : Char} (hglue : ∀ a ∈ w.getLast?, glues a c = false) (hm : w = [] → m.extend c = none)
    (cs : List Char) : lexFrom m (w ++ c :: cs) = (lex (c :: cs)).map (ts ++ ·) := by
  induction w generalizing m ts with
  | nil => exact lexFrom_flush (hm rfl) h cs
  | cons a w ih =>
    have hlast : ∀ b ∈ w.getLast?, glues b c = false := fun b hb =>
      hglue b (by rw [List.getLast?_cons, Option.mem_def.mp hb]; rfl)
    have hfirst : w = [] → glues a c = false := by
      intro hw
      subst hw
      exact hglue a rfl
    rcases lexFrom_cons h with ⟨m', hextend, hrest⟩ | ⟨held, marks, m', rest, hextend, hheld,
      hopens, hrest, rfl⟩
    · rw [List.cons_append, lexFrom_of_extend hextend]
      refine ih hrest hlast fun hw => ?_
      subst hw
      exact extend_eq_none_of_extend hextend (Option.isSome_iff_exists.mpr ⟨_, hrest⟩) (hfirst rfl)
    · have hnext := ih hrest hlast fun hw => by
        subst hw
        exact extend_eq_none_of_opens hopens (Option.isSome_iff_exists.mpr ⟨_, hrest⟩) (hfirst rfl)
      rw [List.cons_append, lexFrom_of_opens hextend hheld hopens, hnext, Option.map_map]
      congr 1
      funext next
      simp only [Function.comp_apply, List.append_assoc]

/-- Two texts that do not touch are read one after the other. -/
theorem lex_append {w w' : List Char} {ts ts' : List Token} (h : lex w = some ts)
    (h' : lex w' = some ts') (hglue : ∀ a ∈ w.getLast?, ∀ c ∈ w'.head?, glues a c = false) :
    lex (w ++ w') = some (ts ++ ts') := by
  cases w' with
  | nil =>
    obtain rfl : [] = ts' := Option.some.inj h'
    rw [List.append_nil, List.append_nil, h]
  | cons c cs =>
    refine (lexFrom_append h (fun a ha => hglue a ha c rfl) (fun _ => rfl) cs).trans ?_
    rw [h', Option.map_some]

/-! ## Lower case -/

/-- What `str.lower` makes of one character, in whatever context it stands: of an ASCII character
its lower case, and of another one characters of which one is again outside ASCII, except that the
Kelvin sign becomes a letter. No quote comes from another character. -/
structure Lowered (c : Char) (ds : List Char) : Prop where
  ascii : c.toNat < 128 → ds = [c.toLower]
  other : 128 ≤ c.toNat → ds = ['k'] ∨ ∃ d ∈ ds, 128 ≤ d.toNat
  unquoted : ∀ d ∈ ds, (d = '\'' ∨ d = '"') → d = c

/-- `str.lower`. -/
structure Lower where
  lower : List Char → List Char
  pieces : ∀ s, ∃ pieces, List.Forall₂ Lowered s pieces ∧ lower s = pieces.flatten

/-- An ASCII text is lowered character by character. -/
theorem Lower.of_ascii (toLower : Lower) {s : List Char} (hs : ∀ c ∈ s, c.toNat < 128) :
    toLower.lower s = s.map Char.toLower := by
  obtain ⟨pieces, hpieces, hlower⟩ := toLower.pieces s
  rw [hlower]
  clear hlower
  induction hpieces with
  | nil => rfl
  | @cons c ds s pieces hc _ ih =>
    rw [List.flatten_cons, hc.ascii (hs c List.mem_cons_self),
      ih fun d hd => hs d (List.mem_cons_of_mem c hd)]
    rfl

/-- A text and what lower-casing can make of it. -/
def LowerText (w w' : List Char) : Prop :=
  ∃ pieces, List.Forall₂ Lowered w pieces ∧ w' = pieces.flatten

theorem LowerText.concat {w w' : List Char} (h : LowerText w w') {c : Char} {ds : List Char}
    (hc : Lowered c ds) : LowerText (w ++ [c]) (w' ++ ds) := by
  obtain ⟨pieces, hpieces, rfl⟩ := h
  refine ⟨pieces ++ [ds], List.rel_append hpieces (.cons hc .nil), ?_⟩
  rw [List.flatten_append, List.flatten_singleton]

/-- Tokens that differ in the case of what is quoted alone. -/
inductive LowerToken : Token → Token → Prop
  | word (name : List Char) : LowerToken (.word name) (.word name)
  | operator (name : List Char) : LowerToken (.operator name) (.operator name)
  | mark (c : Char) : LowerToken (.mark c) (.mark c)
  | quoted {w w' : List Char} : LowerText w w' → LowerToken (.quoted w) (.quoted w')
  | text {w w' : List Char} : LowerText w w' → LowerToken (.text w) (.text w')

/-- A property of the ASCII characters, checked one by one. -/
theorem ascii_forall {p : Char → Bool} (h : ((List.range 128).map Char.ofNat).all p = true)
    (c : Char) (hc : c.toNat < 128) : p c = true := by
  refine List.all_eq_true.mp h c (List.mem_map.mpr ⟨c.toNat, List.mem_range.mpr hc, ?_⟩)
  exact Char.ofNat_toNat c

theorem isAlphanum_ascii {c : Char} (h : c.isAlphanum = true) : c.toNat < 128 := by
  simp only [Char.isAlphanum, Char.isAlpha, Char.isUpper, Char.isLower, Char.isDigit,
    Bool.or_eq_true, Bool.and_eq_true, decide_eq_true_eq, ge_iff_le, UInt32.le_iff_toNat_le] at h
  have hval : c.toNat = c.val.toNat := rfl
  rcases h with (⟨-, h⟩ | ⟨-, h⟩) | ⟨-, h⟩
  all_goals
    refine lt_of_le_of_lt (hval ▸ h) ?_
    decide

theorem isWordChar_ascii {c : Char} (h : isWordChar c = true) : c.toNat < 128 := by
  simp only [isWordChar, Bool.or_eq_true, decide_eq_true_eq] at h
  rcases h with (h | rfl) | rfl
  · exact isAlphanum_ascii h
  · decide
  · decide

/-- A list of ASCII characters holds no other. -/
theorem ascii_of_mem {cs : List Char} (hcs : cs.all (·.toNat < 128) = true) {c : Char}
    (h : decide (c ∈ cs) = true) : c.toNat < 128 := by
  simpa using List.all_eq_true.mp hcs c (of_decide_eq_true h)

theorem isOperatorChar_ascii {c : Char} (h : isOperatorChar c = true) : c.toNat < 128 :=
  ascii_of_mem (by decide) h

/-- Outside quotes a token begins with an ASCII character. -/
theorem opens_ascii {c : Char} {opened : List Token × Mode} (h : opens c = some opened) :
    c.toNat < 128 := by
  unfold opens at h
  split at h
  · next hc => exact ascii_of_mem (by decide) hc
  · split at h
    · next hc => exact hc ▸ by decide
    · split at h
      · next hc => exact hc ▸ by decide
      · split at h
        · next hc => exact isWordChar_ascii hc
        · split at h
          · next hc => exact isOperatorChar_ascii hc
          · split at h
            · next hc => exact ascii_of_mem (by decide) hc
            · cases h

/-- How the ASCII characters fare in lower case. -/
theorem ascii_lower {c : Char} (hc : c.toNat < 128) :
    opens c.toLower = opens c ∧ isWordChar c.toLower = isWordChar c ∧
      isOperatorChar c.toLower = isOperatorChar c ∧ (isOperatorChar c = true → c.toLower = c) ∧
      c.toLower.toLower = c.toLower ∧ (c.toLower = '\'' → c = '\'') ∧
      (c.toLower = '"' → c = '"') :=
  of_decide_eq_true (ascii_forall (p := fun c =>
    opens c.toLower = opens c ∧ isWordChar c.toLower = isWordChar c ∧
      isOperatorChar c.toLower = isOperatorChar c ∧ (isOperatorChar c = true → c.toLower = c) ∧
      c.toLower.toLower = c.toLower ∧ (c.toLower = '\'' → c = '\'') ∧
      (c.toLower = '"' → c = '"')) (by decide +kernel) c hc)

/-- Outside quotes a token takes ASCII characters, whatever their case. -/
theorem opens_lower {c : Char} {ds : List Char} (hlower : Lowered c ds)
    {opened : List Token × Mode} (h : opens c = some opened) :
    ds = [c.toLower] ∧ opens c.toLower = some opened := by
  have hascii := opens_ascii h
  exact ⟨hlower.ascii hascii, (ascii_lower hascii).1.trans h⟩

/-- Modes that hold the same token up to the case of what is quoted. -/
inductive LowerMode : Mode → Mode → Prop
  | between : LowerMode .between .between
  | word (acc : List Char) : LowerMode (.word acc) (.word acc)
  | operator (acc : List Char) : LowerMode (.operator acc) (.operator acc)
  | text {acc acc' : List Char} : LowerText acc.reverse acc'.reverse →
      LowerMode (.text acc) (.text acc')
  | textEnd {acc acc' : List Char} : LowerText acc.reverse acc'.reverse →
      LowerMode (.textEnd acc) (.textEnd acc')
  | quoted {acc acc' : List Char} : LowerText acc.reverse acc'.reverse →
      LowerMode (.quoted acc) (.quoted acc')
  | quotedEnd {acc acc' : List Char} : LowerText acc.reverse acc'.reverse →
      LowerMode (.quotedEnd acc) (.quotedEnd acc')

theorem LowerMode.refl_of_opens {c : Char} {marks : List Token} {m : Mode}
    (h : opens c = some (marks, m)) : LowerMode m m ∧ List.Forall₂ LowerToken marks marks := by
  have hempty : LowerText [] [] := ⟨[], .nil, rfl⟩
  unfold opens at h
  split at h
  · cases h
    exact ⟨.between, .nil⟩
  · split at h
    · cases h
      exact ⟨.text hempty, .nil⟩
    · split at h
      · cases h
        exact ⟨.quoted hempty, .nil⟩
      · split at h
        · cases h
          exact ⟨.word _, .nil⟩
        · split at h
          · cases h
            exact ⟨.operator _, .nil⟩
          · split at h
            · cases h
              exact ⟨.between, .cons (.mark c) .nil⟩
            · cases h

theorem LowerMode.held {m m' : Mode} (h : LowerMode m m') {held : List Token}
    (hheld : m.held = some held) :
    ∃ held', m'.held = some held' ∧ List.Forall₂ LowerToken held held' := by
  cases h with
  | between => exact ⟨[], rfl, Option.some.inj hheld ▸ .nil⟩
  | word acc => exact ⟨_, rfl, Option.some.inj hheld ▸ .cons (.word _) .nil⟩
  | operator acc => exact ⟨_, rfl, Option.some.inj hheld ▸ .cons (.operator _) .nil⟩
  | text hacc => cases hheld
  | textEnd hacc => exact ⟨_, rfl, Option.some.inj hheld ▸ .cons (.text hacc) .nil⟩
  | quoted hacc => cases hheld
  | quotedEnd hacc => exact ⟨_, rfl, Option.some.inj hheld ▸ .cons (.quoted hacc) .nil⟩

/-- The characters between quotes are taken over as they are. -/
theorem lexFrom_text_append {ds : List Char} (hds : '\'' ∉ ds) (acc rest : List Char) :
    lexFrom (.text acc) (ds ++ rest) = lexFrom (.text (ds.reverse ++ acc)) rest := by
  induction ds generalizing acc with
  | nil => rfl
  | cons d ds ih =>
    have hd : d ≠ '\'' := fun h => hds (h ▸ List.mem_cons_self)
    have hextend : (Mode.text acc).extend d = some (.text (d :: acc)) := by
      simp only [Mode.extend, if_neg hd]
    rw [List.cons_append, lexFrom_of_extend hextend, ih fun h => hds (List.mem_cons_of_mem d h),
      List.reverse_cons, List.append_assoc, List.singleton_append]

theorem lexFrom_quoted_append {ds : List Char} (hds : '"' ∉ ds) (acc rest : List Char) :
    lexFrom (.quoted acc) (ds ++ rest) = lexFrom (.quoted (ds.reverse ++ acc)) rest := by
  induction ds generalizing acc with
  | nil => rfl
  | cons d ds ih =>
    have hd : d ≠ '"' := fun h => hds (h ▸ List.mem_cons_self)
    have hextend : (Mode.quoted acc).extend d = some (.quoted (d :: acc)) := by
      simp only [Mode.extend, if_neg hd]
    rw [List.cons_append, lexFrom_of_extend hextend, ih fun h => hds (List.mem_cons_of_mem d h),
      List.reverse_cons, List.append_assoc, List.singleton_append]

theorem Lowered.quote {ds : List Char} (h : Lowered '\'' ds) : ds = ['\''] := h.ascii (by decide)

theorem Lowered.doubleQuote {ds : List Char} (h : Lowered '"' ds) : ds = ['"'] :=
  h.ascii (by decide)

theorem isWordChar_toLower {c : Char} (hc : c.toNat < 128) :
    isWordChar c.toLower = isWordChar c := (ascii_lower hc).2.1

theorem isOperatorChar_toLower {c : Char} (hc : c.toNat < 128) :
    isOperatorChar c.toLower = isOperatorChar c := (ascii_lower hc).2.2.1

theorem toLower_of_isOperatorChar {c : Char} (h : isOperatorChar c = true) : c.toLower = c := by
  obtain ⟨-, -, -, hoperator, -⟩ := ascii_lower (isOperatorChar_ascii h)
  exact hoperator h

theorem toLower_toLower {c : Char} (hc : c.toNat < 128) : c.toLower.toLower = c.toLower := by
  obtain ⟨-, -, -, -, hlower, -⟩ := ascii_lower hc
  exact hlower

/-- No character is a quote in lower case that is none before. -/
theorem toLower_quote {c : Char} (hc : c.toNat < 128) :
    (c.toLower = '\'' → c = '\'') ∧ (c.toLower = '"' → c = '"') := by
  obtain ⟨-, -, -, -, -, hquotes⟩ := ascii_lower hc
  exact hquotes

/-- A token that goes on goes on in lower case. -/
theorem LowerMode.extend {m n m' : Mode} (h : LowerMode m n) {c : Char} {ds : List Char}
    (hlower : Lowered c ds) (hextend : m.extend c = some m') :
    ∃ n', LowerMode m' n' ∧ ∀ rest, lexFrom n (ds ++ rest) = lexFrom n' rest := by
  cases h with
  | between => cases hextend
  | word acc =>
    simp only [Mode.extend, Option.ite_none_right_eq_some, Option.some.injEq] at hextend
    obtain ⟨hc, rfl⟩ := hextend
    have hascii := isWordChar_ascii hc
    refine ⟨_, .word _, fun rest => ?_⟩
    rw [hlower.ascii hascii]
    refine lexFrom_of_extend ?_ rest
    rw [Mode.extend, isWordChar_toLower hascii, if_pos hc, toLower_toLower hascii]
  | operator acc =>
    simp only [Mode.extend, Option.ite_none_right_eq_some, Option.some.injEq] at hextend
    obtain ⟨hc, rfl⟩ := hextend
    refine ⟨_, .operator _, fun rest => ?_⟩
    rw [hlower.ascii (isOperatorChar_ascii hc), toLower_of_isOperatorChar hc]
    refine lexFrom_of_extend ?_ rest
    rw [Mode.extend, if_pos hc]
  | @text acc acc' hacc =>
    simp only [Mode.extend, Option.some.injEq] at hextend
    subst hextend
    by_cases hc : c = '\''
    · subst hc
      rw [hlower.quote]
      exact ⟨_, .textEnd hacc, fun rest => rfl⟩
    · have hds : '\'' ∉ ds := fun hmem => hc (hlower.unquoted _ hmem (.inl rfl)).symm
      rw [if_neg hc]
      refine ⟨.text (ds.reverse ++ acc'), .text ?_, lexFrom_text_append hds acc'⟩
      simpa using hacc.concat hlower
  | @textEnd acc acc' hacc =>
    simp only [Mode.extend, Option.ite_none_right_eq_some, Option.some.injEq] at hextend
    obtain ⟨rfl, rfl⟩ := hextend
    have hquote := hlower.quote
    subst hquote
    refine ⟨.text ('\'' :: acc'), .text ?_, fun rest => rfl⟩
    simpa using hacc.concat hlower
  | @quoted acc acc' hacc =>
    simp only [Mode.extend, Option.some.injEq] at hextend
    subst hextend
    by_cases hc : c = '"'
    · subst hc
      rw [hlower.doubleQuote]
      exact ⟨_, .quotedEnd hacc, fun rest => rfl⟩
    · have hds : '"' ∉ ds := fun hmem => hc (hlower.unquoted _ hmem (.inr rfl)).symm
      rw [if_neg hc]
      refine ⟨.quoted (ds.reverse ++ acc'), .quoted ?_, lexFrom_quoted_append hds acc'⟩
      simpa using hacc.concat hlower
  | @quotedEnd acc acc' hacc =>
    simp only [Mode.extend, Option.ite_none_right_eq_some, Option.some.injEq] at hextend
    obtain ⟨rfl, rfl⟩ := hextend
    have hquote := hlower.doubleQuote
    subst hquote
    refine ⟨.quoted ('"' :: acc'), .quoted ?_, fun rest => rfl⟩
    simpa using hacc.concat hlower

/-- A token that ends ends in lower case. -/
theorem LowerMode.extend_none {m n : Mode} (h : LowerMode m n) {c : Char} (hc : c.toNat < 128)
    (hextend : m.extend c = none) : n.extend c.toLower = none := by
  cases h with
  | between => rfl
  | word acc =>
    simp only [Mode.extend, ite_eq_right_iff, reduceCtorEq, imp_false] at hextend ⊢
    rwa [isWordChar_toLower hc]
  | operator acc =>
    simp only [Mode.extend, ite_eq_right_iff, reduceCtorEq, imp_false] at hextend ⊢
    rwa [isOperatorChar_toLower hc]
  | text hacc => cases hextend
  | textEnd hacc =>
    simp only [Mode.extend, ite_eq_right_iff, reduceCtorEq, imp_false] at hextend ⊢
    exact fun h => hextend ((toLower_quote hc).1 h)
  | quoted hacc => cases hextend
  | quotedEnd hacc =>
    simp only [Mode.extend, ite_eq_right_iff, reduceCtorEq, imp_false] at hextend ⊢
    exact fun h => hextend ((toLower_quote hc).2 h)

/-- A text is read into the same tokens after `str.lower`, up to the case of what is quoted. -/
theorem lexFrom_lower {s : List Char} {pieces : List (List Char)}
    (h : List.Forall₂ Lowered s pieces) {m n : Mode} (hmode : LowerMode m n) {ts : List Token}
    (hts : lexFrom m s = some ts) :
    ∃ ts', lexFrom n pieces.flatten = some ts' ∧ List.Forall₂ LowerToken ts ts' := by
  induction h generalizing m n ts with
  | nil => exact hmode.held hts
  | @cons c ds s pieces hlower _ ih =>
    rw [List.flatten_cons]
    rcases lexFrom_cons hts with ⟨m', hextend, hrest⟩ | ⟨held, marks, m', rest, hextend, hheld,
      hopens, hrest, rfl⟩
    · obtain ⟨n', hmode', hread⟩ := hmode.extend hlower hextend
      rw [hread]
      exact ih hmode' hrest
    · obtain ⟨held', hheld', hsame⟩ := hmode.held hheld
      obtain ⟨rfl, hopens'⟩ := opens_lower hlower hopens
      obtain ⟨hrefl, hmarks⟩ := LowerMode.refl_of_opens hopens
      obtain ⟨ts', hts', hrel⟩ := ih hrefl hrest
      refine ⟨held' ++ marks ++ ts', ?_, List.rel_append (List.rel_append hsame hmarks) hrel⟩
      have hnone := hmode.extend_none (opens_ascii hopens) hextend
      rw [List.singleton_append, lexFrom_of_opens hnone hheld' hopens', hts', Option.map_some]

/-! ## Single blanks -/

/-- `str.split`: the runs without blanks. -/
def splitBlank (cs : List Char) : List (List Char) := (cs.splitOnP isBlank).filter (· ≠ [])

/-- `" ".join(s.split())`. -/
def joinBlank (cs : List Char) : List Char := [' '].intercalate (splitBlank cs)

/-- What follows a character that is not blank. -/
def afterChar : List Char → List Char
  | [] => []
  | c :: cs =>
    if isBlank c then if joinBlank cs = [] then [] else ' ' :: joinBlank cs
    else joinBlank (c :: cs)

theorem splitBlank_of_blank {c : Char} (h : isBlank c = true) (cs : List Char) :
    splitBlank (c :: cs) = splitBlank cs := by
  simp [splitBlank, List.splitOnP_cons_eq_if_modifyHead, h]

theorem joinBlank_of_blank {c : Char} (h : isBlank c = true) (cs : List Char) :
    joinBlank (c :: cs) = joinBlank cs := by
  rw [joinBlank, splitBlank_of_blank h, joinBlank]

theorem ne_nil_of_mem_splitBlank {cs w : List Char} (h : w ∈ splitBlank cs) : w ≠ [] := by
  simpa using (List.mem_filter.mp h).2

theorem joinBlank_eq_nil {cs : List Char} : joinBlank cs = [] ↔ splitBlank cs = [] := by
  unfold joinBlank
  cases hws : splitBlank cs with
  | nil => exact iff_of_true rfl rfl
  | cons w ws =>
    have hmem : w ∈ splitBlank cs := hws ▸ List.mem_cons_self
    have hw : w ≠ [] := ne_nil_of_mem_splitBlank hmem
    refine iff_of_false ?_ (List.cons_ne_nil w ws)
    cases ws with
    | nil => rwa [List.intercalate_singleton]
    | cons v vs =>
      rw [List.intercalate_cons_cons]
      simp [hw]

theorem intercalate_cons_head (c : Char) (w : List Char) (ws : List (List Char)) :
    [' '].intercalate ((c :: w) :: ws) = c :: [' '].intercalate (w :: ws) := by
  cases ws with
  | nil => rw [List.intercalate_singleton, List.intercalate_singleton]
  | cons v vs => rw [List.intercalate_cons_cons, List.intercalate_cons_cons]; rfl

theorem joinBlank_of_not_blank {c : Char} (h : isBlank c = false) (cs : List Char) :
    joinBlank (c :: cs) = c :: afterChar cs := by
  cases cs with
  | nil => simp [joinBlank, splitBlank, afterChar, List.splitOnP_cons_eq_if_modifyHead, h]
  | cons d ds =>
    by_cases hd : isBlank d
    · have hsplit : splitBlank (c :: d :: ds) = [c] :: splitBlank ds := by
        simp [splitBlank, List.splitOnP_cons_eq_if_modifyHead, h, hd]
      rw [joinBlank, hsplit, intercalate_cons_head, afterChar, if_pos hd]
      split
      · next hnil =>
        rw [joinBlank_eq_nil.mp hnil]
        rfl
      · next hne =>
        cases hws : splitBlank ds with
        | nil => exact absurd (joinBlank_eq_nil.mpr hws) hne
        | cons w ws =>
          rw [List.intercalate_cons_cons, joinBlank, hws]
          rfl
    · obtain ⟨w, ws, hws⟩ := List.exists_cons_of_ne_nil (List.splitOnP_ne_nil isBlank ds)
      have hd' : splitBlank (d :: ds) = (d :: w) :: ws.filter (· ≠ []) := by
        simp [splitBlank, List.splitOnP_cons_eq_if_modifyHead, hd, hws]
      have hc : splitBlank (c :: d :: ds) = (c :: d :: w) :: ws.filter (· ≠ []) := by
        simp [splitBlank, List.splitOnP_cons_eq_if_modifyHead, h, hd, hws]
      rw [joinBlank, hc, intercalate_cons_head, afterChar, if_neg hd, joinBlank, hd']

/-- The only blank left is the space. -/
theorem eq_space_of_mem_joinBlank {s : List Char} {d : Char} (hd : isBlank d = true) :
    (d ∈ joinBlank s → d = ' ') ∧ (d ∈ afterChar s → d = ' ') := by
  induction s with
  | nil => exact ⟨fun h => absurd h List.not_mem_nil, fun h => absurd h List.not_mem_nil⟩
  | cons c cs ih =>
    by_cases hc : isBlank c
    · rw [joinBlank_of_blank hc, afterChar, if_pos hc]
      refine ⟨ih.1, fun h => ?_⟩
      split at h
      · exact absurd h List.not_mem_nil
      · rcases List.mem_cons.mp h with h | h
        · exact h
        · exact ih.1 h
    · have hc' : isBlank c = false := by simpa using hc
      have hjoin : d ∈ joinBlank (c :: cs) → d = ' ' := by
        rw [joinBlank_of_not_blank hc']
        intro h
        rcases List.mem_cons.mp h with rfl | h
        · exact absurd hd hc
        · exact ih.2 h
      rw [afterChar, if_neg hc]
      exact ⟨hjoin, hjoin⟩

/-- A text with every run of blanks as one blank, the last character first. -/
def collapseRev : List Char → List Char
  | [] => []
  | c :: acc =>
    if isBlank c then if acc.head?.any isBlank then collapseRev acc else ' ' :: collapseRev acc
    else c :: collapseRev acc

/-- A text with every run of blanks as one blank. -/
def collapse (w : List Char) : List Char := (collapseRev w.reverse).reverse

/-- Tokens that differ in the blanks of what is quoted alone. -/
inductive BlankToken : Token → Token → Prop
  | word (name : List Char) : BlankToken (.word name) (.word name)
  | operator (name : List Char) : BlankToken (.operator name) (.operator name)
  | mark (c : Char) : BlankToken (.mark c) (.mark c)
  | quoted (w : List Char) : BlankToken (.quoted w) (.quoted (collapse w))
  | text (w : List Char) : BlankToken (.text w) (.text (collapse w))

inductive BlankMode : Mode → Mode → Prop
  | between : BlankMode .between .between
  | word (acc : List Char) : BlankMode (.word acc) (.word acc)
  | operator (acc : List Char) : BlankMode (.operator acc) (.operator acc)
  | text (acc : List Char) : BlankMode (.text acc) (.text (collapseRev acc))
  | textEnd (acc : List Char) : BlankMode (.textEnd acc) (.textEnd (collapseRev acc))
  | quoted (acc : List Char) : BlankMode (.quoted acc) (.quoted (collapseRev acc))
  | quotedEnd (acc : List Char) : BlankMode (.quotedEnd acc) (.quotedEnd (collapseRev acc))

/-- The last character read into open quotes, if any. -/
def Mode.last : Mode → Option Char
  | text acc | quoted acc => acc.head?
  | _ => none

theorem BlankMode.held {m n : Mode} (h : BlankMode m n) {held : List Token}
    (hheld : m.held = some held) :
    ∃ held', n.held = some held' ∧ List.Forall₂ BlankToken held held' := by
  have hcollapse : ∀ acc, (collapseRev acc).reverse = collapse acc.reverse := fun acc => by
    rw [collapse, List.reverse_reverse]
  cases h with
  | between => exact ⟨[], rfl, Option.some.inj hheld ▸ .nil⟩
  | word acc => exact ⟨_, rfl, Option.some.inj hheld ▸ .cons (.word _) .nil⟩
  | operator acc => exact ⟨_, rfl, Option.some.inj hheld ▸ .cons (.operator _) .nil⟩
  | text acc => cases hheld
  | textEnd acc =>
    exact ⟨_, rfl, Option.some.inj hheld ▸ .cons (hcollapse acc ▸ .text acc.reverse) .nil⟩
  | quoted acc => cases hheld
  | quotedEnd acc =>
    exact ⟨_, rfl, Option.some.inj hheld ▸ .cons (hcollapse acc ▸ .quoted acc.reverse) .nil⟩

theorem collapseRev_cons {c : Char} (h : isBlank c = false) (acc : List Char) :
    collapseRev (c :: acc) = c :: collapseRev acc := by
  simp [collapseRev, h]

/-- A character that is not blank goes on with the same token. -/
theorem BlankMode.extend {m n : Mode} (h : BlankMode m n) {c : Char} (hc : isBlank c = false) :
    (∀ m', m.extend c = some m' → ∃ n', n.extend c = some n' ∧ BlankMode m' n' ∧
      ∀ b ∈ m'.last, isBlank b = false) ∧ (m.extend c = none → n.extend c = none) := by
  have hlast : ∀ acc : List Char, ∀ b ∈ (c :: acc).head?, isBlank b = false := by
    intro acc b hb
    rwa [← Option.some.inj hb]
  have hnone : ∀ b ∈ (none : Option Char), isBlank b = false := fun b hb => nomatch hb
  cases h with
  | between => exact ⟨fun m' h => (nomatch h), fun _ => rfl⟩
  | word acc =>
    refine ⟨fun m' h => ?_, id⟩
    simp only [Mode.extend, Option.ite_none_right_eq_some, Option.some.injEq] at h
    obtain ⟨hchar, rfl⟩ := h
    exact ⟨_, if_pos hchar, .word _, hnone⟩
  | operator acc =>
    refine ⟨fun m' h => ?_, id⟩
    simp only [Mode.extend, Option.ite_none_right_eq_some, Option.some.injEq] at h
    obtain ⟨hchar, rfl⟩ := h
    exact ⟨_, if_pos hchar, .operator _, hnone⟩
  | text acc =>
    refine ⟨fun m' h => ?_, fun h => (nomatch h)⟩
    obtain rfl := Option.some.inj h
    refine ⟨_, rfl, ?_⟩
    split
    · exact ⟨.textEnd acc, hnone⟩
    · exact ⟨collapseRev_cons hc acc ▸ .text (c :: acc), hlast acc⟩
  | textEnd acc =>
    refine ⟨fun m' h => ?_, fun h => ?_⟩
    · simp only [Mode.extend, Option.ite_none_right_eq_some, Option.some.injEq] at h
      obtain ⟨hchar, rfl⟩ := h
      exact ⟨_, if_pos hchar, collapseRev_cons hc acc ▸ .text (c :: acc), hlast acc⟩
    · simp only [Mode.extend, ite_eq_right_iff, reduceCtorEq, imp_false] at h ⊢
      exact h
  | quoted acc =>
    refine ⟨fun m' h => ?_, fun h => (nomatch h)⟩
    obtain rfl := Option.some.inj h
    refine ⟨_, rfl, ?_⟩
    split
    · exact ⟨.quotedEnd acc, hnone⟩
    · exact ⟨collapseRev_cons hc acc ▸ .quoted (c :: acc), hlast acc⟩
  | quotedEnd acc =>
    refine ⟨fun m' h => ?_, fun h => ?_⟩
    · simp only [Mode.extend, Option.ite_none_right_eq_some, Option.some.injEq] at h
      obtain ⟨hchar, rfl⟩ := h
      exact ⟨_, if_pos hchar, collapseRev_cons hc acc ▸ .quoted (c :: acc), hlast acc⟩
    · simp only [Mode.extend, ite_eq_right_iff, reduceCtorEq, imp_false] at h ⊢
      exact h

theorem BlankMode.refl_of_opens {c : Char} {marks : List Token} {m : Mode}
    (h : opens c = some (marks, m)) :
    BlankMode m m ∧ List.Forall₂ BlankToken marks marks ∧ ∀ b ∈ m.last, isBlank b = false := by
  have hnone : ∀ b ∈ (none : Option Char), isBlank b = false := fun b hb => nomatch hb
  unfold opens at h
  split at h
  · cases h
    exact ⟨.between, .nil, hnone⟩
  · split at h
    · cases h
      exact ⟨.text [], .nil, hnone⟩
    · split at h
      · cases h
        exact ⟨.quoted [], .nil, hnone⟩
      · split at h
        · cases h
          exact ⟨.word _, .nil, hnone⟩
        · split at h
          · cases h
            exact ⟨.operator _, .nil, hnone⟩
          · split at h
            · cases h
              exact ⟨.between, .cons (.mark c) .nil, hnone⟩
            · cases h

/-- How the ASCII blanks are read. -/
theorem ascii_blank {c : Char} (hascii : c.toNat < 128) (hc : isBlank c = true) :
    (opens c = none ∨ opens c = some ([], .between)) ∧ isWordChar c = false ∧
      isOperatorChar c = false :=
  of_decide_eq_true (ascii_forall (p := fun c => isBlank c = true →
    (opens c = none ∨ opens c = some ([], .between)) ∧ isWordChar c = false ∧
      isOperatorChar c = false) (by decide +kernel) c hascii) hc

/-- A blank outside quotes begins no token. -/
theorem opens_of_blank {c : Char} (hc : isBlank c = true) {opened : List Token × Mode}
    (h : opens c = some opened) : opened = ([], .between) := by
  rcases (ascii_blank (opens_ascii h) hc).1 with hnone | hsome
  · rw [hnone] at h
    cases h
  · rw [hsome] at h
    exact (Option.some.inj h).symm

theorem isWordChar_of_blank {c : Char} (hc : isBlank c = true) : isWordChar c = false := by
  by_contra h
  have hword : isWordChar c = true := by simpa using h
  exact h (ascii_blank (isWordChar_ascii hword) hc).2.1

theorem isOperatorChar_of_blank {c : Char} (hc : isBlank c = true) : isOperatorChar c = false := by
  by_contra h
  have hoperator : isOperatorChar c = true := by simpa using h
  exact h (ascii_blank (isOperatorChar_ascii hoperator) hc).2.2

/-- A mode in which a blank has just been read. -/
def Mode.Gap : Mode → Prop
  | between => True
  | text acc | quoted acc => acc.head?.any isBlank = true
  | _ => False

/-- What the tokens of a text are compared with, read on from two modes. -/
def ReadsAlike (m n : Mode) (s s' : List Char) : Prop :=
  ∀ ts, lexFrom m s = some ts →
    ∃ ts', lexFrom n s' = some ts' ∧ List.Forall₂ BlankToken ts ts'

/-- A character that is not blank is read alike, if what follows is. -/
theorem readsAlike_char {m n : Mode} (h : BlankMode m n) {c : Char} (hc : isBlank c = false)
    {cs : List Char} (ih : ∀ m' n', BlankMode m' n' → (∀ b ∈ m'.last, isBlank b = false) →
      ReadsAlike m' n' cs (afterChar cs)) : ReadsAlike m n (c :: cs) (c :: afterChar cs) := by
  intro ts hts
  rcases lexFrom_cons hts with ⟨m', hextend, hrest⟩ | ⟨held, marks, m', rest, hextend, hheld,
    hopens, hrest, rfl⟩
  · obtain ⟨n', hextend', hmode, hlast⟩ := (h.extend hc).1 m' hextend
    rw [lexFrom_of_extend hextend']
    exact ih m' n' hmode hlast ts hrest
  · obtain ⟨held', hheld', hsame⟩ := h.held hheld
    obtain ⟨hrefl, hmarks, hlast⟩ := BlankMode.refl_of_opens hopens
    obtain ⟨ts', hts', hrel⟩ := ih m' m' hrefl hlast rest hrest
    refine ⟨held' ++ marks ++ ts', ?_, List.rel_append (List.rel_append hsame hmarks) hrel⟩
    rw [lexFrom_of_opens ((h.extend hc).2 hextend) hheld' hopens, hts', Option.map_some]

/-- Within a run of blanks nothing more is read. -/
theorem BlankMode.gap {m n : Mode} (h : BlankMode m n) (hgap : m.Gap) {c : Char}
    (hc : isBlank c = true) {cs : List Char} {ts : List Token}
    (hts : lexFrom m (c :: cs) = some ts) :
    ∃ m', BlankMode m' n ∧ m'.Gap ∧ lexFrom m' cs = some ts := by
  have hquote : c ≠ '\'' ∧ c ≠ '"' := by
    constructor <;> (rintro rfl; exact absurd hc (by decide))
  have hsame : ∀ acc : List Char, acc.head?.any isBlank = true →
      collapseRev (c :: acc) = collapseRev acc := fun acc hacc => by
    rw [collapseRev, if_pos hc, if_pos hacc]
  cases h with
  | between =>
    rcases lexFrom_cons hts with ⟨m', hextend, -⟩ | ⟨held, marks, m', rest, -, hheld, hopens, hrest,
      rfl⟩
    · cases hextend
    · cases opens_of_blank hc hopens
      cases hheld
      exact ⟨.between, .between, trivial, hrest⟩
  | text acc =>
    have hextend : (Mode.text acc).extend c = some (.text (c :: acc)) := by
      simp only [Mode.extend, if_neg hquote.1]
    rw [lexFrom_of_extend hextend] at hts
    exact ⟨.text (c :: acc), hsame acc hgap ▸ .text (c :: acc), by simpa [Mode.Gap] using hc, hts⟩
  | quoted acc =>
    have hextend : (Mode.quoted acc).extend c = some (.quoted (c :: acc)) := by
      simp only [Mode.extend, if_neg hquote.2]
    rw [lexFrom_of_extend hextend] at hts
    exact ⟨.quoted (c :: acc), hsame acc hgap ▸ .quoted (c :: acc), by simpa [Mode.Gap] using hc,
      hts⟩
  | word acc => exact hgap.elim
  | operator acc => exact hgap.elim
  | textEnd acc => exact hgap.elim
  | quotedEnd acc => exact hgap.elim

theorem extend_space {n : Mode} (h : n.held.isSome) : n.extend ' ' = none := by
  cases n with
  | text acc => cases h
  | quoted acc => cases h
  | _ => rfl

/-- The first blank of a run ends a token outside quotes, and is one blank in quotes. -/
theorem BlankMode.blank {m n : Mode} (h : BlankMode m n) (hlast : ∀ b ∈ m.last, isBlank b = false)
    {c : Char} (hc : isBlank c = true) {cs : List Char} {ts : List Token}
    (hts : lexFrom m (c :: cs) = some ts) :
    ∃ m' n' rest, BlankMode m' n' ∧ m'.Gap ∧ lexFrom m' cs = some rest ∧
      ∀ rest', List.Forall₂ BlankToken rest rest' → ∀ s', lexFrom n' s' = some rest' →
        ∃ ts', lexFrom n (if s' = [] then [] else ' ' :: s') = some ts' ∧
          List.Forall₂ BlankToken ts ts' := by
  have hquote : c ≠ '\'' ∧ c ≠ '"' := by
    constructor <;> (rintro rfl; exact absurd hc (by decide))
  rcases lexFrom_cons hts with ⟨m', hextend, hrest⟩ | ⟨held, marks, m', rest, hextend, hheld,
    hopens, hrest, rfl⟩
  · -- only open quotes go on with a blank
    have hcollapse : ∀ acc : List Char, (∀ b ∈ acc.head?, isBlank b = false) →
        collapseRev (c :: acc) = ' ' :: collapseRev acc := fun acc hacc => by
      rw [collapseRev, if_pos hc, if_neg]
      cases acc with
      | nil => simp
      | cons b acc => simpa using hacc b rfl
    have hgap : ∀ acc : List Char, (c :: acc).head?.any isBlank = true := fun acc => hc
    cases h with
    | between => cases hextend
    | word acc =>
      simp [Mode.extend, isWordChar_of_blank hc] at hextend
    | operator acc =>
      simp [Mode.extend, isOperatorChar_of_blank hc] at hextend
    | text acc =>
      simp only [Mode.extend, if_neg hquote.1, Option.some.injEq] at hextend
      subst hextend
      refine ⟨_, _, ts, .text (c :: acc), hgap acc, hrest, fun rest' hrel s' hs' => ⟨rest', ?_, hrel⟩⟩
      rw [hcollapse acc hlast] at hs'
      cases s' with
      | nil => cases hs'
      | cons d s' => exact hs'
    | textEnd acc =>
      simp [Mode.extend, hquote.1] at hextend
    | quoted acc =>
      simp only [Mode.extend, if_neg hquote.2, Option.some.injEq] at hextend
      subst hextend
      refine ⟨_, _, ts, .quoted (c :: acc), hgap acc, hrest,
        fun rest' hrel s' hs' => ⟨rest', ?_, hrel⟩⟩
      rw [hcollapse acc hlast] at hs'
      cases s' with
      | nil => cases hs'
      | cons d s' => exact hs'
    | quotedEnd acc =>
      simp [Mode.extend, hquote.2] at hextend
  · obtain ⟨held', hheld', hsame⟩ := h.held hheld
    cases opens_of_blank hc hopens
    refine ⟨.between, .between, rest, .between, trivial, hrest, fun rest' hrel s' hs' => ?_⟩
    refine ⟨held' ++ rest', ?_, by simpa using List.rel_append hsame hrel⟩
    split
    · next hnil =>
      subst hnil
      obtain rfl : [] = rest' := Option.some.inj hs'
      rw [List.append_nil]
      exact hheld'
    · have hspace := extend_space (Option.isSome_iff_exists.mpr ⟨_, hheld'⟩)
      rw [lexFrom_of_opens hspace hheld' rfl, hs', Option.map_some, List.append_nil]

theorem lexFrom_blank (s : List Char) :
    (∀ m n, BlankMode m n → (∀ b ∈ m.last, isBlank b = false) → ReadsAlike m n s (afterChar s)) ∧
      ∀ m n, BlankMode m n → m.Gap → ReadsAlike m n s (joinBlank s) := by
  induction s with
  | nil => exact ⟨fun m n h _ ts hts => h.held hts, fun m n h _ ts hts => h.held hts⟩
  | cons c cs ih =>
    by_cases hc : isBlank c
    · refine ⟨fun m n h hlast ts hts => ?_, fun m n h hgap ts hts => ?_⟩
      · obtain ⟨m', n', rest, hmode, hgap, hrest, hread⟩ := h.blank hlast hc hts
        obtain ⟨rest', hrest', hrel⟩ := ih.2 m' n' hmode hgap rest hrest
        rw [afterChar, if_pos hc]
        exact hread rest' hrel _ hrest'
      · obtain ⟨m', hmode, hgap', hrest⟩ := h.gap hgap hc hts
        rw [joinBlank_of_blank hc]
        exact ih.2 m' n hmode hgap' ts hrest
    · have hc : isBlank c = false := by simpa using hc
      refine ⟨fun m n h _ => ?_, fun m n h _ => ?_⟩
      · rw [afterChar, if_neg (by simp [hc]), joinBlank_of_not_blank hc]
        exact readsAlike_char h hc ih.1
      · rw [joinBlank_of_not_blank hc]
        exact readsAlike_char h hc ih.1

/-- A text is read into the same tokens with single blanks, up to the blanks of what is quoted. -/
theorem lex_joinBlank {s : List Char} {ts : List Token} (h : lex s = some ts) :
    ∃ ts', lex (joinBlank s) = some ts' ∧ List.Forall₂ BlankToken ts ts' :=
  (lexFrom_blank s).2 .between .between .between trivial ts h

/-! ## Both at once -/

/-- Tokens that differ in what is quoted alone, by its case and its blanks. -/
inductive Alike : Token → Token → Prop
  | word (name : List Char) : Alike (.word name) (.word name)
  | operator (name : List Char) : Alike (.operator name) (.operator name)
  | mark (c : Char) : Alike (.mark c) (.mark c)
  | quoted {w w' : List Char} : LowerText w w' → Alike (.quoted w) (.quoted (collapse w'))
  | text {w w' : List Char} : LowerText w w' → Alike (.text w) (.text (collapse w'))

theorem LowerToken.alike {t t' t'' : Token} (h : LowerToken t t') (h' : BlankToken t' t'') :
    Alike t t'' := by
  cases h with
  | word name => cases h'; exact .word name
  | operator name => cases h'; exact .operator name
  | mark c => cases h'; exact .mark c
  | quoted h => cases h'; exact .quoted h
  | text h => cases h'; exact .text h

theorem alike_of_forall₂ {ts ts' ts'' : List Token} (h : List.Forall₂ LowerToken ts ts')
    (h' : List.Forall₂ BlankToken ts' ts'') : List.Forall₂ Alike ts ts'' := by
  induction h generalizing ts'' with
  | nil => cases h'; exact .nil
  | cons htoken _ ih =>
    cases h' with
    | cons htoken' hrest => exact .cons (htoken.alike htoken') (ih hrest)

/-- A text in lower case with single blanks is read into the tokens of the text. -/
theorem lex_normalized (toLower : Lower) {s : List Char} {ts : List Token} (h : lex s = some ts) :
    ∃ ts', lex (joinBlank (toLower.lower s)) = some ts' ∧ List.Forall₂ Alike ts ts' := by
  obtain ⟨pieces, hpieces, hlower⟩ := toLower.pieces s
  obtain ⟨lowered, hlowered, hfirst⟩ := lexFrom_lower hpieces .between h
  obtain ⟨ts', hts', hsecond⟩ := lex_joinBlank hlowered
  exact ⟨ts', hlower ▸ hts', alike_of_forall₂ hfirst hsecond⟩

theorem collapseRev_eq_self {acc : List Char} (h : ∀ d ∈ collapseRev acc, isBlank d = false) :
    collapseRev acc = acc := by
  induction acc with
  | nil => rfl
  | cons c acc ih =>
    rw [collapseRev] at h ⊢
    split at h
    · split at h
      · next hhead =>
        -- the blank before it would be left
        cases acc with
        | nil => cases hhead
        | cons b acc =>
          have hb : b ∈ collapseRev (b :: acc) := by
            rw [ih h]
            exact List.mem_cons_self
          have hblank : isBlank b = true := hhead
          rw [h b hb] at hblank
          cases hblank
      · exact absurd (h ' ' List.mem_cons_self) (by decide)
    · next hc => rw [if_neg hc, ih fun d hd => h d (List.mem_cons_of_mem c hd)]

/-- Only the ASCII spellings of a word without a `k` become it in lower case. -/
theorem map_toLower_of_lowerText {w v : List Char} (h : LowerText w v)
    (hv : ∀ d ∈ v, d.toNat < 128 ∧ d ≠ 'k') : w.map Char.toLower = v := by
  obtain ⟨pieces, hpieces, rfl⟩ := h
  induction hpieces with
  | nil => rfl
  | @cons c ds w pieces hc _ ih =>
    rw [List.flatten_cons] at hv
    have hds : ∀ d ∈ ds, d.toNat < 128 ∧ d ≠ 'k' := fun d hd => hv d (List.mem_append_left _ hd)
    have hascii : c.toNat < 128 := by
      by_contra hlarge
      rcases hc.other (Nat.le_of_not_lt hlarge) with rfl | ⟨d, hd, hlarge'⟩
      · exact (hds 'k' List.mem_cons_self).2 rfl
      · exact absurd (hds d hd).1 (Nat.not_lt.mpr hlarge')
    rw [List.map_cons, List.flatten_cons, hc.ascii hascii,
      ih fun d hd => hv d (List.mem_append_right _ hd)]
    rfl

/-- A constant that reads as a plain word after both is a spelling of it. -/
theorem Alike.text_eq {w v : List Char} (h : Alike (.text w) (.text v))
    (hv : ∀ d ∈ v, d.toNat < 128 ∧ d ≠ 'k' ∧ isBlank d = false) : w.map Char.toLower = v := by
  cases h with
  | @text _ w' hlower =>
    have hblank : ∀ d ∈ collapseRev w'.reverse, isBlank d = false := fun d hd =>
      (hv d (List.mem_reverse.mpr hd)).2.2
    have hsame : collapse w' = w' := by
      rw [collapse, collapseRev_eq_self hblank, List.reverse_reverse]
    rw [hsame] at hv ⊢
    exact map_toLower_of_lowerText hlower fun d hd => ⟨(hv d hd).1, (hv d hd).2.1⟩

theorem toLower_of_not_ascii {c : Char} (hc : 128 ≤ c.toNat) : c.toLower = c := by
  unfold Char.toLower
  refine dif_neg fun h => ?_
  have hle : c.toNat ≤ 90 := UInt32.le_iff_toNat_le.mp h.2
  omega

/-- The lower case of texts that are ASCII throughout. -/
def Lower.ascii : Lower where
  lower := List.map Char.toLower
  pieces s := by
    refine ⟨s.map fun c => [c.toLower], ?_, ?_⟩
    · rw [List.forall₂_map_right_iff, List.forall₂_same]
      intro c _
      refine ⟨fun _ => rfl, fun hc => .inr ⟨c.toLower, List.mem_cons_self, ?_⟩, fun d hd h => ?_⟩
      · rwa [toLower_of_not_ascii hc]
      · obtain rfl := List.mem_singleton.mp hd
        by_cases hc : c.toNat < 128
        · rcases h with h | h
          · rw [h, (toLower_quote hc).1 h]
          · rw [h, (toLower_quote hc).2 h]
        · exact toLower_of_not_ascii (Nat.le_of_not_lt hc)
    · induction s with
      | nil => rfl
      | cons c s ih => rw [List.map_cons, List.map_cons, List.flatten_cons, ih]; rfl

end Sql

end Mpango
