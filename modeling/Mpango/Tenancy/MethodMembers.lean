import Mpango.Model.MethodIntegrity

/-!
# Membership tests

The constraints the recogniser of migration 032 is after, by their tokens: `method` is one of a list
of text constants, either by `= ANY (ARRAY[…])` or by `IN (…)`, with casts to text types at most
(`Membership`). What it accepts is such a test, if no other type is named (`membership_of_members`):
the expression it matches is read into tokens piece by piece, and the tokens of the constraint are
the same but for what is quoted.
-/

namespace Mpango

namespace MethodIntegrity

open Sql

/-! ## Tests by their tokens -/

def TextType.tokens : TextType → List Token
  | .text => [.word "text".toList]
  | .varchar => [.word "character".toList, .word "varying".toList]

def castTokens : Option TextType → List Token
  | none => []
  | some type => .operator [':', ':'] :: type.tokens

def arrayCastTokens : Option TextType → List Token
  | none => []
  | some type => .operator [':', ':'] :: (type.tokens ++ [.mark '[', .mark ']'])

/-- A constant of a list, and the type it is cast to. -/
structure Member where
  value : List Char
  type : Option TextType

/-- The tokens of a list, with a comma between two members. -/
def memberTokens : List Member → List Token
  | [] => []
  | [m] => .text m.value :: castTokens m.type
  | m :: ms => .text m.value :: (castTokens m.type ++ .mark ',' :: memberTokens ms)

/-- `method`, in brackets or not. -/
def methodTokens (bracketed : Bool) : List Token :=
  if bracketed then [.mark '(', .word "method".toList, .mark ')'] else [.word "method".toList]

inductive Membership
  | any (bracketed : Bool) (type : Option TextType) (members : List Member)
    (arrayType : Option TextType)
  | within (bracketed : Bool) (members : List Member)

namespace Membership

def members : Membership → List Member
  | any _ _ members _ => members
  | within _ members => members

/-- The constants of the list. -/
def values (test : Membership) : List (List Char) := test.members.map (·.value)

def tokens : Membership → List Token
  | any bracketed type members arrayType =>
    methodTokens bracketed ++ (castTokens type ++
      [.operator ['='], .word "any".toList, .mark '(', .word "array".toList, .mark '['] ++
      memberTokens members ++ .mark ']' :: (arrayCastTokens arrayType ++ [.mark ')']))
  | within bracketed members =>
    methodTokens bracketed ++ [.word "in".toList, .mark '('] ++ memberTokens members ++ [.mark ')']

end Membership

/-- What a CHECK expression, given by its tokens, allows of the texts of `method`. A membership test
over text types allows its constants. -/
structure Postgres where
  holds : List Token → String → Prop
  membership : ∀ (test : Membership) (m : String), holds test.tokens m ↔ m.toList ∈ test.values

/-! ## Conditions on tokens -/

/-- A token of the name of a type: a word, or the point of a qualified name. -/
def isTypeToken : Token → Bool
  | .word _ => true
  | .mark c => c = '.'
  | _ => false

/-- The name that begins a list of tokens. -/
def typeRun (ts : List Token) : List Token := ts.takeWhile isTypeToken

/-- Every cast is to a type of texts. -/
def TextCasts (ts : List Token) : Prop :=
  ∀ rest, .operator [':', ':'] :: rest <:+ ts → ∃ type : TextType, typeRun rest = type.tokens

/-- The round brackets that are open after the tokens. -/
def depthFrom : ℕ → List Token → Option ℕ
  | depth, [] => some depth
  | depth, .mark c :: ts =>
    if c = '(' then depthFrom (depth + 1) ts
    else if c = ')' then if depth = 0 then none else depthFrom (depth - 1) ts
    else depthFrom depth ts
  | depth, _ :: ts => depthFrom depth ts

/-- A text PostgreSQL prints: it has tokens, and their brackets are balanced. -/
structure Printed (text : String) (ts : List Token) : Prop where
  reads : lex text.toList = some ts
  balanced : depthFrom 0 ts = some 0

/-! ## Reading pieces -/

/-- How the ASCII characters of the pieces are read. -/
theorem ascii_pieces {c : Char} (hc : c.toNat < 128) :
    (isMark c = true → opens c = some ([.mark c], .between) ∧ isWordChar c = false ∧
      isOperatorChar c = false ∧ c ≠ '\'' ∧ c ≠ '"') ∧
    (isTypeWordChar c = true → c.toLower = c ∧ opens c = some ([], .word [c])) ∧
    (isTypeWordChar c = true ∨ isTypeChar c = true →
      isOperatorChar c = false ∧ c ≠ '\'' ∧ c ≠ '"') ∧
    (isTypeStart c = true → glues ':' c = false) :=
  of_decide_eq_true (ascii_forall (p := fun c =>
    (isMark c = true → opens c = some ([.mark c], .between) ∧ isWordChar c = false ∧
      isOperatorChar c = false ∧ c ≠ '\'' ∧ c ≠ '"') ∧
    (isTypeWordChar c = true → c.toLower = c ∧ opens c = some ([], .word [c])) ∧
    (isTypeWordChar c = true ∨ isTypeChar c = true →
      isOperatorChar c = false ∧ c ≠ '\'' ∧ c ≠ '"') ∧
    (isTypeStart c = true → glues ':' c = false)) (by decide +kernel) c hc)

theorem glues_of_isMark (a : Char) {c : Char} (hc : isMark c = true) : glues a c = false := by
  obtain ⟨-, hword⟩ := (ascii_pieces (ascii_of_mem (by decide) hc)).1 hc
  simp [glues, hword.1, hword.2.1, hword.2.2.1, hword.2.2.2]

/-- A text is read before what follows. -/
theorem lex_append_map {w rest : List Char} {ts : List Token} (h : lex w = some ts)
    (hglue : ∀ a ∈ w.getLast?, ∀ c ∈ rest.head?, glues a c = false) :
    lex (w ++ rest) = (lex rest).map (ts ++ ·) := by
  cases rest with
  | nil =>
    rw [List.append_nil, h]
    simp [lex, lexFrom, Mode.held]
  | cons c cs => exact lexFrom_append h (fun a ha => hglue a ha c rfl) (fun _ => rfl) cs

/-- Spaces between tokens are no tokens. -/
theorem lex_spaces {w : List Char} (hw : ∀ c ∈ w, c = ' ') (rest : List Char) :
    lex (w ++ rest) = lex rest := by
  induction w with
  | nil => rfl
  | cons c w ih =>
    obtain rfl := hw c List.mem_cons_self
    have hrest := ih fun d hd => hw d (List.mem_cons_of_mem _ hd)
    rw [List.cons_append]
    refine (lexFrom_of_opens rfl rfl rfl _).trans ?_
    show (lex (w ++ rest)).map ([] ++ [] ++ ·) = lex rest
    rw [hrest]
    simp

/-- A mark is a token by itself. -/
theorem lex_mark {c : Char} (hc : isMark c = true) (rest : List Char) :
    lex (c :: rest) = (lex rest).map (.mark c :: ·) := by
  have hopens : opens c = some ([.mark c], .between) :=
    ((ascii_pieces (ascii_of_mem (by decide) hc)).1 hc).1
  have hheld : Mode.between.held = some [] := rfl
  exact lexFrom_of_opens rfl hheld hopens rest

/-- What follows a word or a constant does not go on with it. -/
def Apart (rest : List Char) : Prop := ∀ c ∈ rest.head?, isWordChar c = false ∧ c ≠ '\''

/-- A text that does not end in an operator or a quote. -/
def EndsPlain (w : List Char) : Prop :=
  ∀ a ∈ w.getLast?, isOperatorChar a = false ∧ a ≠ '\'' ∧ a ≠ '"'

theorem EndsPlain.glues {w rest : List Char} (h : EndsPlain w) (hrest : Apart rest) :
    ∀ a ∈ w.getLast?, ∀ c ∈ rest.head?, glues a c = false := by
  intro a ha c hc
  obtain ⟨hoperator, hquote, hdouble⟩ := h a ha
  simp [Sql.glues, hoperator, hquote, hdouble, (hrest c hc).1]

theorem isTypeWordChar_opens {c : Char} (hc : isTypeWordChar c = true) :
    isWordChar c = true ∧ c.toLower = c ∧ opens c = some ([], .word [c]) := by
  have hword : isWordChar c = true := by
    simp only [isTypeWordChar, isWordChar, Char.isAlphanum, Char.isAlpha, Bool.or_eq_true] at hc ⊢
    rcases hc with (h | h) | h
    · exact .inl (.inl (.inl (.inr h)))
    · exact .inl (.inl (.inr h))
    · exact .inl (.inr h)
  exact ⟨hword, (ascii_pieces (isWordChar_ascii hword)).2.1 hc⟩

/-- The text of a type is read into tokens of its name. -/
theorem lexFrom_type {w : List Char} (hw : ∀ c ∈ w, isTypeChar c = true ∨ c = ' ') {m : Mode}
    (hm : m = .between ∨ ∃ acc, m = .word acc) :
    ∃ names, lexFrom m w = some names ∧ ∀ t ∈ names, isTypeToken t = true := by
  induction w generalizing m with
  | nil =>
    rcases hm with rfl | ⟨acc, rfl⟩
    · exact ⟨[], rfl, fun t ht => absurd ht List.not_mem_nil⟩
    · exact ⟨_, rfl, fun t ht => by rw [List.mem_singleton.mp ht]; rfl⟩
  | cons c w ih =>
    have hrest : ∀ d ∈ w, isTypeChar d = true ∨ d = ' ' := fun d hd =>
      hw d (List.mem_cons_of_mem c hd)
    -- a character outside the word at hand ends it
    have hends : ∀ marks : List Token, opens c = some (marks, .between) → isWordChar c = false →
        (∀ t ∈ marks, isTypeToken t = true) →
        ∃ names, lexFrom m (c :: w) = some names ∧ ∀ t ∈ names, isTypeToken t = true := by
      intro marks hopens hc hmarks
      obtain ⟨names, hnames, htype⟩ := ih hrest (.inl rfl)
      have hheld : ∃ held, m.extend c = none ∧ m.held = some held ∧
          ∀ t ∈ held, isTypeToken t = true := by
        rcases hm with rfl | ⟨acc, rfl⟩
        · exact ⟨[], rfl, rfl, fun t ht => absurd ht List.not_mem_nil⟩
        · refine ⟨_, if_neg (by simp [hc]), rfl, fun t ht => ?_⟩
          rw [List.mem_singleton.mp ht]
          rfl
      obtain ⟨held, hextend, hheld, htoken⟩ := hheld
      refine ⟨held ++ marks ++ names, ?_, fun t ht => ?_⟩
      · rw [lexFrom_of_opens hextend hheld hopens, hnames, Option.map_some]
      · rcases List.mem_append.mp ht with ht | ht
        · exact (List.mem_append.mp ht).elim (htoken t) (hmarks t)
        · exact htype t ht
    rcases hw c List.mem_cons_self with hc | rfl
    · simp only [isTypeChar, Bool.or_eq_true, decide_eq_true_eq] at hc
      rcases hc with hc | rfl
      · obtain ⟨hword, hlower, hopens⟩ := isTypeWordChar_opens hc
        rcases hm with rfl | ⟨acc, rfl⟩
        · obtain ⟨names, hnames, htype⟩ := ih hrest (.inr ⟨[c], rfl⟩)
          refine ⟨names, ?_, htype⟩
          have hheld : Mode.between.held = some [] := rfl
          rw [lexFrom_of_opens rfl hheld hopens, hnames]
          rfl
        · obtain ⟨names, hnames, htype⟩ := ih hrest (.inr ⟨c.toLower :: acc, rfl⟩)
          have hextend : (Mode.word acc).extend c = some (.word (c.toLower :: acc)) :=
            if_pos hword
          exact ⟨names, (lexFrom_of_extend hextend w).trans hnames, htype⟩
      · refine hends [.mark '.'] rfl (by decide) fun t ht => ?_
        rw [List.mem_singleton.mp ht]
        rfl
    · exact hends [] rfl (by decide) fun t ht => absurd ht List.not_mem_nil

/-- A word of small letters is one token. -/
theorem lexFrom_smallWord {w : List Char} (hw : ∀ c ∈ w, isTypeWordChar c = true)
    (acc : List Char) : lexFrom (.word acc) w = some [.word (acc.reverse ++ w)] := by
  induction w generalizing acc with
  | nil => rw [List.append_nil]; rfl
  | cons c w ih =>
    obtain ⟨hword, hlower, -⟩ := isTypeWordChar_opens (hw c List.mem_cons_self)
    have hextend : (Mode.word acc).extend c = some (.word (c :: acc)) := by
      rw [Mode.extend, if_pos hword, hlower]
    rw [lexFrom_of_extend hextend, ih fun d hd => hw d (List.mem_cons_of_mem c hd)]
    simp

theorem lex_smallWord {w : List Char} (hne : w ≠ []) (hw : ∀ c ∈ w, isTypeWordChar c = true) :
    lex w = some [.word w] := by
  obtain ⟨c, cs, rfl⟩ := List.exists_cons_of_ne_nil hne
  obtain ⟨-, -, hopens⟩ := isTypeWordChar_opens (hw c List.mem_cons_self)
  have hheld : Mode.between.held = some [] := rfl
  refine (lexFrom_of_opens rfl hheld hopens cs).trans ?_
  rw [lexFrom_smallWord fun d hd => hw d (List.mem_cons_of_mem c hd)]
  rfl

/-- A word before something that does not go on with it. -/
theorem lex_word {w rest : List Char} (hne : w ≠ []) (hw : ∀ c ∈ w, isTypeWordChar c = true)
    (hrest : Apart rest) : lex (w ++ rest) = (lex rest).map (.word w :: ·) := by
  refine (lex_append_map (lex_smallWord hne hw) (EndsPlain.glues ?_ hrest)).trans rfl
  intro a ha
  have hmem : a ∈ w := List.mem_of_getLast? ha
  have hascii := isWordChar_ascii (isTypeWordChar_opens (hw a hmem)).1
  exact (ascii_pieces hascii).2.2.1 (.inl (hw a hmem))

/-- A constant before something that does not go on with it. -/
theorem lex_constant {v rest : List Char} (hv : '\'' ∉ v) (hrest : Apart rest) :
    lex ('\'' :: (v ++ '\'' :: rest)) = (lex rest).map (.text v :: ·) := by
  have hheld : Mode.between.held = some [] := rfl
  have hopens : opens '\'' = some ([], .text []) := rfl
  have hread : lex ('\'' :: (v ++ '\'' :: rest)) = lexFrom (.textEnd v.reverse) rest := by
    refine (lexFrom_of_opens rfl hheld hopens _).trans ?_
    rw [lexFrom_text_append hv, List.append_nil v.reverse]
    show (lexFrom (.textEnd v.reverse) rest).map ([] ++ [] ++ ·) = _
    cases lexFrom (.textEnd v.reverse) rest <;> rfl
  rw [hread]
  cases rest with
  | nil => simp [lex, lexFrom, Mode.held]
  | cons c cs =>
    have hc : c ≠ '\'' := (hrest c rfl).2
    have hextend : (Mode.textEnd v.reverse).extend c = none := if_neg hc
    rw [lexFrom_flush hextend rfl, List.reverse_reverse]
    rfl

/-! ## The pieces of the expression -/

/-- The only blank of a normalised text is the space. -/
def Spaced (w : List Char) : Prop := ∀ c ∈ w, isBlank c = true → c = ' '

theorem Spaced.left {u v : List Char} (h : Spaced (u ++ v)) : Spaced u :=
  fun c hc => h c (List.mem_append_left v hc)

theorem Spaced.right {u v : List Char} (h : Spaced (u ++ v)) : Spaced v :=
  fun c hc => h c (List.mem_append_right u hc)

/-- The tokens of a cast to a type of any name, if there is one. -/
def IsCast (toks : List Token) : Prop :=
  toks = [] ∨ ∃ names, toks = .operator [':', ':'] :: names ∧ ∀ t ∈ names, isTypeToken t = true

/-- The tokens of a cast to an array type of any name, if there is one. -/
def IsArrayCast (toks : List Token) : Prop :=
  toks = [] ∨ ∃ names, toks = .operator [':', ':'] :: (names ++ [.mark '[', .mark ']']) ∧
    ∀ t ∈ names, isTypeToken t = true

theorem isTypeStart_isTypeWordChar {c : Char} (hc : isTypeStart c = true) :
    isTypeWordChar c = true := by
  simp only [isTypeStart, isTypeWordChar, Bool.or_eq_true] at hc ⊢
  exact hc.elim (fun h => .inl (.inl h)) .inr

/-- The name of a type begins with a letter, and has nothing else than its characters. -/
theorem typeName_chars {w : List Char} (h : typeName.Matches w) (hs : Spaced w) :
    (∃ c cs, w = c :: cs ∧ isTypeStart c = true) ∧ ∀ c ∈ w, isTypeChar c = true ∨ c = ' ' := by
  have hword : ∀ c, isTypeWordChar c = true → isTypeChar c = true := fun c hc => by
    rw [isTypeChar, hc, Bool.true_or]
  have hstart : ∀ c, isTypeStart c = true → isTypeChar c = true := fun c hc =>
    hword c (isTypeStart_isTypeWordChar hc)
  obtain ⟨_, _, rfl, ⟨c, rfl, hc⟩, u, v, rfl, ⟨-, hu⟩, hv⟩ := h
  refine ⟨⟨c, u ++ v, rfl, hc⟩, fun b hb => ?_⟩
  have hblank : isBlank b = true → b = ' ' := hs b hb
  rcases hv with ⟨sp, _, rfl, ⟨-, hsp⟩, _, x, rfl, ⟨d, rfl, hd⟩, -, hx⟩ | rfl
  · simp only [List.mem_append, List.mem_singleton] at hb
    rcases hb with rfl | hb | hb | rfl | hb
    · exact .inl (hstart b hc)
    · exact .inl (hu b hb)
    · exact .inr (hblank (hsp b hb))
    · exact .inl (hstart b hd)
    · exact .inl (hword b (hx b hb))
  · simp only [List.append_nil, List.mem_append, List.mem_singleton] at hb
    rcases hb with rfl | hb
    · exact .inl (hstart b hc)
    · exact .inl (hu b hb)

theorem endsPlain_of_type {w : List Char} (hw : ∀ c ∈ w, isTypeChar c = true ∨ c = ' ') :
    EndsPlain w := by
  intro a ha
  have hascii : ∀ c, isTypeChar c = true → c.toNat < 128 := fun c hc => by
    simp only [isTypeChar, Bool.or_eq_true, decide_eq_true_eq] at hc
    rcases hc with hc | rfl
    · exact isWordChar_ascii (isTypeWordChar_opens hc).1
    · decide
  rcases hw a (List.mem_of_getLast? ha) with hc | rfl
  · exact (ascii_pieces (hascii a hc)).2.2.1 (.inr hc)
  · decide

/-- A type after its colons. -/
theorem lex_typeName {w rest : List Char} (h : typeName.Matches w) (hs : Spaced w)
    (hrest : Apart rest) : ∃ names, (∀ t ∈ names, isTypeToken t = true) ∧
      lex (':' :: ':' :: (w ++ rest)) =
        (lex rest).map (.operator [':', ':'] :: names ++ ·) := by
  obtain ⟨⟨c, cs, hw, hstart⟩, hchars⟩ := typeName_chars h hs
  obtain ⟨names, hnames, htype⟩ := lexFrom_type hchars (.inl rfl)
  refine ⟨names, htype, ?_⟩
  have hcolons : lex [':', ':'] = some [.operator [':', ':']] := rfl
  have hglue : ∀ a ∈ [':', ':'].getLast?, ∀ d ∈ (w ++ rest).head?, glues a d = false := by
    intro a ha d hd
    obtain rfl : ':' = a := Option.some.inj ha
    obtain rfl : c = d := by
      rw [hw] at hd
      exact Option.some.inj hd
    have hascii := isWordChar_ascii (isTypeWordChar_opens (isTypeStart_isTypeWordChar hstart)).1
    exact (ascii_pieces hascii).2.2.2 hstart
  refine (lex_append_map hcolons hglue).trans ?_
  rw [lex_append_map hnames ((endsPlain_of_type hchars).glues hrest), Option.map_map]
  rfl

theorem apart_colons (rest : List Char) : Apart (':' :: rest) := by
  intro c hc
  rw [← Option.some.inj hc]
  decide

/-- A cast, before something that goes on with no word. -/
theorem lex_cast {w rest : List Char} (h : cast.Matches w) (hs : Spaced w) (hrest : Apart rest) :
    ∃ toks, IsCast toks ∧ lex (w ++ rest) = (lex rest).map (toks ++ ·) ∧ Apart (w ++ rest) := by
  rcases h with ⟨u, v, rfl, hu, hv⟩ | rfl
  · rw [(Regex.matches_text (by decide)).mp hu] at hs ⊢
    obtain ⟨names, htype, hread⟩ := lex_typeName hv hs.right hrest
    exact ⟨_, .inr ⟨names, rfl, htype⟩, hread, apart_colons _⟩
  · refine ⟨[], .inl rfl, ?_, hrest⟩
    cases h : lex rest <;> simp [h]

theorem lex_arrayCast {w : List Char} (h : arrayCast.Matches w) (hs : Spaced w) (rest : List Char) :
    ∃ toks, IsArrayCast toks ∧ lex (w ++ rest) = (lex rest).map (toks ++ ·) := by
  rcases h with ⟨u, _, rfl, hu, v, x, rfl, hv, hx⟩ | rfl
  · rw [(Regex.matches_text (by decide)).mp hu] at hs ⊢
    rw [(Regex.matches_text (by decide)).mp hx] at hs ⊢
    have hbracket : Apart ('[' :: ']' :: rest) := fun c hc => by
      rw [← Option.some.inj hc]
      decide
    obtain ⟨names, htype, hread⟩ := lex_typeName hv hs.right.left hbracket
    refine ⟨_, .inr ⟨names, rfl, htype⟩, ?_⟩
    have hsplit : "::".toList ++ (v ++ "[]".toList) ++ rest =
        ':' :: ':' :: (v ++ '[' :: ']' :: rest) := by simp
    rw [hsplit, hread, lex_mark (by decide), lex_mark (by decide)]
    cases lex rest <;> simp
  · refine ⟨[], .inl rfl, ?_⟩
    cases h : lex rest <;> simp [h]

/-- The column, with a bracket before and after it or not. -/
def sideTokens (opened closed : Bool) : List Token :=
  (if opened then [.mark '('] else []) ++ .word "method".toList :: (if closed then [.mark ')'] else [])

theorem apart_mark {c : Char} (hc : isMark c = true) (rest : List Char) : Apart (c :: rest) := by
  intro d hd
  rw [← Option.some.inj hd]
  obtain ⟨-, hword, -, hquote, -⟩ := (ascii_pieces (ascii_of_mem (by decide) hc)).1 hc
  exact ⟨hword, hquote⟩

theorem lex_methodLhs {w rest : List Char} (h : methodLhs.Matches w) (hs : Spaced w)
    (hrest : Apart rest) : ∃ opened closed toks, IsCast toks ∧
      lex (w ++ rest) = (lex rest).map (sideTokens opened closed ++ toks ++ ·) := by
  obtain ⟨before, _, rfl, hbefore, name, _, rfl, hname, after, w, rfl, hafter, hcast⟩ := h
  obtain ⟨toks, htoks, hread, hapart⟩ := lex_cast hcast hs.right.right.right hrest
  rw [(Regex.matches_text (by decide)).mp hname] at hs ⊢
  have hmethod : ∀ c ∈ "method".toList, isTypeWordChar c = true :=
    List.all_eq_true.mp (by decide +kernel)
  -- the bracket after the name
  have hclosed : ∃ closed : Bool, lex ("method".toList ++ (after ++ (w ++ rest))) =
      (lex rest).map (.word "method".toList :: ((if closed then [.mark ')'] else []) ++ toks) ++ ·)
      := by
    rcases hafter with hafter | rfl
    · refine ⟨true, ?_⟩
      rw [(Regex.matches_text (by decide)).mp hafter]
      have hmark : isMark ')' = true := by decide
      have hparen : ")".toList = [')'] := rfl
      rw [hparen, List.singleton_append, lex_word (by decide) hmethod (apart_mark hmark _),
        lex_mark hmark, hread, Option.map_map, Option.map_map]
      rfl
    · refine ⟨false, ?_⟩
      rw [List.nil_append, lex_word (by decide) hmethod hapart, hread, Option.map_map]
      rfl
  obtain ⟨closed, hclosed⟩ := hclosed
  rcases hbefore with hbefore | rfl
  · refine ⟨true, closed, toks, htoks, ?_⟩
    rw [(Regex.matches_text (by decide)).mp hbefore]
    have hsplit : "(".toList ++ ("method".toList ++ (after ++ w)) ++ rest =
        '(' :: ("method".toList ++ (after ++ (w ++ rest))) := by simp
    rw [hsplit, lex_mark (by decide), hclosed, Option.map_map]
    cases closed <;> rfl
  · refine ⟨false, closed, toks, htoks, ?_⟩
    have hsplit : [] ++ ("method".toList ++ (after ++ w)) ++ rest =
        "method".toList ++ (after ++ (w ++ rest)) := by simp
    rw [hsplit, hclosed]
    cases closed <;> rfl

theorem spaces_of_matches {least : ℕ} {w : List Char} (h : (spaces least).Matches w)
    (hs : Spaced w) : ∀ c ∈ w, c = ' ' := fun c hc => hs c hc (h.2 c hc)

theorem apart_spaces {w rest : List Char} (hw : ∀ c ∈ w, c = ' ') (hrest : Apart rest) :
    Apart (w ++ rest) := by
  cases w with
  | nil => exact hrest
  | cons c w =>
    intro d hd
    obtain rfl := hw c List.mem_cons_self
    rw [← Option.some.inj hd]
    decide

/-- What `… in (` is read as. -/
theorem lex_inHead {w : List Char} (h : inHead.Matches w) (hs : Spaced w) (rest : List Char) :
    ∃ opened closed toks, IsCast toks ∧ lex (w ++ rest) =
      (lex rest).map (sideTokens opened closed ++ toks ++ [.word "in".toList, .mark '('] ++ ·) := by
  obtain ⟨lhs, _, rfl, hlhs, sp, _, rfl, hsp, word, _, rfl, hword, sp', bracket, rfl, hsp',
    hbracket⟩ := h
  rw [(Regex.matches_text (by decide)).mp hword, (Regex.matches_text (by decide)).mp hbracket]
    at hs ⊢
  have hblank := spaces_of_matches hsp hs.right.left
  have hblank' := spaces_of_matches hsp' hs.right.right.right.left
  have hmark : isMark '(' = true := by decide
  have hspace : Apart (sp ++ ("in".toList ++ (sp' ++ '(' :: rest))) := by
    cases sp with
    | nil => exact absurd hsp.1 (by decide)
    | cons c sp =>
      intro d hd
      rw [← Option.some.inj hd, hblank c List.mem_cons_self]
      decide
  obtain ⟨opened, closed, toks, htoks, hread⟩ := lex_methodLhs hlhs hs.left hspace
  refine ⟨opened, closed, toks, htoks, ?_⟩
  have hsplit : lhs ++ (sp ++ ("in".toList ++ (sp' ++ "(".toList))) ++ rest =
      lhs ++ (sp ++ ("in".toList ++ (sp' ++ '(' :: rest))) := by simp
  rw [hsplit, hread, lex_spaces hblank,
    lex_word (by decide) (List.all_eq_true.mp (by decide +kernel))
      (apart_spaces hblank' (apart_mark hmark rest)),
    lex_spaces hblank', lex_mark hmark, Option.map_map, Option.map_map]
  congr 1
  funext ts
  simp

/-- What `… = any (array[` is read as. -/
theorem lex_anyHead {w : List Char} (h : anyHead.Matches w) (hs : Spaced w) (rest : List Char) :
    ∃ opened closed toks, IsCast toks ∧ lex (w ++ rest) =
      (lex rest).map (sideTokens opened closed ++ toks ++ [.operator ['='], .word "any".toList,
        .mark '(', .word "array".toList, .mark '['] ++ ·) := by
  obtain ⟨lhs, _, rfl, hlhs, sp, _, rfl, hsp, eq, _, rfl, heq, sp₂, _, rfl, hsp₂, word, _, rfl,
    hword, sp₃, _, rfl, hsp₃, bracket, _, rfl, hbracket, sp₄, array, rfl, hsp₄, harray⟩ := h
  rw [(Regex.matches_text (by decide)).mp heq, (Regex.matches_text (by decide)).mp hword,
    (Regex.matches_text (by decide)).mp hbracket, (Regex.matches_text (by decide)).mp harray]
    at hs ⊢
  have hblank := spaces_of_matches hsp hs.right.left
  have hblank₂ := spaces_of_matches hsp₂ hs.right.right.right.left
  have hblank₃ := spaces_of_matches hsp₃ hs.right.right.right.right.right.left
  have hblank₄ := spaces_of_matches hsp₄ hs.right.right.right.right.right.right.right.left
  have hround : isMark '(' = true := by decide
  have hsquare : isMark '[' = true := by decide
  have hequal : Apart ('=' :: (sp₂ ++ ("any".toList ++ (sp₃ ++ '(' :: (sp₄ ++
      ("array".toList ++ '[' :: rest)))))) := fun d hd => by
    rw [← Option.some.inj hd]
    decide
  obtain ⟨opened, closed, toks, htoks, hread⟩ :=
    lex_methodLhs hlhs hs.left (apart_spaces hblank hequal)
  refine ⟨opened, closed, toks, htoks, ?_⟩
  have hsplit : lhs ++ (sp ++ ("=".toList ++ (sp₂ ++ ("any".toList ++ (sp₃ ++ ("(".toList ++
      (sp₄ ++ "array[".toList))))))) ++ rest = lhs ++ (sp ++ '=' :: (sp₂ ++ ("any".toList ++
        (sp₃ ++ '(' :: (sp₄ ++ ("array".toList ++ '[' :: rest)))))) := by simp
  have hglue : ∀ a ∈ ['='].getLast?, ∀ d ∈ (sp₂ ++ ("any".toList ++ (sp₃ ++ '(' :: (sp₄ ++
      ("array".toList ++ '[' :: rest))))).head?, glues a d = false := by
    intro a ha d hd
    obtain rfl : '=' = a := Option.some.inj ha
    cases sp₂ with
    | nil =>
      obtain rfl : 'a' = d := Option.some.inj hd
      rfl
    | cons c sp₂ =>
      obtain rfl : c = d := Option.some.inj hd
      rw [hblank₂ c List.mem_cons_self]
      rfl
  have hequals : lex ['='] = some [.operator ['=']] := rfl
  rw [hsplit, hread, lex_spaces hblank]
  refine (congrArg (Option.map _) (lex_append_map hequals hglue)).trans ?_
  rw [lex_spaces hblank₂,
    lex_word (by decide) (List.all_eq_true.mp (by decide +kernel))
      (apart_spaces hblank₃ (apart_mark hround _)),
    lex_spaces hblank₃, lex_mark hround, lex_spaces hblank₄,
    lex_word (by decide) (List.all_eq_true.mp (by decide +kernel)) (apart_mark hsquare rest),
    lex_mark hsquare]
  simp only [Option.map_map]
  congr 1
  funext ts
  simp

/-- What `]…)` is read as. -/
theorem lex_anyTail {w : List Char} (h : anyTail.Matches w) (hs : Spaced w) :
    (∃ cs, w = ']' :: cs) ∧
      ∃ toks, IsArrayCast toks ∧ lex w = some (.mark ']' :: (toks ++ [.mark ')'])) := by
  obtain ⟨bracket, _, rfl, hbracket, casts, _, rfl, hcasts, sp, close, rfl, hsp, hclose⟩ := h
  rw [(Regex.matches_text (by decide)).mp hbracket, (Regex.matches_text (by decide)).mp hclose]
    at hs ⊢
  have hblank := spaces_of_matches hsp hs.right.right.left
  obtain ⟨toks, htoks, hread⟩ := lex_arrayCast hcasts hs.right.left (sp ++ [')'])
  have hsplit : "]".toList ++ (casts ++ (sp ++ ")".toList)) = ']' :: (casts ++ (sp ++ [')'])) := rfl
  refine ⟨⟨_, hsplit⟩, toks, htoks, ?_⟩
  have hlast : lex [')'] = some [.mark ')'] := rfl
  rw [hsplit, lex_mark (by decide), hread, lex_spaces hblank, hlast]
  rfl

/-! ## The members -/

/-- The members as they are read, with casts to types of any name. -/
def rawMemberTokens : List (List Char × List Token) → List Token
  | [] => []
  | [m] => .text m.1 :: m.2
  | m :: ms => .text m.1 :: (m.2 ++ .mark ',' :: rawMemberTokens ms)

/-- The members the text is split into, put together again. -/
theorem splitFrom_raws (depth : ℕ) (inQuote : Bool) (acc cs : List Char) :
    ∃ raws : List (List Char), raws ≠ [] ∧ acc.reverse ++ cs = [','].intercalate raws ∧
      splitFrom depth inQuote acc cs = raws.map splitFrom.stripBlank := by
  induction cs generalizing depth inQuote acc with
  | nil =>
    refine ⟨[acc.reverse], List.cons_ne_nil _ _, ?_, rfl⟩
    rw [List.append_nil, List.intercalate_singleton]
  | cons c cs ih =>
    have hgo : ∀ depth inQuote, ∃ raws : List (List Char), raws ≠ [] ∧
        acc.reverse ++ c :: cs = [','].intercalate raws ∧
          splitFrom depth inQuote (c :: acc) cs = raws.map splitFrom.stripBlank := fun depth q => by
      obtain ⟨raws, hne, hjoin, hsplit⟩ := ih depth q (c :: acc)
      refine ⟨raws, hne, ?_, hsplit⟩
      rw [← hjoin, List.reverse_cons, List.append_assoc, List.singleton_append]
    rw [splitFrom]
    split
    · exact hgo depth (!inQuote)
    · split
      · exact hgo depth inQuote
      · split
        · exact hgo (depth + 1) inQuote
        · split
          · exact hgo (depth - 1) inQuote
          · split
            · next hcomma =>
              obtain ⟨raws, hne, hjoin, hsplit⟩ := ih depth inQuote []
              obtain ⟨raw, raws, rfl⟩ := List.exists_cons_of_ne_nil hne
              refine ⟨acc.reverse :: raw :: raws, List.cons_ne_nil _ _, ?_, ?_⟩
              · rw [List.intercalate_cons_cons, ← hjoin, hcomma.1]
                simp
              · rw [hsplit]
                rfl
            · exact hgo depth inQuote

/-- A literal member is a constant with a cast. -/
theorem literalValue_eq_some {piece v : List Char} (h : literalValue piece = some v) :
    ∃ suffix, piece = '\'' :: (v ++ '\'' :: suffix) ∧ '\'' ∉ v ∧ cast.Matches suffix := by
  unfold literalValue at h
  split at h
  · next rest =>
    split at h
    · next suffix hdrop =>
      simp only [ne_eq, decide_not, Option.ite_none_right_eq_some, Option.some.injEq] at h
      obtain ⟨⟨-, hcast⟩, rfl⟩ := h
      refine ⟨suffix, ?_, fun hmem => ?_, Regex.matches_of_fullmatch hcast⟩
      · have hrest := List.takeWhile_append_dropWhile (p := fun c => !decide (c = '\'')) (l := rest)
        rw [← hrest]
        simp_all
      · simpa using List.mem_takeWhile_imp hmem
    · cases h
  · cases h

theorem stripBlank_split (raw : List Char) : ∃ u v : List Char,
    raw = u ++ (splitFrom.stripBlank raw ++ v) ∧ (∀ c ∈ u, isBlank c = true) ∧
      ∀ c ∈ v, isBlank c = true := by
  have hback : ∀ cs : List Char, cs.rdropWhile isBlank ++ cs.rtakeWhile isBlank = cs := fun cs => by
    rw [List.rdropWhile, List.rtakeWhile, ← List.reverse_append, List.takeWhile_append_dropWhile,
      List.reverse_reverse]
  refine ⟨raw.takeWhile isBlank, (raw.dropWhile isBlank).rtakeWhile isBlank, ?_,
    fun c hc => List.mem_takeWhile_imp hc, fun c hc => List.mem_rtakeWhile_imp hc⟩
  rw [splitFrom.stripBlank, hback, List.takeWhile_append_dropWhile]

/-- One member, before what separates it from the next. -/
theorem lex_member {raw v rest : List Char}
    (h : literalValue (splitFrom.stripBlank raw) = some v) (hs : Spaced raw) (hrest : Apart rest) :
    ∃ toks, IsCast toks ∧ lex (raw ++ rest) = (lex rest).map (.text v :: toks ++ ·) := by
  obtain ⟨before, after, hraw, hbefore, hafter⟩ := stripBlank_split raw
  obtain ⟨suffix, hpiece, hquote, hcast⟩ := literalValue_eq_some h
  rw [hpiece] at hraw
  subst hraw
  have hblank : ∀ c ∈ before, c = ' ' := fun c hc => hs.left c hc (hbefore c hc)
  have hblank' : ∀ c ∈ after, c = ' ' := fun c hc => hs.right.right c hc (hafter c hc)
  have hsuffix : Spaced suffix := fun c hc => hs c (by simp [hc])
  obtain ⟨toks, htoks, hread, hapart⟩ := lex_cast hcast hsuffix (apart_spaces hblank' hrest)
  refine ⟨toks, htoks, ?_⟩
  have hsplit : before ++ ('\'' :: (v ++ '\'' :: suffix) ++ after) ++ rest =
      before ++ '\'' :: (v ++ '\'' :: (suffix ++ (after ++ rest))) := by simp
  rw [hsplit, lex_spaces hblank, lex_constant hquote hapart, hread, lex_spaces hblank',
    Option.map_map]
  rfl

/-- The members of a list, before the bracket that closes it. -/
theorem lex_members {raws values : List (List Char)} (hne : raws ≠ [])
    (h : List.Forall₂ (fun raw v => literalValue (splitFrom.stripBlank raw) = some v) raws values)
    (hs : Spaced ([','].intercalate raws)) {rest : List Char} (hrest : Apart rest) :
    ∃ ms : List (List Char × List Token), ms.map (·.1) = values ∧ (∀ m ∈ ms, IsCast m.2) ∧
      lex ([','].intercalate raws ++ rest) = (lex rest).map (rawMemberTokens ms ++ ·) := by
  induction h with
  | nil => exact absurd rfl hne
  | @cons raw v raws values hraw hraws ih =>
    cases raws with
    | nil =>
      cases hraws
      rw [List.intercalate_singleton] at hs ⊢
      obtain ⟨toks, htoks, hread⟩ := lex_member hraw hs hrest
      exact ⟨[(v, toks)], rfl, List.forall_mem_singleton.mpr htoks, hread⟩
    | cons raw' raws =>
      have hjoin : [','].intercalate (raw :: raw' :: raws) =
          raw ++ ',' :: [','].intercalate (raw' :: raws) := by
        rw [List.intercalate_cons_cons]
        simp
      rw [hjoin] at hs ⊢
      obtain ⟨ms, hvalues, hcasts, hread⟩ := ih (List.cons_ne_nil _ _) fun c hc =>
        hs c (List.mem_append_right _ (List.mem_cons_of_mem _ hc))
      have hcomma : isMark ',' = true := by decide
      obtain ⟨toks, htoks, hfirst⟩ := lex_member hraw hs.left
        (apart_mark hcomma ([','].intercalate (raw' :: raws) ++ rest))
      refine ⟨(v, toks) :: ms, by rw [List.map_cons, hvalues],
        List.forall_mem_cons.mpr ⟨htoks, hcasts⟩, ?_⟩
      have hsplit : raw ++ ',' :: [','].intercalate (raw' :: raws) ++ rest =
          raw ++ ',' :: ([','].intercalate (raw' :: raws) ++ rest) := by simp
      have hms : ms ≠ [] := by
        rintro rfl
        cases hraws
        cases hvalues
      obtain ⟨m, ms, rfl⟩ := List.exists_cons_of_ne_nil hms
      rw [hsplit, hfirst, lex_mark hcomma, hread, Option.map_map, Option.map_map]
      congr 1
      funext ts
      simp [rawMemberTokens]

theorem forall₂_of_mapM {α β : Type} {f : α → Option β} {xs : List α} {ys : List β}
    (h : xs.mapM f = some ys) : List.Forall₂ (fun x y => f x = some y) xs ys := by
  induction xs generalizing ys with
  | nil =>
    obtain rfl : [] = ys := by simpa using h
    exact .nil
  | cons x xs ih =>
    simp only [List.mapM_cons, Option.bind_eq_bind, Option.bind_eq_some_iff, Option.pure_def,
      Option.some.injEq] at h
    obtain ⟨y, hy, ys, hys, rfl⟩ := h
    exact .cons hy (ih hys)

/-- The members the recogniser takes are read as constants with casts. -/
theorem lex_directMembers {cs : List Char} {values : List (List Char)}
    (h : directStringLiteralMembers cs = some values) (hs : Spaced cs) {rest : List Char}
    (hrest : Apart rest) :
    ∃ ms : List (List Char × List Token), ms.map (·.1) = values ∧ (∀ m ∈ ms, IsCast m.2) ∧
      lex (cs ++ rest) = (lex rest).map (rawMemberTokens ms ++ ·) := by
  obtain ⟨raws, hne, hjoin, hsplit⟩ := splitFrom_raws 0 false [] cs
  obtain rfl : cs = [','].intercalate raws := hjoin
  unfold directStringLiteralMembers splitTopLevelSqlMembers at h
  rw [hsplit] at h
  exact lex_members hne (List.forall₂_map_left_iff.mp (forall₂_of_mapM h)) hs hrest

/-! ## The expression -/

theorem greedyMembers_eq_some {rest members : List Char} (h : greedyMembers rest = some members) :
    rest = members ++ [')'] := by
  simp only [greedyMembers, Option.ite_none_right_eq_some, Option.some.injEq] at h
  obtain ⟨⟨hlast, -⟩, rfl⟩ := h
  exact (List.dropLast_append_getLast? ')' hlast).symm

theorem shortestMembers_eq_some {rest members : List Char}
    (h : shortestMembers rest = some members) :
    ∃ tail, rest = members ++ tail ∧ anyTail.Matches tail := by
  induction rest generalizing members with
  | nil => cases h
  | cons c cs ih =>
    rw [shortestMembers] at h
    split at h
    · next htail =>
      obtain rfl := Option.some.inj h
      exact ⟨c :: cs, rfl, Regex.matches_of_fullmatch htail⟩
    · split at h
      · cases h
      · obtain ⟨members, hmembers, rfl⟩ := Option.map_eq_some_iff.mp h
        obtain ⟨tail, hcs, htail⟩ := ih hmembers
        exact ⟨tail, by rw [hcs, List.cons_append], htail⟩

/-- The tokens of an expression the recogniser takes members from. -/
def RawTest (values : List (List Char)) (ts : List Token) : Prop :=
  ∃ opened closed toks, ∃ ms : List (List Char × List Token), IsCast toks ∧
    ms.map (·.1) = values ∧ (∀ m ∈ ms, IsCast m.2) ∧
      (ts = sideTokens opened closed ++ toks ++ [.word "in".toList, .mark '('] ++
          (rawMemberTokens ms ++ [.mark ')']) ∨
        ∃ arrayToks, IsArrayCast arrayToks ∧
          ts = sideTokens opened closed ++ toks ++ [.operator ['='], .word "any".toList, .mark '(',
            .word "array".toList, .mark '['] ++
              (rawMemberTokens ms ++ .mark ']' :: (arrayToks ++ [.mark ')'])))

theorem lex_of_members {cs : List Char} {values : List (List Char)}
    (h : positiveMethodMembers cs = some values) (hs : Spaced cs) :
    ∃ ts, lex cs = some ts ∧ RawTest values ts := by
  have hround : isMark ')' = true := by decide
  have hsquare : isMark ']' = true := by decide
  unfold positiveMethodMembers at h
  split at h
  · next members hfind =>
    obtain ⟨x, hx, hmembers⟩ := List.exists_of_findSome?_eq_some hfind
    obtain ⟨w, hw, hhead⟩ := Regex.tries_matches _ _ _ hx
    obtain rfl : cs = w ++ x.2 := hw
    rw [greedyMembers_eq_some hmembers] at hs ⊢
    obtain ⟨opened, closed, toks, htoks, hfirst⟩ := lex_inHead hhead hs.left (members ++ [')'])
    obtain ⟨ms, hvalues, hcasts, hread⟩ := lex_directMembers h hs.right.left (apart_mark hround [])
    have hlast : lex [')'] = some [.mark ')'] := rfl
    refine ⟨_, ?_, opened, closed, toks, ms, htoks, hvalues, hcasts, .inl rfl⟩
    rw [hfirst, hread, hlast]
    rfl
  · split at h
    · next members hfind =>
      obtain ⟨x, hx, hmembers⟩ := List.exists_of_findSome?_eq_some hfind
      obtain ⟨w, hw, hhead⟩ := Regex.tries_matches _ _ _ hx
      obtain rfl : cs = w ++ x.2 := hw
      obtain ⟨tail, hrest, htail⟩ := shortestMembers_eq_some hmembers
      rw [hrest] at hs ⊢
      obtain ⟨opened, closed, toks, htoks, hfirst⟩ := lex_anyHead hhead hs.left (members ++ tail)
      obtain ⟨⟨tail', htail'⟩, arrayToks, harray, hlast⟩ := lex_anyTail htail hs.right.right
      have hapart : Apart tail := htail' ▸ apart_mark hsquare tail'
      obtain ⟨ms, hvalues, hcasts, hread⟩ := lex_directMembers h hs.right.left hapart
      refine ⟨_, ?_, opened, closed, toks, ms, htoks, hvalues, hcasts, .inr ⟨arrayToks, harray, rfl⟩⟩
      rw [hfirst, hread, hlast]
      rfl
    · cases h

/-! ## Casts to text types -/

theorem typeRun_append {names rest : List Token} (hnames : ∀ t ∈ names, isTypeToken t = true)
    (hrest : ∀ t ∈ rest.head?, isTypeToken t = false) : typeRun (names ++ rest) = names := by
  rw [typeRun, List.takeWhile_append_of_pos hnames]
  cases rest with
  | nil => rw [List.takeWhile_nil, List.append_nil]
  | cons t rest => rw [List.takeWhile_cons_of_neg (by simp [hrest t rfl]), List.append_nil]

/-- A cast that is to a text type is one of the two. -/
theorem IsCast.text {toks : List Token} (h : IsCast toks) (rest : List Token)
    (hrest : ∀ t ∈ rest.head?, isTypeToken t = false) (htext : TextCasts (toks ++ rest)) :
    ∃ type, toks = castTokens type := by
  rcases h with rfl | ⟨names, rfl, hnames⟩
  · exact ⟨none, rfl⟩
  · obtain ⟨type, htype⟩ := htext (names ++ rest) (List.suffix_refl _)
    rw [typeRun_append hnames hrest] at htype
    exact ⟨some type, by rw [htype]; rfl⟩

theorem IsArrayCast.text {toks rest : List Token} (h : IsArrayCast toks)
    (htext : TextCasts (toks ++ rest)) : ∃ type, toks = arrayCastTokens type := by
  rcases h with rfl | ⟨names, rfl, hnames⟩
  · exact ⟨none, rfl⟩
  · obtain ⟨type, htype⟩ := htext (names ++ [.mark '[', .mark ']'] ++ rest) (List.suffix_refl _)
    rw [List.append_assoc, typeRun_append hnames fun t ht => by
      rw [← Option.some.inj ht]; rfl] at htype
    exact ⟨some type, by rw [htype]; rfl⟩

theorem TextCasts.suffix {ts ts' : List Token} (h : TextCasts ts) (hts : ts' <:+ ts) :
    TextCasts ts' :=
  fun rest hrest => h rest (hrest.trans hts)

/-- Members with casts to text types. -/
theorem members_text {ms : List (List Char × List Token)} (hcasts : ∀ m ∈ ms, IsCast m.2)
    {c : Char} {rest : List Token} (hc : c ≠ '.')
    (htext : TextCasts (rawMemberTokens ms ++ .mark c :: rest)) :
    ∃ members : List Member, members.map (·.value) = ms.map (·.1) ∧
      memberTokens members = rawMemberTokens ms := by
  induction ms with
  | nil => exact ⟨[], rfl, rfl⟩
  | cons m ms ih =>
    have hmark : ∀ {c : Char} {rest : List Token}, c ≠ '.' →
        ∀ t ∈ (Token.mark c :: rest).head?, isTypeToken t = false := fun hc t ht => by
      rw [← Option.some.inj ht]
      exact decide_eq_false hc
    have hm := hcasts m List.mem_cons_self
    cases ms with
    | nil =>
      have hsuffix : m.2 ++ .mark c :: rest <:+ rawMemberTokens [m] ++ .mark c :: rest :=
        List.suffix_cons _ _
      obtain ⟨type, htype⟩ := hm.text _ (hmark hc) (htext.suffix hsuffix)
      exact ⟨[⟨m.1, type⟩], rfl, by rw [memberTokens, rawMemberTokens, htype]⟩
    | cons m' ms =>
      have hjoin : rawMemberTokens (m :: m' :: ms) ++ .mark c :: rest = .text m.1 :: (m.2 ++
          .mark ',' :: (rawMemberTokens (m' :: ms) ++ .mark c :: rest)) := by
        simp [rawMemberTokens]
      rw [hjoin] at htext
      have hfirst := htext.suffix (List.suffix_cons _ _)
      obtain ⟨type, htype⟩ := hm.text _ (hmark (by decide)) hfirst
      obtain ⟨members, hvalues, htokens⟩ := ih (fun x hx => hcasts x (List.mem_cons_of_mem m hx))
        (hfirst.suffix ((List.suffix_cons _ _).trans (List.suffix_append _ _)))
      have hne : members ≠ [] := by
        rintro rfl
        cases hvalues
      obtain ⟨member, members, rfl⟩ := List.exists_cons_of_ne_nil hne
      refine ⟨⟨m.1, type⟩ :: member :: members, by rw [List.map_cons, hvalues]; rfl, ?_⟩
      show Token.text m.1 :: (castTokens type ++ .mark ',' :: memberTokens (member :: members)) =
        .text m.1 :: (m.2 ++ .mark ',' :: rawMemberTokens (m' :: ms))
      rw [htokens, htype]

/-! ## Balanced brackets -/

/-- A token that opens or closes no round bracket. -/
def isFlat : Token → Bool
  | .mark c => c ≠ '(' ∧ c ≠ ')'
  | _ => true

theorem depthFrom_flat {ts : List Token} (h : ∀ t ∈ ts, isFlat t = true) (depth : ℕ)
    (rest : List Token) : depthFrom depth (ts ++ rest) = depthFrom depth rest := by
  induction ts with
  | nil => rfl
  | cons t ts ih =>
    have hrest := ih fun u hu => h u (List.mem_cons_of_mem t hu)
    cases t with
    | mark c =>
      have hc : c ≠ '(' ∧ c ≠ ')' := of_decide_eq_true (h _ List.mem_cons_self)
      rw [List.cons_append, depthFrom, if_neg hc.1, if_neg hc.2, hrest]
    | _ => exact hrest

theorem TextType.flat (type : TextType) : ∀ t ∈ type.tokens, isFlat t = true := by
  cases type <;> decide

theorem castTokens_flat (type : Option TextType) : ∀ t ∈ castTokens type, isFlat t = true := by
  cases type with
  | none => exact fun t ht => absurd ht List.not_mem_nil
  | some type => exact List.forall_mem_cons.mpr ⟨rfl, type.flat⟩

theorem arrayCastTokens_flat (type : Option TextType) :
    ∀ t ∈ arrayCastTokens type, isFlat t = true := by
  cases type with
  | none => exact fun t ht => absurd ht List.not_mem_nil
  | some type =>
    refine List.forall_mem_cons.mpr ⟨rfl, List.forall_mem_append.mpr ⟨type.flat, ?_⟩⟩
    decide

theorem memberTokens_flat (members : List Member) :
    ∀ t ∈ memberTokens members, isFlat t = true := by
  induction members with
  | nil => exact fun t ht => absurd ht List.not_mem_nil
  | cons m members ih =>
    cases members with
    | nil => exact List.forall_mem_cons.mpr ⟨rfl, castTokens_flat m.type⟩
    | cons m' members =>
      refine List.forall_mem_cons.mpr ⟨rfl, List.forall_mem_append.mpr ⟨castTokens_flat m.type, ?_⟩⟩
      exact List.forall_mem_cons.mpr ⟨rfl, ih⟩

/-- The brackets around the column are balanced if those after it are. -/
theorem sideTokens_balanced {opened closed : Bool} {rest : List Token}
    (hrest : ∀ depth, depthFrom depth rest = some depth)
    (h : depthFrom 0 (sideTokens opened closed ++ rest) = some 0) : opened = closed := by
  cases opened with
  | false =>
    cases closed with
    | false => rfl
    | true => cases h
  | true =>
    cases closed with
    | false =>
      have hone : depthFrom 1 rest = some 0 := h
      rw [hrest 1] at hone
      cases hone
    | true => rfl

theorem sideTokens_self (bracketed : Bool) :
    sideTokens bracketed bracketed = methodTokens bracketed := by
  cases bracketed <;> rfl

/-- An expression the recogniser takes members from is a membership test, if it names no type but
the text types and its brackets are balanced. -/
theorem RawTest.membership {values : List (List Char)} {ts : List Token} (h : RawTest values ts)
    (htext : TextCasts ts) (hbalanced : depthFrom 0 ts = some 0) :
    ∃ test : Membership, ts = test.tokens ∧ test.values = values := by
  obtain ⟨opened, closed, toks, ms, htoks, hvalues, hcasts, rfl | ⟨arrayToks, harray, rfl⟩⟩ := h
  · have hround : ')' ≠ '.' := by decide
    -- before `in` a cast would name a longer type
    have hnone : toks = [] := by
      rcases htoks with rfl | ⟨names, rfl, hnames⟩
      · rfl
      · exfalso
        have hsuffix : .operator [':', ':'] :: (names ++ [.word "in".toList] ++ .mark '(' ::
            (rawMemberTokens ms ++ [.mark ')'])) <:+
            sideTokens opened closed ++ (.operator [':', ':'] :: names) ++
              [.word "in".toList, .mark '('] ++ (rawMemberTokens ms ++ [.mark ')']) := by
          refine ⟨sideTokens opened closed, ?_⟩
          simp
        obtain ⟨type, htype⟩ := htext _ hsuffix
        have hrun : typeRun (names ++ [.word "in".toList] ++ .mark '(' ::
            (rawMemberTokens ms ++ [.mark ')'])) = names ++ [.word "in".toList] := by
          refine typeRun_append (fun t ht => ?_) fun t ht => ?_
          · rcases List.mem_append.mp ht with ht | ht
            · exact hnames t ht
            · rw [List.mem_singleton.mp ht]
              rfl
          · rw [← Option.some.inj ht]
            rfl
        rw [hrun] at htype
        have hlast := congrArg List.getLast? htype
        rw [List.getLast?_concat] at hlast
        cases type with
        | text => exact absurd hlast (by decide)
        | varchar => exact absurd hlast (by decide)
    subst hnone
    obtain ⟨members, hmembers, htokens⟩ := members_text hcasts hround
      (htext.suffix (List.suffix_append _ _))
    rw [List.append_nil, ← htokens, List.append_assoc] at hbalanced
    have hsides := sideTokens_balanced (fun depth => ?_) hbalanced
    · subst hsides
      refine ⟨.within opened members, ?_, hmembers.trans hvalues⟩
      rw [sideTokens_self, ← htokens]
      simp [Membership.tokens]
    · show depthFrom (depth + 1) (memberTokens members ++ [.mark ')']) = some depth
      rw [depthFrom_flat (memberTokens_flat members)]
      rfl
  · have hsquare : ']' ≠ '.' := by decide
    have hcast : ∃ type, toks = castTokens type := by
      refine htoks.text ([.operator ['='], .word "any".toList, .mark '(',
        .word "array".toList, .mark '['] ++ (rawMemberTokens ms ++ .mark ']' ::
          (arrayToks ++ [.mark ')']))) (fun t ht => ?_) (htext.suffix ⟨sideTokens opened closed, ?_⟩)
      · rw [← Option.some.inj ht]
        rfl
      · simp
    obtain ⟨type, rfl⟩ := hcast
    obtain ⟨members, hmembers, htokens⟩ := members_text hcasts hsquare
      (htext.suffix (List.suffix_append _ _))
    have harraySuffix : arrayToks ++ [.mark ')'] <:+ sideTokens opened closed ++ castTokens type ++
        [.operator ['='], .word "any".toList, .mark '(', .word "array".toList, .mark '['] ++
          (rawMemberTokens ms ++ .mark ']' :: (arrayToks ++ [.mark ')'])) :=
      ((List.suffix_cons _ _).trans (List.suffix_append _ _)).trans (List.suffix_append _ _)
    obtain ⟨arrayType, rfl⟩ := harray.text (htext.suffix harraySuffix)
    rw [← htokens, List.append_assoc, List.append_assoc] at hbalanced
    have hsides := sideTokens_balanced (fun depth => ?_) hbalanced
    · subst hsides
      refine ⟨.any opened type members arrayType, ?_, hmembers.trans hvalues⟩
      rw [sideTokens_self, ← htokens]
      simp [Membership.tokens]
    · rw [depthFrom_flat (castTokens_flat type)]
      show depthFrom (depth + 1) (memberTokens members ++ .mark ']' ::
        (arrayCastTokens arrayType ++ [.mark ')'])) = some depth
      rw [depthFrom_flat (memberTokens_flat members)]
      show depthFrom (depth + 1) (arrayCastTokens arrayType ++ [.mark ')']) = some depth
      rw [depthFrom_flat (arrayCastTokens_flat arrayType)]
      rfl

end MethodIntegrity

end Mpango
