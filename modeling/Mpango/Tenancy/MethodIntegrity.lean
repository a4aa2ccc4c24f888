import Mpango.Tenancy.MethodMembers

/-!
# The payment method constraint is the right one

What the recogniser of migration 032 accepts is a membership test whose constants spell the three
methods in some case (`accepted_membership`): lower-casing the expression changes nothing but the
case of its constants. So the constraint means what the migration wants exactly if its constants
are in lower case (`means_iff_lowerCase`). A plan that is made for constraints of that kind leaves
one constraint of the canonical name, and planning again yields nothing to do.
-/

namespace Mpango

namespace MethodIntegrity

open Sql

/-! ## Tokens before normalising -/

theorem alike_append {ts us vs : List Token} (h : List.Forall₂ Alike ts (us ++ vs)) :
    ∃ ts₁ ts₂, ts = ts₁ ++ ts₂ ∧ List.Forall₂ Alike ts₁ us ∧ List.Forall₂ Alike ts₂ vs :=
  ⟨ts.take us.length, ts.drop us.length, (List.take_append_drop _ _).symm,
    List.forall₂_take_append ts us vs h, List.forall₂_drop_append ts us vs h⟩

theorem isTypeToken_of_alike {t t' : Token} (h : Alike t t') : isTypeToken t = isTypeToken t' := by
  cases h <;> rfl

theorem alike_typeRun {ts ts' : List Token} (h : List.Forall₂ Alike ts ts') :
    typeRun ts = typeRun ts' := by
  induction h with
  | nil => rfl
  | @cons t t' ts ts' ht _ ih =>
    unfold typeRun at ih ⊢
    rw [List.takeWhile_cons, List.takeWhile_cons, isTypeToken_of_alike ht, ih]
    split
    · next htype =>
      cases ht with
      | word name => rfl
      | mark c => rfl
      | operator name => cases htype
      | quoted h => cases htype
      | text h => cases htype
    · rfl

theorem alike_textCasts {ts ts' : List Token} (h : List.Forall₂ Alike ts ts')
    (htext : TextCasts ts) : TextCasts ts' := by
  rintro rest' ⟨before', rfl⟩
  obtain ⟨before, after, rfl, -, hafter⟩ := alike_append h
  cases hafter with
  | @cons t _ rest _ ht hrest =>
    cases ht
    obtain ⟨type, htype⟩ := htext rest ⟨before, rfl⟩
    exact ⟨type, (alike_typeRun hrest).symm.trans htype⟩

theorem alike_depthFrom {ts ts' : List Token} (h : List.Forall₂ Alike ts ts') (depth : ℕ) :
    depthFrom depth ts = depthFrom depth ts' := by
  induction h generalizing depth with
  | nil => rfl
  | cons ht _ ih =>
    cases ht with
    | mark c => simp only [depthFrom, ih]
    | word name => exact ih depth
    | operator name => exact ih depth
    | quoted h => exact ih depth
    | text h => exact ih depth

/-- A token that is not quoted. -/
def isPlain : Token → Bool
  | .text _ | .quoted _ => false
  | _ => true

/-- Tokens outside quotes are not changed. -/
theorem alike_plain {ts ts' : List Token} (h : List.Forall₂ Alike ts ts')
    (hplain : ∀ t ∈ ts', isPlain t = true) : ts = ts' := by
  induction h with
  | nil => rfl
  | cons ht _ ih =>
    have hrest := ih fun t ht => hplain t (List.mem_cons_of_mem _ ht)
    have hfirst := hplain _ List.mem_cons_self
    cases ht with
    | word name => rw [hrest]
    | operator name => rw [hrest]
    | mark c => rw [hrest]
    | quoted h => cases hfirst
    | text h => cases hfirst

/-! ## Tests before normalising -/

theorem TextType.plain (type : TextType) : ∀ t ∈ type.tokens, isPlain t = true := by
  cases type <;> decide

theorem castTokens_plain (type : Option TextType) : ∀ t ∈ castTokens type, isPlain t = true := by
  cases type with
  | none => exact fun t ht => absurd ht List.not_mem_nil
  | some type => exact List.forall_mem_cons.mpr ⟨rfl, type.plain⟩

theorem methodTokens_plain (bracketed : Bool) :
    ∀ t ∈ methodTokens bracketed, isPlain t = true := by
  cases bracketed <;> decide

namespace Membership

/-- The tokens before the list. -/
def before : Membership → List Token
  | any bracketed type _ _ => methodTokens bracketed ++ (castTokens type ++
      [.operator ['='], .word "any".toList, .mark '(', .word "array".toList, .mark '['])
  | within bracketed _ => methodTokens bracketed ++ [.word "in".toList, .mark '(']

/-- The tokens after the list. -/
def after : Membership → List Token
  | any _ _ _ arrayType => .mark ']' :: (arrayCastTokens arrayType ++ [.mark ')'])
  | within _ _ => [.mark ')']

/-- The same test of another list. -/
def withMembers : Membership → List Member → Membership
  | any bracketed type _ arrayType, members => any bracketed type members arrayType
  | within bracketed _, members => within bracketed members

theorem tokens_withMembers (test : Membership) (members : List Member) :
    (test.withMembers members).tokens = test.before ++ (memberTokens members ++ test.after) := by
  cases test <;> simp [withMembers, tokens, before, after]

theorem values_withMembers (test : Membership) (members : List Member) :
    (test.withMembers members).values = members.map (·.value) := by
  cases test <;> rfl

theorem tokens_eq (test : Membership) :
    test.tokens = test.before ++ (memberTokens test.members ++ test.after) := by
  cases test <;> simp [tokens, before, after, members]

theorem before_plain (test : Membership) : ∀ t ∈ test.before, isPlain t = true := by
  cases test with
  | any bracketed type members arrayType =>
    refine List.forall_mem_append.mpr ⟨methodTokens_plain bracketed,
      List.forall_mem_append.mpr ⟨castTokens_plain type, ?_⟩⟩
    decide
  | within bracketed members =>
    refine List.forall_mem_append.mpr ⟨methodTokens_plain bracketed, ?_⟩
    decide

theorem after_plain (test : Membership) : ∀ t ∈ test.after, isPlain t = true := by
  cases test with
  | any bracketed type members arrayType =>
    refine List.forall_mem_cons.mpr ⟨rfl, List.forall_mem_append.mpr ⟨?_, by decide⟩⟩
    cases arrayType with
    | none => exact fun t ht => absurd ht List.not_mem_nil
    | some type =>
      refine List.forall_mem_cons.mpr ⟨rfl, List.forall_mem_append.mpr ⟨type.plain, ?_⟩⟩
      decide
  | within bracketed members => exact List.forall_mem_singleton.mpr rfl

end Membership

/-- Constants that become others when they are normalised. -/
abbrev AlikeTexts : List (List Char) → List (List Char) → Prop :=
  List.Forall₂ fun w w' => Alike (.text w) (.text w')

theorem exists_text_of_alike {t : Token} {v : List Char} (h : Alike t (.text v)) :
    ∃ w, t = .text w := by
  generalize hv : Token.text v = t' at h
  cases h with
  | text _ => exact ⟨_, rfl⟩
  | _ => cases hv

theorem alike_memberTokens {ts : List Token} {members' : List Member}
    (h : List.Forall₂ Alike ts (memberTokens members')) :
    ∃ members : List Member, ts = memberTokens members ∧
      AlikeTexts (members.map (·.value)) (members'.map (·.value)) := by
  induction members' generalizing ts with
  | nil =>
    cases h
    exact ⟨[], rfl, .nil⟩
  | cons m' members' ih =>
    have hsplit : ∃ us, memberTokens (m' :: members') = .text m'.value :: (castTokens m'.type ++ us) ∧
        (us = [] ∧ members' = [] ∨ us = .mark ',' :: memberTokens members' ∧ members' ≠ []) := by
      cases members' with
      | nil => exact ⟨[], by rw [memberTokens, List.append_nil], .inl ⟨rfl, rfl⟩⟩
      | cons n members' => exact ⟨_, rfl, .inr ⟨rfl, List.cons_ne_nil _ _⟩⟩
    obtain ⟨us, htokens, hus⟩ := hsplit
    rw [htokens] at h
    cases h with
    | @cons t _ ts _ ht hts =>
      obtain ⟨cast, rest, rfl, hcast, hrest⟩ := alike_append hts
      obtain rfl := alike_plain hcast (castTokens_plain m'.type)
      obtain ⟨w, rfl⟩ := exists_text_of_alike ht
      rcases hus with ⟨rfl, rfl⟩ | ⟨rfl, hne⟩
      · cases hrest
        exact ⟨[⟨w, m'.type⟩], by rw [memberTokens, List.append_nil], .cons ht .nil⟩
      · cases hrest with
        | @cons t _ rest _ hcomma hrest =>
          cases hcomma
          obtain ⟨members, rfl, hvalues⟩ := ih hrest
          have hne' : members ≠ [] := by
            rintro rfl
            cases members' with
            | nil => exact hne rfl
            | cons n members' => cases hvalues
          obtain ⟨n, members, rfl⟩ := List.exists_cons_of_ne_nil hne'
          exact ⟨⟨w, m'.type⟩ :: n :: members, rfl, .cons ht hvalues⟩

/-- The tokens of a test come from a test of constants that become its own. -/
theorem Membership.of_alike {ts : List Token} {test' : Membership}
    (h : List.Forall₂ Alike ts test'.tokens) :
    ∃ test : Membership, ts = test.tokens ∧ AlikeTexts test.values test'.values := by
  rw [test'.tokens_eq] at h
  obtain ⟨before, rest, rfl, hbefore, hrest⟩ := alike_append h
  obtain ⟨list, after, rfl, hlist, hafter⟩ := alike_append hrest
  obtain rfl := alike_plain hbefore test'.before_plain
  obtain rfl := alike_plain hafter test'.after_plain
  obtain ⟨members, rfl, hvalues⟩ := alike_memberTokens hlist
  refine ⟨test'.withMembers members, (test'.tokens_withMembers members).symm, ?_⟩
  rw [Membership.values_withMembers]
  exact hvalues

/-! ## What the recogniser accepts -/

variable {env : Unicode}

/-- The constraint allows the three methods and nothing else. -/
def Means (pg : Postgres) (ts : List Token) : Prop := ∀ m, pg.holds ts m ↔ m ∈ canonicalMethods

/-- Every constant is in lower case. -/
def LowerConstants (ts : List Token) : Prop := ∀ w, .text w ∈ ts → w.map Char.toLower = w

theorem sameSet_iff {α : Type} [DecidableEq α] {xs ys : List α} :
    sameSet xs ys = true ↔ ∀ a, a ∈ xs ↔ a ∈ ys := by
  simp only [sameSet, Bool.and_eq_true, List.all_eq_true, decide_eq_true_eq]
  exact ⟨fun h a => ⟨h.1 a, h.2 a⟩, fun h => ⟨fun a => (h a).mp, fun a => (h a).mpr⟩⟩

/-- The letters of the three methods. -/
theorem canonicalMethods_plain : ∀ m ∈ canonicalMethods.map String.toList, ∀ d ∈ m,
    d.toNat < 128 ∧ d ≠ 'k' ∧ isBlank d = false := by
  have hall : ((canonicalMethods.map String.toList).all fun m => m.all fun d =>
      d.toNat < 128 && d != 'k' && !isBlank d) = true := by decide +kernel
  intro m hm d hd
  have hd := List.all_eq_true.mp (List.all_eq_true.mp hall m hm) d hd
  simpa [and_assoc] using hd

theorem canonicalMethods_lower : ∀ m ∈ canonicalMethods.map String.toList,
    m.map Char.toLower = m := by
  decide +kernel

/-- Constants that become the methods spell them. -/
theorem map_toLower_of_alikeTexts {values values' : List (List Char)}
    (h : AlikeTexts values values') (hvalues : ∀ v ∈ values', v ∈ canonicalMethods.map String.toList) :
    values.map (List.map Char.toLower) = values' := by
  induction h with
  | nil => rfl
  | cons hv _ ih =>
    rw [List.map_cons, ih fun v hv => hvalues v (List.mem_cons_of_mem _ hv),
      hv.text_eq (canonicalMethods_plain _ (hvalues _ List.mem_cons_self))]

/-- An accepted expression is a membership test whose constants spell the methods in some case. -/
theorem accepted_membership {row : ConstraintRow} {ts : List Token}
    (h : isEquivalent env row = true) (hprinted : Printed row.expression ts)
    (htext : TextCasts ts) :
    ∃ test : Membership, ts = test.tokens ∧
      ∀ v, v ∈ test.values.map (List.map Char.toLower) ↔ v ∈ canonicalMethods.map String.toList := by
  unfold isEquivalent at h
  split at h
  · cases h
  · split at h
    · cases h
    · dsimp only at h
      split at h
      · cases h
      · split at h
        · cases h
        · next values hvalues =>
          have hset := sameSet_iff.mp (of_decide_eq_true h).2
          obtain ⟨ts', hts', halike⟩ := lex_normalized env.lower hprinted.reads
          have hspaced : Spaced (normalizeExpression env row.expression) := fun c hc hblank =>
            (eq_space_of_mem_joinBlank hblank).1 hc
          obtain ⟨ts'', hts'', hraw⟩ := lex_of_members hvalues hspaced
          obtain rfl : ts' = ts'' := Option.some.inj (hts'.symm.trans hts'')
          have hbalanced : depthFrom 0 ts' = some 0 :=
            (alike_depthFrom halike 0).symm.trans hprinted.balanced
          obtain ⟨test', rfl, htest'⟩ := hraw.membership (alike_textCasts halike htext) hbalanced
          obtain ⟨test, rfl, htexts⟩ := Membership.of_alike halike
          refine ⟨test, rfl, fun v => ?_⟩
          rw [map_toLower_of_alikeTexts htexts fun v hv => (hset v).mp (htest' ▸ hv), htest', hset]

theorem text_mem_tokens {test : Membership} {w : List Char} :
    .text w ∈ test.tokens ↔ w ∈ test.values := by
  have hplain : ∀ ts : List Token, (∀ t ∈ ts, isPlain t = true) → .text w ∉ ts := fun ts hts hmem =>
    Bool.noConfusion (hts _ hmem)
  have hmembers : ∀ members : List Member,
      .text w ∈ memberTokens members ↔ w ∈ members.map (·.value) := by
    intro members
    induction members with
    | nil => simp [memberTokens]
    | cons m members ih =>
      have hcast := hplain _ (castTokens_plain m.type)
      cases members with
      | nil => simp [memberTokens, hcast]
      | cons n members =>
        have htokens : memberTokens (m :: n :: members) =
            .text m.value :: (castTokens m.type ++ .mark ',' :: memberTokens (n :: members)) := rfl
        rw [htokens, List.map_cons]
        simp only [List.mem_cons, List.mem_append, Token.text.injEq, reduceCtorEq, hcast, false_or,
          ih]
  rw [test.tokens_eq, List.mem_append, List.mem_append, hmembers]
  simp only [hplain _ test.before_plain, hplain _ test.after_plain, false_or, or_false]
  rfl

/-- A test whose constants spell the methods means the right thing exactly in lower case. -/
theorem means_iff_lowerConstants (pg : Postgres) {test : Membership}
    (h : ∀ v, v ∈ test.values.map (List.map Char.toLower) ↔
      v ∈ canonicalMethods.map String.toList) :
    Means pg test.tokens ↔ LowerConstants test.tokens := by
  have hmem : ∀ m : String, m ∈ canonicalMethods ↔ m.toList ∈ canonicalMethods.map String.toList :=
    fun m => (List.mem_map_of_injective fun _ _ h => String.toList_injective h).symm
  constructor
  · intro hmeans w hw
    have hvalue : w ∈ test.values := text_mem_tokens.mp hw
    have hholds : pg.holds test.tokens (String.ofList w) :=
      (pg.membership test _).mpr (by rwa [String.toList_ofList])
    have hcanonical := (hmem _).mp ((hmeans _).mp hholds)
    rw [String.toList_ofList] at hcanonical
    exact canonicalMethods_lower w hcanonical
  · intro hlower m
    have hsame : test.values.map (List.map Char.toLower) = test.values := by
      conv_rhs => rw [← List.map_id test.values]
      exact List.map_congr_left fun w hw => hlower w (text_mem_tokens.mpr hw)
    rw [pg.membership, hmem, ← h, hsame]

/-! ## The constraint that is added -/

/-- What PostgreSQL prints for the constraint is a membership test of the methods. -/
def addedTest : TextType → Membership
  | .text => .any false none (canonicalMethods.map fun m => ⟨m.toList, some .text⟩) none
  | .varchar =>
    .any false (some .text) (canonicalMethods.map fun m => ⟨m.toList, some .varchar⟩) (some .text)

/-- The text of the constraint: its tokens, its characters, the words and the signs it has not, and
the members that are read in it. -/
theorem addedExpr_checked (columnType : TextType) :
    (lex (addedExpr columnType).toList = some (addedTest columnType).tokens ∧
      depthFrom 0 (addedTest columnType).tokens = some 0) ∧
    (addedExpr columnType).toList.all (·.toNat < 128) = true ∧
    (["or", "and", "not", "current_user", "current_role"].all fun s =>
      !contains s (joinBlank ((addedExpr columnType).toList.map Char.toLower))) = true ∧
    (["<>", "!=", "||"].all fun s =>
      !contains s (joinBlank ((addedExpr columnType).toList.map Char.toLower))) = true ∧
    (["<>all", "notin", "isdistinctfrom"].all fun s =>
      !contains s (splitBlank ((addedExpr columnType).toList.map Char.toLower)).flatten) = true ∧
    positiveMethodMembers (joinBlank ((addedExpr columnType).toList.map Char.toLower)) =
      some (canonicalMethods.map String.toList) := by
  cases columnType <;> decide +kernel

theorem addedExpr_printed (columnType : TextType) :
    Printed (addedExpr columnType) (addedTest columnType).tokens :=
  ⟨(addedExpr_checked columnType).1.1, (addedExpr_checked columnType).1.2⟩

theorem addedTest_means (pg : Postgres) (columnType : TextType) :
    Means pg (addedTest columnType).tokens := by
  refine (means_iff_lowerConstants pg fun v => ?_).mpr fun w hw => ?_
  · cases columnType <;> exact iff_of_eq (congrArg (v ∈ ·) (by decide +kernel))
  · have hvalue := text_mem_tokens.mp hw
    refine canonicalMethods_lower w ?_
    cases columnType <;> exact hvalue

/-- A word the search finds is in the text. -/
theorem contains_of_found {s : String} (hs : s ≠ "") {word : Char → Bool} {cs : List Char}
    (h : ∃ u w v, cs = u ++ (w ++ v) ∧
      (Regex.all [.edge word, .text s, .edge word]).Matches w) : contains s cs = true := by
  obtain ⟨u, _, v, rfl, _, _, rfl, rfl, w, _, rfl, hw, rfl⟩ := h
  rw [(Regex.matches_text hs).mp hw]
  refine List.any_eq_true.mpr ⟨s.toList ++ v, ?_, ?_⟩
  · rw [List.mem_tails]
    exact ⟨u, by simp⟩
  · rw [List.isPrefixOf_iff_prefix]
    exact List.prefix_append _ _

theorem addedExpr_normalized (env : Unicode) (columnType : TextType) :
    normalizeExpression env (addedExpr columnType) =
        joinBlank ((addedExpr columnType).toList.map Char.toLower) ∧
      compactSql env (addedExpr columnType) =
        (splitBlank ((addedExpr columnType).toList.map Char.toLower)).flatten := by
  have hascii : ∀ c ∈ (addedExpr columnType).toList, c.toNat < 128 := fun c hc => by
    simpa using List.all_eq_true.mp (addedExpr_checked columnType).2.1 c hc
  unfold normalizeExpression compactSql
  rw [env.lower.of_ascii hascii]
  exact ⟨rfl, rfl⟩

/-- The added constraint is recognised. -/
theorem addedRow_equivalent (env : Unicode) (driver : Driver) (columnType : TextType) :
    isEquivalent env (addedRow driver columnType) = true := by
  have hexpr : (addedRow driver columnType).expression = addedExpr columnType := by
    cases columnType <;> rfl
  obtain ⟨hnormalized, hcompact⟩ := addedExpr_normalized env columnType
  obtain ⟨-, -, hwords, hsigns, hpairs, hread⟩ := addedExpr_checked columnType
  have hforbidden : hasForbiddenSemantics env (normalizeExpression env (addedExpr columnType))
      (compactSql env (addedExpr columnType)) = false := by
    rw [hnormalized, hcompact]
    have hwords : ∀ s ∈ ["or", "and", "not", "current_user", "current_role"],
        contains s (joinBlank ((addedExpr columnType).toList.map Char.toLower)) = false := by
      intro s hs
      simpa using List.all_eq_true.mp hwords s hs
    simp only [List.all_cons, List.all_nil, Bool.and_true, Bool.and_eq_true,
      Bool.not_eq_true'] at hsigns hpairs
    simp only [hasForbiddenSemantics, hsigns, hpairs, Bool.or_false, Bool.or_eq_false_iff]
    constructor
    · refine Bool.eq_false_iff.mpr fun h => ?_
      obtain ⟨u, w, v, hcs, hor | hand | hnot⟩ := Regex.matches_of_foundFrom h
      · exact Bool.noConfusion ((hwords "or" (by simp)).symm.trans
          (contains_of_found (by decide) ⟨u, w, v, hcs, hor⟩))
      · exact Bool.noConfusion ((hwords "and" (by simp)).symm.trans
          (contains_of_found (by decide) ⟨u, w, v, hcs, hand⟩))
      · exact Bool.noConfusion ((hwords "not" (by simp)).symm.trans
          (contains_of_found (by decide) ⟨u, w, v, hcs, hnot⟩))
    · refine Bool.eq_false_iff.mpr fun h => ?_
      obtain ⟨u, w, v, hcs, huser | hrole⟩ := Regex.matches_of_foundFrom h
      · exact Bool.noConfusion ((hwords "current_user" (by simp)).symm.trans
          (contains_of_found (by decide) ⟨u, w, v, hcs, huser⟩))
      · exact Bool.noConfusion ((hwords "current_role" (by simp)).symm.trans
          (contains_of_found (by decide) ⟨u, w, v, hcs, hrole⟩))
  have hmembers : positiveMethodMembers (normalizeExpression env (addedExpr columnType)) =
      some (canonicalMethods.map String.toList) := by
    rw [hnormalized, hread]
  unfold isEquivalent
  rw [hexpr, if_neg (by simp [addedRow]), if_neg (by simp [addedRow, driver.reads])]
  dsimp only
  rw [hforbidden, hmembers]
  decide +kernel

/-! ## Plans -/

section Plans
variable {table : PaymentsTable} {action : Action}

/-- A row the plan passes over: it is not recognised, and not about the method either. -/
def Unrelated (env : Unicode) (row : ConstraintRow) : Prop :=
  isEquivalent env row = false ∧ isCandidate row = false

/-- What a plan says of the table it is made for. -/
inductive Planned (env : Unicode) (table : PaymentsTable) : Action → Prop
  | none (row : ConstraintRow) : row ∈ constraintRows table → row.conname = constraintName →
    isEquivalent env row = true →
      (∀ r ∈ constraintRows table, r.conname ≠ constraintName → Unrelated env r) →
        Planned env table .none
  | rename (row : ConstraintRow) : (∀ r ∈ constraintRows table, r.conname ≠ constraintName) →
    row ∈ constraintRows table → isEquivalent env row = true →
      (∀ r ∈ constraintRows table, r ≠ row → Unrelated env r) →
        Planned env table (.rename row.conname)
  | add : (∀ r ∈ constraintRows table, r.conname ≠ constraintName) →
    (∀ r ∈ constraintRows table, Unrelated env r) → Planned env table .add

theorem planned_of_planSchema (h : planSchema env (some table) = .ok action) :
    invalidMethodCount table = 0 ∧ Planned env table action := by
  unfold planSchema at h
  dsimp only at h
  split at h
  · cases h
  · next hcount =>
    refine ⟨Nat.eq_zero_of_not_pos hcount, ?_⟩
    have hunrelated : ∀ r ∈ constraintRows table,
        ((constraintRows table).filter fun row => !isEquivalent env row && isCandidate row) = [] →
          isEquivalent env r = false → Unrelated env r := by
      intro r hr hnil hr'
      refine ⟨hr', ?_⟩
      have hnot := List.filter_eq_nil_iff.mp hnil r hr
      simpa [hr'] using hnot
    split at h
    · cases h
    · split at h
      · next row _ hcanonical =>
        have hrow : row ∈ (constraintRows table).filter (·.conname = constraintName) :=
          hcanonical ▸ List.mem_cons_self
        obtain ⟨hmem, hname⟩ := List.mem_filter.mp hrow
        split at h
        · cases h
        · next hequivalent =>
          split at h
          · cases h
          · next hother =>
            split at h
            · cases h
            · next hincompatible =>
              obtain rfl := Except.ok.inj h
              refine .none row hmem (of_decide_eq_true hname) (by simpa using hequivalent)
                fun r hr hne => hunrelated r hr (not_not.mp hincompatible) ?_
              by_contra hr'
              refine hother (List.any_eq_true.mpr ⟨r, List.mem_filter.mpr ⟨hr, by simpa using hr'⟩, ?_⟩)
              exact decide_eq_true hne
      · next hcanonical =>
        have hnone : ∀ r ∈ constraintRows table, r.conname ≠ constraintName := fun r hr => by
          simpa using List.filter_eq_nil_iff.mp hcanonical r hr
        split at h
        · cases h
        · next hincompatible =>
          have hincompatible := not_not.mp hincompatible
          split at h
          · cases h
          · next hone =>
            split at h
            · next row rest hequivalent =>
              obtain rfl := Except.ok.inj h
              rw [hequivalent] at hone
              have hlength : rest.length + 1 ≤ 1 := Nat.le_of_not_lt hone
              obtain rfl : rest = [] := List.length_eq_zero_iff.mp (by omega)
              have hrow : row ∈ (constraintRows table).filter (isEquivalent env) :=
                hequivalent ▸ List.mem_cons_self
              refine .rename row hnone (List.mem_filter.mp hrow).1 (List.mem_filter.mp hrow).2
                fun r hr hne => hunrelated r hr hincompatible ?_
              by_contra hr'
              have hmem : r ∈ (constraintRows table).filter (isEquivalent env) :=
                List.mem_filter.mpr ⟨hr, by simpa using hr'⟩
              rw [hequivalent, List.mem_singleton] at hmem
              exact hne hmem
            · next hequivalent =>
              obtain rfl := Except.ok.inj h
              refine .add hnone fun r hr => hunrelated r hr hincompatible ?_
              simpa using List.filter_eq_nil_iff.mp hequivalent r hr

theorem filter_eq_singleton {α : Type} {xs : List α} {f : α → String} (h : (xs.map f).Nodup) {x : α}
    (hx : x ∈ xs) : (xs.filter fun y => f y = f x) = [x] := by
  induction xs with
  | nil => exact absurd hx List.not_mem_nil
  | cons y ys ih =>
    rw [List.map_cons, List.nodup_cons] at h
    rcases List.mem_cons.mp hx with rfl | hx
    · have hrest : (ys.filter fun y => f y = f x) = [] := by
        refine List.filter_eq_nil_iff.mpr fun y hy heq => h.1 ?_
        rw [← of_decide_eq_true heq]
        exact List.mem_map_of_mem hy
      rw [List.filter_cons_of_pos (by simp), hrest]
    · have hne : f y ≠ f x := fun heq => h.1 (heq ▸ List.mem_map_of_mem hx)
      rw [List.filter_cons_of_neg (by simpa using hne), ih h.2 hx]

/-- A table with a recognised constraint of the canonical name, and no other about the method, is
left as it is. -/
theorem planSchema_of_canonical {row : ConstraintRow} (hcount : invalidMethodCount table = 0)
    (hrow : row ∈ constraintRows table) (hname : row.conname = constraintName)
    (hequivalent : isEquivalent env row = true)
    (hothers : ∀ r ∈ constraintRows table, r.conname ≠ constraintName → Unrelated env r) :
    planSchema env (some table) = .ok .none := by
  have hnodup : ((constraintRows table).map (·.conname)).Nodup :=
    table.distinct.sublist (List.filter_sublist.map _)
  have hcanonical : (constraintRows table).filter (·.conname = constraintName) = [row] :=
    hname ▸ filter_eq_singleton hnodup hrow
  have hequivalentOthers : ((constraintRows table).filter (isEquivalent env)).any
      (·.conname ≠ constraintName) = false := by
    refine List.any_eq_false.mpr fun r hr hne => ?_
    obtain ⟨hmem, hr'⟩ := List.mem_filter.mp hr
    rw [(hothers r hmem (of_decide_eq_true hne)).1] at hr'
    cases hr'
  have hincompatible :
      ((constraintRows table).filter fun r => !isEquivalent env r && isCandidate r) = [] := by
    refine List.filter_eq_nil_iff.mpr fun r hr => ?_
    by_cases hne : r.conname = constraintName
    · have hsame : r ∈ (constraintRows table).filter (·.conname = constraintName) :=
        List.mem_filter.mpr ⟨hr, decide_eq_true hne⟩
      rw [hcanonical, List.mem_singleton] at hsame
      simp [hsame, hequivalent]
    · simp [(hothers r hr hne).2]
  unfold planSchema
  dsimp only
  rw [if_neg (by simp [hcount]), hcanonical]
  simp only [List.length_singleton, lt_irrefl, if_false, hequivalent, Bool.true_eq_false,
    hequivalentOthers, Bool.false_eq_true, hincompatible, ne_eq, not_true_eq_false]

/-! ## Applying a plan -/

/-- One constraint has the canonical name; it is a validated CHECK constraint of that meaning. -/
def OneCanonical (pg : Postgres) (table : PaymentsTable) : Prop :=
  ∃ row ts, (table.constraints.filter fun r => r.conname = constraintName) = [row] ∧
    row.contype = "c" ∧ row.convalidated = true ∧ Printed row.expression ts ∧ Means pg ts

/-- What a plan relies on: of the CHECK constraints on the method alone, PostgreSQL's texts name no
type but the text types and have their constants in lower case, no constraint of another type has
the canonical name, and the names reach the database as they stand. -/
structure Fit (driver : Driver) (table : PaymentsTable) : Prop where
  lower : ∀ row ∈ constraintRows table, catalogColumnNames row.columnNames = ["method"] →
    ∃ ts, Printed row.expression ts ∧ TextCasts ts ∧ LowerConstants ts
  canonical : ∀ row ∈ table.constraints, row.conname = constraintName → row.contype = "c"
  names : ∀ row ∈ constraintRows table, driver.handsOver row.conname = true

theorem columnNames_of_equivalent {row : ConstraintRow} (h : isEquivalent env row = true) :
    row.contype = "c" ∧ row.convalidated = true ∧
      catalogColumnNames row.columnNames = ["method"] := by
  unfold isEquivalent at h
  split at h
  · cases h
  · next hkind =>
    split at h
    · cases h
    · next hcolumns =>
      rw [not_or, not_not] at hkind
      exact ⟨hkind.1, by simpa using hkind.2, not_not.mp hcolumns⟩

/-- A recognised constraint of a fit table means the right thing. -/
theorem Fit.means {driver : Driver} (h : Fit driver table) (pg : Postgres) {row : ConstraintRow}
    (hrow : row ∈ constraintRows table) (hequivalent : isEquivalent env row = true) :
    ∃ ts, Printed row.expression ts ∧ Means pg ts := by
  obtain ⟨ts, hprinted, htext, hlower⟩ :=
    h.lower row hrow (columnNames_of_equivalent hequivalent).2.2
  obtain ⟨test, rfl, hvalues⟩ := accepted_membership hequivalent hprinted htext
  exact ⟨_, hprinted, (means_iff_lowerConstants pg hvalues).mpr hlower⟩

theorem oneCanonical_of_row {pg : Postgres} {row : ConstraintRow} (hrow : row ∈ table.constraints)
    (hname : row.conname = constraintName) (hequivalent : isEquivalent env row = true)
    (hmeans : ∃ ts, Printed row.expression ts ∧ Means pg ts) : OneCanonical pg table := by
  obtain ⟨ts, hprinted, hmeans⟩ := hmeans
  obtain ⟨hkind, hvalidated, -⟩ := columnNames_of_equivalent hequivalent
  exact ⟨row, ts, hname ▸ filter_eq_singleton table.distinct hrow, hkind, hvalidated, hprinted,
    hmeans⟩

theorem mem_constraintRows {row : ConstraintRow} :
    row ∈ constraintRows table ↔ row ∈ table.constraints ∧ row.contype = "c" := by
  rw [constraintRows, List.mem_filter, decide_eq_true_iff]

/-- The canonical name is free, if no CHECK constraint has it. -/
theorem Fit.free {driver : Driver} (h : Fit driver table)
    (hnone : ∀ r ∈ constraintRows table, r.conname ≠ constraintName) :
    constraintName ∉ table.names := by
  intro hmem
  obtain ⟨r, hr, hname⟩ := List.mem_map.mp hmem
  exact hnone r (mem_constraintRows.mpr ⟨hr, h.canonical r hr hname⟩) hname

/-- A renamed constraint is the one of the canonical name, and the others are as they were. -/
theorem applyPlan_rename {driver : Driver} (h : Fit driver table) (pg : Postgres)
    {row : ConstraintRow} (columnType : TextType) (hcount : invalidMethodCount table = 0)
    (hnone : ∀ r ∈ constraintRows table, r.conname ≠ constraintName)
    (hrow : row ∈ constraintRows table) (hequivalent : isEquivalent env row = true)
    (hothers : ∀ r ∈ constraintRows table, r ≠ row → Unrelated env r) :
    ∃ table', applyPlan driver columnType table (.rename row.conname) = .ok table' ∧
      OneCanonical pg table' ∧ planSchema env (some table') = .ok .none := by
  have hfree := h.free hnone
  obtain ⟨hmem, hkind⟩ := mem_constraintRows.mp hrow
  have hlegacy : row.conname ∈ table.names := List.mem_map_of_mem hmem
  let table' : PaymentsTable := ⟨table.methods,
    table.constraints.map (PaymentsTable.renamed row.conname constraintName),
    table.nodup_renamed hfree⟩
  have hrenamed : PaymentsTable.renamed row.conname constraintName row =
      { row with conname := constraintName } := if_pos rfl
  have hmem' : { row with conname := constraintName } ∈ table'.constraints :=
    hrenamed ▸ List.mem_map_of_mem hmem
  have hmeans : ∃ ts, Printed row.expression ts ∧ Means pg ts := h.means pg hrow hequivalent
  refine ⟨table', ?_, oneCanonical_of_row hmem' rfl hequivalent hmeans, ?_⟩
  · show (if driver.handsOver row.conname then table.rename row.conname constraintName
      else .error .unboundParameter) = .ok table'
    rw [if_pos (h.names row hrow), PaymentsTable.rename, if_neg (not_not.mpr hlegacy),
      dif_neg hfree]
  · refine planSchema_of_canonical hcount (mem_constraintRows.mpr ⟨hmem', hkind⟩) rfl hequivalent
      fun r hr hne => ?_
    obtain ⟨hr, hkind'⟩ := mem_constraintRows.mp hr
    obtain ⟨r, hbefore, rfl⟩ := List.mem_map.mp hr
    by_cases hname : r.conname = row.conname
    · rw [PaymentsTable.renamed_conname, if_pos hname] at hne
      exact absurd rfl hne
    · have hsame : PaymentsTable.renamed row.conname constraintName r = r := if_neg hname
      rw [hsame] at hkind' ⊢
      exact hothers r (mem_constraintRows.mpr ⟨hbefore, hkind'⟩) fun heq => hname (heq ▸ rfl)

/-- An added constraint is the one of the canonical name, and the others are as they were. -/
theorem applyPlan_add {driver : Driver} (h : Fit driver table) (pg : Postgres)
    (columnType : TextType) (hcount : invalidMethodCount table = 0)
    (hnone : ∀ r ∈ constraintRows table, r.conname ≠ constraintName)
    (hothers : ∀ r ∈ constraintRows table, Unrelated env r) :
    ∃ table', applyPlan driver columnType table .add = .ok table' ∧
      OneCanonical pg table' ∧ planSchema env (some table') = .ok .none := by
  have hfree := h.free hnone
  let row := addedRow driver columnType
  let table' : PaymentsTable :=
    ⟨table.methods, table.constraints ++ [row], table.nodup_added hfree⟩
  have hmem : row ∈ table'.constraints := List.mem_append_right _ List.mem_cons_self
  have hequivalent : isEquivalent env row = true := addedRow_equivalent env driver columnType
  have hmeans : ∃ ts, Printed row.expression ts ∧ Means pg ts := by
    have hexpr : row.expression = addedExpr columnType := by cases columnType <;> rfl
    exact ⟨_, hexpr ▸ addedExpr_printed columnType, addedTest_means pg columnType⟩
  have hvalid : (table.methods.any fun method => method.any (· ∉ canonicalMethods)) = false := by
    refine List.any_eq_false.mpr fun method hmethod hinvalid => ?_
    have hvalid := List.countP_eq_zero.mp hcount method hmethod
    cases method with
    | none => cases hinvalid
    | some m => exact hvalid hinvalid
  refine ⟨table', ?_, oneCanonical_of_row hmem rfl hequivalent hmeans, ?_⟩
  · show table.add row = .ok table'
    have hname : row.conname ∉ table.names := hfree
    rw [PaymentsTable.add, dif_neg hname, hvalid]
    rfl
  · refine planSchema_of_canonical hcount (mem_constraintRows.mpr ⟨hmem, rfl⟩) rfl hequivalent
      fun r hr hne => ?_
    obtain ⟨hr, hkind⟩ := mem_constraintRows.mp hr
    rcases List.mem_append.mp hr with hr | hr
    · exact hothers r (mem_constraintRows.mpr ⟨hr, hkind⟩)
    · rw [List.mem_singleton.mp hr] at hne
      exact absurd rfl hne

/-- Applying the plan of a fit table leaves one constraint of the canonical name, validated and of
the right meaning, and nothing to plan. -/
theorem Fit.applyPlan {driver : Driver} (h : Fit driver table) (pg : Postgres)
    (columnType : TextType) (hplan : planSchema env (some table) = .ok action) :
    ∃ table', applyPlan driver columnType table action = .ok table' ∧
      OneCanonical pg table' ∧ planSchema env (some table') = .ok .none := by
  obtain ⟨hcount, hplanned⟩ := planned_of_planSchema hplan
  cases hplanned with
  | none row hrow hname hequivalent hothers =>
    have hmem := (mem_constraintRows.mp hrow).1
    exact ⟨table, rfl, oneCanonical_of_row hmem hname hequivalent (h.means pg hrow hequivalent),
      hplan⟩
  | rename row hnone hrow hequivalent hothers =>
    exact applyPlan_rename h pg columnType hcount hnone hrow hequivalent hothers
  | add hnone hothers => exact applyPlan_add h pg columnType hcount hnone hothers

end Plans

end MethodIntegrity

end Mpango
