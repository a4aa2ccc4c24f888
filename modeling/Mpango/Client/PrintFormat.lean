import Mathlib.Data.List.Basic
import Mathlib.Tactic.Common
import Mpango.Model.PrintFormat

/-!
# Printed money keeps its digits

Inside a run of digits the pattern matches exactly where the number of digits to the right is a
multiple of three (`threes_of_digits`), so that the replacement cuts the run into groups of three
behind a first group of one to three (`insertCommas_digits`). The commas can be taken out again, and
therefore no two amounts are printed alike.
-/

namespace Mpango

namespace PrintFormat

variable {c : Char} {cs ds : List Char} {before : Option Char}

/-! ## The pattern -/

theorem isWord_of_isDigit (h : c.isDigit = true) : isWord c = true := by
  simp [isWord, Char.isAlphanum, h]

theorem threes_of_digits (h : ∀ c ∈ ds, c.isDigit = true) :
    threes ds = true ↔ ds ≠ [] ∧ ds.length % 3 = 0 := by
  fun_induction threes ds with
  | case1 a b c rest ih =>
    have hrest : ∀ c ∈ rest, c.isDigit = true := fun c hc => h c (by simp [hc])
    have ha : a.isDigit = true := h a (by simp)
    have hb : b.isDigit = true := h b (by simp)
    have hc : c.isDigit = true := h c (by simp)
    cases rest with
    | nil => simp [ha, hb, hc]
    | cons d rest =>
      have hd : d.isDigit = true := hrest d (by simp)
      have ih := ih hrest
      simp only [ha, hb, hc, hd, List.head?_cons, Option.any_some, Bool.and_self, Bool.not_true,
        Bool.false_or, Bool.true_and, ih, List.length_cons, ne_eq, reduceCtorEq, not_false_eq_true,
        true_and]
      omega
  | case2 ds hshort =>
    have hlength : ds.length < 3 := by
      by_contra hlong
      match ds, hlong with
      | [], hlong => simp at hlong
      | [_], hlong => simp at hlong
      | [_, _], hlong => simp at hlong
      | a :: b :: c :: rest, _ => exact hshort a b c rest rfl
    simp only [Bool.false_eq_true, false_iff, not_and]
    intro hne
    have hpos : 0 < ds.length := List.length_pos_iff.mpr hne
    omega

/-- Inside a run of digits a comma stands where the digits to the right come in threes. -/
theorem insertCommas_cons (hbefore : before.any isWord = true)
    (h : ∀ d ∈ c :: ds, d.isDigit = true) :
    insertCommas before (c :: ds) = if (ds.length + 1) % 3 = 0
      then ',' :: c :: insertCommas (some c) ds else c :: insertCommas (some c) ds := by
  have hword : isWord c = true := isWord_of_isDigit (h c List.mem_cons_self)
  have hmatch : (noBoundary before (some c) && threes (c :: ds)) = true ↔
      (ds.length + 1) % 3 = 0 := by
    rw [Bool.and_eq_true, threes_of_digits h]
    simp [noBoundary, hbefore, hword]
  rw [insertCommas]
  by_cases hthree : (ds.length + 1) % 3 = 0
  · rw [if_pos (hmatch.mpr hthree), if_pos hthree]
  · rw [if_neg fun hm => hthree (hmatch.mp hm), if_neg hthree]

/-- Before the first digit there is a boundary. -/
theorem insertCommas_first (h : ∀ d ∈ c :: ds, d.isDigit = true) :
    insertCommas none (c :: ds) = c :: insertCommas (some c) ds := by
  have hword : isWord c = true := isWord_of_isDigit (h c List.mem_cons_self)
  have hboundary : noBoundary none (some c) = false := by simp [noBoundary, hword]
  rw [insertCommas, hboundary]
  rfl

/-! ## The groups -/

/-- Digits that come in threes, behind a digit: every three get a comma before them. -/
theorem insertCommas_threes {n : ℕ} (hbefore : before.any isWord = true)
    (h : ∀ d ∈ ds, d.isDigit = true) (hlength : ds.length = 3 * n) :
    ∃ groups : List (List Char), ds = groups.flatten ∧ (∀ g ∈ groups, g.length = 3) ∧
      insertCommas before ds = groups.flatMap (',' :: ·) := by
  induction n generalizing before ds with
  | zero =>
    obtain rfl : ds = [] := List.length_eq_zero_iff.mp hlength
    exact ⟨[], rfl, by simp, rfl⟩
  | succ n ih =>
    match ds, hlength with
    | a :: b :: c :: rest, hlength =>
      have hrest : ∀ d ∈ rest, d.isDigit = true := fun d hd => h d (by simp [hd])
      have hword {d : Char} (hd : d ∈ a :: b :: c :: rest) : (some d).any isWord = true :=
        isWord_of_isDigit (h d hd)
      simp only [List.length_cons] at hlength
      obtain ⟨groups, hflat, hthree, hinsert⟩ :=
        ih (hword (show c ∈ _ by simp)) hrest (by omega)
      refine ⟨[a, b, c] :: groups, by simp [hflat], by simpa using hthree, ?_⟩
      rw [insertCommas_cons hbefore h, if_pos (by simp only [List.length_cons]; omega),
        insertCommas_cons (hword (by simp)) fun d hd => h d (List.mem_cons_of_mem _ hd),
        if_neg (by simp only [List.length_cons]; omega),
        insertCommas_cons (hword (by simp)) fun d hd => h d (by simp [List.mem_cons.mp hd]),
        if_neg (by omega), hinsert]
      rfl

/-- A list cut into groups of three behind a first group of at most three. -/
structure Cut (ds first : List Char) (groups : List (List Char)) : Prop where
  flatten : ds = first ++ groups.flatten
  short : first.length ≤ 3
  pos : ds ≠ [] → 1 ≤ first.length
  three : ∀ g ∈ groups, g.length = 3

/-- A run of digits, printed by its groups. -/
theorem insertCommas_digits (h : ∀ d ∈ ds, d.isDigit = true) :
    ∃ first groups, Cut ds first groups ∧
      insertCommas none ds = first ++ groups.flatMap (',' :: ·) := by
  -- the first group takes what the groups of three leave over
  match ds with
  | [] => exact ⟨[], [], ⟨rfl, by simp, fun hne => absurd rfl hne, by simp⟩, rfl⟩
  | a :: ds =>
    have hword {d : Char} (hd : d ∈ a :: ds) : (some d).any isWord = true :=
      isWord_of_isDigit (h d hd)
    have hds : ∀ d ∈ ds, d.isDigit = true := fun d hd => h d (List.mem_cons_of_mem _ hd)
    rw [insertCommas_first h]
    rcases (by omega : ds.length % 3 = 0 ∨ ds.length % 3 = 1 ∨ ds.length % 3 = 2) with
      hzero | hone | htwo
    · obtain ⟨groups, hflat, hthree, hinsert⟩ :=
        insertCommas_threes (hword (show a ∈ _ by simp)) hds
          (show ds.length = 3 * (ds.length / 3) by omega)
      refine ⟨[a], groups, ⟨by simp [← hflat], by simp, by simp, hthree⟩, ?_⟩
      rw [hinsert]
      rfl
    · match ds, hone with
      | b :: ds, hone =>
        simp only [List.length_cons] at hone
        obtain ⟨groups, hflat, hthree, hinsert⟩ :=
          insertCommas_threes (hword (show b ∈ _ by simp)) (fun d hd => hds d (by simp [hd]))
            (show ds.length = 3 * (ds.length / 3) by omega)
        refine ⟨[a, b], groups, ⟨by simp [← hflat], by simp, by simp, hthree⟩, ?_⟩
        rw [insertCommas_cons (hword (by simp)) hds, if_neg (by omega), hinsert]
        rfl
    · match ds, htwo with
      | [_], htwo => simp at htwo
      | b :: c :: ds, htwo =>
        simp only [List.length_cons] at htwo
        obtain ⟨groups, hflat, hthree, hinsert⟩ :=
          insertCommas_threes (hword (show c ∈ _ by simp)) (fun d hd => hds d (by simp [hd]))
            (show ds.length = 3 * (ds.length / 3) by omega)
        refine ⟨[a, b, c], groups, ⟨by simp [← hflat], by simp, by simp, hthree⟩, ?_⟩
        rw [insertCommas_cons (hword (by simp)) hds,
          if_neg (by simp only [List.length_cons]; omega),
          insertCommas_cons (hword (by simp)) fun d hd => hds d (List.mem_cons_of_mem _ hd),
          if_neg (by omega), hinsert]
        rfl

/-! ## Decimal texts -/

/-- An optional sign, digits, and an optional fraction. -/
structure IsDecimal (cs sign digits fraction : List Char) : Prop where
  text : cs = sign ++ digits ++ fraction
  signed : sign = [] ∨ sign = ['-'] ∨ sign = ['+']
  numeric : ∀ c ∈ digits, c.isDigit = true
  fractional : fraction = [] ∨ ∃ ds, fraction = '.' :: ds ∧ ∀ c ∈ ds, c.isDigit = true

def Decimal (cs : List Char) : Prop :=
  ∃ sign digits fraction, IsDecimal cs sign digits fraction

theorem ne_of_isDigit (h : c.isDigit = true) : c ≠ '-' ∧ c ≠ '+' ∧ c ≠ '.' ∧ c ≠ ',' := by
  refine ⟨?_, ?_, ?_, ?_⟩
  all_goals
    rintro rfl
    cases h

/-- The parts the code splits a decimal text into. -/
theorem IsDecimal.parts {s digits fraction : List Char} (h : IsDecimal cs s digits fraction) :
    sign cs = s ∧ integerPart cs = digits ∧ fractionPart cs = fraction := by
  have hrest : sign (digits ++ fraction) = [] := by
    cases digits with
    | nil =>
      rcases h.fractional with rfl | ⟨ds, rfl, -⟩
      · rfl
      · rfl
    | cons d digits =>
      obtain ⟨hminus, hplus, -⟩ := ne_of_isDigit (h.numeric d List.mem_cons_self)
      exact if_neg (by simp [hminus, hplus])
  have hsign : sign cs = s := by
    rw [h.text, List.append_assoc]
    rcases h.signed with rfl | rfl | rfl
    · exact hrest
    · rfl
    · rfl
  have hbody : body cs = digits ++ fraction := by
    unfold body
    rw [hsign, h.text, List.append_assoc, List.drop_left]
  have hdigits : ∀ c ∈ digits, decide (c ≠ '.') = true := by
    intro c hc
    exact decide_eq_true (ne_of_isDigit (h.numeric c hc)).2.2.1
  refine ⟨hsign, ?_, ?_⟩
  · unfold integerPart
    rw [hbody, List.takeWhile_append_of_pos hdigits]
    rcases h.fractional with rfl | ⟨ds, rfl, -⟩
    · simp
    · simp
  · unfold fractionPart
    rw [hbody, List.dropWhile_append_of_pos hdigits]
    rcases h.fractional with rfl | ⟨ds, rfl, -⟩
    · rfl
    · rfl

variable {value : List Char} {s digits fraction : List Char}

theorem formatChars_decimal (h : IsDecimal (trim value) s digits fraction) :
    formatChars value = s ++ insertCommas none digits ++ fraction := by
  obtain ⟨hsign, hdigits, hfraction⟩ := h.parts
  unfold formatChars
  dsimp only
  rw [hsign, hdigits, hfraction]
  by_cases hempty : trim value = []
  · have htext := h.text
    rw [hempty] at htext
    simp only [List.nil_eq, List.append_eq_nil_iff] at htext
    obtain ⟨⟨rfl, rfl⟩, rfl⟩ := htext
    rw [if_pos hempty]
    rfl
  · have hall : digits.all Char.isDigit = true := List.all_eq_true.mpr h.numeric
    rw [if_neg hempty, if_neg fun hnot => hnot.2 hall]

theorem filter_comma_of_ne (h : ∀ c ∈ cs, c ≠ ',') : cs.filter (· ≠ ',') = cs := by
  rw [List.filter_eq_self]
  exact fun c hc => decide_eq_true (h c hc)

theorem filter_comma_groups {groups : List (List Char)} (h : ∀ c ∈ groups.flatten, c ≠ ',') :
    (groups.flatMap (',' :: ·)).filter (· ≠ ',') = groups.flatten := by
  induction groups with
  | nil => rfl
  | cons g groups ih =>
    rw [List.flatten_cons] at h
    rw [List.flatMap_cons, List.flatten_cons, List.filter_append, List.filter_cons_of_neg (by simp),
      ih fun c hc => h c (List.mem_append_right _ hc),
      filter_comma_of_ne fun c hc => h c (List.mem_append_left _ hc)]

/-- The text without the commas is the text that came in. -/
theorem IsDecimal.filter_comma (h : IsDecimal (trim value) s digits fraction) :
    (formatChars value).filter (· ≠ ',') = trim value := by
  obtain ⟨first, groups, hcut, hinsert⟩ := insertCommas_digits h.numeric
  have hsign : ∀ c ∈ s, c ≠ ',' := by
    rcases h.signed with rfl | rfl | rfl <;> simp
  have hdigits : ∀ c ∈ digits, c ≠ ',' := fun c hc => (ne_of_isDigit (h.numeric c hc)).2.2.2
  have hfraction : ∀ c ∈ fraction, c ≠ ',' := by
    rcases h.fractional with rfl | ⟨ds, rfl, hds⟩
    · simp
    · intro c hc
      rcases List.mem_cons.mp hc with rfl | hc
      · decide
      · exact (ne_of_isDigit (hds c hc)).2.2.2
  rw [hcut.flatten] at hdigits
  rw [formatChars_decimal h, hinsert, List.filter_append, List.filter_append, List.filter_append,
    filter_comma_of_ne hsign, filter_comma_of_ne hfraction,
    filter_comma_of_ne fun c hc => hdigits c (List.mem_append_left _ hc),
    filter_comma_groups fun c hc => hdigits c (List.mem_append_right _ hc), ← hcut.flatten, h.text]

theorem formatChars_injective {v w : List Char} (hv : Decimal (trim v)) (hw : Decimal (trim w))
    (h : formatChars v = formatChars w) : trim v = trim w := by
  obtain ⟨_, _, _, hv⟩ := hv
  obtain ⟨_, _, _, hw⟩ := hw
  rw [← hv.filter_comma, ← hw.filter_comma, h]

/-- A text with something else in its integer part is left as it is. -/
theorem formatChars_of_not_digit (h : ∃ c ∈ integerPart (trim value), c.isDigit = false) :
    formatChars value = trim value := by
  obtain ⟨c, hc, hnot⟩ := h
  have hne : integerPart (trim value) ≠ [] := List.ne_nil_of_mem hc
  have hall : ¬(integerPart (trim value)).all Char.isDigit = true := by
    intro hall
    rw [List.all_eq_true.mp hall c hc] at hnot
    cases hnot
  unfold formatChars
  dsimp only
  by_cases hempty : trim value = []
  · rw [if_pos hempty, hempty]
  · rw [if_neg hempty, if_pos ⟨hne, hall⟩]

/-! ## The printed texts -/

theorem formatKes_injective {v w : String}
    (h : formatKes (some v) = formatKes (some w)) :
    formatDecimalMoney (some v) = formatDecimalMoney (some w) := by
  unfold formatKes at h
  dsimp only at h
  split at h
  · next hv =>
    split at h
    · next hw => rw [hv, hw]
    · simp at h
  · split at h
    · simp at h
    · simpa using h

/-- Printed money loses no digit: the commas of a decimal text cut its integer part into groups of
three behind a first group of at most three, without them the text is the one that came in, and so
no two amounts are printed alike. A text that is no decimal, and has something else than a digit
before its point, comes out as it came in. -/
theorem formatDecimalMoney_keeps_digits :
    (∀ value : String, Decimal (trim value.toList) →
      (formatDecimalMoney (some value)).toList.filter (· ≠ ',') = trim value.toList ∧
      ∃ sign digits fraction first groups,
        IsDecimal (trim value.toList) sign digits fraction ∧ Cut digits first groups ∧
        (formatDecimalMoney (some value)).toList =
          sign ++ (first ++ groups.flatMap (',' :: ·)) ++ fraction) ∧
    (∀ v w : String, Decimal (trim v.toList) → Decimal (trim w.toList) →
      trim v.toList ≠ trim w.toList →
      formatDecimalMoney (some v) ≠ formatDecimalMoney (some w) ∧
        formatKes (some v) ≠ formatKes (some w)) ∧
    ∀ value : String, ¬Decimal (trim value.toList) →
      (∃ c ∈ integerPart (trim value.toList), c.isDigit = false) →
      (formatDecimalMoney (some value)).toList = trim value.toList := by
  have hchars (value : String) :
      (formatDecimalMoney (some value)).toList = formatChars value.toList :=
    String.toList_ofList
  refine ⟨fun value hvalue => ?_, fun v w hv hw hne => ?_, fun value _ hother => ?_⟩
  · obtain ⟨sign, digits, fraction, hparts⟩ := hvalue
    obtain ⟨first, groups, hcut, hinsert⟩ := insertCommas_digits hparts.numeric
    rw [hchars]
    refine ⟨hparts.filter_comma, sign, digits, fraction, first, groups, hparts, hcut, ?_⟩
    rw [formatChars_decimal hparts, hinsert]
  · have hmoney : formatDecimalMoney (some v) ≠ formatDecimalMoney (some w) := by
      intro heq
      apply hne
      apply formatChars_injective hv hw
      rw [← hchars, ← hchars, heq]
    exact ⟨hmoney, fun heq => hmoney (formatKes_injective heq)⟩
  · rw [hchars]
    exact formatChars_of_not_digit hother

/-- The text of the example in the source, with blanks around it. -/
theorem formatDecimalMoney_keeps_digits_negative :
    Decimal (trim " -1234567.89 ".toList) ∧
      (formatDecimalMoney (some " -1234567.89 ")).toList.filter (· ≠ ',') =
        trim " -1234567.89 ".toList := by
  have hparts : IsDecimal (trim " -1234567.89 ".toList) ['-'] ['1', '2', '3', '4', '5', '6', '7']
      ['.', '8', '9'] :=
    ⟨by decide +kernel, .inr (.inl rfl), by simp, .inr ⟨['8', '9'], rfl, by simp⟩⟩
  have hdecimal : Decimal (trim " -1234567.89 ".toList) := ⟨_, _, _, hparts⟩
  exact ⟨hdecimal, (formatDecimalMoney_keeps_digits.1 _ hdecimal).1⟩

example : formatDecimalMoney (some " -1234567.8900 ") = "-1,234,567.8900" := by decide +kernel

end PrintFormat

end Mpango
