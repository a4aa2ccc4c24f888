import Mpango.Harness.Sync
import Mpango.Model.Baselines
import Mathlib.Algebra.BigOperators.Group.Finset.Basic
import Mathlib.Algebra.Order.BigOperators.Group.Finset

/-!
# Which changes both ways of comparing see

The directory comparison finds what changed but for compiled files and for files whose hashes agree
by chance. The names read from git are those of the differences as they are printed (`printed`).
They are the changed paths when no rename was detected and every path is printed as it is, and in
no other way unless a file changed in its mode only (`SeesChanges`).
-/

namespace Mpango

namespace Harness

/-! ## Names that stand for names -/

/-- When the names of some members of a finite set name all of it, and a name that is longer than
what it names has a name that is longer still, then they are all its members and name themselves. -/
theorem named_by_itself {α : Type} [DecidableEq α] {E U : Finset α} (name : α → α) (size : α → ℕ)
    (hsub : U ⊆ E) (hcover : E ⊆ U.image name)
    (hgrow : ∀ e, size e < size (name e) → size (name e) < size (name (name e)))
    (hsame : ∀ e, size (name e) = size e → name e = e) : U = E ∧ ∀ e ∈ E, name e = e := by
  have hcard : E.card ≤ U.card := (Finset.card_le_card hcover).trans Finset.card_image_le
  have hUE : U = E := Finset.eq_of_subset_of_card_le hsub hcard
  subst hUE
  have himage : U.image name = U := (Finset.eq_of_subset_of_card_le hcover Finset.card_image_le).symm
  have hinj : Set.InjOn name U := Finset.card_image_iff.mp (by rw [himage])
  have hmem {e : α} (he : e ∈ U) : name e ∈ U := himage ▸ Finset.mem_image_of_mem name he
  -- The longest of the members with a longer name would have a shorter one.
  have hshort : ∀ e ∈ U, size (name e) ≤ size e := by
    by_contra hlong
    push Not at hlong
    obtain ⟨e, he, hlt⟩ := hlong
    have hne : (U.filter fun e => size e < size (name e)).Nonempty :=
      ⟨e, Finset.mem_filter.mpr ⟨he, hlt⟩⟩
    obtain ⟨m, hm, hmax⟩ := Finset.exists_max_image _ size hne
    obtain ⟨hmU, hmlt⟩ := Finset.mem_filter.mp hm
    have hnext : name m ∈ U.filter fun e => size e < size (name e) :=
      Finset.mem_filter.mpr ⟨hmem hmU, hgrow m hmlt⟩
    exact absurd (hmax _ hnext) (not_le.mpr hmlt)
  have hsum : ∑ e ∈ U, size (name e) = ∑ e ∈ U, size e := by
    rw [← Finset.sum_image hinj, himage]
  have heq := (Finset.sum_eq_sum_iff_of_le hshort).mp hsum
  exact ⟨rfl, fun e he => hsame e (heq e he)⟩

/-! ## Printed names -/

/-- The name that is read of a printed path. -/
def printed (path : String) : String := strip (quotePath path)

theorem isUnusual_doubleQuote : isUnusual doubleQuote = true := by decide

theorem isBlank_doubleQuote : isBlank doubleQuote = false := by decide

theorem toNat_octalDigit (n : ℕ) :
    48 ≤ (octalDigit n).toNat ∧ (octalDigit n).toNat ≤ 55 := by
  have hall : ∀ d < 8, 48 ≤ (Char.ofNat ('0'.toNat + d)).toNat ∧
      (Char.ofNat ('0'.toNat + d)).toNat ≤ 55 := by decide
  exact hall _ (Nat.mod_lt n (by decide))

/-- What stands for a character in print is within the printed characters of ASCII. -/
theorem escape_plain {c d : Char} (hd : d ∈ escape c) : 0x20 ≤ d.toNat ∧ d.toNat < 0x7f := by
  rw [escape] at hd
  cases hnamed : namedEscape? c with
  | some e =>
    rw [hnamed] at hd
    have he : 0x20 ≤ e.toNat ∧ e.toNat < 0x7f := by
      rw [namedEscape?] at hnamed
      split at hnamed <;> cases hnamed <;> decide
    rcases List.mem_cons.mp hd with rfl | hd
    · decide
    · rwa [List.mem_singleton.mp hd]
  | none =>
    rw [hnamed] at hd
    simp only at hd
    split at hd
    · obtain ⟨b, -, hb⟩ := List.mem_flatMap.mp hd
      simp only [octalEscape, List.mem_cons, List.not_mem_nil, or_false] at hb
      rcases hb with rfl | rfl | rfl | rfl
      · decide
      all_goals
        have := toNat_octalDigit
        grind
    · next husual =>
      rw [List.mem_singleton.mp hd]
      simp only [isUnusual, Bool.or_eq_true, decide_eq_true_eq, not_or, not_lt, not_le] at husual
      omega

theorem escape_ne_nil (c : Char) : escape c ≠ [] := by
  rw [escape]
  split
  · nofun
  · split
    · intro hnil
      obtain ⟨b, hb⟩ := List.exists_mem_of_ne_nil _ (String.utf8EncodeChar_ne_nil (c := c))
      cases List.flatMap_eq_nil_iff.mp hnil b hb
    · nofun

theorem quotePath_of_usual {path : String} (h : path.toList.any isUnusual = false) :
    quotePath path = path := by
  rw [quotePath, if_neg (by simp [h])]

theorem quotePath_of_unusual {path : String} (h : path.toList.any isUnusual = true) :
    (quotePath path).toList =
      doubleQuote :: path.toList.flatMap escape ++ [doubleQuote] := by
  rw [quotePath, if_pos h, String.toList_ofList]

/-- Nothing in print ends a line. -/
theorem isLineEnd_quotePath {path : String} {c : Char} (hc : c ∈ (quotePath path).toList) :
    isLineEnd c = false := by
  have hplain : 0x20 ≤ c.toNat ∧ c.toNat < 0x7f := by
    cases hpath : path.toList.any isUnusual with
    | false =>
      rw [quotePath_of_usual hpath] at hc
      have husual := List.any_eq_false.mp hpath c hc
      simp only [isUnusual, Bool.or_eq_true, decide_eq_true_eq, not_or, not_lt, not_le] at husual
      omega
    | true =>
      rw [quotePath_of_unusual hpath, List.mem_append, List.mem_cons, List.mem_singleton] at hc
      rcases hc with (rfl | hc) | rfl
      · decide
      · obtain ⟨d, -, hd⟩ := List.mem_flatMap.mp hc
        exact escape_plain hd
      · decide
  simp only [isLineEnd, Bool.or_eq_false_iff, Bool.and_eq_false_iff, decide_eq_false_iff_not]
  omega

theorem strip_sublist (s : String) : (strip s).toList.Sublist s.toList := by
  rw [strip, String.toList_ofList]
  exact (List.rdropWhile_prefix _ _).sublist.trans (List.dropWhile_sublist _)

theorem printed_of_usual {path : String} (h : path.toList.any isUnusual = false) :
    printed path = strip path := by
  rw [printed, quotePath_of_usual h]

theorem printed_of_unusual {path : String} (h : path.toList.any isUnusual = true) :
    printed path = quotePath path := by
  rw [printed, strip, quotePath_of_unusual h]
  rw [List.cons_append, List.dropWhile_cons_of_neg (by simp [isBlank_doubleQuote]),
    ← List.cons_append, List.rdropWhile_concat_neg _ _ _ (by simp [isBlank_doubleQuote])]
  rw [← String.toList_inj, quotePath_of_unusual h, String.toList_ofList]

def nameLength (path : String) : ℕ := path.toList.length

theorem nameLength_printed_of_usual {path : String} (h : path.toList.any isUnusual = false) :
    nameLength (printed path) ≤ nameLength path := by
  rw [printed_of_usual h]
  exact (strip_sublist path).length_le

theorem nameLength_printed_of_unusual {path : String} (h : path.toList.any isUnusual = true) :
    nameLength path < nameLength (printed path) := by
  have hescaped (cs : List Char) : cs.length ≤ (cs.flatMap escape).length := by
    induction cs with
    | nil => exact Nat.zero_le _
    | cons c cs ih =>
      rw [List.flatMap_cons, List.length_append, List.length_cons, Nat.add_comm]
      exact Nat.add_le_add (List.length_pos_of_ne_nil (escape_ne_nil c)) ih
  rw [printed_of_unusual h, nameLength, nameLength, quotePath_of_unusual h]
  have hpath := hescaped path.toList
  simp only [List.cons_append, List.length_cons, List.length_append, List.length_nil]
  omega

/-- A quoted name would itself be quoted. -/
theorem printed_unusual {path : String} (h : path.toList.any isUnusual = true) :
    (printed path).toList.any isUnusual = true := by
  rw [printed_of_unusual h, quotePath_of_unusual h]
  exact List.any_eq_true.mpr ⟨doubleQuote, List.mem_cons_self, isUnusual_doubleQuote⟩

theorem nameLength_grows (path : String) (h : nameLength path < nameLength (printed path)) :
    nameLength (printed path) < nameLength (printed (printed path)) := by
  cases hpath : path.toList.any isUnusual with
  | false => exact absurd (nameLength_printed_of_usual hpath) (not_le.mpr h)
  | true => exact nameLength_printed_of_unusual (printed_unusual hpath)

theorem printed_eq_self (path : String) (h : nameLength (printed path) = nameLength path) :
    printed path = path := by
  cases hpath : path.toList.any isUnusual with
  | false =>
    rw [printed_of_usual hpath, ← String.toList_inj]
    apply (strip_sublist path).eq_of_length
    rw [← printed_of_usual hpath]
    exact h
  | true => exact absurd h (nameLength_printed_of_unusual hpath).ne'

/-! ## Reading the output -/

theorem splitLines_append {cs : List Char} (h : ∀ c ∈ cs, isLineEnd c = false)
    (line rest : List Char) : splitLines line (cs ++ rest) = splitLines (line ++ cs) rest := by
  induction cs generalizing line with
  | nil => rw [List.append_nil, List.nil_append]
  | cons c cs ih =>
    have hc := h c List.mem_cons_self
    rw [List.cons_append, splitLines.eq_3 _ _ _ (by rintro _ rfl; cases hc), hc, if_neg (by simp),
      ih fun d hd => h d (List.mem_cons_of_mem _ hd), List.append_assoc]
    rfl

theorem splitLines_lines {lines : List (List Char)}
    (h : ∀ line ∈ lines, ∀ c ∈ line, isLineEnd c = false) :
    splitLines [] (lines.flatMap (· ++ ['\n'])) = lines := by
  induction lines with
  | nil => rfl
  | cons line lines ih =>
    rw [List.flatMap_cons, List.append_assoc, splitLines_append (h line List.mem_cons_self),
      List.singleton_append, splitLines.eq_3 _ _ _ (by nofun), if_pos (by decide),
      ih fun l hl => h l (List.mem_cons_of_mem _ hl), List.nil_append]

theorem mem_gitChangedPaths {detection : RenameDetection} {head base : Tree} {name : String} :
    name ∈ gitChangedPaths detection head base ↔
      name ≠ "" ∧ ∃ path ∈ diffPaths detection base head, printed path = name := by
  have hlines : splitLines [] (diffOutput detection base head) =
      (diffPaths detection base head).map fun path => (quotePath path).toList := by
    have hflat : diffOutput detection base head =
        ((diffPaths detection base head).map fun path => (quotePath path).toList).flatMap
          (· ++ ['\n']) := by
      rw [List.flatMap_map]
      rfl
    rw [hflat]
    apply splitLines_lines
    intro line hline c hc
    obtain ⟨path, -, rfl⟩ := List.mem_map.mp hline
    exact isLineEnd_quotePath hc
  rw [gitChangedPaths, hlines]
  simp only [List.map_map, List.mem_filter, List.mem_map, Function.comp_apply,
    String.ofList_toList, decide_eq_true_eq, and_comm, printed]

/-! ## Differences -/

section Differences
variable {hash : List UInt8 → ℤ} {detection : RenameDetection} {base head t : Tree} {path : String}

theorem Tree.file?_eq_some {f : TreeFile} :
    t.file? path = some f ↔ f ∈ t.files ∧ f.path = path := by
  constructor
  · intro h
    exact ⟨List.mem_of_find?_eq_some h, by simpa using List.find?_some h⟩
  · rintro ⟨hf, rfl⟩
    obtain ⟨g, hg⟩ : ∃ g, t.file? f.path = some g := by
      rw [← Option.isSome_iff_exists, Tree.file?, List.find?_isSome]
      exact ⟨f, hf, by simp⟩
    have hpath : g.path = f.path := by simpa using List.find?_some hg
    rw [hg, List.inj_on_of_nodup_map t.keyed (List.mem_of_find?_eq_some hg) hf hpath]

theorem Tree.mem_paths : path ∈ t.paths ↔ ∃ f, t.file? path = some f := by
  simp only [Tree.file?_eq_some, Tree.paths, List.mem_map]

theorem Tree.file?_eq_none : t.file? path = none ↔ path ∉ t.paths := by
  rw [Tree.mem_paths, ← Option.isSome_iff_exists, Option.not_isSome_iff_eq_none]

theorem Tree.ne_empty (h : path ∈ t.paths) : path ≠ "" := by
  obtain ⟨f, hf, rfl⟩ := List.mem_map.mp h
  exact t.named f hf

/-- The bytes at a path differ, or are on one side only. -/
def ChangedPath (base head : Tree) (path : String) : Prop := base.bytes? path ≠ head.bytes? path

/-- A file of which only the mode differs. -/
def ModeOnly (base head : Tree) (path : String) : Prop :=
  base.file? path ≠ head.file? path ∧ base.bytes? path = head.bytes? path

theorem ChangedPath.differs (h : ChangedPath base head path) :
    base.file? path ≠ head.file? path := by
  intro heq
  exact h (by rw [Tree.bytes?, Tree.bytes?, heq])

theorem ChangedPath.mem_paths (h : ChangedPath base head path) :
    path ∈ base.paths ∨ path ∈ head.paths := by
  by_contra hno
  obtain ⟨hbase, hhead⟩ := not_or.mp hno
  exact h.differs (by rw [Tree.file?_eq_none.mpr hbase, Tree.file?_eq_none.mpr hhead])

/-- The old paths of the detected renames. -/
def oldPaths (detection : RenameDetection) (base head : Tree) : List String :=
  (detection.renames base head).map (·.1)

theorem changed_of_mem_oldPaths (h : path ∈ oldPaths detection base head) :
    path ∈ base.paths ∧ path ∉ head.paths := by
  obtain ⟨r, hr, rfl⟩ := List.mem_map.mp h
  exact detection.old_gone base head r hr

theorem mem_diffPaths : path ∈ diffPaths detection base head ↔
    base.file? path ≠ head.file? path ∧ path ∉ oldPaths detection base head := by
  rw [diffPaths, List.mem_append, List.mem_map, List.mem_filter, decide_eq_true_eq]
  constructor
  · rintro (⟨f, hf, rfl⟩ | ⟨hbase, hhead, hold⟩)
    · obtain ⟨hf, hne⟩ := List.mem_filter.mp hf
      have hfile : head.file? f.path = some f := Tree.file?_eq_some.mpr ⟨hf, rfl⟩
      refine ⟨by rw [hfile]; simpa using hne, fun hold => ?_⟩
      exact (changed_of_mem_oldPaths hold).2 (Tree.mem_paths.mpr ⟨f, hfile⟩)
    · refine ⟨?_, hold⟩
      obtain ⟨f, hf⟩ := Tree.mem_paths.mp hbase
      rw [hf, Tree.file?_eq_none.mpr hhead]
      nofun
  · rintro ⟨hdiffers, hold⟩
    cases hfile : head.file? path with
    | some f =>
      obtain ⟨hf, rfl⟩ := Tree.file?_eq_some.mp hfile
      rw [hfile] at hdiffers
      exact .inl ⟨f, List.mem_filter.mpr ⟨hf, by simpa using hdiffers⟩, rfl⟩
    | none =>
      have hhead := Tree.file?_eq_none.mp hfile
      refine .inr ⟨?_, hhead, hold⟩
      by_contra hbase
      exact hdiffers (by rw [hfile, Tree.file?_eq_none.mpr hbase])

theorem lookup_snapshot : (snapshot hash t).lookup path =
    if isIgnored path = false ∧ isCompiled path = false then
      (t.file? path).map fun f => hash f.bytes else none := by
  rw [snapshot, Tree.file?]
  induction t.files with
  | nil => simp
  | cons f files ih =>
    by_cases hpath : f.path = path
    · subst hpath
      by_cases hwalked : isIgnored f.path = false ∧ isCompiled f.path = false
      · rw [List.filter_cons_of_pos (by simpa using hwalked), if_pos hwalked,
          List.find?_cons_of_pos (by simp)]
        simp
      · rw [List.filter_cons_of_neg (by simpa using hwalked), ih, if_neg hwalked, if_neg hwalked]
    · rw [List.find?_cons_of_neg (by simpa using hpath), ← ih]
      by_cases hwalked : isIgnored f.path = false ∧ isCompiled f.path = false
      · rw [List.filter_cons_of_pos (by simpa using hwalked), List.map_cons, List.lookup_cons]
        have hne : (path == f.path) = false := by simpa using fun h => hpath h.symm
        rw [hne]
      · rw [List.filter_cons_of_neg (by simpa using hwalked)]

/-- The directory comparison lists the walked paths whose hashes differ or are on one side only. -/
theorem mem_fsChangedPaths : path ∈ fsChangedPaths hash head base ↔
    (isIgnored path = false ∧ isCompiled path = false) ∧
      (base.bytes? path).map hash ≠ (head.bytes? path).map hash := by
  have hmem (t : Tree) : path ∈ (snapshot hash t).map (·.1) ↔
      (isIgnored path = false ∧ isCompiled path = false) ∧ ∃ f, t.file? path = some f := by
    simp only [snapshot, List.map_map, List.mem_map, List.mem_filter, Bool.and_eq_true,
      Bool.not_eq_true', Function.comp_apply, Tree.file?_eq_some]
    constructor
    · rintro ⟨f, ⟨hf, hwalked⟩, rfl⟩
      exact ⟨hwalked, f, hf, rfl⟩
    · rintro ⟨hwalked, f, hf, rfl⟩
      exact ⟨f, ⟨hf, hwalked⟩, rfl⟩
  rw [fsChangedPaths, List.mem_append, List.mem_filter, decide_eq_true_eq, hmem, hmem]
  simp only [Tree.bytes?, Option.map_map, List.mem_map, List.mem_filter, decide_eq_true_eq]
  constructor
  · rintro (⟨_, ⟨hentry, hne⟩, rfl⟩ | ⟨⟨hwalked, f, hf⟩, hhead⟩)
    · simp only [snapshot, List.mem_map, List.mem_filter, Bool.and_eq_true, Bool.not_eq_true']
        at hentry
      obtain ⟨f, ⟨hf, hwalked⟩, rfl⟩ := hentry
      rw [lookup_snapshot, if_pos hwalked] at hne
      refine ⟨hwalked, ?_⟩
      rw [show head.file? f.path = some f from Tree.file?_eq_some.mpr ⟨hf, rfl⟩]
      exact hne
    · refine ⟨hwalked, ?_⟩
      have hnone : head.file? path = none := by
        rw [Tree.file?_eq_none, Tree.mem_paths]
        exact fun h => hhead ⟨hwalked, h⟩
      rw [hf, hnone]
      nofun
  · rintro ⟨hwalked, hne⟩
    cases hfile : head.file? path with
    | some f =>
      obtain ⟨hf, rfl⟩ := Tree.file?_eq_some.mp hfile
      refine .inl ⟨(f.path, hash f.bytes), ⟨?_, ?_⟩, rfl⟩
      · exact List.mem_map.mpr ⟨f, List.mem_filter.mpr ⟨hf, by simpa using hwalked⟩, rfl⟩
      · rw [lookup_snapshot, if_pos hwalked]
        rw [hfile] at hne
        exact hne
    | none =>
      refine .inr ⟨⟨hwalked, ?_⟩, by simp⟩
      rw [← Tree.mem_paths]
      by_contra hbase
      exact hne (by rw [hfile, Tree.file?_eq_none.mpr hbase])

/-! ## The law -/

/-- Both ways of comparing list exactly the paths that changed, so no governed one is missed. -/
structure SeesSame (hash : List UInt8 → ℤ) (detection : RenameDetection) (head base : Tree) :
    Prop where
  directory : ∀ path, path ∈ fsChangedPaths hash head base ↔ ChangedPath base head path
  reference : ∀ path, path ∈ gitChangedPaths detection head base ↔ ChangedPath base head path
  governed : ∀ governedPrefixes path, ChangedPath base head path →
    (∃ place ∈ governedPrefixes, pathMatches path place = true) →
    path ∈ governedChanged governedPrefixes (fsChangedPaths hash head base) ∧
      path ∈ governedChanged governedPrefixes (gitChangedPaths detection head base)

/-- The printed names are those of the changed paths. -/
def NamesExchanged (detection : RenameDetection) (head base : Tree) : Prop :=
  ∀ name, ChangedPath base head name ↔ name ≠ "" ∧ ∃ path, base.file? path ≠ head.file? path ∧
    path ∉ oldPaths detection base head ∧ printed path = name

/-- No changed file is compiled or has the hash of what it was; none is taken for the old side of a
rename, and each is printed as it is. Where some file changed in its mode only, such files and
others stand for each other in print. -/
structure SeesChanges (hash : List UInt8 → ℤ) (detection : RenameDetection) (head base : Tree) :
    Prop where
  compiled : ∀ path, ChangedPath base head path → isCompiled path = false
  hashed : ∀ path old new, base.bytes? path = some old → head.bytes? path = some new → old ≠ new →
    hash old ≠ hash new
  renamed : (∀ path, ¬ModeOnly base head path) → oldPaths detection base head = []
  asIs : (∀ path, ¬ModeOnly base head path) → ∀ path, ChangedPath base head path →
    printed path = path
  mode : (∃ path, ModeOnly base head path) → NamesExchanged detection head base

theorem directory_iff (hignored : ∀ path ∈ base.paths ++ head.paths, isIgnored path = false) :
    (∀ path, path ∈ fsChangedPaths hash head base ↔ ChangedPath base head path) ↔
      (∀ path, ChangedPath base head path → isCompiled path = false) ∧
      ∀ path old new, base.bytes? path = some old → head.bytes? path = some new → old ≠ new →
        hash old ≠ hash new := by
  constructor
  · intro hdir
    refine ⟨fun path hpath => (mem_fsChangedPaths.mp ((hdir path).mpr hpath)).1.2, ?_⟩
    intro path old new hold hnew hne hhash
    have hchanged : ChangedPath base head path := by
      rw [ChangedPath, hold, hnew]
      exact fun h => hne (Option.some.inj h)
    apply (mem_fsChangedPaths.mp ((hdir path).mpr hchanged)).2
    rw [hold, hnew]
    exact congrArg some hhash
  · rintro ⟨hcompiled, hhashed⟩ path
    rw [mem_fsChangedPaths]
    constructor
    · rintro ⟨-, hne⟩ heq
      exact hne (congrArg (Option.map hash) heq)
    · intro hchanged
      have hwalked := hignored path (List.mem_append.mpr hchanged.mem_paths)
      refine ⟨⟨hwalked, hcompiled path hchanged⟩, fun heq => ?_⟩
      cases hold : base.bytes? path with
      | none =>
        rw [hold] at heq
        exact hchanged (hold.trans (Option.map_eq_none_iff.mp heq.symm).symm)
      | some old =>
        rw [hold] at heq
        obtain ⟨new, hnew, hhash⟩ := Option.map_eq_some_iff.mp heq.symm
        refine hhashed path old new hold hnew ?_ hhash.symm
        rintro rfl
        exact hchanged (hold.trans hnew.symm)

theorem reference_iff : (∀ path, path ∈ gitChangedPaths detection head base ↔
      ChangedPath base head path) ↔ NamesExchanged detection head base := by
  refine forall_congr' fun name => ?_
  rw [mem_gitChangedPaths]
  simp only [mem_diffPaths, and_assoc]
  exact Iff.comm

/-- Where no file changed in its mode only, names are not exchanged. -/
theorem namesExchanged_iff (hmode : ∀ path, ¬ModeOnly base head path) :
    NamesExchanged detection head base ↔ oldPaths detection base head = [] ∧
      ∀ path, ChangedPath base head path → printed path = path := by
  have hchanged {path : String} (hdiffers : base.file? path ≠ head.file? path) :
      ChangedPath base head path := fun heq => hmode path ⟨hdiffers, heq⟩
  have hold {path : String} (h : path ∈ oldPaths detection base head) :
      ChangedPath base head path := by
    obtain ⟨hbase, hhead⟩ := changed_of_mem_oldPaths h
    obtain ⟨f, hf⟩ := Tree.mem_paths.mp hbase
    exact hchanged (by rw [hf, Tree.file?_eq_none.mpr hhead]; nofun)
  constructor
  · intro hexchanged
    let E : Finset String :=
      (base.paths ++ head.paths).toFinset.filter fun path => base.bytes? path ≠ head.bytes? path
    have hE {path : String} : path ∈ E ↔ ChangedPath base head path := by
      rw [Finset.mem_filter, List.mem_toFinset, List.mem_append]
      exact and_iff_right_of_imp ChangedPath.mem_paths
    let U : Finset String := E.filter (· ∉ oldPaths detection base head)
    have hcover : E ⊆ U.image printed := by
      intro name hname
      obtain ⟨-, path, hdiffers, hnot, rfl⟩ := (hexchanged name).mp (hE.mp hname)
      exact Finset.mem_image_of_mem printed
        (Finset.mem_filter.mpr ⟨hE.mpr (hchanged hdiffers), hnot⟩)
    obtain ⟨hUE, hfixed⟩ := named_by_itself printed nameLength (Finset.filter_subset _ E) hcover
      nameLength_grows printed_eq_self
    refine ⟨List.eq_nil_iff_forall_not_mem.mpr fun path hpath => ?_,
      fun path hpath => hfixed path (hE.mpr hpath)⟩
    have hin : path ∈ U := by
      rw [show U = E from hUE]
      exact hE.mpr (hold hpath)
    exact (Finset.mem_filter.mp hin).2 hpath
  · rintro ⟨hnone, hfixed⟩ name
    constructor
    · intro hname
      refine ⟨?_, name, hname.differs, by rw [hnone]; nofun, hfixed name hname⟩
      exact hname.mem_paths.elim Tree.ne_empty Tree.ne_empty
    · rintro ⟨-, path, hdiffers, -, rfl⟩
      rw [hfixed path (hchanged hdiffers)]
      exact hchanged hdiffers

/-- Both ways see the changes, and nothing else, exactly when nothing stands in their way. -/
theorem sees_same (hignored : ∀ path ∈ base.paths ++ head.paths, isIgnored path = false) :
    SeesSame hash detection head base ↔ SeesChanges hash detection head base := by
  constructor
  · intro h
    obtain ⟨hcompiled, hhashed⟩ := (directory_iff hignored).mp h.directory
    have hexchanged := reference_iff.mp h.reference
    exact {
      compiled := hcompiled
      hashed := hhashed
      renamed := fun hmode => ((namesExchanged_iff hmode).mp hexchanged).1
      asIs := fun hmode => ((namesExchanged_iff hmode).mp hexchanged).2
      mode := fun _ => hexchanged }
  · intro h
    have hdirectory := (directory_iff hignored).mpr ⟨h.compiled, h.hashed⟩
    have hreference : ∀ path, path ∈ gitChangedPaths detection head base ↔
        ChangedPath base head path := by
      rw [reference_iff]
      by_cases hmode : ∃ path, ModeOnly base head path
      · exact h.mode hmode
      · rw [not_exists] at hmode
        exact (namesExchanged_iff hmode).mpr ⟨h.renamed hmode, h.asIs hmode⟩
    refine ⟨hdirectory, hreference, ?_⟩
    rintro governedPrefixes path hpath ⟨place, hplace, hmatch⟩
    have hgoverned {changed : List String} (hin : path ∈ changed) :
        path ∈ governedChanged governedPrefixes changed := by
      rw [governedChanged, List.mem_mergeSort, List.mem_filter, List.any_eq_true]
      exact ⟨hin, place, List.mem_append_left _ hplace, hmatch⟩
    exact ⟨hgoverned ((hdirectory path).mpr hpath), hgoverned ((hreference path).mpr hpath)⟩

/-- A file that changed in its mode only and has a plain name is seen in one way only. -/
theorem not_seesSame_of_modeOnly (hmode : ModeOnly base head path) (hplain : printed path = path) :
    ¬SeesSame hash detection head base := by
  intro hsame
  have hnot : ¬ChangedPath base head path := fun h => h hmode.2
  have hhead : path ∈ head.paths ∧ path ∈ base.paths := by
    have hbytes := hmode.2
    have hdiffers := hmode.1
    simp only [Tree.mem_paths, Tree.bytes?] at hbytes ⊢
    cases hb : base.file? path with
    | none =>
      cases hh : head.file? path with
      | none => exact absurd (hb.trans hh.symm) hdiffers
      | some f => rw [hb, hh] at hbytes; cases hbytes
    | some g =>
      cases hh : head.file? path with
      | none => rw [hb, hh] at hbytes; cases hbytes
      | some f => exact ⟨⟨f, rfl⟩, g, rfl⟩
  apply hnot
  rw [← hsame.reference path, mem_gitChangedPaths]
  refine ⟨Tree.ne_empty hhead.1, path, mem_diffPaths.mpr ⟨hmode.1, fun hold => ?_⟩, hplain⟩
  exact (changed_of_mem_oldPaths hold).2 hhead.1

end Differences

/-! ## Examples -/

/-- A deleted file and the first new one with its bytes are taken for a rename. -/
def sameBytes : RenameDetection where
  renames base head := (base.files.filter fun f => f.path ∉ head.paths).filterMap fun f =>
    (head.files.find? fun g => g.path ∉ base.paths ∧ g.bytes = f.bytes).map fun g =>
      (f.path, g.path)
  old_gone base head r hr := by
    obtain ⟨f, hf, hpair⟩ := List.mem_filterMap.mp hr
    obtain ⟨hf, hgone⟩ := List.mem_filter.mp hf
    obtain ⟨g, -, rfl⟩ := Option.map_eq_some_iff.mp hpair
    exact ⟨List.mem_map_of_mem hf, by simpa using hgone⟩
  new_new base head r hr := by
    obtain ⟨f, -, hpair⟩ := List.mem_filterMap.mp hr
    obtain ⟨g, hg, rfl⟩ := Option.map_eq_some_iff.mp hpair
    have hnew := List.find?_some hg
    simp only [decide_eq_true_eq] at hnew
    exact ⟨List.mem_map_of_mem (List.mem_of_find?_eq_some hg), hnew.1⟩

/-- A tree with one file. -/
def oneFile (path : String) (bytes : List UInt8) (h : path ≠ "") : Tree where
  files := [⟨path, false, bytes⟩]
  keyed := by simp
  named := by simpa using h

/-- A hash that adds up the bytes. -/
def byteSum (bytes : List UInt8) : ℤ := (bytes.map fun b => (b.toNat : ℤ)).sum

theorem sees_same_edited : SeesSame byteSum sameBytes
    (oneFile "backend/api/app.py" [2] (by decide)) (oneFile "backend/api/app.py" [1] (by decide)) := by
  have hfile (bytes : List UInt8) (path : String) :
      (oneFile "backend/api/app.py" bytes (by decide)).file? path =
        if "backend/api/app.py" = path then some ⟨"backend/api/app.py", false, bytes⟩ else none := by
    by_cases h : "backend/api/app.py" = path <;> simp [Tree.file?, oneFile, h]
  have hmode : ∀ path, ¬ModeOnly (oneFile "backend/api/app.py" [1] (by decide))
      (oneFile "backend/api/app.py" [2] (by decide)) path := by
    rintro path ⟨hdiffers, hbytes⟩
    rw [hfile, hfile] at hdiffers
    rw [Tree.bytes?, Tree.bytes?, hfile, hfile] at hbytes
    split at hbytes
    · cases hbytes
    · next h => exact hdiffers (by rw [if_neg h, if_neg h])
  have hchanged {path : String} (h : ChangedPath (oneFile "backend/api/app.py" [1] (by decide))
      (oneFile "backend/api/app.py" [2] (by decide)) path) : path = "backend/api/app.py" := by
    simpa [Tree.paths, oneFile] using h.mem_paths
  refine (sees_same (by decide +kernel)).mpr ⟨?_, ?_, fun _ => by decide +kernel, ?_, ?_⟩
  · intro path h
    rw [hchanged h]
    decide +kernel
  · intro path old new hold hnew _
    rw [Tree.bytes?, hfile] at hold hnew
    split at hold
    · next h =>
      rw [if_pos h] at hnew
      cases hold
      cases hnew
      decide
    · cases hold
  · intro _ path h
    rw [hchanged h]
    decide +kernel
  · rintro ⟨path, h⟩
    exact absurd h (hmode path)

/-- A file that is moved out of a governed place is not listed by git under its old name. -/
theorem sees_same_broken_moved :
    let base := oneFile "backend/api/app.py" [1] (by decide)
    let head := oneFile "docs/app.py" [1] (by decide)
    (∀ path ∈ base.paths ++ head.paths, isIgnored path = false) ∧
      governedChanged ["backend/"] (gitChangedPaths sameBytes head base) = [] ∧
      governedChanged ["backend/"] (fsChangedPaths byteSum head base) = ["backend/api/app.py"] ∧
      ¬SeesSame byteSum sameBytes head base := by
  intro base head
  have hgit : gitChangedPaths sameBytes head base = ["docs/app.py"] := by decide +kernel
  refine ⟨by decide +kernel, by rw [hgit]; decide +kernel, by decide +kernel, fun hsame => ?_⟩
  have hmissed : "backend/api/app.py" ∉ gitChangedPaths sameBytes head base := by
    rw [hgit]
    decide
  exact hmissed ((hsame.reference _).mpr (by unfold ChangedPath; decide +kernel))

end Harness

end Mpango
