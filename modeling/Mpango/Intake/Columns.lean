import Mpango.Model.Intake

/-!
# Every column is kept

Keys and normalised names are both numbered lists, so both are distinct unless a generated name is
already there. Where they are, a row is its cells under the keys in order, and a mapping that names
one column copies that column's cell.
-/

namespace Mpango.Intake

open Numbering

/-! ## Normal forms -/

/-- What `normalize_header` leaves: words of letters and digits between single underscores. -/
structure IsSlug (cs : List Char) : Prop where
  ne_nil : cs ≠ []
  chars : ∀ c ∈ cs, isAlnum c = true ∨ c = '_'
  chain : cs.IsChain fun a b => a = '_' → b ≠ '_'
  head : cs.head? ≠ some '_'
  last : cs.getLast? ≠ some '_'

theorem mem_collapse {inClass : Char → Bool} {inRun : Bool} {cs : List Char} {c : Char}
    (h : c ∈ collapse inClass inRun cs) : c = '_' ∨ c ∈ cs ∧ inClass c = false := by
  induction cs generalizing inRun with
  | nil => cases h
  | cons d ds ih =>
    unfold collapse at h
    split at h
    · split at h
      · exact (ih h).imp_right fun h => ⟨List.mem_cons_of_mem _ h.1, h.2⟩
      · rcases List.mem_cons.mp h with h | h
        · exact .inl h
        · exact (ih h).imp_right fun h => ⟨List.mem_cons_of_mem _ h.1, h.2⟩
    · next hd =>
      rcases List.mem_cons.mp h with rfl | h
      · exact .inr ⟨List.mem_cons_self, by simpa using hd⟩
      · exact (ih h).imp_right fun h => ⟨List.mem_cons_of_mem _ h.1, h.2⟩

/-- After the underscores are collapsed no two of them touch, nor one the run before it. -/
theorem isChain_collapse (inRun : Bool) (cs : List Char) :
    (collapse (fun c => c = '_') inRun cs).IsChain (fun a b => a = '_' → b ≠ '_') ∧
      (inRun = true → (collapse (fun c => c = '_') inRun cs).head? ≠ some '_') := by
  induction cs generalizing inRun with
  | nil => exact ⟨.nil, fun _ => by simp [collapse]⟩
  | cons c cs ih =>
    by_cases hc : c = '_'
    · cases inRun with
      | true => simpa [collapse, hc] using ih true
      | false =>
        obtain ⟨hchain, hhead⟩ := ih true
        simp only [collapse, hc, decide_true, if_true, Bool.false_eq_true, if_false,
          false_implies, and_true]
        refine List.isChain_cons.mpr ⟨?_, hchain⟩
        rintro b hb - rfl
        exact hhead rfl hb
    · obtain ⟨hchain, -⟩ := ih false
      simp only [collapse, hc, decide_false, Bool.false_eq_true, if_false]
      refine ⟨List.isChain_cons.mpr ⟨fun b _ h => absurd h hc, hchain⟩, ?_⟩
      simp [hc]

/-- There is nothing to collapse where underscores stand alone. -/
theorem collapse_eq_self {inClass : Char → Bool} {inRun : Bool} {cs : List Char}
    (hclass : ∀ c ∈ cs, inClass c = true → c = '_')
    (hchain : cs.IsChain fun a b => a = '_' → b ≠ '_')
    (hhead : inRun = true → cs.head? ≠ some '_') : collapse inClass inRun cs = cs := by
  induction cs generalizing inRun with
  | nil => rfl
  | cons c cs ih =>
    obtain ⟨hnext, htail⟩ := List.isChain_cons.mp hchain
    have hrest : ∀ d ∈ cs, inClass d = true → d = '_' :=
      fun d hd => hclass d (List.mem_cons_of_mem _ hd)
    unfold collapse
    split
    · next hin =>
      obtain rfl := hclass c List.mem_cons_self hin
      have hout : inRun = false := by
        cases inRun with
        | false => rfl
        | true => exact absurd rfl (hhead rfl)
      rw [hout, if_neg Bool.false_ne_true, ih hrest htail]
      intro _ hcs
      exact hnext '_' hcs rfl rfl
    · rw [ih hrest htail]
      exact fun h => absurd h Bool.false_ne_true

theorem stripUnderscores_eq_self {cs : List Char} (hhead : cs.head? ≠ some '_')
    (hlast : cs.getLast? ≠ some '_') : stripUnderscores cs = cs := by
  have hfront : cs.dropWhile (· = '_') = cs := by
    cases cs with
    | nil => rfl
    | cons c cs =>
      rw [List.dropWhile_cons, if_neg]
      simpa using hhead
  unfold stripUnderscores
  rw [hfront, List.rdropWhile_eq_self_iff]
  intro hne
  rw [List.getLast?_eq_some_getLast hne] at hlast
  simpa using hlast

theorem stripUnderscores_isInner (cs : List Char) : stripUnderscores cs <:+: cs :=
  (List.rdropWhile_prefix _ _).isInfix.trans (List.dropWhile_suffix _).isInfix

theorem head_stripUnderscores (cs : List Char) : (stripUnderscores cs).head? ≠ some '_' := by
  intro h
  have hfront : (cs.dropWhile (· = '_')).head? = some '_' := by
    obtain ⟨rest, hrest⟩ := List.rdropWhile_prefix (fun c : Char => decide (c = '_'))
      (cs.dropWhile (· = '_'))
    rw [← hrest, List.head?_append]
    unfold stripUnderscores at h
    rw [h]
    rfl
  simpa [hfront] using List.head?_dropWhile_not (fun c : Char => decide (c = '_')) cs

theorem last_stripUnderscores (cs : List Char) : (stripUnderscores cs).getLast? ≠ some '_' := by
  intro h
  have hne : stripUnderscores cs ≠ [] := by
    intro hnil
    rw [hnil] at h
    cases h
  rw [List.getLast?_eq_some_getLast hne] at h
  have hlast := List.rdropWhile_last_not (fun c : Char => decide (c = '_'))
    (cs.dropWhile (· = '_')) hne
  exact hlast (decide_eq_true (Option.some.inj h))

/-- A normalised header is in normal form. -/
theorem isSlug_normalizeHeader (header : String) : IsSlug (normalizeHeader header).toList := by
  unfold normalizeHeader
  simp only
  split
  · have hall : "column".toList.all (fun c => isAlnum c || c = '_') = true := by decide
    refine ⟨by decide, fun c hc => ?_, by decide, by decide, by decide⟩
    simpa using List.all_eq_true.mp hall c hc
  · next hne =>
    rw [String.toList_ofList]
    refine ⟨hne, ?_, ?_, head_stripUnderscores _, last_stripUnderscores _⟩
    · intro c hc
      rcases mem_collapse ((stripUnderscores_isInner _).mem hc) with h | ⟨hc, -⟩
      · exact .inr h
      · exact (mem_collapse hc).symm.imp_left fun h => by simpa using h.2
    · exact List.IsChain.infix (isChain_collapse false _).1 (stripUnderscores_isInner _)

/-- `Char`s are ordered by their codes. -/
theorem char_le_iff {c d : Char} : c ≤ d ↔ c.toNat ≤ d.toNat := Iff.rfl

theorem isAlnum_iff {c : Char} : isAlnum c = true ↔
    (97 ≤ c.toNat ∧ c.toNat ≤ 122) ∨ (48 ≤ c.toNat ∧ c.toNat ≤ 57) := by
  simp [isAlnum, char_le_iff]

theorem lower_eq_self {c : Char} (h : isAlnum c = true ∨ c = '_') : lower c = [c] := by
  have hcode : (97 ≤ c.toNat ∧ c.toNat ≤ 122) ∨ (48 ≤ c.toNat ∧ c.toNat ≤ 57) ∨
      c.toNat = 95 := by
    rcases h with h | rfl
    · exact (isAlnum_iff.mp h).imp_right .inl
    · decide
  have hlower : ¬ ('A' ≤ c ∧ c ≤ 'Z') ∧ c ≠ Char.ofNat 0x130 ∧ c ≠ Char.ofNat 0x212A := by
    refine ⟨?_, ?_, ?_⟩
    · rw [char_le_iff, char_le_iff]
      simp only [Char.reduceToNat]
      omega
    · rintro rfl
      exact absurd hcode (by decide)
    · rintro rfl
      exact absurd hcode (by decide)
  unfold lower
  rw [if_neg hlower.1, if_neg hlower.2.1, if_neg hlower.2.2]

theorem isBlank_eq_false {c : Char} (h : isAlnum c = true ∨ c = '_') : isBlank c = false := by
  rcases h with h | rfl
  · rw [isAlnum_iff] at h
    simp only [isBlank, Bool.or_eq_false_iff, Bool.and_eq_false_iff, decide_eq_false_iff_not]
    omega
  · decide

/-- Normalising again changes nothing. -/
theorem normalizeHeader_of_isSlug {name : String} (h : IsSlug name.toList) :
    normalizeHeader name = name := by
  have hstrip : strip name = name :=
    strip_of_not_blank fun c hc => isBlank_eq_false (h.chars c hc)
  have hlower : name.toList.flatMap lower = name.toList := by
    rw [List.flatMap_congr fun c hc => lower_eq_self (h.chars c hc), List.flatMap_singleton']
  have hwords : collapse (fun c => !isAlnum c) false name.toList = name.toList := by
    apply collapse_eq_self
    · intro c hc hout
      exact (h.chars c hc).resolve_left (by simpa using hout)
    · exact h.chain
    · exact fun hrun => absurd hrun Bool.false_ne_true
  have hsingle : collapse (fun c => c = '_') false name.toList = name.toList := by
    apply collapse_eq_self
    · exact fun c _ hc => of_decide_eq_true hc
    · exact h.chain
    · exact fun hrun => absurd hrun Bool.false_ne_true
  unfold normalizeHeader
  simp only [hstrip, hlower, hwords, hsingle, stripUnderscores_eq_self h.head h.last]
  rw [if_neg h.ne_nil, String.ofList_toList]

/-- A number after an underscore keeps the normal form. -/
theorem isSlug_suffixed {name : String} (h : IsSlug name.toList) (k : ℕ) :
    IsSlug (suffixed "_" name k).toList := by
  unfold suffixed
  split
  · exact h
  · have hdigit : ∀ c ∈ (toString (k + 1)).toList, isAlnum c = true ∧ c ≠ '_' := by
      intro c hc
      have hcode : 48 ≤ c.toNat ∧ c.toNat ≤ 57 := by
        have hdigit := isDigit_of_mem_toString hc
        rw [Char.isDigit, Bool.and_eq_true, decide_eq_true_eq, decide_eq_true_eq] at hdigit
        exact hdigit
      refine ⟨isAlnum_iff.mpr (.inr hcode), ?_⟩
      rintro rfl
      exact absurd hcode (by decide)
    have hne : (toString (k + 1)).toList ≠ [] := by
      rw [toList_toString]
      exact Nat.toDigits_ne_nil
    rw [String.toList_append, String.toList_append]
    generalize (toString (k + 1)).toList = digits at hdigit hne
    have hdigits : digits.IsChain fun a b => a = '_' → b ≠ '_' := by
      refine (List.pairwise_of_forall_mem_list ?_).isChain
      intro a _ b hb _
      exact (hdigit b hb).2
    constructor
    · simp
    · intro c hc
      simp only [List.mem_append] at hc
      rcases hc with (hc | hc) | hc
      · exact h.chars c hc
      · exact .inr (List.mem_singleton.mp hc)
      · exact .inl (hdigit c hc).1
    · rw [List.append_assoc]
      refine List.isChain_append.mpr ⟨h.chain, ?_, ?_⟩
      · refine List.isChain_cons.mpr ⟨?_, hdigits⟩
        intro b hb _
        exact (hdigit b (List.mem_of_head? hb)).2
      · rintro a ha b - rfl
        exact absurd ha h.last
    · intro hhead
      rw [List.append_assoc, List.head?_append_of_ne_nil _ h.ne_nil] at hhead
      exact h.head hhead
    · intro hlast
      rw [List.getLast?_append_of_ne_nil _ hne] at hlast
      exact (hdigit '_' (List.mem_of_getLast? hlast)).2 rfl

/-! ## Names in order -/

theorem labels_key : Labels (suffixed "__") :=
  labels_suffixed (show "__".toList = ['_'] ++ ['_'] by decide) (by decide)

theorem labels_name : Labels (suffixed "_") :=
  labels_suffixed (show "_".toList = [] ++ ['_'] by decide) (by decide)

/-- The normalised name of each column. -/
def columnNames (headers : List String) : List (Option String) :=
  (headerKeys headers).map (Dict.get (normalizeHeaders headers))

section

variable {headers : List String}

theorem length_headerKeys : (headerKeys headers).length = headers.length := length_number _ _

theorem length_columnNames : (columnNames headers).length = headers.length := by
  rw [columnNames, List.length_map, length_headerKeys]

/-- The cells of a row, under the keys in order. -/
theorem map_fst_cells (values : List String) :
    ((headerKeys headers).mapIdx fun i key => (key, cellToString values[i]?)).map Prod.fst =
      headerKeys headers := by
  apply List.ext_getElem (by simp)
  intro i _ _
  simp

/-- Under distinct keys a row is its cells in order. -/
theorem rowDict_eq (hkeys : (headerKeys headers).Nodup) (values : List String) :
    rowDict headers values = (headerKeys headers).mapIdx fun i key =>
      (key, cellToString values[i]?) := by
  apply Dict.ofPairs_of_nodup
  rw [map_fst_cells]
  exact hkeys

/-- Under distinct keys the columns have the numbered names. -/
theorem columnNames_eq (hkeys : (headerKeys headers).Nodup) :
    columnNames headers = (number (suffixed "_") (headers.map normalizeHeader)).map some := by
  have hlength : (headerKeys headers).length =
      (number (suffixed "_") (headers.map normalizeHeader)).length := by
    rw [length_headerKeys, length_number, List.length_map]
  have hfst : ((headerKeys headers).zip
      (number (suffixed "_") (headers.map normalizeHeader))).map Prod.fst =
        headerKeys headers := List.map_fst_zip (le_of_eq hlength)
  have hnodup := hkeys
  rw [← hfst] at hnodup
  have hmap : normalizeHeaders headers = (headerKeys headers).zip
      (number (suffixed "_") (headers.map normalizeHeader)) := Dict.ofPairs_of_nodup hnodup
  apply List.ext_getElem (by simp [length_columnNames])
  intro i hi hi'
  rw [length_columnNames] at hi
  simp only [columnNames, List.getElem_map, hmap]
  apply Dict.get_of_mem hnodup
  rw [List.mem_iff_getElem]
  exact ⟨i, by simpa [length_headerKeys] using hi, by simp⟩

/-! ## One mapped column -/

/-- Only the `i`-th source of the mapping is the name of a column: the one of column `i`. -/
structure NamesOnly (headers : List String) (i : ℕ) (target : String)
    (mapping : Dict String String) : Prop where
  known : target ∈ targetFields
  named : ∃ before source after, mapping = before ++ (source, target) :: after ∧
    (columnNames headers)[i]? = some (some (normalizeHeader source)) ∧
    ∀ p ∈ before ++ after, some (normalizeHeader p.1) ∉ columnNames headers

theorem filterMap_eq_singleton {α β : Type} {f : α → Option β} {b : β} {xs : List α} {i : ℕ}
    (hi : i < xs.length) (hat : f xs[i] = some b)
    (hother : ∀ j (hj : j < xs.length), j ≠ i → f xs[j] = none) : xs.filterMap f = [b] := by
  induction xs generalizing i with
  | nil => cases hi
  | cons x xs ih =>
    cases i with
    | zero =>
      have hrest : xs.filterMap f = [] := by
        rw [List.filterMap_eq_nil_iff]
        intro y hy
        obtain ⟨j, hj, rfl⟩ := List.getElem_of_mem hy
        exact hother (j + 1) (by simpa using hj) (by omega)
      have hx : f x = some b := hat
      rw [List.filterMap_cons_some hx, hrest]
    | succ i =>
      have hx : f x = none := hother 0 (by simp) (by omega)
      rw [List.filterMap_cons_none hx]
      apply ih (by simpa using hi) hat
      intro j hj hne
      exact hother (j + 1) (by simpa using hj) (by omega)

theorem sourceLookup_get (before : Dict String String) {after : Dict String String}
    {source : String} (target : String)
    (h : ∀ p ∈ after, normalizeHeader p.1 ≠ normalizeHeader source) :
    Dict.get (sourceLookup (before ++ (source, target) :: after)) (normalizeHeader source) =
      some target := by
  unfold sourceLookup
  rw [List.map_append, List.map_cons]
  apply Dict.get_ofPairs_append_cons
  intro hmem
  simp only [List.map_map, Function.comp_def, List.mem_map] at hmem
  obtain ⟨p, hp, heq⟩ := hmem
  exact h p hp heq

theorem sourceLookup_get_eq_none {mapping : Dict String String} {name : String}
    (h : ∀ p ∈ mapping, normalizeHeader p.1 ≠ name) :
    Dict.get (sourceLookup mapping) name = none := by
  unfold sourceLookup
  rw [Dict.get_ofPairs_eq_none]
  intro hmem
  simp only [List.map_map, Function.comp_def, List.mem_map] at hmem
  obtain ⟨p, hp, heq⟩ := hmem
  exact h p hp heq

/-- Under distinct keys every column has a name, and is looked up by it. -/
theorem exists_name (hkeys : (headerKeys headers).Nodup) {i : ℕ}
    (hi : i < (headerKeys headers).length) : ∃ name,
      Dict.get (normalizeHeaders headers) (headerKeys headers)[i] = some name ∧
        (columnNames headers)[i]? = some (some name) := by
  have hget : (columnNames headers)[i]? =
      some (Dict.get (normalizeHeaders headers) (headerKeys headers)[i]) := by
    simp [columnNames, hi]
  have hmem := List.mem_of_getElem? hget
  rw [columnNames_eq hkeys] at hmem
  obtain ⟨name, -, hname⟩ := List.mem_map.mp hmem
  exact ⟨name, hname.symm, by rw [hget, hname]⟩

/-- The column that is named is copied to the target, and nothing else is. -/
theorem buildNormalizedValues_of_namesOnly (hkeys : (headerKeys headers).Nodup)
    (hnames : (columnNames headers).Nodup) {i : ℕ} {target : String}
    {mapping : Dict String String} (h : NamesOnly headers i target mapping)
    (values : List String) :
    buildNormalizedValues (rowDict headers values) (normalizeHeaders headers) mapping =
      [(target, cellToString values[i]?)] := by
  obtain ⟨hknown, before, source, after, rfl, hname, hfree⟩ := h
  have htarget : target ≠ "" := by
    rintro rfl
    exact absurd hknown (by decide)
  have hi : i < headers.length := by
    obtain ⟨hi, -⟩ := List.getElem?_eq_some_iff.mp hname
    rwa [length_columnNames] at hi
  have hunnamed : ∀ p ∈ before ++ after, ∀ name, some name ∈ columnNames headers →
      normalizeHeader p.1 ≠ name := by
    rintro p hp name hmem rfl
    exact hfree p hp hmem
  have hcopied : (rowDict headers values).filterMap (mapColumn (normalizeHeaders headers)
      (sourceLookup (before ++ (source, target) :: after))) =
        [(target, cellToString values[i]?)] := by
    rw [rowDict_eq hkeys]
    refine filterMap_eq_singleton (by simpa [length_headerKeys] using hi) ?_ ?_
    · obtain ⟨name, hget, hat⟩ := exists_name hkeys (by rwa [length_headerKeys])
      rw [hname] at hat
      have hsame : normalizeHeader source = name := Option.some.inj (Option.some.inj hat)
      have htarget' := sourceLookup_get before target
        fun p hp => hunnamed p (List.mem_append_right _ hp) _ (List.mem_of_getElem? hname)
      rw [hsame] at htarget'
      rw [List.getElem_mapIdx, mapColumn]
      simp only [hget, Option.getD_some, htarget']
      exact if_neg htarget
    · intro j hj hne
      rw [List.length_mapIdx] at hj
      obtain ⟨name, hget, hat⟩ := exists_name hkeys hj
      have hnone : Dict.get (sourceLookup (before ++ (source, target) :: after)) name = none := by
        apply sourceLookup_get_eq_none
        intro p hp
        rcases List.mem_append.mp hp with hp | hp
        · exact hunnamed p (List.mem_append_left _ hp) name (List.mem_of_getElem? hat)
        · rcases List.mem_cons.mp hp with rfl | hp
          · rintro rfl
            have hi' : i < (columnNames headers).length := by rwa [length_columnNames]
            exact hne ((List.getElem?_inj hi' hnames).mp (hname.trans hat.symm)).symm
          · exact hunnamed p (List.mem_append_right _ hp) name (List.mem_of_getElem? hat)
      rw [List.getElem_mapIdx, mapColumn]
      simp only [hget, Option.getD_some, hnone]
  rw [buildNormalizedValues, hcopied]
  rfl

end

/-! ## The law -/

/-- Nothing of a sheet with these headers is lost or mixed up. -/
structure KeepsColumns (headers : List String) : Prop where
  keys : (headerKeys headers).Nodup
  /-- A row's stripped cells are read back in column order. -/
  cells : ∀ values : List String, values.length ≤ headers.length →
    (headerKeys headers).map (Dict.get (rowDict headers values)) =
      (List.range headers.length).map fun i => some (cellToString values[i]?)
  names : (columnNames headers).Nodup
  /-- A mapping may refer to a column by the very name it has. -/
  selfNamed : ∀ name, some name ∈ columnNames headers → normalizeHeader name = name
  /-- A mapping of one column copies that column. -/
  mapped : ∀ values : List String, values.length ≤ headers.length → ∀ i target mapping,
    NamesOnly headers i target mapping →
      buildNormalizedValues (rowDict headers values) (normalizeHeaders headers) mapping =
        [(target, cellToString values[i]?)]

/-- No header reads like the key of a repeated header, no normalised header like the name of a
repeated one. -/
structure NoClash (headers : List String) : Prop where
  keys : ∀ header k, 2 ≤ k → k ≤ headers.count header →
    header ++ "__" ++ toString k ∉ headers
  names : ∀ name k, 2 ≤ k → k ≤ (headers.map normalizeHeader).count name →
    name ++ "_" ++ toString k ∉ headers.map normalizeHeader

section

variable {headers : List String}

theorem nodup_headerKeys_iff : (headerKeys headers).Nodup ↔ ∀ header k, 2 ≤ k →
    k ≤ headers.count header → header ++ "__" ++ toString k ∉ headers :=
  nodup_suffixed_iff labels_key headers

theorem nodup_columnNames_iff (hkeys : (headerKeys headers).Nodup) :
    (columnNames headers).Nodup ↔ ∀ name k, 2 ≤ k →
      k ≤ (headers.map normalizeHeader).count name →
        name ++ "_" ++ toString k ∉ headers.map normalizeHeader := by
  rw [columnNames_eq hkeys, List.nodup_map_iff (Option.some_injective _)]
  exact nodup_suffixed_iff labels_name _

theorem KeepsColumns.noClash (h : KeepsColumns headers) : NoClash headers where
  keys := nodup_headerKeys_iff.mp h.keys
  names := (nodup_columnNames_iff h.keys).mp h.names

theorem rowDict_get (hkeys : (headerKeys headers).Nodup) (values : List String) :
    (headerKeys headers).map (Dict.get (rowDict headers values)) =
      (List.range headers.length).map fun i => some (cellToString values[i]?) := by
  rw [rowDict_eq hkeys]
  apply List.ext_getElem (by simp [length_headerKeys])
  intro i hi hi'
  rw [List.getElem_map, List.getElem_map, List.getElem_range]
  apply Dict.get_of_mem (by rwa [map_fst_cells])
  rw [List.mem_iff_getElem]
  exact ⟨i, by simpa using hi, by simp⟩

theorem isSlug_columnName (hkeys : (headerKeys headers).Nodup) {name : String}
    (h : some name ∈ columnNames headers) : IsSlug name.toList := by
  rw [columnNames_eq hkeys, List.mem_map_of_injective (Option.some_injective _)] at h
  obtain ⟨⟨base, k⟩, hoccurs, hsuffixed⟩ := List.mem_map.mp h
  simp only at hsuffixed
  have hbase : base ∈ headers.map normalizeHeader := by
    have hlt := (mem_occurrences.mp hoccurs).2
    exact List.count_pos_iff.mp (by omega)
  obtain ⟨header, -, hheader⟩ := List.mem_map.mp hbase
  have hslug : IsSlug base.toList := by
    rw [← hheader]
    exact isSlug_normalizeHeader header
  rw [← hsuffixed]
  exact isSlug_suffixed hslug k

end

/-- Every column is kept unless the sheet itself uses a name that a repeated column is given. -/
theorem keepsColumns_iff (headers : List String) : KeepsColumns headers ↔ NoClash headers := by
  constructor
  · intro h
    exact h.noClash
  · intro h
    have hkeys : (headerKeys headers).Nodup := nodup_headerKeys_iff.mpr h.keys
    have hnames : (columnNames headers).Nodup := (nodup_columnNames_iff hkeys).mpr h.names
    constructor
    · exact hkeys
    · intro values _
      exact rowDict_get hkeys values
    · exact hnames
    · intro name hname
      exact normalizeHeader_of_isSlug (isSlug_columnName hkeys hname)
    · intro values _ i target mapping hmapping
      exact buildNormalizedValues_of_namesOnly hkeys hnames hmapping values

/-- The second `a` is stored under the third column's key. -/
theorem keepsColumns_broken_suffix : ¬ KeepsColumns ["a", "a", "a__2"] := by
  intro h
  exact h.noClash.keys "a" 2 (by decide) (by decide) (by decide)

end Mpango.Intake
