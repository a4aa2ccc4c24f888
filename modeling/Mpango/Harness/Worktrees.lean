import Mpango.Harness.Trees
import Mpango.Model.Worktree

/-!
# The scope audit of a worktree

The executor passes a mission exactly when its worker exits with 0, every step of it comes to an
end, and the names read from the queries that answer are the expected files (`execute_passed_iff`).
Whether these are the files that differ is up to git: four queries that all answer, about a worktree
whose head is the branch's, name them all (`selected_of_differs`), but a query that fails is passed
over, and none asks where the branch is. `audit_sound_iff` is the exact condition.
-/

namespace Mpango

namespace Worktree

open Harness (quotePath splitLines)

variable {w : World} {mission : Mission} {f : String}

/-! ## Scope -/

/-- `f` is one of the expected files. -/
def Mission.Expects (mission : Mission) (f : String) : Prop :=
  f ∈ mission.expectedFiles.map normalizePath

/-- `f` is forbidden, in general or for this mission. -/
def Mission.Forbids (mission : Mission) (f : String) : Prop :=
  (isForbidden f).isSome = true ∨ f ∈ (mission.forbiddenExtra.getD []).map normalizePath

/-- `f` is read from a query that answers. -/
def World.Reports (w : World) (f : String) : Prop :=
  ∃ q names, w.answers q = .answered names ∧
    f ∈ (readNames (printNames names)).map normalizePath

/-- What the executor promises of a mission. -/
structure Sound (w : World) (mission : Mission) : Prop where
  scope : ∀ payload, (execute w mission).answer = .ok (.passed, payload) →
    w.worker = .exited 0 ∧
      (∀ f, w.left.Differs w.baseTree f → mission.Expects f ∧ ¬mission.Forbids f) ∧
      ∀ f, mission.Expects f → w.left.Differs w.baseTree f
  removed : (execute w mission).worktree = false
  report : ∀ location, (execute w mission).report = some location → w.ledger <+: location

/-- A name that is printed as it is, and that stripping leaves alone. -/
structure Plain (name : String) : Prop where
  usual : name.toList.any Harness.isUnusual = false
  nonempty : name ≠ ""
  stripped : strip name = name

theorem splitLines_last {lines : List (List Char)} {last : List Char}
    (hlines : ∀ line ∈ lines, ∀ c ∈ line, Harness.isLineEnd c = false)
    (hlast : ∀ c ∈ last, Harness.isLineEnd c = false) (hne : last ≠ []) :
    splitLines [] (lines.flatMap (· ++ ['\n']) ++ last) = lines ++ [last] := by
  induction lines with
  | nil =>
    have happend := Harness.splitLines_append hlast [] []
    rw [List.append_nil, List.nil_append] at happend
    rw [List.flatMap_nil, List.nil_append, List.nil_append, happend, splitLines, if_neg hne]
  | cons line lines ih =>
    rw [List.flatMap_cons, List.append_assoc, List.append_assoc,
      Harness.splitLines_append (hlines line List.mem_cons_self), List.singleton_append,
      splitLines.eq_3 _ _ _ (by intro _ h; cases h), if_pos (by decide),
      ih fun l hl => hlines l (List.mem_cons_of_mem _ hl), List.nil_append, List.cons_append]

theorem Plain.ends {name : String} (h : Plain name) :
    (∃ c cs, name.toList = c :: cs ∧ isBlank c = false) ∧
      ∃ cs c, name.toList = cs ++ [c] ∧ isBlank c = false := by
  have hne : name.toList ≠ [] := fun hnil => h.nonempty (String.toList_eq_nil_iff.mp hnil)
  have hstripped : (name.toList.dropWhile isBlank).rdropWhile isBlank = name.toList := by
    have htext := congrArg String.toList h.stripped
    rwa [strip, String.toList_ofList] at htext
  have hfront : name.toList.dropWhile isBlank = name.toList := by
    apply (List.dropWhile_sublist _).eq_of_length_le
    calc name.toList.length = _ := congrArg List.length hstripped.symm
      _ ≤ _ := (List.rdropWhile_prefix _ _).length_le
  rw [hfront] at hstripped
  constructor
  · cases hname : name.toList with
    | nil => exact absurd hname hne
    | cons c cs =>
      refine ⟨c, cs, rfl, ?_⟩
      by_contra hblank
      rw [hname, List.dropWhile_cons_of_pos (by simpa using hblank)] at hfront
      have hlength := (List.dropWhile_sublist (l := cs) isBlank).length_le
      rw [hfront, List.length_cons] at hlength
      omega
  · obtain ⟨cs, c, hname⟩ := (List.eq_nil_or_concat' name.toList).resolve_left hne
    refine ⟨cs, c, hname, ?_⟩
    have hlast := (List.rdropWhile_eq_self_iff.mp hstripped) hne
    simpa [hname] using hlast

/-- Plain names are read as they are. -/
theorem readNames_printNames {names : List String} (h : ∀ name ∈ names, Plain name) :
    readNames (printNames names) = names := by
  have hprint : printNames names =
      String.ofList ((names.map String.toList).flatMap (· ++ ['\n'])) := by
    unfold printNames
    rw [List.flatMap_map]
    congr 1
    apply List.flatMap_congr
    intro name hname
    rw [Harness.quotePath_of_usual (h name hname).usual]
  have hlineEnd {name : String} (hname : name ∈ names) :
      ∀ c ∈ name.toList, Harness.isLineEnd c = false := by
    intro c hc
    rw [← Harness.quotePath_of_usual (h name hname).usual] at hc
    exact Harness.isLineEnd_quotePath hc
  rcases List.eq_nil_or_concat' names with rfl | ⟨front, last, rfl⟩
  · decide +kernel
  · have hlast : last ∈ front ++ [last] := by simp
    obtain ⟨-, cs, c, hend, hc⟩ := (h last hlast).ends
    -- only the last line end is stripped
    have hstrip : (strip (printNames (front ++ [last]))).toList =
        (front.map String.toList).flatMap (· ++ ['\n']) ++ last.toList := by
      have htext : (front ++ [last]).map String.toList =
          front.map String.toList ++ [last.toList] := by
        simp
      rw [hprint, strip, String.toList_ofList, String.toList_ofList, htext, List.flatMap_append]
      have hfront : (((front.map String.toList).flatMap (· ++ ['\n']) ++
          [last.toList].flatMap (· ++ ['\n'])).dropWhile isBlank) =
          (front.map String.toList).flatMap (· ++ ['\n']) ++ last.toList ++ ['\n'] := by
        cases front with
        | nil =>
          obtain ⟨⟨c, cs, hstart, hc⟩, -⟩ := (h last hlast).ends
          simp [hstart, hc]
        | cons first front =>
          obtain ⟨⟨c, cs, hstart, hc⟩, -⟩ := (h first (by simp)).ends
          simp [hstart, hc]
      rw [hfront, List.rdropWhile_concat_pos _ _ _ (by decide), hend, ← List.append_assoc,
        List.rdropWhile_concat_neg _ _ _ (by simp [hc])]
    unfold readNames
    rw [hstrip, splitLines_last _ (hlineEnd hlast) (by simp [hend])]
    · have hmap : (front.map String.toList ++ [last.toList]).map String.ofList =
          front ++ [last] := by
        simp [Function.comp_def]
      rw [hmap, List.filter_eq_self]
      intro name hname
      rw [(h name hname).stripped]
      exact decide_eq_true (h name hname).nonempty
    · intro line hline
      obtain ⟨name, hname, rfl⟩ := List.mem_map.mp hline
      exact hlineEnd (List.mem_append_left _ hname)

/-- A plain name has no backslash to be turned round. -/
theorem Plain.normalizePath {name : String} (h : Plain name) : normalizePath name = name := by
  have hmap : name.toList.map (fun c => if c = '\\' then '/' else c) = name.toList := by
    conv_rhs => rw [← List.map_id name.toList]
    apply List.map_congr_left
    intro c hc
    have husual := List.any_eq_false.mp h.usual c hc
    have hne : c ≠ '\\' := by
      rintro rfl
      exact husual (by decide)
    rw [if_neg hne]
    rfl
  rw [Worktree.normalizePath, hmap, String.ofList_toList]

/-- Every file that differs is selected by a query, while the head is at the branch, no file is
ignored and none is left unwatched. -/
theorem selected_of_differs {left : Left} {base : Snapshot} (hbranch : left.branch = left.head)
    (hignored : ∀ f, ¬left.ignored f) (hwatched : ∀ f, ¬left.unwatched f)
    (hf : left.Differs base f) : ∃ q, left.selects base q f := by
  by_cases hhead : base f = left.head f
  · by_cases hindex : left.head f = left.index f
    · have hdirectory : left.directory f ≠ left.index f := by
        rw [← hindex, ← hhead]
        rcases hf with hf | hf
        · exact hf
        · rw [hbranch] at hf
          exact absurd hhead.symm hf
      cases hentry : left.index f with
      | none =>
        rw [hentry] at hdirectory
        exact ⟨.untracked, hentry, hdirectory, hignored f⟩
      | some content => exact ⟨.unstaged, by simp [hentry], hdirectory.symm, hwatched f⟩
    · exact ⟨.staged, hindex⟩
  · exact ⟨.committed, hhead⟩

/-- Then, where all four queries answer and every name is plain, it is reported. -/
theorem reports_of_differs (hbranch : w.left.branch = w.left.head)
    (hignored : ∀ f, ¬w.left.ignored f) (hwatched : ∀ f, ¬w.left.unwatched f)
    (hanswers : ∀ q, ∃ names, w.answers q = .answered names ∧ ∀ name ∈ names, Plain name)
    (hf : w.left.Differs w.baseTree f) : w.Reports f := by
  obtain ⟨q, hselects⟩ := selected_of_differs hbranch hignored hwatched hf
  obtain ⟨names, hnames, hplain⟩ := hanswers q
  have hmem : f ∈ names := (w.selected q names hnames f).mpr hselects
  refine ⟨q, names, hnames, ?_⟩
  rw [readNames_printNames hplain]
  exact List.mem_map.mpr ⟨f, hmem, (hplain f hmem).normalizePath⟩

/-! ## A commit out of sight -/

end Worktree

end Mpango
