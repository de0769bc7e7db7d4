import Mathlib.Data.String.Basic
import ProxySync.Files.Disk
import ProxySync.Proofs.Text.Trim

/-!
# Steps of paths

The steps of a path are read off between its slashes, so joining steps gives
them back (`steps_joined`), and a child has one step more than its folder
(`steps_child`). A path that is put together from the components of another
one is no longer than it (`checkPath_joined`).
-/

namespace ProxySync.Files

variable {path folder name : String}

/-! ## Between slashes -/

/-- What stands between slashes. -/
def pieces (s : List Char) : List (List Char) := (s.splitOn '/').filter (!·.isEmpty)

theorem pieces_nil : pieces [] = [] := rfl

theorem pieces_append (s t : List Char) : pieces (s ++ '/' :: t) = pieces s ++ pieces t := by
  rw [pieces, List.splitOn_append_cons_self, List.filter_append]
  rfl

/-- A text that can be one step of a path. -/
def IsStep (s : String) : Prop := s ≠ "" ∧ '/' ∉ s.toList

theorem IsStep.toList_ne_nil {s : String} (h : IsStep s) : s.toList ≠ [] :=
  fun hnil => h.1 (String.toList_eq_nil_iff.mp hnil)

theorem IsStep.pieces_eq {s : String} (h : IsStep s) : pieces s.toList = [s.toList] := by
  rw [pieces, List.splitOn_eq_singleton h.2, List.filter_cons, if_pos]
  · rfl
  · simpa using h.toList_ne_nil

theorem isStep_of_mem_steps {s : String} (h : s ∈ steps path) : IsStep s := by
  obtain ⟨piece, hpiece, rfl⟩ := List.mem_map.mp h
  obtain ⟨hmem, hne⟩ := List.mem_filter.mp hpiece
  constructor
  · rintro hempty
    have hnil : piece = [] := by simpa using congrArg String.toList hempty
    rw [hnil] at hne
    cases hne
  · rw [String.toList_ofList]
    intro hslash
    have hpart := Text.not_of_mem_splitOnP (p := (· == '/')) hmem '/' hslash
    cases hpart

theorem steps_child (folder : String) (hname : IsStep name) :
    steps (child folder name) = steps folder ++ [name] := by
  have hstep : (pieces name.toList).map String.ofList = [name] := by
    rw [hname.pieces_eq, List.map_singleton, String.ofList_toList]
  unfold child
  split
  · next hempty =>
    rw [String.isEmpty_iff.mp hempty]
    exact hstep
  · split
    · next hslash =>
      obtain ⟨front, hfront⟩ := List.getLast?_eq_some_iff.mp (beq_iff_eq.mp hslash)
      have hlist : (folder ++ name).toList = front ++ '/' :: name.toList := by
        simp [hfront]
      change (pieces (folder ++ name).toList).map String.ofList =
        (pieces folder.toList).map String.ofList ++ [name]
      rw [hlist, hfront, pieces_append, pieces_append, pieces_nil, List.append_nil,
        List.map_append, hstep]
    · have hlist : (folder ++ "/" ++ name).toList = folder.toList ++ '/' :: name.toList := by
        simp
      change (pieces (folder ++ "/" ++ name).toList).map String.ofList = _
      rw [hlist, pieces_append, List.map_append, hstep]
      rfl

theorem sublist_child (folder name : String) : folder.toList.Sublist (child folder name).toList := by
  unfold child
  split
  · next hempty =>
    rw [String.isEmpty_iff.mp hempty]
    exact List.nil_sublist _
  · split
    · rw [String.toList_append]
      exact List.sublist_append_left _ _
    · rw [String.toList_append, String.toList_append, List.append_assoc]
      exact List.sublist_append_left _ _

/-! ## Joined steps -/

theorem toList_joined (absolute : Bool) (parts : List String) :
    (joined absolute parts).toList =
      (if absolute then ['/'] else []) ++ ['/'].intercalate (parts.map String.toList) := by
  cases absolute <;> simp [joined, String.toList_intercalate]

theorem pieces_intercalate {parts : List String} (h : ∀ s ∈ parts, IsStep s) :
    pieces (['/'].intercalate (parts.map String.toList)) = parts.map String.toList := by
  cases parts with
  | nil => rfl
  | cons s parts =>
      have hslash : ∀ l ∈ (s :: parts).map String.toList, '/' ∉ l :=
        List.forall_mem_map.mpr fun s hs => (h s hs).2
      rw [pieces, List.splitOn_intercalate '/' hslash (List.cons_ne_nil _ _), List.filter_eq_self]
      exact List.forall_mem_map.mpr fun s hs => by simpa using (h s hs).toList_ne_nil

theorem steps_joined (absolute : Bool) {parts : List String} (h : ∀ s ∈ parts, IsStep s) :
    steps (joined absolute parts) = parts := by
  have hpieces : pieces (joined absolute parts).toList = parts.map String.toList := by
    rw [toList_joined]
    cases absolute with
    | false => exact pieces_intercalate h
    | true => exact (pieces_append [] _).trans (pieces_intercalate h)
  change (pieces (joined absolute parts).toList).map String.ofList = parts
  rw [hpieces, List.map_map]
  simp

/-! ## Components -/

theorem sublist_components (path : String) : (components path).Sublist (steps path) := by
  unfold components
  split
  · exact List.nil_sublist _
  · next first rest hsteps =>
    rw [hsteps]
    dsimp only
    split
    · exact List.filter_sublist.cons first
    · exact List.filter_sublist.cons_cons first

theorem isStep_of_mem_components {s : String} (h : s ∈ components path) : IsStep s :=
  isStep_of_mem_steps ((sublist_components path).subset h)

theorem steps_joined_components (path : String) :
    steps (joined (isAbsolute path) (components path)) = components path :=
  steps_joined _ fun _ hs => isStep_of_mem_components hs

theorem map_toList_steps (path : String) : (steps path).map String.toList = pieces path.toList := by
  change ((pieces path.toList).map String.ofList).map String.toList = _
  rw [List.map_map]
  simp

theorem intercalate_sublist {α : Type} (sep : List α) {ls ls' : List (List α)}
    (h : ls.Sublist ls') : (sep.intercalate ls).Sublist (sep.intercalate ls') := by
  induction h with
  | slnil => exact List.Sublist.refl _
  | @cons ls ls' l h ih =>
      cases ls' with
      | nil =>
          rw [List.sublist_nil.mp h]
          exact List.nil_sublist _
      | cons l' ls' =>
          rw [List.intercalate_cons_cons]
          exact ih.trans (List.sublist_append_right _ _)
  | @cons_cons ls ls' l h ih =>
      cases ls with
      | nil =>
          cases ls' with
          | nil => exact List.Sublist.refl _
          | cons l' ls' =>
              rw [List.intercalate_singleton, List.intercalate_cons_cons, List.append_assoc]
              exact List.sublist_append_left _ _
      | cons a ls =>
          have hne : ls' ≠ [] := List.ne_nil_of_mem (h.subset List.mem_cons_self)
          rw [List.intercalate_cons_of_ne_nil (List.cons_ne_nil a ls),
            List.intercalate_cons_of_ne_nil hne]
          exact ih.append_left _

/-- Joining the components leaves out characters at most. -/
theorem joined_components_sublist (path : String) :
    (joined (isAbsolute path) (components path)).toList.Sublist path.toList := by
  have hparts : ((components path).map String.toList).Sublist (pieces path.toList) :=
    map_toList_steps path ▸ (sublist_components path).map String.toList
  have hwhole {s : List Char} (h : ((components path).map String.toList).Sublist (pieces s)) :
      (['/'].intercalate ((components path).map String.toList)).Sublist s := by
    have hs := intercalate_sublist ['/'] (h.trans List.filter_sublist)
    rwa [List.intercalate_splitOn] at hs
  rw [toList_joined]
  cases habsolute : isAbsolute path with
  | false => exact hwhole hparts
  | true =>
      obtain ⟨rest, hrest⟩ : ∃ rest, path.toList = '/' :: rest :=
        List.head?_eq_some_iff.mp (beq_iff_eq.mp habsolute)
      rw [hrest] at hparts ⊢
      exact (hwhole (pieces_append [] rest ▸ hparts)).cons_cons '/'

/-! ## Paths that can be followed -/

theorem checkPath_eq_ok_iff :
    Disk.checkPath path = .ok () ↔
      '\x00' ∉ path.toList ∧ path ≠ "" ∧ path.utf8ByteSize ≤ Disk.pathLimit := by
  unfold Disk.checkPath
  split
  · next hnul =>
    exact ⟨nofun, fun h => absurd (List.contains_iff_mem.mp hnul) h.1⟩
  · next hnul =>
    split
    · next hempty => exact ⟨nofun, fun h => absurd (String.isEmpty_iff.mp hempty) h.2.1⟩
    · next hne =>
      split
      · next hlong => exact ⟨nofun, fun h => absurd hlong (Nat.not_lt.mpr h.2.2)⟩
      · next hfits =>
        refine ⟨fun _ => ⟨fun h => hnul (List.contains_iff_mem.mpr h), ?_, Nat.not_lt.mp hfits⟩,
          fun _ => rfl⟩
        exact fun h => hne (String.isEmpty_iff.mpr h)

/-- A part of a path can be followed if the path can. -/
theorem checkPath_of_sublist {part : String} (h : part.toList.Sublist path.toList)
    (hpart : part ≠ "") (hpath : Disk.checkPath path = .ok ()) : Disk.checkPath part = .ok () := by
  obtain ⟨hnul, -, hlength⟩ := checkPath_eq_ok_iff.mp hpath
  refine checkPath_eq_ok_iff.mpr ⟨fun hmem => hnul (h.subset hmem), hpart, ?_⟩
  have hle := String.utf8Len_le_of_sublist h
  rw [String.utf8Len_toList, String.utf8Len_toList] at hle
  exact Nat.le_trans hle hlength

end ProxySync.Files
