import ProxySync.Proofs.Files.Path

/-!
# Following paths

How a path was followed that leads somewhere, step by step (`Follows`). Where
it went on after a step there is a folder, and so there is one at each place
above (`Follows.split`). Hence making the folders on the way to something that
can be read finds them all there and changes nothing
(`makeFolders_of_readContent`).
-/

namespace ProxySync.Files

namespace Disk

/-- The step is neither a dot nor two, and not too long. -/
structure IsName (s : String) : Prop where
  fits : s.utf8ByteSize ≤ nameLimit
  not_dot : s ≠ "."
  not_dots : s ≠ ".."

variable {d : Disk} {links : Nat} {base : Place} {spot : Spot} {xs ys : List String}

/-- Steps from the folder `base` lead to `spot`, over at most `links` links. -/
inductive Follows (d : Disk) : Nat → Place → List String → Spot → Prop where
  | done {links : Nat} {base : Place} : Follows d links base [] ⟨base, d.node? base⟩
  | dot {links : Nat} {base : Place} {rest : List String} {spot : Spot}
      (h : Follows d links base rest spot) : Follows d links base ("." :: rest) spot
  | up {links : Nat} {base : Place} {rest : List String} {spot : Spot}
      (h : Follows d links base.dropLast rest spot) : Follows d links base (".." :: rest) spot
  | enter {links : Nat} {base : Place} {s : String} {rest : List String} {spot : Spot} {mode : Nat}
      (hs : IsName s) (hnode : d.node? (base ++ [s]) = some (.folder mode))
      (h : Follows d links (base ++ [s]) rest spot) : Follows d links base (s :: rest) spot
  | link {links : Nat} {base : Place} {s : String} {rest : List String} {spot : Spot}
      {target : String} (hs : IsName s) (hnode : d.node? (base ++ [s]) = some (.link target))
      (h : Follows d links (if isAbsolute target then [] else base) (steps target ++ rest) spot) :
      Follows d (links + 1) base (s :: rest) spot
  | last {links : Nat} {base : Place} {s : String} (hs : IsName s)
      (hfolder : ∀ mode, d.node? (base ++ [s]) ≠ some (.folder mode))
      (hlink : ∀ target, d.node? (base ++ [s]) ≠ some (.link target)) :
      Follows d links base [s] ⟨base ++ [s], d.node? (base ++ [s])⟩

theorem follows_of_walkFrom {onLink : Place → List String → Except IoFault Spot}
    (hlink : ∀ base xs, onLink base xs = .ok spot → ∃ n, links = n + 1 ∧ Follows d n base xs spot)
    (h : d.walkFrom true onLink base xs = .ok spot) : Follows d links base xs spot := by
  induction xs generalizing base with
  | nil =>
      obtain rfl := Except.ok.inj h
      exact .done
  | cons s rest ih =>
      unfold walkFrom at h
      split at h
      · cases h
      next hfits =>
      split at h
      · next hdot =>
        rw [beq_iff_eq.mp hdot]
        exact .dot (ih h)
      next hdot =>
      split at h
      · next hdots =>
        rw [beq_iff_eq.mp hdots]
        exact .up (ih h)
      next hdots =>
      have hs : IsName s := ⟨Nat.not_lt.mp hfits, by simpa using hdot, by simpa using hdots⟩
      dsimp only at h
      split at h
      · next hnode =>
        split at h
        · next hlast =>
          obtain rfl := Except.ok.inj h
          obtain rfl := List.isEmpty_iff.mp hlast
          rw [← hnode]
          exact .last hs (by simp [hnode]) (by simp [hnode])
        · cases h
      · next hnode => exact .enter hs hnode (ih h)
      · next target hnode =>
        rw [Bool.not_true, Bool.and_false, if_neg Bool.false_ne_true] at h
        obtain ⟨n, rfl, hfollows⟩ := hlink _ _ h
        exact .link hs hnode hfollows
      · next node hfolder hlink' hnode =>
        split at h
        · next hlast =>
          obtain rfl := Except.ok.inj h
          obtain rfl := List.isEmpty_iff.mp hlast
          rw [← hnode]
          refine .last hs (fun mode hmode => ?_) fun target htarget => ?_
          · rw [hnode] at hmode
            exact hfolder mode (Option.some.inj hmode)
          · rw [hnode] at htarget
            exact hlink' target (Option.some.inj htarget)
        · cases h

theorem follows_of_walk (h : d.walk true links base xs = .ok spot) :
    Follows d links base xs spot := by
  induction links generalizing base xs with
  | zero =>
      change d.walkFrom true (fun _ _ => .error .tooManyLinks) base xs = _ at h
      exact follows_of_walkFrom (fun _ _ hlink => by cases hlink) h
  | succ links ih => exact follows_of_walkFrom (fun _ _ hlink => ⟨links, rfl, ih hlink⟩) h

section Names

variable {s : String} (hs : IsName s)

include hs in
theorem IsName.walk_folder {mode : Nat} (hnode : d.node? (base ++ [s]) = some (.folder mode))
    (rest : List String) :
    d.walk true links base (s :: rest) = d.walk true links (base ++ [s]) rest := by
  have hfits := Nat.not_lt.mpr hs.fits
  cases links <;> simp [walk, walkFrom, hfits, hs.not_dot, hs.not_dots, hnode]

include hs in
theorem IsName.walk_link {target : String} (hnode : d.node? (base ++ [s]) = some (.link target))
    (rest : List String) :
    d.walk true (links + 1) base (s :: rest) =
      d.walk true links (if isAbsolute target then [] else base) (steps target ++ rest) := by
  have hfits := Nat.not_lt.mpr hs.fits
  simp [walk, walkFrom, hfits, hs.not_dot, hs.not_dots, hnode]

include hs in
theorem IsName.walk_last (hfolder : ∀ mode, d.node? (base ++ [s]) ≠ some (.folder mode))
    (hlink : ∀ target, d.node? (base ++ [s]) ≠ some (.link target)) :
    d.walk true links base [s] = .ok ⟨base ++ [s], d.node? (base ++ [s])⟩ := by
  have hfits := Nat.not_lt.mpr hs.fits
  cases hnode : d.node? (base ++ [s]) with
  | none => cases links <;> simp [walk, walkFrom, hfits, hs.not_dot, hs.not_dots, hnode]
  | some node =>
      cases node with
      | folder mode => exact absurd hnode (hfolder mode)
      | link target => exact absurd hnode (hlink target)
      | file | device =>
          cases links <;> simp [walk, walkFrom, hfits, hs.not_dot, hs.not_dots, hnode]

end Names

theorem Follows.walk_eq (h : Follows d links base xs spot) :
    d.walk true links base xs = .ok spot := by
  induction h with
  | @done links => cases links <;> rfl
  | @dot links _ _ _ _ ih => cases links <;> exact ih
  | @up links _ _ _ _ ih => cases links <;> exact ih
  | enter hs hnode h ih => exact (hs.walk_folder hnode _).trans ih
  | link hs hnode h ih => exact (hs.walk_link hnode _).trans ih
  | last hs hfolder hlink => exact hs.walk_last hfolder hlink

/-! ## Folders on the way -/

/-- There is a folder at this place and at all places above it. -/
def Rooted (d : Disk) (base : Place) : Prop :=
  ∀ place, place <+: base → ∃ mode, d.node? place = some (.folder mode)

theorem rooted_root (d : Disk) : d.Rooted [] := by
  intro place hplace
  obtain rfl := List.prefix_nil.mp hplace
  exact ⟨folderMode, rfl⟩

theorem Rooted.dropLast (h : d.Rooted base) : d.Rooted base.dropLast :=
  fun place hplace => h place (hplace.trans (List.dropLast_prefix base))

theorem Rooted.concat {s : String} {mode : Nat} (h : d.Rooted base)
    (hnode : d.node? (base ++ [s]) = some (.folder mode)) : d.Rooted (base ++ [s]) := by
  intro place hplace
  rcases List.prefix_concat_iff.mp hplace with rfl | hplace
  · exact ⟨mode, hnode⟩
  · exact h place hplace

/-- **What was followed to its end was followed to every step before it**, and
there is a folder. -/
theorem Follows.split (h : Follows d links base (xs ++ ys) spot) (hys : ys ≠ [])
    (hbase : d.Rooted base) :
    ∃ links' base', Follows d links base xs ⟨base', d.node? base'⟩ ∧ d.Rooted base' ∧
      Follows d links' base' ys spot := by
  generalize hzs : xs ++ ys = zs at h
  induction h generalizing xs with
  | done => exact absurd (List.append_eq_nil_iff.mp hzs).2 hys
  | @dot links base _ _ h ih =>
      obtain ⟨rfl, rfl⟩ | ⟨xs, rfl, rfl⟩ := List.append_eq_cons_iff.mp hzs
      · exact ⟨links, base, .done, hbase, .dot h⟩
      · obtain ⟨links', base', hxs, hfolders, hrest⟩ := ih hbase rfl
        exact ⟨links', base', .dot hxs, hfolders, hrest⟩
  | @up links base _ _ h ih =>
      obtain ⟨rfl, rfl⟩ | ⟨xs, rfl, rfl⟩ := List.append_eq_cons_iff.mp hzs
      · exact ⟨links, base, .done, hbase, .up h⟩
      · obtain ⟨links', base', hxs, hfolders, hrest⟩ := ih hbase.dropLast rfl
        exact ⟨links', base', .up hxs, hfolders, hrest⟩
  | @enter links base _ _ _ _ hs hnode h ih =>
      obtain ⟨rfl, rfl⟩ | ⟨xs, rfl, rfl⟩ := List.append_eq_cons_iff.mp hzs
      · exact ⟨links, base, .done, hbase, .enter hs hnode h⟩
      · obtain ⟨links', base', hxs, hfolders, hrest⟩ := ih (hbase.concat hnode) rfl
        exact ⟨links', base', .enter hs hnode hxs, hfolders, hrest⟩
  | @link links base _ _ _ target hs hnode h ih =>
      obtain ⟨rfl, rfl⟩ | ⟨xs, rfl, rfl⟩ := List.append_eq_cons_iff.mp hzs
      · exact ⟨links + 1, base, .done, hbase, .link hs hnode h⟩
      · have hstart : d.Rooted (if isAbsolute target then [] else base) := by
          split
          · exact d.rooted_root
          · exact hbase
        obtain ⟨links', base', hxs, hfolders, hrest⟩ := ih hstart (List.append_assoc ..)
        exact ⟨links', base', .link hs hnode hxs, hfolders, hrest⟩
  | @last links base _ hs hfolder hlink =>
      obtain ⟨rfl, rfl⟩ | ⟨xs, rfl, hnil⟩ := List.append_eq_cons_iff.mp hzs
      · exact ⟨links, base, .done, hbase, .last hs hfolder hlink⟩
      · exact absurd (List.append_eq_nil_iff.mp hnil.symm).2 hys

/-- Dots may be left out on the way to a folder. -/
theorem Follows.filter {mode : Nat} (h : Follows d links base (xs ++ ys) spot)
    (hfolder : spot.node = some (.folder mode)) :
    Follows d links base (xs ++ ys.filter (· != ".")) spot := by
  generalize hzs : xs ++ ys = zs at h
  have hkept {s : String} (hs : IsName s) (rest : List String) :
      (s :: rest).filter (· != ".") = s :: rest.filter (· != ".") :=
    List.filter_cons_of_pos (bne_iff_ne.mpr hs.not_dot)
  induction h generalizing xs ys with
  | done =>
      obtain ⟨rfl, rfl⟩ := List.append_eq_nil_iff.mp hzs
      exact .done
  | @dot _ _ rest _ h ih =>
      obtain ⟨rfl, rfl⟩ | ⟨xs, rfl, rfl⟩ := List.append_eq_cons_iff.mp hzs
      · exact @ih [] rest hfolder rfl
      · exact .dot (ih hfolder rfl)
  | up h ih =>
      obtain ⟨rfl, rfl⟩ | ⟨xs, rfl, rfl⟩ := List.append_eq_cons_iff.mp hzs
      · exact .up (@ih [] _ hfolder rfl)
      · exact .up (ih hfolder rfl)
  | enter hs hnode h ih =>
      obtain ⟨rfl, rfl⟩ | ⟨xs, rfl, rfl⟩ := List.append_eq_cons_iff.mp hzs
      · rw [hkept hs]
        exact .enter hs hnode (@ih [] _ hfolder rfl)
      · exact .enter hs hnode (ih hfolder rfl)
  | link hs hnode h ih =>
      obtain ⟨rfl, rfl⟩ | ⟨xs, rfl, rfl⟩ := List.append_eq_cons_iff.mp hzs
      · rw [hkept hs]
        exact .link hs hnode (ih hfolder rfl)
      · have hrest := @ih (steps _ ++ xs) ys hfolder (List.append_assoc ..)
        rw [List.append_assoc] at hrest
        exact .link hs hnode hrest
  | last hs hnode => exact absurd hfolder (hnode mode)

/-! ## Making folders that are there -/

theorem follows_components {path : String} {mode : Nat}
    (h : Follows d links base (steps path) spot) (hfolder : spot.node = some (.folder mode)) :
    Follows d links base (components path) spot := by
  unfold components
  split
  · next hsteps => exact hsteps ▸ h
  · next first rest hsteps =>
    rw [hsteps] at h
    dsimp only
    split
    · next hdot =>
      have hfirst : first = "." := by simpa using (Bool.and_eq_true_iff.mp hdot).1
      subst hfirst
      exact @Follows.filter d links base spot [] ("." :: rest) mode h hfolder
    · exact @Follows.filter d links base spot [first] rest mode h hfolder

/-- The path can be followed to a folder. -/
structure IsFolderPath (d : Disk) (path : String) : Prop where
  check : checkPath path = .ok ()
  follows : ∃ base, Follows d linkLimit [] (steps path) ⟨base, d.node? base⟩ ∧ d.Rooted base

variable {path : String}

theorem startOf_root (path : String) : startOf [] path = [] := by
  unfold startOf
  split <;> rfl

theorem IsFolderPath.isFolder (h : d.IsFolderPath path) : d.isFolder path = true := by
  obtain ⟨base, hfollows, hrooted⟩ := h.follows
  obtain ⟨mode, hnode⟩ := hrooted base (List.prefix_refl base)
  have hwalk := hfollows.walk_eq
  simp only [Disk.isFolder, lookup, locate, h.check, startOf_root, Bool.true_or, hwalk, hnode,
    bind, Except.bind, pure, Except.pure]

theorem Follows.single {s : String} {mode : Nat} (h : Follows d links base [s] spot)
    (hfolder : spot.node = some (.folder mode)) :
    s.utf8ByteSize ≤ nameLimit ∧ (isDot s = true ∨ (d.node? (base ++ [s])).isSome = true) := by
  cases h with
  | dot | up => exact ⟨by decide, Or.inl rfl⟩
  | enter hs hnode | link hs hnode => exact ⟨hs.fits, Or.inr (by rw [hnode]; rfl)⟩
  | last hs hnode => exact absurd hfolder (hnode mode)

theorem IsFolderPath.makeFolder_eq (h : d.IsFolderPath path) {front : List String} {last : String}
    (hsteps : steps path = front ++ [last]) : d.makeFolder path = .error .alreadyExists := by
  obtain ⟨base, hfollows, hrooted⟩ := h.follows
  obtain ⟨mode, hnode⟩ := hrooted base (List.prefix_refl base)
  rw [hsteps] at hfollows
  obtain ⟨links', base', hfront, hfolders, hlast⟩ :=
    hfollows.split (List.cons_ne_nil last []) d.rooted_root
  obtain ⟨mode', hnode'⟩ := hfolders base' (List.prefix_refl base')
  obtain ⟨hfits, hthere⟩ := hlast.single hnode
  have hwalk := hfront.walk_eq
  have hparent : d.lookupParent path = .ok (base', last) := by
    simp only [lookupParent, h.check, hsteps, startOf_root, List.getLast?_concat,
      List.dropLast_concat, hwalk, hnode', bind, Except.bind, pure, Except.pure,
      Nat.not_lt.mpr hfits, if_false]
  simp only [makeFolder, putNew, hparent, bind, Except.bind]
  split
  · rfl
  · next hdot =>
    rcases hthere with hdot' | hsome
    · exact absurd hdot' hdot
    · obtain ⟨node, hnode''⟩ := Option.isSome_iff_exists.mp hsome
      rw [hnode'']

theorem IsFolderPath.joined_components (h : d.IsFolderPath path) (hne : components path ≠ []) :
    d.IsFolderPath (joined (isAbsolute path) (components path)) := by
  obtain ⟨base, hfollows, hrooted⟩ := h.follows
  obtain ⟨mode, hnode⟩ := hrooted base (List.prefix_refl base)
  have hsteps := steps_joined_components path
  refine ⟨checkPath_of_sublist (joined_components_sublist path) (fun hempty => ?_) h.check, ?_⟩
  · rw [hempty] at hsteps
    exact hne hsteps.symm
  · rw [hsteps]
    exact ⟨base, follows_components hfollows hnode, hrooted⟩

theorem IsFolderPath.makeFolders_eq (h : d.IsFolderPath path) : d.makeFolders path = .ok d := by
  unfold makeFolders
  cases hparts : (components path).reverse with
  | nil => rfl
  | cons last up =>
      have hcomponents : components path = up.reverse ++ [last] := by
        rw [← List.reverse_reverse (components path), hparts, List.reverse_cons]
      have hsteps : steps (joined (isAbsolute path) (components path)) = up.reverse ++ [last] :=
        (steps_joined_components path).trans hcomponents
      have hjoined := h.joined_components fun hnil => by
        rw [hnil] at hcomponents
        exact List.append_ne_nil_of_right_ne_nil _ (List.cons_ne_nil last []) hcomponents.symm
      rw [makeFoldersUp, ← hparts, List.reverse_reverse]
      simp only [hjoined.makeFolder_eq hsteps, hjoined.isFolder, if_true]

theorem follows_of_readContent {c : Content} (h : d.readContent path = .ok c) :
    checkPath path = .ok () ∧ ∃ spot, Follows d linkLimit [] (steps path) spot := by
  cases hcheck : checkPath path with
  | error fault =>
      simp only [readContent, lookup, locate, hcheck, bind, Except.bind] at h
      cases h
  | ok _ =>
      cases hwalk : d.walk true linkLimit [] (steps path) with
      | error fault =>
          simp only [readContent, lookup, locate, hcheck, startOf_root, Bool.true_or, hwalk, bind,
            Except.bind] at h
          cases h
      | ok spot => exact ⟨rfl, spot, follows_of_walk hwalk⟩

/-- **On the way to something that can be read all folders are there.** -/
theorem makeFolders_of_readContent {folder name : String} {c : Content} (hname : IsStep name)
    (h : d.readContent (child folder name) = .ok c) : d.makeFolders folder = .ok d := by
  obtain ⟨hcheck, spot, hfollows⟩ := follows_of_readContent h
  rw [steps_child folder hname] at hfollows
  obtain ⟨links', base, hfolder, hrooted, -⟩ :=
    hfollows.split (List.cons_ne_nil name []) d.rooted_root
  by_cases hempty : folder = ""
  · rw [hempty]
    rfl
  · have hpath : d.IsFolderPath folder :=
      ⟨checkPath_of_sublist (sublist_child folder name) hempty hcheck, base, hfolder, hrooted⟩
    exact hpath.makeFolders_eq

end Disk

end ProxySync.Files
