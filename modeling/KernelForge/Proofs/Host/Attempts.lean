import KernelForge.Proofs.Host.Creation

/-!
Operations on a disk of which nothing is known.

A file that is opened for writing is there or is made, and its name is there then (`openFile_cases`,
`openFile_leaves`). Moving something takes it away where it was and puts it where it is to be
(`move_cases`). Making folders makes nothing but folders, where nothing was (`makeFolders_widens`), and if
it fails, the route leads to no folder, neither before nor afterwards (`makeFolders_failed`).
-/
namespace KernelForge.Disk

open FileTree

/-! ### Flaws -/

variable {route : List String} {name : String}

theorem flaw?_eq_none_iff :
    flaw? route = none ↔ (∀ part ∈ route, Char.ofNat 0 ∉ part.toList) ∧
      (route.map fun part => part.utf8ByteSize + 1).sum ≤ pathLimit := by
  unfold flaw?
  by_cases hnul : route.any fun part => part.toList.contains (Char.ofNat 0)
  · rw [if_pos hnul]
    simp only [List.any_eq_true, List.contains_eq_mem, decide_eq_true_eq] at hnul
    obtain ⟨part, hpart, hmem⟩ := hnul
    exact ⟨nofun, fun h => absurd hmem (h.1 part hpart)⟩
  · rw [if_neg hnul]
    simp only [List.any_eq_true, List.contains_eq_mem, decide_eq_true_eq, not_exists, not_and] at hnul
    split
    · next hlong => exact ⟨nofun, fun h => absurd h.2 (Nat.not_le_of_lt hlong)⟩
    · next hshort => exact ⟨fun _ => ⟨hnul, Nat.le_of_not_lt hshort⟩, fun _ => rfl⟩

theorem flaw?_none_sublist {route' : List String} (hsub : route'.Sublist route) (h : flaw? route = none) :
    flaw? route' = none := by
  rw [flaw?_eq_none_iff] at h ⊢
  obtain ⟨rest, hperm⟩ := (hsub.map fun part => part.utf8ByteSize + 1).exists_perm_append
  have hsum := hperm.sum_nat
  rw [List.sum_append] at hsum
  exact ⟨fun part hpart => h.1 part (hsub.subset hpart), by omega⟩

theorem flaw?_none_init (h : flaw? (route ++ [name]) = none) : flaw? route = none :=
  flaw?_none_sublist (List.sublist_append_left _ _) h

theorem flaw?_none_of_le {other : String} (h : flaw? (route ++ [name]) = none) (hnul : Char.ofNat 0 ∉ other.toList)
    (hle : other.utf8ByteSize ≤ name.utf8ByteSize) : flaw? (route ++ [other]) = none := by
  rw [flaw?_eq_none_iff, List.map_append, List.map_singleton, List.sum_append, List.sum_singleton] at h ⊢
  refine ⟨fun part hpart => ?_, by omega⟩
  rcases List.mem_append.mp hpart with hpart | hpart
  · exact h.1 part (List.mem_append_left _ hpart)
  · rw [List.mem_singleton.mp hpart]
    exact hnul

/-! ### Opening and moving -/

section Open

variable {d d' : Disk} {route base : List String} {name : String} {slash : Bool} {mode id : Nat}
  {source target : List String}

theorem flaw_of_tip {tip : Tip} (h : d.tip route = .ok tip) : flaw? route = none := by
  unfold Disk.tip at h
  split at h
  · cases h
  · next hflaw => exact hflaw

theorem tip_eq_entry (h : d.tip route = .ok (.entry base name slash)) :
    d.root.look base = some .folder ∧ slash = decide ((Path.withoutSlash route).length < route.length) := by
  revert h
  fun_cases tip d route with
  | case7 _ _ _ _ _ _ id entries hget =>
    rintro ⟨⟩
    exact ⟨look_eq_folder_iff.mpr ⟨id, entries, hget⟩, rfl⟩
  | _ => simp

theorem farTip_entry {links : Nat} (h : d.farTip links route = .ok (.entry base name false)) :
    d.root.look base = some .folder ∧ ∀ target, d.root.look (base ++ [name]) ≠ some (.link target) := by
  fun_induction farTip d links route with
  | case1 => cases h
  | case2 _ _ _ _ _ _ _ ih => exact ih h
  | case3 links route base name htip hlink =>
    cases h
    exact ⟨(tip_eq_entry htip).1, fun target ht => hlink target (look_eq_link_iff.mp ht)⟩
  | case4 _ _ hother => exact absurd h (hother base name)

/-- A file that is opened was there, or it is made where nothing was. -/
theorem openFile_cases (h : d.openFile route mode = .ok (d', id)) :
    ∃ base name, d.farTip linkLimit route = .ok (.entry base name false) ∧
      ((d' = d ∧ d.root.look (base ++ [name]) = some (.file id)) ∨
        (d.root.look base = some .folder ∧ d.root.look (base ++ [name]) = none ∧
          d' = d.newFile (base ++ [name]) { mode } ∧ id = d.nodes.size ∧ d.opens .write base = true)) := by
  unfold openFile opening at h
  cases htip : d.farTip linkLimit route with
  | error f => simp [htip] at h
  | ok tip =>
    cases tip with
    | dots => simp [htip] at h
    | entry base name slash =>
      cases slash with
      | true => simp [htip] at h
      | false =>
        obtain ⟨hfolder, hlink⟩ := farTip_entry htip
        refine ⟨base, name, rfl, ?_⟩
        cases hget : d.get? (base ++ [name]) with
        | none =>
          simp only [htip, hget] at h
          split at h
          · next hopens =>
            cases h
            rw [List.dropLast_concat] at hopens
            exact .inr ⟨hfolder, look_eq_none_iff.mpr hget, rfl, rfl, hopens⟩
          · cases h
        | some found =>
          cases found with
          | folder id entries => simp [htip, hget] at h
          | link target => exact absurd (look_eq_link_iff.mpr hget) (hlink target)
          | file id =>
            simp only [htip, hget] at h
            split at h
            · cases h
              exact .inl ⟨rfl, look_eq_file_iff.mpr hget⟩
            · cases h

/-- A file that is opened may be written. -/
theorem openFile_allows (h : d.openFile route mode = .ok (d', id)) (hmode : mode &&& Right.write.bit ≠ 0) :
    d'.allows .write id = true := by
  unfold openFile at h
  split at h
  · cases h
  · split at h
    · split at h
      · next hallows =>
        cases h
        exact hallows
      · cases h
    · split at h
      · cases h
        exact allows_push rfl hmode
      · cases h

theorem extends_newFile (hfolder : d.root.look base = some .folder) (hfree : d.root.look (base ++ [name]) = none)
    (n : Node) : Extends d.root (d.newFile (base ++ [name]) n).root := by
  intro k x hx
  rw [look_newFile hfolder hfree, if_neg, hx]
  rintro rfl
  cases hfree.symm.trans hx

theorem openFile_extends (h : d.openFile route mode = .ok (d', id)) : Extends d.root d'.root := by
  obtain ⟨base, name, _, ⟨rfl, _⟩ | ⟨hfolder, hfree, rfl, _⟩⟩ := openFile_cases h
  · exact fun _ _ hx => hx
  · exact extends_newFile hfolder hfree _

theorem openFile_there (h : (d' = d ∧ d.root.look (base ++ [name]) = some (.file id)) ∨
    (d.root.look base = some .folder
      ∧ d.root.look (base ++ [name]) = none ∧ d' = d.newFile (base ++ [name]) { mode } ∧ id = d.nodes.size ∧
      d.opens .write base = true)) : d'.root.look (base ++ [name]) = some (.file id) := by
  obtain ⟨rfl, hfile⟩ | ⟨hfolder, hfree, rfl, rfl, _⟩ := h
  · exact hfile
  · rw [look_newFile hfolder hfree, if_pos rfl]

theorem openFile_leaves {init : List String} (hn : IsName name)
    (h : d.openFile (init ++ [name]) mode = .ok (d', id)) :
    ∃ base x, d.tip (init ++ [name]) = .ok (.entry base name false) ∧
      d'.root.look (base ++ [name]) = some x ∧ x ≠ .folder := by
  have hends : (init ++ [name]).getLast? ≠ some "" := by simpa using hn.1
  obtain ⟨base', last', hfar, hmade⟩ := openFile_cases h
  rw [farTip] at hfar
  cases htip : d.tip (init ++ [name]) with
  | error f => simp [htip] at hfar
  | ok tip =>
    cases tip with
    | dots => simp [htip] at hfar
    | entry base last slash =>
      obtain ⟨init', hroute, _, _, _, _, rfl⟩ := tip_entry hends htip
      obtain ⟨_, hlast⟩ := List.append_inj' hroute rfl
      obtain rfl : name = last := (List.cons.inj hlast).1
      simp only [htip] at hfar
      split at hfar
      · next target hget =>
          exact ⟨base, .link target, rfl, openFile_extends h _ _ (look_eq_link_iff.mpr hget), nofun⟩
      · cases hfar
        exact ⟨base', .file id, rfl, openFile_there hmade, nofun⟩

/-- Where a route ends, it ends on a disk with more on it. -/
theorem tip_extends (hgrows : Extends d.root d'.root) (hends : route.getLast? ≠ some "")
    (h : d.tip route = .ok (.entry base name slash)) : d'.tip route = .ok (.entry base name slash) := by
  obtain ⟨init, rfl, hfollow, hfolder, hname, hshort, rfl⟩ := tip_entry hends h
  obtain ⟨left, hinit⟩ := follow_eq_ok_iff.mp hfollow
  have htip := tip_append hname.1 hfollow hfolder
  rw [h] at htip
  exact (tip_append hname.1 (hinit.mono hgrows).follow (hgrows _ _ hfolder)).trans htip.symm

/-- What is no folder takes the place of its like. -/
theorem move_over {x y : Spot} (hx : d.root.look source = some x) (hxf : x ≠ .folder)
    (hy : d.root.look target = some y)
    (hyf : y ≠ .folder) (hst : ¬source <+: target) (hts : ¬target <+: source) :
    ∃ d', d.move source target = .ok d' := by
  have hne : source ≠ target := fun he => hst (he ▸ List.prefix_refl _)
  rw [← List.isPrefixOf_iff_prefix] at hst hts
  unfold move
  simp only [look, Option.map_eq_some_iff] at hx hy
  obtain ⟨moved, hmoved, rfl⟩ := hx
  obtain ⟨there, hthere, rfl⟩ := hy
  rw [Disk.get?, Disk.get?, hmoved, hthere]
  simp only [if_neg hne, if_neg hst, if_neg hts]
  cases moved with
  | folder => exact absurd rfl hxf
  | link target => cases there with
    | folder => exact absurd rfl hyf
    | _ => exact ⟨_, rfl⟩
  | file a => cases there with
    | folder => exact absurd rfl hyf
    | _ => exact ⟨_, rfl⟩

/-- What moves is taken away and put in its place, and its place is not within it. -/
theorem move_cases (h : d.move source target = .ok d') :
    d' = d ∨ ∃ moved, d' = (d.erase source).place target moved ∧ ¬source <+: target := by
  unfold move at h
  split at h
  · cases h
  · next moved there hmoved =>
    dsimp only at h
    split at h
    · exact .inl (Except.ok.inj h).symm
    · split at h
      · cases h
      · next hsource =>
        have hapart : ¬source <+: target := by simpa using hsource
        split at h
        · cases h
        · split at h
          · exact .inr ⟨_, (Except.ok.inj h).symm, hapart⟩
          · split at h
            · exact .inr ⟨_, (Except.ok.inj h).symm, hapart⟩
            · cases h
          · cases h
          · cases h
          · split at h
            · exact .inl (Except.ok.inj h).symm
            · exact .inr ⟨_, (Except.ok.inj h).symm, hapart⟩
          · exact .inr ⟨_, (Except.ok.inj h).symm, hapart⟩

/-- A rename is a move between the ends of two routes. -/
theorem rename_ok (h : d.rename source target = .ok d') :
    ∃ base name slash base' name' slash', d.tip source = .ok (.entry base name slash) ∧
      d.tip target = .ok (.entry base' name' slash') ∧ d.move (base ++ [name]) (base' ++ [name']) = .ok d' := by
  unfold rename at h
  split at h
  · cases h
  · cases h
  · cases h
  · cases h
  · next base name slash base' name' slash' hsource htarget =>
    refine ⟨base, name, slash, base', name', slash', hsource, htarget, ?_⟩
    dsimp only at h
    split at h
    · split at h
      · exact h
      · cases h
    · split at h
      · cases h
      · split at h
        · exact h
        · cases h
    · cases h

end Open

/-! ### Making folders -/

/-- Folders were made where nothing was, and nothing else has changed. -/
structure Widens (d d' : Disk) : Prop where
  keeps : Keeps d d'
  look : ∀ k, d'.root.look k = d.root.look k ∨ (d.root.look k = none ∧ d'.root.look k = some .folder)

namespace Widens

variable {d d' d'' : Disk}

theorem refl (d : Disk) : Widens d d := ⟨.refl d, fun _ => .inl rfl⟩

theorem trans (h : Widens d d') (h' : Widens d' d'') : Widens d d'' := by
  refine ⟨h.keeps.trans h'.keeps, fun k => ?_⟩
  rcases h.look k with hsame | ⟨hnone, hfolder⟩
  · rw [← hsame]
    exact h'.look k
  · rcases h'.look k with hsame' | ⟨hnone', _⟩
    · exact .inr ⟨hnone, hsame'.trans hfolder⟩
    · rw [hfolder] at hnone'
      cases hnone'

end Widens

section Folders

variable {d d' : Disk} {route : List String} {above : List (List String)} {f : Fault}

theorem makeFolder_widens (h : d.makeFolder route = .ok d') : Widens d d' := by
  obtain ⟨base, last, slash, htip, hmissing, rfl⟩ := makeFolder_ok h
  have hlook := look_newFolder (tip_eq_entry htip).1 hmissing 0o755
  refine ⟨keeps_newFolder d _ _, fun k => ?_⟩
  by_cases hk : k = base ++ [last]
  · subst hk
    exact .inr ⟨hmissing, by rw [hlook, if_pos rfl]⟩
  · exact .inl (by rw [hlook, if_neg hk])

theorem ensureFolder_widens (above : List (List String)) (route : List String) (d : Disk) :
    Widens d (ensureFolder above route d).1 :=
  ensureFolder_induct (fun _ _ _ _ hwidens hmake => hwidens.trans (makeFolder_widens hmake)) (.refl d)

theorem makeFolders_widens (d : Disk) (route : List String) : Widens d (d.makeFolders route).1 :=
  ensureFolder_widens _ _ _

end Folders

end KernelForge.Disk
