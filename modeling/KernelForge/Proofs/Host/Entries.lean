import KernelForge.Proofs.Host.Attempts
import KernelForge.Proofs.Host.PathText

/-!
Entries of a folder, and folders that lose some.

What an operation does with an entry of a folder depends on what is there and on the length of the route,
once the route to the folder leads there: `tip_in`, `openFile_in` and `unlink_in` say so. A file that was
opened is opened again as it is (`openFile_again`). Where files come and everything else only goes
(`Narrows`), a route that leads somewhere has led there before (`Leads.widen`), and one that has led
somewhere still leads there or nowhere (`follow_fades`).
-/
namespace KernelForge.Disk

open FileTree

/-- What is wrong with the name of an entry of a folder, whatever the disk. -/
def entryFault? (route : List String) (name : String) : Option Fault :=
  match flaw? (route ++ [name]) with
  | some f => some f
  | none => if tooLong name then some .nameTooLong else none

variable {route key here there rest : List String} {d : Disk} {t t' : FileTree} {links left : Nat}

theorem entryFault?_ne_notFound {name : String} {f : Fault} (h : entryFault? route name = some f) :
    f ≠ .notFound := by
  unfold entryFault? at h
  split at h
  · next hflaw =>
    cases h
    rcases flaw?_cases hflaw with rfl | rfl <;> nofun
  · split at h
    · cases h
      nofun
    · cases h

/-- Different entries of a folder have nothing below them in common. -/
theorem name_unique {base k : List String} {a b : String} (h : base ++ [a] <+: k) (h' : base ++ [b] <+: k) :
    a = b := by
  obtain ⟨rest, rfl⟩ := h'
  rw [List.append_assoc, List.prefix_append_right_inj, List.singleton_append, List.cons_prefix_cons] at h
  exact h.1

section Entry

variable {d : Disk} {route base : List String} {name : String}

theorem tip_in (hn : Path.Single name) (hfollow : follow d.root linkLimit [] route = .ok base)
    (hfolder : d.root.look base = some .folder) :
    d.tip (route ++ [name]) =
      match entryFault? route name with
      | some f => .error f
      | none => .ok (.entry base name false) := by
  have hdots : ¬(name = "." ∨ name = "..") := not_or.mpr ⟨hn.1.2.1, hn.1.2.2⟩
  rw [tip_append hn.1.1 hfollow hfolder, entryFault?]
  cases flaw? (route ++ [name]) with
  | some f => rfl
  | none =>
    simp only
    rw [if_neg (by simpa using hdots)]
    cases tooLong name <;> rfl

theorem openFile_in (hn : Path.Single name) (hfollow : follow d.root linkLimit [] route = .ok base)
    (hfolder : d.root.look base = some .folder)
    (hlink : ∀ target, d.root.look (base ++ [name]) ≠ some (.link target)) (mode : Nat) :
    d.openFile (route ++ [name]) mode =
      match entryFault? route name, d.root.look (base ++ [name]) with
      | some f, _ => .error f
      | none, some (.file id) => if d.allows .write id then .ok (d, id) else .error .permission
      | none, some _ => .error .isFolder
      | none, none =>
        if d.opens .write base then .ok (d.newFile (base ++ [name]) { mode }, d.nodes.size)
        else .error .permission := by
  unfold openFile opening
  rw [farTip, tip_in hn hfollow hfolder]
  cases entryFault? route name with
  | some f => rfl
  | none =>
    simp only
    cases hget : d.get? (base ++ [name]) with
    | none =>
      rw [show d.root.look (base ++ [name]) = none from look_eq_none_iff.mpr hget]
      simp [hget]
    | some found =>
      cases found with
      | file id =>
        rw [show d.root.look (base ++ [name]) = some (.file id) from look_eq_file_iff.mpr hget]
        simp [hget]
      | link target => exact absurd (look_eq_link_iff.mpr hget) (hlink target)
      | folder id entries =>
        rw [show d.root.look (base ++ [name]) = some .folder from look_eq_folder_iff.mpr ⟨id, entries, hget⟩]
        simp [hget]

theorem unlink_in (hn : Path.Single name) (hfollow : follow d.root linkLimit [] route = .ok base)
    (hfolder : d.root.look base = some .folder) :
    d.unlink (route ++ [name]) =
      match entryFault? route name, d.root.look (base ++ [name]) with
      | some f, _ => .error f
      | none, none => .error .notFound
      | none, some .folder => .error (if d.opens .write base then .isFolder else .permission)
      | none, some _ => if d.opens .write base then .ok (d.erase (base ++ [name])) else .error .permission := by
  unfold unlink
  rw [tip_in hn hfollow hfolder]
  cases entryFault? route name with
  | some f => rfl
  | none =>
    simp only [look, Disk.get?]
    cases d.root.get? (base ++ [name]) with
    | none => rfl
    | some found => cases found <;> rfl

end Entry

/-! ### Listing -/

/-- What is struck is erased, and nothing else happens. -/
theorem strike_eq_ok {d' : Disk} (h : d.strike key = .ok d') : d' = d.erase key := by
  unfold strike at h
  split at h
  · exact (Except.ok.inj h).symm
  · cases h

/-- The names in a folder are those of what stands one step below it. -/
theorem list_eq_ok {names : List String} (h : d.list route = .ok names) :
    ∃ key, d.locate route = .ok key ∧ d.root.look key = some .folder ∧
      ∀ n, n ∈ names ↔ d.root.look (key ++ [n]) ≠ none := by
  unfold Disk.list at h
  split at h
  · next id entries hwalk =>
    split at h
    case isFalse => cases h
    cases h
    obtain ⟨hflaw, left, key, hleads, hget⟩ := walk_eq_ok_iff.mp hwalk
    refine ⟨key, locate_eq_ok_iff.mpr ⟨hflaw, left, hleads⟩, look_eq_folder_iff.mpr ⟨id, entries, hget⟩,
      fun n => ?_⟩
    rw [List.mem_eraseDups, ← find?_isSome_iff, find?_of_get? hget, Option.isSome_iff_ne_none, Ne, Ne,
      look_eq_none_iff]
  · cases h
  · cases h

theorem nodup_eraseDups (names : List String) : names.eraseDups.Nodup := by
  match names with
  | [] => exact .nil
  | name :: rest =>
    rw [List.eraseDups_cons]
    refine List.nodup_cons.mpr ⟨fun hmem => ?_, nodup_eraseDups _⟩
    simpa using (List.mem_filter.mp (List.mem_eraseDups.mp hmem)).2
termination_by names.length
decreasing_by exact Nat.lt_succ_of_le (List.length_filter_le _ _)

/-- Each name in a folder is listed once. -/
theorem nodup_of_list {names : List String} (h : d.list route = .ok names) : names.Nodup := by
  unfold Disk.list at h
  split at h
  · split at h
    · cases h
      exact nodup_eraseDups _
    · cases h
  · cases h
  · cases h

theorem opens_of_list {names : List String} (hlocate : d.locate route = .ok key) (h : d.list route = .ok names) :
    d.opens .read key = true := by
  unfold Disk.list walk at h
  rw [hlocate] at h
  dsimp only at h
  cases hget : d.get? key with
  | none =>
    rw [hget] at h
    cases h
  | some found =>
    rw [hget] at h
    cases found with
    | folder id entries =>
      dsimp only at h
      split at h
      · next hallows => exact opens_iff.mpr ⟨id, by rw [number?, show d.root.get? key = _ from hget], hallows⟩
      · cases h
    | file | link => cases h

/-- A folder is listed unless its mode forbids it. -/
theorem list_folder (hlocate : d.locate route = .ok key) (hfolder : d.root.look key = some .folder) :
    if d.opens .read key then ∃ names, d.list route = .ok names else d.list route = .error .permission := by
  obtain ⟨id, entries, hget⟩ := look_eq_folder_iff.mp hfolder
  simp only [Disk.list, walk, hlocate, Disk.get?, hget, opens, number?, Option.any_some]
  cases d.allows .read id with
  | true => exact ⟨_, rfl⟩
  | false => rfl

/-! ### Opening twice -/

section Again

variable {d d' : Disk} {route base : List String} {name : String}

theorem last_of_tip (h : d.tip route = .ok (.entry base name false)) : route.getLast? ≠ some "" := by
  intro hlast
  have hslash := (tip_eq_entry h).2
  cases route with
  | nil => cases hlast
  | cons n rest => simp [Path.withoutSlash, hlast] at hslash

/-- Where a route ends beyond all links, it ends on a disk with more on it, if no link is there now. -/
theorem farTip_extends {links : Nat} (hgrows : Extends d.root d'.root)
    (h : d.farTip links route = .ok (.entry base name false))
    (hlink : ∀ target, d'.root.look (base ++ [name]) ≠ some (.link target)) :
    d'.farTip links route = .ok (.entry base name false) := by
  fun_induction farTip d links route with
  | case1 => cases h
  | case2 route base' name' htip target hget links ih =>
    have hget' : d'.get? (base' ++ [name']) = some (.link target) :=
      look_eq_link_iff.mp (hgrows _ _ (look_eq_link_iff.mpr hget))
    rw [farTip, tip_extends hgrows (last_of_tip htip) htip]
    dsimp only
    rw [hget']
    exact ih h
  | case3 links route base' name' htip =>
    cases h
    rw [farTip, tip_extends hgrows (last_of_tip htip) htip]
    dsimp only
    split
    · next target hget => exact absurd (look_eq_link_iff.mpr hget) (hlink target)
    · rfl
  | case4 _ _ hother => exact absurd h (hother base name)

theorem openFile_again {mode id : Nat} (h : d.openFile route mode = .ok (d', id))
    (hmode : mode &&& Right.write.bit ≠ 0) : d'.openFile route mode = .ok (d', id) := by
  obtain ⟨base, name, htip, hmade⟩ := openFile_cases h
  have hthere := openFile_there hmade
  have htip' := farTip_extends (openFile_extends h) htip (by rw [hthere]; nofun)
  simp only [openFile, opening, htip', Disk.get?, look_eq_file_iff.mp hthere, openFile_allows h hmode, if_true]

end Again

/-! ### Folders that lose entries -/

/-- The folders and the links of the second tree are in the first one, too. -/
def Narrows (t t' : FileTree) : Prop :=
  ∀ key x, t'.look key = some x → (∀ id, x ≠ .file id) → t.look key = some x

/-- A route to a folder has led there before. -/
theorem Leads.widen (hnarrows : Narrows t t') (h : Leads t' links here route left there)
    (hfolder : t'.look there = some .folder) : Leads t links here route left there := by
  induction h with
  | here => exact .here
  | stay hf hdot _ ih => exact .stay (hnarrows _ _ hf nofun) hdot (ih hfolder)
  | up hf _ ih => exact .up (hnarrows _ _ hf nofun) (ih hfolder)
  | turn hf hname hl hx _ ih => exact .turn (hnarrows _ _ hf nofun) hname hl (hnarrows _ _ hx nofun) (ih hfolder)
  | @down links left here there rest part x hf hname hl hx hsolid hnext ih =>
    -- The last name is that of the folder, and every other one is passed.
    have hx' : x = .folder := by
      cases rest with
      | nil =>
        cases hnext
        rw [hx] at hfolder
        exact Option.some.inj hfolder
      | cons p ps => exact Option.some.inj (hx.symm.trans hnext.folder)
    subst hx'
    exact .down (hnarrows _ _ hf nofun) hname hl (hnarrows _ _ hx nofun) hsolid (ih hfolder)

theorem follow_nowhere (h : t.look here = none) (links : Nat) (part : String) :
    follow t links here (part :: rest) = .error .notFound := by
  rw [follow, stretch, look_eq_none_iff.mp h]

theorem follow_nameless {part : String} (hfolder : t.look here = some .folder) (hname : IsName part)
    (hshort : tooLong part = false) (h : t.look (here ++ [part]) = none) (links : Nat) :
    follow t links here (part :: rest) = .error .notFound := by
  rw [follow, stretch_name hfolder hname, h, hshort]
  rfl

/-- Where names only go and new ones are not in the place of old ones, a route leads where it led, or
something on it is missing. -/
theorem follow_fades (hfades : ∀ k x, t'.look k = some x → t.look k = some x ∨ t.look k = none)
    (h : Leads t links here route left there) :
    follow t' links here route = .ok there ∨ follow t' links here route = .error .notFound := by
  have hstay : ∀ {k x}, t.look k = some x → t'.look k = none ∨ t'.look k = some x := by
    intro k x hx
    cases hy : t'.look k with
    | none => exact .inl rfl
    | some y =>
      rcases hfades k y hy with hold | hnone
      · exact .inr (hold.symm.trans hx)
      · rw [hx] at hnone
        cases hnone
  induction h with
  | here => exact .inl Leads.here.follow
  | stay hf hdot _ ih =>
    rcases hstay hf with hnone | hf'
    · exact .inr (follow_nowhere hnone _ _)
    · rw [follow_congr _ (stretch_stay hf' hdot)]
      exact ih
  | up hf _ ih =>
    rcases hstay hf with hnone | hf'
    · exact .inr (follow_nowhere hnone _ _)
    · rw [follow_congr _ (stretch_up hf')]
      exact ih
  | down hf hname hshort hx hsolid _ ih =>
    rcases hstay hf with hnone | hf'
    · exact .inr (follow_nowhere hnone _ _)
    · rcases hstay hx with hnone | hx'
      · exact .inr (follow_nameless hf' hname hshort hnone _)
      · rw [follow_congr _ (stretch_down hf' hname hshort hx' hsolid)]
        exact ih
  | turn hf hname hshort hx _ ih =>
    rcases hstay hf with hnone | hf'
    · exact .inr (follow_nowhere hnone _ _)
    · rcases hstay hx with hnone | hx'
      · exact .inr (follow_nameless hf' hname hshort hnone _)
      · rw [follow, stretch_name hf' hname, hshort, hx']
        exact ih

end KernelForge.Disk
