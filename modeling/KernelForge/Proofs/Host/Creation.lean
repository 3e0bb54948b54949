import KernelForge.Proofs.Host.Disk
import KernelForge.Proofs.Host.Route

/-!
Making a folder and those above it.

Whether a route leads to a path may depend on much of a disk. A `Ground` is that much, with an empty folder
at the path; a disk bears it (`Ground.Bears`) if all of it is there, apart from folders on the way that are
still missing. On such a disk `makeFolders` makes folders on the way to the path and nothing else
(`makeFolders_raises`), the path is a folder if it succeeds (`makeFolders_arrives`), and if it was one
before, nothing happens (`makeFolders_standing`).
-/
namespace KernelForge.Disk

open FileTree

/-- A tree with an empty folder at a path. -/
structure Ground (key : List String) where
  tree : FileTree
  folder : tree.look key = some .folder
  empty : ∀ k, key <+: k → k ≠ key → tree.look k = none

/-- Nothing has changed but what is below a path, and folders that were missing on the way there. -/
structure Confined (key : List String) (d d' : Disk) : Prop where
  keeps : Keeps d d'
  numbered : d.Numbered → d'.Numbered
  look : ∀ k, d'.root.look k = d.root.look k ∨ (∃ n rest, k = key ++ n :: rest) ∨
    (k <+: key ∧ d.root.look k = none ∧ d'.root.look k = some .folder)

theorem Confined.trans {key : List String} {d d' d'' : Disk} (h : Confined key d d') (h' : Confined key d' d'') :
    Confined key d d'' := by
  refine ⟨h.keeps.trans h'.keeps, fun hd => h'.numbered (h.numbered hd), fun k => ?_⟩
  rcases h.look k with hsame | hbelow | ⟨hway, hnone, hfolder⟩
  · rw [← hsame]
    exact h'.look k
  · exact .inr (.inl hbelow)
  · rcases h'.look k with hsame' | hbelow | ⟨_, hnone', _⟩
    · exact .inr (.inr ⟨hway, hnone, hsame'.trans hfolder⟩)
    · exact .inr (.inl hbelow)
    · rw [hfolder] at hnone'
      cases hnone'

/-- Only folders on the way to a path were made, where nothing was. -/
structure Raises (key : List String) (d d' : Disk) : Prop where
  keeps : Keeps d d'
  upholds : Upholds d d'
  look : ∀ k, d'.root.look k = d.root.look k ∨
    (k <+: key ∧ d.root.look k = none ∧ d'.root.look k = some .folder)

namespace Raises

variable {key : List String} {d d' d'' : Disk}

theorem refl (key : List String) (d : Disk) : Raises key d d := ⟨.refl d, .refl d, fun _ => .inl rfl⟩

theorem trans (h : Raises key d d') (h' : Raises key d' d'') : Raises key d d'' := by
  refine ⟨h.keeps.trans h'.keeps, h.upholds.trans h'.upholds, fun k => ?_⟩
  rcases h.look k with hsame | ⟨hk, hnone, hfolder⟩
  · rw [← hsame]
    exact h'.look k
  · rcases h'.look k with hsame' | ⟨_, hnone', _⟩
    · exact .inr ⟨hk, hnone, hsame'.trans hfolder⟩
    · rw [hfolder] at hnone'
      cases hnone'

theorem numbered (h : Raises key d d') (hd : d.Numbered) : d'.Numbered := by
  intro k id hk
  rcases h.look k with hsame | ⟨_, _, hfolder⟩
  · rw [hsame] at hk
    exact Nat.lt_of_lt_of_le (hd k id hk) h.keeps.size
  · rw [hfolder] at hk
    cases hk

theorem confined (h : Raises key d d') : Confined key d d' := by
  refine ⟨h.keeps, h.numbered, fun k => ?_⟩
  rcases h.look k with hsame | hmade
  · exact .inl hsame
  · exact .inr (.inr hmade)

end Raises

namespace Ground

/-- The ground that a tree is once the folders to a path are made. -/
def under (t : FileTree) (key : List String) (h : t.Clear key) : Ground key where
  tree := bare key t
  folder := by rw [look_bare h, if_pos (List.prefix_refl key)]
  empty k hk hne := by
    rw [look_bare h, if_neg fun hway => hne (hway.eq_of_length_le hk.length_le), if_pos hk]

variable {key : List String} (g : Ground key)

/-- All of the ground is there, apart from folders on the way to its path that are missing. -/
structure Bears (t : FileTree) : Prop where
  clear : t.Clear key
  has : ∀ k x, g.tree.look k = some x → t.look k = some x ∨ (t.look k = none ∧ k <+: key)

/-- A route, or a first piece of one, that leads to the path. -/
def Partway (route : List String) : Prop :=
  route.getLast? ≠ some "" ∧ ∃ more left, Leads g.tree linkLimit [] (route ++ more) left key

variable {g}

theorem folder_above {k : List String} (hk : k <+: key) : g.tree.look k = some .folder := by
  by_cases he : k = key
  · rw [he, g.folder]
  · exact look_folder_above hk he g.folder

namespace Bears

variable {t : FileTree} {d d' : Disk}

theorem at_key (h : g.Bears t) : t.look key = none ∨ t.look key = some .folder :=
  h.clear key (List.prefix_refl key)

/-- Once the path is a folder, all of the ground is there. -/
theorem stands (h : g.Bears t) (hkey : t.look key = some .folder) : Extends g.tree t := by
  intro k x hx
  rcases h.has k x hx with hsame | ⟨hnone, hk⟩
  · exact hsame
  · have hfolder : t.look k = some .folder := by
      by_cases he : k = key
      · rw [he, hkey]
      · exact look_folder_above hk he hkey
    rw [hnone] at hfolder
    cases hfolder

/-- A tree in which both the ground and what is there can be found, and beyond the latter only folders on
the way to the path. -/
theorem join (h : g.Bears t) : ∃ u : FileTree, Extends t u ∧ Extends g.tree u ∧
    ∀ k x, u.look k = some x → t.look k = none → k <+: key ∧ x = .folder := by
  rcases h.at_key with hnone | hfolder
  · refine ⟨bare key t, extends_bare h.clear hnone, ?_, ?_⟩
    · intro k x hx
      rw [look_bare h.clear]
      by_cases hk : k <+: key
      · rw [if_pos hk, ← hx, folder_above hk]
      · rw [if_neg hk]
        by_cases hb : key <+: k
        · have hne : k ≠ key := fun he => hk (he ▸ List.prefix_refl key)
          rw [g.empty k hb hne] at hx
          cases hx
        · rw [if_neg hb]
          rcases h.has k x hx with hsame | ⟨_, hway⟩
          · exact hsame
          · exact absurd hway hk
    · intro k x hx hmissing
      rw [look_bare h.clear] at hx
      by_cases hk : k <+: key
      · rw [if_pos hk] at hx
        exact ⟨hk, (Option.some.inj hx).symm⟩
      · rw [if_neg hk, hmissing, ite_self] at hx
        cases hx
  · refine ⟨t, fun _ _ hx => hx, h.stands hfolder, fun k x hx hmissing => ?_⟩
    rw [hmissing] at hx
    cases hx

/-- The ground is still borne after changes below a path that it does not reach, and where there are more
folders. -/
theorem keep {t' : FileTree} (h : g.Bears t) (key' : List String)
    (hlook : ∀ k, t'.look k = t.look k ∨ (∃ n rest, k = key' ++ n :: rest) ∨
      (t.look k = none ∧ t'.look k = some .folder))
    (hfree : ∀ n rest, g.tree.look (key' ++ n :: rest) = none) : g.Bears t' := by
  constructor
  · intro k hk
    rcases hlook k with hsame | ⟨n, rest, rfl⟩ | ⟨_, hfolder⟩
    · rw [hsame]
      exact h.clear k hk
    · have habove := folder_above (g := g) hk
      rw [hfree] at habove
      cases habove
    · exact .inr hfolder
  · intro k x hx
    rcases hlook k with hsame | ⟨n, rest, rfl⟩ | ⟨hnone, hfolder⟩
    · rw [hsame]
      exact h.has k x hx
    · rw [hfree] at hx
      cases hx
    · rcases h.has k x hx with hthere | ⟨_, hway⟩
      · rw [hnone] at hthere
        cases hthere
      · rw [hfolder, ← hx, folder_above hway]
        exact .inl rfl

theorem confined {key' : List String} (hd : g.Bears d.root) (hc : Confined key' d d')
    (hfree : ∀ n rest, g.tree.look (key' ++ n :: rest) = none) : g.Bears d'.root := by
  refine hd.keep key' (fun k => ?_) hfree
  rcases hc.look k with hsame | hbelow | ⟨_, hmade⟩
  · exact .inl hsame
  · exact .inr (.inl hbelow)
  · exact .inr (.inr hmade)

theorem confined_own (hd : g.Bears d.root) (hc : Confined key d d') : g.Bears d'.root :=
  hd.confined hc fun n rest => g.empty _ (List.prefix_append _ _) (by simp)

end Bears

/-- A tree bears the ground that another one is once the folders to a path are made, if what is off the way
there is the same. -/
theorem bears_under {t t' : FileTree} (h : t.Clear key) (h' : t'.Clear key)
    (hsame : ∀ k x, ¬k <+: key → t.look k = some x → t'.look k = some x) : (under t key h).Bears t' := by
  refine ⟨h', fun k x hx => ?_⟩
  rw [show (under t key h).tree = bare key t from rfl, look_bare h] at hx
  by_cases hk : k <+: key
  · rw [if_pos hk] at hx
    rcases h' k hk with hnone | hfolder
    · exact .inr ⟨hnone, hk⟩
    · rw [hfolder, hx]
      exact .inl rfl
  · rw [if_neg hk] at hx
    split at hx
    · cases hx
    · exact .inl (hsame k x hk hx)

end Ground

/-! ### One folder -/

section Folder

variable {key route : List String} {g : Ground key} {d d' : Disk} {left : Nat}

theorem makeFolder_ok (h : d.makeFolder route = .ok d') :
    ∃ base last slash, d.tip route = .ok (.entry base last slash) ∧
      d.root.look (base ++ [last]) = none ∧ d' = d.newFolder (base ++ [last]) 0o755 := by
  unfold makeFolder at h
  split at h
  · cases h
  · cases h
  · next base last slash htip =>
    split at h
    · cases h
    · next hget =>
      split at h
      · exact ⟨base, last, slash, htip, look_eq_none_iff.mpr hget, (Except.ok.inj h).symm⟩
      · cases h

/-- A folder that is made for a piece of a route to the path is on the way there, and for the whole route it
is at the path. -/
theorem makeFolder_raises (hb : g.Bears d.root) (hr : g.Partway route) (h : d.makeFolder route = .ok d') :
    Raises key d d' ∧
      ∀ left, Leads g.tree linkLimit [] route left key → d'.root.look key = some .folder := by
  obtain ⟨base, last, slash, htip, hmissing, rfl⟩ := makeFolder_ok h
  obtain ⟨hends, more, left, hleads⟩ := hr
  obtain ⟨init, rfl, hfollow, hfolder, hname, _, _⟩ := tip_entry hends htip
  obtain ⟨u, hu, hgu, hnew⟩ := hb.join
  obtain ⟨links, hinit⟩ := follow_eq_ok_iff.mp hfollow
  have hinit := hinit.mono hu
  have hlook := look_newFolder hfolder hmissing 0o755
  obtain ⟨x, hx⟩ : ∃ x, u.look (base ++ [last]) = some x := by
    have hrest := hleads.mono hgu
    rw [List.append_assoc] at hrest
    exact (hinit.rest hrest).found hname
  obtain ⟨hway, rfl⟩ := hnew _ _ hx hmissing
  refine ⟨⟨keeps_newFolder d _ _, .newFolder hfolder hmissing, fun k => ?_⟩, fun left' hleads' => ?_⟩
  · by_cases hk : k = base ++ [last]
    · subst hk
      exact .inr ⟨hway, hmissing, by rw [hlook, if_pos rfl]⟩
    · exact .inl (by rw [hlook, if_neg hk])
  · have hkey := (hinit.rest (hleads'.mono hgu)).last hname hx nofun
    rw [hlook, if_pos hkey]

theorem makeFolder_standing (hends : route.getLast? ≠ some "") (h : Leads d.root linkLimit [] route left key) :
    ∃ f, d.makeFolder route = .error f ∧ f ≠ .notFound := by
  rcases List.eq_nil_or_concat route with rfl | ⟨init, last, rfl⟩
  · cases hflaw : flaw? [] with
    | some f =>
      refine ⟨f, by simp [makeFolder, tip, hflaw], ?_⟩
      rcases flaw?_cases hflaw with rfl | rfl <;> nofun
    | none => exact ⟨.alreadyExists, by simp [makeFolder, tip, hflaw, Path.withoutSlash], nofun⟩
  · rw [List.concat_eq_append] at h hends ⊢
    have hlast : last ≠ "" := by simpa using hends
    obtain ⟨links, base, hinit, hrest⟩ := h.split
    unfold makeFolder
    rw [tip_append hlast hinit.follow hrest.folder]
    cases hflaw : flaw? (init ++ [last]) with
    | some f =>
      refine ⟨f, rfl, ?_⟩
      rcases flaw?_cases hflaw with rfl | rfl <;> nofun
    | none =>
      simp only
      by_cases hdots : last = "." ∨ last = ".."
      · exact ⟨.alreadyExists, by simp [hdots], nofun⟩
      · rw [if_neg (by simpa using hdots)]
        cases htoo : tooLong last with
        | true => exact ⟨.nameTooLong, rfl, nofun⟩
        | false =>
          rw [not_or] at hdots
          obtain ⟨x, hx⟩ := hrest.found ⟨hlast, hdots⟩
          cases hget : d.get? (base ++ [last]) with
          | none =>
            rw [look_eq_none_iff.mpr hget] at hx
            cases hx
          | some found => exact ⟨.alreadyExists, by simp [hget], nofun⟩

/-- If the route of the path ends at a folder, that is at the path. -/
theorem isFolder_arrives (hb : g.Bears d.root) (hleads : Leads g.tree linkLimit [] route left key)
    (h : d.isFolder route = true) : d.root.look key = some .folder := by
  obtain ⟨_, left', k, hk, hfolder⟩ := isFolder_iff.mp h
  obtain ⟨u, hu, hgu, _⟩ := hb.join
  obtain ⟨_, rfl⟩ := (hk.mono hu).unique (hleads.mono hgu)
  exact hfolder

end Folder

/-! ### All folders on the way -/

section Folders

variable {key route : List String} {g : Ground key} {d : Disk} {above : List (List String)} {left : Nat}

theorem ensureFolder_made {d' : Disk} (h : d.makeFolder route = .ok d') :
    ensureFolder above route d = (d', .ok ()) := by
  cases above <;> simp only [ensureFolder, h]

theorem ensureFolder_refused {f : Fault} (h : d.makeFolder route = .error f) (hf : f ≠ .notFound) :
    ensureFolder above route d = (d, if d.isFolder route then .ok () else .error f) := by
  cases above <;> cases f <;> first | exact absurd rfl hf | simp only [ensureFolder, h]

/-- What making one folder by one of the routes keeps, making folders keeps. -/
theorem ensureFolder_induct {P : Disk → Prop} {above : List (List String)}
    (hmake : ∀ r ∈ route :: above, ∀ d d' : Disk, P d → d.makeFolder r = .ok d' → P d') (h : P d) :
    P (ensureFolder above route d).1 := by
  fun_induction ensureFolder above route d with
  | case1 above route d d' hm => exact hmake route List.mem_cons_self d d' h hm
  | case2 | case6 => exact h
  | case3 route d _ up above d' f he ih | case5 route d _ up above d' he f _ ih =>
    rw [he] at ih
    exact ih (fun r hr => hmake r (List.mem_cons_of_mem _ hr)) h
  | case4 route d _ up above d' he d'' hm ih =>
    rw [he] at ih
    have hup := ih (fun r hr => hmake r (List.mem_cons_of_mem _ hr)) h
    exact hmake route List.mem_cons_self d' d'' hup hm

theorem ensureFolder_raises (hb : g.Bears d.root) (hr : g.Partway route) (habove : ∀ up ∈ above, g.Partway up) :
    Raises key d (ensureFolder above route d).1 := by
  refine ensureFolder_induct (fun r hmem d' d'' hraises hmake => ?_) (.refl key d)
  have hpart : g.Partway r := by
    rcases List.mem_cons.mp hmem with rfl | hmem
    · exact hr
    · exact habove r hmem
  exact hraises.trans (makeFolder_raises (hb.confined_own hraises.confined) hpart hmake).1

theorem ensureFolder_arrives (hb : g.Bears d.root) (hends : route.getLast? ≠ some "")
    (hleads : Leads g.tree linkLimit [] route left key) (habove : ∀ up ∈ above, g.Partway up)
    (h : (ensureFolder above route d).2 = .ok ()) :
    (ensureFolder above route d).1.root.look key = some .folder := by
  have hr : g.Partway route := ⟨hends, [], left, by rwa [List.append_nil]⟩
  have hlook {d' : Disk} {f : Fault} (hb' : g.Bears d'.root)
      (hok : (if d'.isFolder route then Except.ok () else .error f) = Except.ok ()) :
      d'.root.look key = some .folder := by
    split at hok
    · next hfolder => exact isFolder_arrives hb' hleads hfolder
    · cases hok
  have hbears {d' : Disk} {up : List String} {above : List (List String)} {r : Except Fault Unit}
      (habove : ∀ r ∈ up :: above, g.Partway r) (he : ensureFolder above up d = (d', r)) : g.Bears d'.root := by
    have hraises := ensureFolder_raises hb (habove up List.mem_cons_self)
      fun r hr => habove r (List.mem_cons_of_mem _ hr)
    rw [he] at hraises
    exact hb.confined_own hraises.confined
  revert h
  fun_cases ensureFolder above route d with
  | case1 _ _ _ d' hm => exact fun _ => (makeFolder_raises hb hr hm).2 left hleads
  | case2 | case3 =>
    intro h
    cases h
  | case4 _ _ _ up above d' he d'' hm => exact fun _ => (makeFolder_raises (hbears habove he) hr hm).2 left hleads
  | case5 _ _ _ up above d' he => exact hlook (hbears habove he)
  | case6 => exact hlook hb

theorem getLast?_names (names : List String) (h : ∀ n ∈ names, n ≠ "") : names.getLast? ≠ some "" := by
  intro hlast
  exact h "" (List.mem_of_getLast? hlast) rfl

theorem ends_ancestors : ∀ up ∈ Path.ancestors route, up.getLast? ≠ some "" := by
  intro up hup
  simp only [Path.ancestors, List.mem_map] at hup
  obtain ⟨i, _, rfl⟩ := hup
  refine getLast?_names _ fun n hn => ?_
  have hmem := List.mem_of_mem_take hn
  simp only [Path.names, List.mem_filter, Bool.and_eq_true, decide_eq_true_eq] at hmem
  exact hmem.2.1

/-- The routes to the folders above lead part of the way. -/
theorem partway_ancestors (hleads : Leads g.tree linkLimit [] route left key) :
    ∀ up ∈ Path.ancestors route, g.Partway up := by
  intro up hup
  refine ⟨ends_ancestors up hup, ?_⟩
  simp only [Path.ancestors, List.mem_map] at hup
  obtain ⟨i, _, rfl⟩ := hup
  refine ⟨(Path.names route).drop i, left, ?_⟩
  rw [List.take_append_drop]
  exact hleads.names

theorem makeFolders_raises (hb : g.Bears d.root) (hends : route.getLast? ≠ some "")
    (hleads : Leads g.tree linkLimit [] route left key) : Raises key d (d.makeFolders route).1 :=
  ensureFolder_raises hb ⟨hends, [], left, by rwa [List.append_nil]⟩ (partway_ancestors hleads)

theorem makeFolders_arrives (hb : g.Bears d.root) (hends : route.getLast? ≠ some "")
    (hleads : Leads g.tree linkLimit [] route left key) (h : (d.makeFolders route).2 = .ok ()) :
    (d.makeFolders route).1.root.look key = some .folder :=
  ensureFolder_arrives hb hends hleads (partway_ancestors hleads) h

theorem makeFolders_standing (hb : g.Bears d.root) (hends : route.getLast? ≠ some "")
    (hleads : Leads g.tree linkLimit [] route left key) (hkey : d.root.look key = some .folder) :
    (d.makeFolders route).1 = d := by
  obtain ⟨f, hmake, hf⟩ := makeFolder_standing hends (hleads.mono (hb.stands hkey))
  rw [makeFolders, ensureFolder_refused hmake hf]

end Folders

end KernelForge.Disk
