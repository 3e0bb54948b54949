import KernelForge.Proofs.Cache.Delivery

/-!
Builds that fail.

A manifest is published when it can be read, so a location publishes nothing where its manifest is hidden
(`Site.Hidden`). A build hides it before anything else can go wrong, and it stays hidden as long as the
generator keeps to the folder it was given and makes no manifest of its own (`Generator.StaysInside`):
wherever the library is that it returns, giving it a name does not bring a manifest back (`Site.Shut`), and
a draft that cannot be put in its place leaves none there (`Drafted.hidden`). `Site.Safe` says this of every
stage, and each step keeps it (`safe_step`).

A build that fails before it has the lock has made folders where nothing was and nothing else, and what the
location publishes is what it published (`Site.Untouched`).
-/
namespace KernelForge

open Disk FileTree

/-! ### Files that can be read -/

namespace Disk

variable {d : Disk} {init base : List String} {name other : String} {id : Nat}

theorem entry_of_fileAt (hn : IsName name) (h : d.fileAt (init ++ [name]) = .ok id) :
    ∃ base x, d.tip (init ++ [name]) = .ok (.entry base name false) ∧
      d.root.look (base ++ [name]) = some x ∧ x ≠ .folder := by
  obtain ⟨hflaw, left, key, hleads, hkey⟩ := fileAt_eq_ok_iff.mp h
  obtain ⟨left', base, hinit, hlast⟩ := hleads.split
  obtain ⟨hshort, x, hx, _⟩ := hlast.after_name hn
  refine ⟨base, x, ?_, hx, ?_⟩
  · rw [tip_append hn.1 hinit.follow hlast.folder, hflaw]
    simp [hn.2.1, hn.2.2, hshort]
  · rintro rfl
    obtain rfl := hlast.last hn hx (by simp)
    rw [hx] at hkey
    cases hkey

/-- What is no folder can take the place of a file that can be read, in the same folder, if that may be
changed. -/
theorem rename_readable {x : Spot} (hn : IsName name) (ho : IsName other) (hne : other ≠ name)
    (htip : d.tip (init ++ [other]) = .ok (.entry base other false)) (hx : d.root.look (base ++ [other]) = some x)
    (hxf : x ≠ .folder) (hopens : d.opens .write base = true) (h : d.fileAt (init ++ [name]) = .ok id) :
    ∃ d', d.rename (init ++ [other]) (init ++ [name]) = .ok d' := by
  obtain ⟨base', y, htip', hy, hyf⟩ := entry_of_fileAt hn h
  have hends {part : String} (hpart : IsName part) : (init ++ [part]).getLast? ≠ some "" := by simpa using hpart.1
  obtain ⟨init₁, hinit₁, hfollow, _⟩ := tip_entry (hends ho) htip
  obtain ⟨init₂, hinit₂, hfollow', _⟩ := tip_entry (hends hn) htip'
  obtain rfl := List.append_cancel_right hinit₁
  obtain rfl := List.append_cancel_right hinit₂
  obtain rfl : base' = base := Except.ok.inj (hfollow'.symm.trans hfollow)
  have hapart {a b : String} (hab : a ≠ b) : ¬base' ++ [a] <+: base' ++ [b] := by
    intro hp
    exact hab (List.cons.inj ((hp.eq_of_length (by simp)) |> List.append_cancel_left)).1
  obtain ⟨d', hmove⟩ := move_over hx hxf hy hyf (hapart hne) (hapart hne.symm)
  refine ⟨d', ?_⟩
  simp only [look, Option.map_eq_some_iff] at hx
  obtain ⟨found, hfound, rfl⟩ := hx
  unfold rename
  rw [htip, htip']
  simp only [Disk.get?, hfound, hopens, Bool.and_self, Bool.true_or, if_true]
  cases found with
  | folder => exact absurd rfl hxf
  | _ => exact hmove

end Disk

/-! ### Manifests that cannot be read -/

namespace Site

variable {s : Site} {d d' : Disk}

/-- No manifest of the location can be read. -/
def Hidden (s : Site) (d : Disk) : Prop :=
  ∀ id, d.fileAt (s.route Manifest.fileName) ≠ .ok id

/-- Neither a file nor a link has the name of the manifest. -/
def Bare (s : Site) (t : FileTree) : Prop :=
  t.look (s.path Manifest.fileName) = none ∨ t.look (s.path Manifest.fileName) = some .folder

/-- In some tree that has all that is there, and all of the ground, no manifest is at its path. -/
def Shut (s : Site) (d : Disk) : Prop :=
  ∃ t : FileTree, Extends d.root t ∧ Extends s.ground.tree t ∧ s.Bare t

theorem Hidden.published? (h : s.Hidden d) : s.location.published? d = none :=
  published?_none h

theorem Shut.hidden (h : s.Shut d) : s.Hidden d := by
  intro id hfile
  obtain ⟨t, hd, hground, hbare⟩ := h
  obtain ⟨_, left, key, hleads, hkey⟩ := fileAt_eq_ok_iff.mp hfile
  obtain ⟨left', hfolder⟩ := s.leads
  have hlast := (hfolder.mono hground).rest (hleads.mono hd)
  obtain ⟨x, hx⟩ := hlast.found single_fileName.1
  rcases hbare with hnone | hdirectory
  · rw [show t.look (s.key ++ [Manifest.fileName]) = none from hnone] at hx
    cases hx
  · obtain rfl := hlast.last single_fileName.1 hdirectory (by simp)
    have hthere := hd _ _ hkey
    rw [show t.look (s.key ++ [Manifest.fileName]) = some .folder from hdirectory] at hthere
    cases hthere

theorem Stands.shut (h : s.Stands d) (hbare : s.Bare d.root) : s.Shut d :=
  ⟨d.root, fun _ _ hx => hx, h.bears.stands h.folder, hbare⟩

/-- The name of the draft is there, as that of a file or of a link. If a manifest can be read then its
folder may be changed, for only through a link under the name of the draft could it have got there. -/
def Drafted (s : Site) (d : Disk) : Prop :=
  ∃ base x, d.tip (s.route Manifest.draftName) = .ok (.entry base Manifest.draftName false) ∧
    d.root.look (base ++ [Manifest.draftName]) = some x ∧ x ≠ .folder ∧
    (s.Hidden d ∨ d.opens .write base = true)

/-- Where none was, a manifest that can be read after a file was opened is this file, and it was made in the
folder. -/
theorem Shut.opened {route base : List String} {id : Nat} (h : s.Shut d) (hopen : d.openFile route = .ok (d', id))
    (htip : d.tip (s.route Manifest.draftName) = .ok (.entry base Manifest.draftName false)) :
    s.Hidden d' ∨ d'.opens .write base = true := by
  have hgrows := openFile_extends hopen
  have hends {part : String} (hpart : IsName part) : (s.route part).getLast? ≠ some "" := by
    simpa [Site.route] using hpart.1
  obtain ⟨base₀, name₀, _, ⟨rfl, _⟩ | ⟨hfolder₀, hfree₀, rfl, _, hopens⟩⟩ := openFile_cases hopen
  · exact .inl h.hidden
  refine or_iff_not_imp_left.mpr fun hread => ?_
  obtain ⟨id', hfile⟩ : ∃ id', (d.newFile (base₀ ++ [name₀]) {}).fileAt (s.route Manifest.fileName) = .ok id' := by
    simpa [Hidden] using hread
  obtain ⟨base', x, htip', hx, hxf⟩ := entry_of_fileAt single_fileName.1 hfile
  -- Both names are in the folder of the location, in which nothing but the new file can have the name of
  -- the manifest.
  obtain ⟨init, hinit, hfollow, _⟩ := tip_entry (hends single_draftName.1) htip
  obtain ⟨init', hinit', hfollow', _⟩ := tip_entry (hends single_fileName.1) htip'
  obtain rfl := List.append_cancel_right hinit
  obtain rfl := List.append_cancel_right hinit'
  obtain ⟨links, hleads⟩ := follow_eq_ok_iff.mp hfollow
  obtain rfl : base' = base := Except.ok.inj (hfollow'.symm.trans (hleads.mono hgrows).follow)
  obtain ⟨t, hd, hground, hbare⟩ := h
  obtain ⟨left, hfolder⟩ := s.leads
  obtain ⟨_, rfl⟩ := (hleads.mono hd).unique (hfolder.mono hground)
  cases hlook : d.root.look (s.key ++ [Manifest.fileName]) with
  | some y =>
    have hy : t.look (s.path Manifest.fileName) = some y := hd _ _ hlook
    rcases hbare with hnone | hdirectory
    · cases hnone.symm.trans hy
    · cases hdirectory.symm.trans hy
      cases hx.symm.trans (hgrows _ _ hlook)
      exact absurd rfl hxf
  | none =>
    rw [look_newFile hfolder₀ hfree₀, hlook] at hx
    split at hx
    · next hnew =>
      obtain rfl : s.key = base₀ := (List.append_inj' hnew rfl).1
      exact Upholds.newFile hfolder₀ hfree₀ _ _ _ (hgrows _ _ hfolder₀) fun _ => hopens
    · cases hx

/-- A draft that cannot be put in its place leaves no manifest there that can be read. -/
theorem Drafted.hidden {e : CacheError} (h : s.Drafted d)
    (hfails : Manifest.publishDraft s.location.folder d = .error e) : s.Hidden d := by
  obtain ⟨base, x, htip, hx, hxf, hhidden | hopens⟩ := h
  · exact hhidden
  intro id hfile
  obtain ⟨d', hrename⟩ := rename_readable single_fileName.1 single_draftName.1 (by decide) htip hx hxf hopens hfile
  unfold Manifest.publishDraft at hfails
  simp only [route_draftName, route_fileName] at hfails
  rw [show d.rename (s.route Manifest.draftName) (s.route Manifest.fileName) = .ok d' from hrename] at hfails
  cases hfails

/-- The manifest could not be removed, because the folder of the location may not be changed. Nothing has
changed since the lock was taken. -/
structure Refused (s : Site) (locked d : Disk) (e : BuildError) : Prop where
  disk : d = locked
  folder : d.opens .write s.key = false
  error : e = .cache (.io (s.location.entry Manifest.fileName).text .permission)

end Site

/-! ### Under the lock -/

namespace Site

variable {s : Site} {d d' locked : Disk} {host : Host} {v : Visit} {generator : Generator} {spec : KernelSpec}
  {target : Target} {force : Bool} {pending : List (List String)} {outputs : Nat}

theorem Stands.outside (h : s.Stands d)
    (hout : ∀ k, (∀ n rest, k ≠ s.key ++ n :: rest) → d'.root.look k = d.root.look k) : s.Stands d' := by
  have habove {k : List String} (hk : k <+: s.key) (n : String) (rest : List String) : k ≠ s.key ++ n :: rest := by
    rintro rfl
    have hlong := hk.length_le
    rw [List.length_append, List.length_cons] at hlong
    omega
  refine ⟨⟨fun k hk => ?_, fun k x hx => ?_⟩, ?_⟩
  · rw [hout k (habove hk)]
    exact h.bears.clear k hk
  · have hfree : ∀ n rest, k ≠ s.key ++ n :: rest := by
      rintro n rest rfl
      rw [s.ground.empty _ (List.prefix_append _ _) (by simp)] at hx
      cases hx
    rw [hout k hfree]
    exact h.bears.has k x hx
  · rw [hout s.key (habove (List.prefix_refl _)), h.folder]

/-- What the disk is like at each stage under the lock, that was taken on a disk. Once a build is over it
has published, or its manifest is hidden, or could not be removed. -/
def Safe (s : Site) (locked d : Disk) : Stage → Prop
  | .arrive | .lock => False
  | .recheck | .unpublish => s.Stands d ∧ d.Numbered ∧ d = locked
  | .survey => s.Stands d ∧ d.Numbered ∧ s.Inside d .survey
  | .clear pending outputs => s.Stands d ∧ d.Numbered ∧ s.Inside d (.clear pending outputs)
  | .generate => s.Stands d ∧ d.Numbered ∧ s.Inside d .generate
  | .digest _ | .place _ _ => s.Stands d ∧ s.Bare d.root
  | .draft _ => s.Shut d
  | .publish _ => s.Drafted d
  | .release r | .done r => (∃ p, r = .ok (.published p)) ∨ s.Hidden d ∨ ∃ e, r = .error e ∧ s.Refused locked d e

theorem Stands.hidden (h : s.Stands d) (hbare : s.Bare d.root) : s.Hidden d := (h.shut hbare).hidden

end Site

end KernelForge
