import KernelForge.Host.FileSystem
import KernelForge.Proofs.Host.Tree

/-!
What changes of a disk leave as it was.

A new file or folder appears at its own path only (`look_newFile`, `look_newFolder`), a file that is moved
leaves one path and takes another (`move_file`), and none of these touches what is in files (`Keeps`). On a
disk where every file has a number that was given out (`Numbered`) a new file shares its number with no
other.
-/
namespace KernelForge.Disk

open FileTree

/-- The files that were there hold what they held, and the user is the same. -/
structure Keeps (d d' : Disk) : Prop where
  size : d.nodes.size ≤ d'.nodes.size
  node : ∀ id, id < d.nodes.size → d'.node id = d.node id
  user : d'.privileged = d.privileged

theorem Keeps.refl (d : Disk) : Keeps d d := ⟨Nat.le_refl _, fun _ _ => rfl, rfl⟩

variable {d d' : Disk} {id : Nat}

theorem Keeps.trans {d'' : Disk} (h : Keeps d d') (h' : Keeps d' d'') : Keeps d d'' :=
  ⟨Nat.le_trans h.size h'.size, fun id hid => (h'.node id (Nat.lt_of_lt_of_le hid h.size)).trans (h.node id hid),
    h'.user.trans h.user⟩

theorem Keeps.of_nodes (h : d'.nodes = d.nodes) (hp : d'.privileged = d.privileged) : Keeps d d' :=
  ⟨Nat.le_of_eq (congrArg Array.size h.symm), fun id _ => by simp [Disk.node, h], hp⟩

theorem Keeps.content (h : Keeps d d') (hid : id < d.nodes.size) : d'.content id = d.content id := by
  simp only [Disk.content, h.node id hid]

/-- Every file has a number that was given out. -/
def Numbered (d : Disk) : Prop :=
  ∀ key id, d.root.look key = some (.file id) → id < d.nodes.size

/-! ### New files and folders -/

theorem keeps_push {n : Node} (h : d'.nodes = d.nodes.push n) (hp : d'.privileged = d.privileged) : Keeps d d' :=
  ⟨by simp [h], fun id hid => by simp [Disk.node, h, Array.getElem?_push, Nat.ne_of_lt hid], hp⟩

theorem keeps_newFile (d : Disk) (key : List String) (n : Node) : Keeps d (d.newFile key n) :=
  keeps_push rfl rfl

theorem keeps_newFolder (d : Disk) (key : List String) (mode : Nat) : Keeps d (d.newFolder key mode) :=
  keeps_push rfl rfl

@[simp] theorem size_newFile (d : Disk) (key : List String) (n : Node) :
    (d.newFile key n).nodes.size = d.nodes.size + 1 := by
  simp [newFile, Disk.place]

@[simp] theorem size_newFolder (d : Disk) (key : List String) (mode : Nat) :
    (d.newFolder key mode).nodes.size = d.nodes.size + 1 := by
  simp [newFolder, Disk.place]

theorem node_newFile (d : Disk) (key : List String) (n : Node) :
    (d.newFile key n).node d.nodes.size = { n with modified := d.clock } := by
  simp [newFile, Disk.place, Disk.node]

section Missing

variable {d : Disk} {base : List String} {name : String}

/-- Putting something small where nothing is changes that path only. -/
theorem look_put_missing {t new : FileTree} (hb : t.look base = some .folder)
    (hn : t.look (base ++ [name]) = none) (hnew : ∀ m rest, new.look (m :: rest) = none)
    (k : List String) :
    (put (base ++ [name]) t new).look k = if k = base ++ [name] then some new.spot else t.look k := by
  rw [look_put_bare hb name hnew]
  by_cases hk : k = base ++ [name]
  · rw [if_pos hk, if_pos hk]
  · rw [if_neg hk, if_neg hk]
    by_cases hp : base ++ [name] <+: k
    · rw [if_pos hp, look_none_below hp hn]
    · rw [if_neg hp]

theorem look_newFile (hb : d.root.look base = some .folder) (hn : d.root.look (base ++ [name]) = none)
    (n : Node) (k : List String) :
    (d.newFile (base ++ [name]) n).root.look k =
      if k = base ++ [name] then some (.file d.nodes.size) else d.root.look k :=
  look_put_missing hb hn (fun _ _ => rfl) k

theorem look_newFolder (hb : d.root.look base = some .folder)
    (hn : d.root.look (base ++ [name]) = none) (mode : Nat) (k : List String) :
    (d.newFolder (base ++ [name]) mode).root.look k =
      if k = base ++ [name] then some .folder else d.root.look k :=
  look_put_missing hb hn (fun _ _ => rfl) k

theorem numbered_newFile (h : d.Numbered) (hb : d.root.look base = some .folder)
    (hn : d.root.look (base ++ [name]) = none) (n : Node) : (d.newFile (base ++ [name]) n).Numbered := by
  intro k id hk
  rw [look_newFile hb hn] at hk
  rw [size_newFile]
  split at hk
  · cases hk
    exact Nat.lt_succ_self _
  · exact Nat.lt_succ_of_lt (h k id hk)

theorem numbered_newFolder (h : d.Numbered) (hb : d.root.look base = some .folder)
    (hn : d.root.look (base ++ [name]) = none) (mode : Nat) :
    (d.newFolder (base ++ [name]) mode).Numbered := by
  intro k id hk
  rw [look_newFolder hb hn] at hk
  rw [size_newFolder]
  split at hk
  · cases hk
  · exact Nat.lt_succ_of_lt (h k id hk)

end Missing

/-! ### Contents -/

@[simp] theorem root_setContent (d : Disk) (id : Nat) (content : ByteArray) :
    (d.setContent id content).root = d.root := rfl

@[simp] theorem size_setContent (d : Disk) (id : Nat) (content : ByteArray) :
    (d.setContent id content).nodes.size = d.nodes.size := by
  simp [setContent, modify]

theorem node_setContent_ne (d : Disk) {other : Nat} (h : other ≠ id) (content : ByteArray) :
    (d.setContent id content).node other = d.node other := by
  simp [setContent, modify, Disk.node, Array.getElem?_modify, Ne.symm h]

theorem node_setContent_regular (d : Disk) (hid : id < d.nodes.size) (hk : (d.node id).kind = .regular)
    (content : ByteArray) :
    (d.setContent id content).node id = { d.node id with content, modified := d.clock } := by
  have hget : d.nodes[id]? = some d.nodes[id] := Array.getElem?_eq_getElem hid
  simp only [Disk.node, hget, Option.getD_some] at hk
  simp [setContent, modify, Disk.node, Array.getElem?_modify, hget, hk]

/-! ### Removing and moving -/

@[simp] theorem nodes_erase (d : Disk) (key : List String) : (d.erase key).nodes = d.nodes := rfl

theorem look_erase_disk {d : Disk} {key : List String} (hk : key ≠ []) (k : List String) :
    (d.erase key).root.look k = if key <+: k then none else d.root.look k :=
  FileTree.look_erase hk d.root k

theorem numbered_erase (h : d.Numbered) {key : List String} (hk : key ≠ []) : (d.erase key).Numbered := by
  intro k id hlook
  rw [look_erase_disk hk] at hlook
  split at hlook
  · cases hlook
  · exact h k id hlook

/-! ### Rights -/

section Rights

variable {right : Right} {k key base : List String} {name : String}

theorem Keeps.allows_eq (hkeeps : Keeps d d') (hid : id < d.nodes.size) :
    d'.allows right id = d.allows right id := by
  have hnode := hkeeps.node id hid
  have hid' : id < d'.nodes.size := Nat.lt_of_lt_of_le hid hkeeps.size
  simp only [Disk.node, Array.getElem?_eq_getElem hid, Array.getElem?_eq_getElem hid', Option.getD_some] at hnode
  rw [Disk.allows, Disk.allows, hkeeps.user, Array.getElem?_eq_getElem hid, Array.getElem?_eq_getElem hid', hnode]

/-- What one may do with a number, one may still do where all nodes are kept. -/
theorem Keeps.allows (hkeeps : Keeps d d') (h : d.allows right id = true) : d'.allows right id = true := by
  by_cases hid : id < d.nodes.size
  · exact (hkeeps.allows_eq hid).trans h
  · unfold Disk.allows at h ⊢
    rw [Array.getElem?_eq_none (Nat.le_of_not_lt hid), Option.any_none, Bool.or_false] at h
    rw [hkeeps.user, h, Bool.true_or]

theorem allows_push {n : Node} (h : d'.nodes = d.nodes.push n) (hmode : n.mode &&& right.bit ≠ 0) :
    d'.allows right d.nodes.size = true := by
  simp [Disk.allows, h, hmode]

@[simp] theorem allows_setContent (d : Disk) (other : Nat) (content : ByteArray) :
    (d.setContent other content).allows right id = d.allows right id := by
  unfold Disk.allows setContent modify
  simp only [Array.getElem?_modify]
  split
  · cases d.nodes[id]? with
    | none => rfl
    | some n =>
      simp only [Option.map_some, Option.any_some]
      cases n.kind <;> rfl
  · rfl

theorem opens_iff : d.opens right k = true ↔ ∃ id, d.root.number? k = some id ∧ d.allows right id = true := by
  simp [opens, Option.any_eq_true]

/-- Who may open a folder may still do it where it has its number and nodes are kept. -/
theorem opens_mono (hkeeps : Keeps d d') (hnumber : d'.root.number? k = d.root.number? k)
    (h : d.opens right k = true) : d'.opens right k = true := by
  obtain ⟨id, hid, hallows⟩ := opens_iff.mp h
  exact opens_iff.mpr ⟨id, hnumber.trans hid, hkeeps.allows hallows⟩

theorem opens_erase (hroot : key ≠ []) (hk : ¬key <+: k) (h : d.opens right k = true) :
    (d.erase key).opens right k = true :=
  opens_mono (d := d) (.of_nodes rfl rfl) (number?_erase hroot hk d.root) h

theorem opens_newFile (hb : d.root.look base = some .folder) (hk : ¬base ++ [name] <+: k) (n : Node)
    (h : d.opens right k = true) : (d.newFile (base ++ [name]) n).opens right k = true :=
  opens_mono (keeps_newFile d _ n) (number?_put hb hk _) h

theorem opens_newFolder (hb : d.root.look base = some .folder) (hk : ¬base ++ [name] <+: k) (mode : Nat)
    (h : d.opens right k = true) : (d.newFolder (base ++ [name]) mode).opens right k = true :=
  opens_mono (keeps_newFolder d _ mode) (number?_put hb hk _) h

theorem opens_setContent (other : Nat) (content : ByteArray) (h : d.opens right k = true) :
    (d.setContent other content).opens right k = true := by
  obtain ⟨id, hid, hallows⟩ := opens_iff.mp h
  exact opens_iff.mpr ⟨id, hid, by rwa [allows_setContent]⟩

/-- Every folder may be opened, but one that stood before and could not be opened then. -/
def Upholds (d d' : Disk) : Prop :=
  ∀ right k, d'.root.look k = some .folder → (d.root.look k = some .folder → d.opens right k = true) →
    d'.opens right k = true

namespace Upholds

theorem refl (d : Disk) : Upholds d d := fun _ _ hfolder hopens => hopens hfolder

theorem trans {d'' : Disk} (h : Upholds d d') (h' : Upholds d' d'') : Upholds d d'' := fun right k hfolder hopens =>
  h' right k hfolder fun hmid => h right k hmid hopens

/-- A change that makes no folder and keeps the rights to those that stay. -/
theorem of_opens (h : ∀ right k, d'.root.look k = some .folder →
    d.root.look k = some .folder ∧ (d.opens right k = true → d'.opens right k = true)) : Upholds d d' :=
  fun right k hfolder hopens => (h right k hfolder).2 (hopens (h right k hfolder).1)

theorem erase (hroot : key ≠ []) : Upholds d (d.erase key) := by
  refine .of_opens fun right k hfolder => ?_
  rw [look_erase_disk hroot] at hfolder
  split at hfolder
  · cases hfolder
  · next hk => exact ⟨hfolder, opens_erase hroot hk⟩

theorem place (hb : d.root.look base = some .folder) (file : Nat) :
    Upholds d (d.place (base ++ [name]) (.file file)) := by
  refine .of_opens fun right k hfolder => ?_
  have hlook : (d.place (base ++ [name]) (.file file)).root.look k = _ := look_put_bare hb name (fun _ _ => rfl) k
  rw [hfolder] at hlook
  split at hlook
  · cases hlook
  · split at hlook
    · cases hlook
    · next hk => exact ⟨hlook.symm, opens_mono (d := d) (.of_nodes rfl rfl) (number?_put hb hk _)⟩

theorem newFile (hb : d.root.look base = some .folder) (hfree : d.root.look (base ++ [name]) = none) (n : Node) :
    Upholds d (d.newFile (base ++ [name]) n) := by
  refine .of_opens fun right k hfolder => ?_
  rw [look_newFile hb hfree] at hfolder
  split at hfolder
  · cases hfolder
  · next hne =>
    refine ⟨hfolder, opens_newFile hb (fun hp => ?_) n⟩
    rw [look_none_below hp hfree] at hfolder
    cases hfolder

theorem newFolder (hb : d.root.look base = some .folder) (hfree : d.root.look (base ++ [name]) = none) :
    Upholds d (d.newFolder (base ++ [name]) 0o755) := by
  intro right k hfolder hopens
  by_cases hk : k = base ++ [name]
  · subst hk
    have hmode : 0o755 &&& right.bit ≠ 0 := by cases right <;> decide
    exact opens_iff.mpr ⟨d.nodes.size, number?_put_self hb _ _ _, allows_push rfl hmode⟩
  · rw [look_newFolder hb hfree, if_neg hk] at hfolder
    refine opens_newFolder hb (fun hp => ?_) 0o755 (hopens hfolder)
    rw [look_none_below hp hfree] at hfolder
    cases hfolder

theorem setContent (d : Disk) (id : Nat) (content : ByteArray) : Upholds d (d.setContent id content) :=
  .of_opens fun _ _ hfolder => ⟨hfolder, opens_setContent id content⟩

end Upholds

end Rights

/-- A file is at its new path, and what was elsewhere is as it was; the old path is free, or has the file
still. -/
structure Relocates (a : Nat) (source target : List String) (d d' : Disk) : Prop where
  nodes : d'.nodes = d.nodes
  user : d'.privileged = d.privileged
  upholds : Upholds d d'
  arrived : d'.root.look target = some (.file a)
  departed : d'.root.look source = none ∨ d'.root.look source = some (.file a)
  other : ∀ k, k ≠ source → k ≠ target → d'.root.look k = d.root.look k

section File

variable {d d' : Disk} {source base : List String} {name : String} {a : Nat}
  (hs : d.root.look source = some (.file a)) (hb : d.root.look base = some .folder)
include hs

/-- A file has nothing below it. -/
theorem look_below_file {k : List String} (hp : source <+: k) (hk : k ≠ source) : d.root.look k = none := by
  cases hlook : d.root.look k with
  | none => rfl
  | some x =>
    rw [look_folder_above hp (Ne.symm hk) hlook] at hs
    cases hs

theorem move_onto_folder (ht : d.root.look (base ++ [name]) = some .folder) :
    d.move source (base ++ [name]) ≠ .ok d' := by
  obtain ⟨id, entries, hthere : d.get? _ = _⟩ := look_eq_folder_iff.mp ht
  have hget : d.get? source = some (.file a) := look_eq_file_iff.mp hs
  have hne : source ≠ base ++ [name] := by
    rintro rfl
    rw [hs] at ht
    cases ht
  intro h
  simp only [move, hget, hthere, if_neg hne] at h
  split at h
  · cases h
  · split at h <;> cases h

include hb

theorem file_not_above (hne : source ≠ base ++ [name]) : ¬source <+: base ++ [name] := by
  intro hp
  rcases List.prefix_concat_iff.mp hp with he | hp
  · exact hne he
  · by_cases he : base = source
    · rw [he, hs] at hb
      cases hb
    · rw [look_below_file hs hp he] at hb
      cases hb

/-- What a disk looks like after a file has left one path and taken another. -/
theorem look_moved (ht : d.root.look (base ++ [name]) ≠ some .folder) (hne : source ≠ base ++ [name])
    (k : List String) :
    ((d.erase source).place (base ++ [name]) (.file a)).root.look k =
      if k = base ++ [name] then some (.file a) else if k = source then none else d.root.look k := by
  have hapart := file_not_above hs hb hne
  have hroot : source ≠ [] := fun he => hapart (he ▸ List.nil_prefix)
  have hbase : (d.erase source).root.look base = some .folder := by
    rw [look_erase_disk hroot, if_neg fun hp => hapart (hp.trans (List.prefix_append _ _)), hb]
  show (put (base ++ [name]) (d.erase source).root (.file a)).look k = _
  rw [look_put_bare hbase name (fun _ _ => rfl), look_erase_disk hroot]
  by_cases hk : k = base ++ [name]
  · rw [if_pos hk, if_pos hk]
    rfl
  · rw [if_neg hk, if_neg hk]
    by_cases hks : k = source
    · subst hks
      simp
    · rw [if_neg hks]
      by_cases hp : base ++ [name] <+: k
      · rw [if_pos hp]
        cases hlook : d.root.look k with
        | none => rfl
        | some x => exact absurd (look_folder_above hp (Ne.symm hk) hlook) ht
      · rw [if_neg hp]
        by_cases hps : source <+: k
        · rw [if_pos hps, look_below_file hs hps hks]
        · rw [if_neg hps]

/-- A file takes every name but that of a folder. -/
theorem move_onto (ht : d.root.look (base ++ [name]) ≠ some .folder) :
    d.move source (base ++ [name]) = .ok (if d.root.look (base ++ [name]) = some (.file a) then d
      else (d.erase source).place (base ++ [name]) (.file a)) := by
  have hget : d.get? source = some (.file a) := look_eq_file_iff.mp hs
  by_cases hne : source = base ++ [name]
  · rw [← hne, if_pos hs]
    simp only [move, hget, if_true]
  · have hdown := file_not_above hs hb hne
    have hup : ¬base ++ [name] <+: source := fun hp => ht (look_folder_above hp (Ne.symm hne) hs)
    rw [← List.isPrefixOf_iff_prefix] at hdown hup
    simp only [move, hget, if_neg hne, if_neg hdown, if_neg hup]
    cases hthere : d.get? (base ++ [name]) with
    | none => rw [look_eq_none_iff.mpr hthere, if_neg nofun]
    | some there =>
      cases there with
      | folder id entries => exact absurd (look_eq_folder_iff.mpr ⟨_, _, hthere⟩) ht
      | link target => rw [look_eq_link_iff.mpr hthere, if_neg nofun]
      | file b => simp only [look_eq_file_iff.mpr hthere, Option.some.injEq, Spot.file.injEq, eq_comm]

/-- Moving a file puts it where it should go. -/
theorem move_file (h : d.move source (base ++ [name]) = .ok d') : Relocates a source (base ++ [name]) d d' := by
  have ht : d.root.look (base ++ [name]) ≠ some .folder := fun ht => move_onto_folder hs ht h
  rw [move_onto hs hb ht] at h
  by_cases hsame : d.root.look (base ++ [name]) = some (.file a)
  · rw [if_pos hsame] at h
    cases h
    exact ⟨rfl, rfl, .refl d, hsame, .inr hs, fun _ _ _ => rfl⟩
  · rw [if_neg hsame] at h
    cases h
    have hne : source ≠ base ++ [name] := fun he => hsame (he ▸ hs)
    have hlook := look_moved hs hb ht hne
    have hapart := file_not_above hs hb hne
    have hroot : source ≠ [] := fun he => hapart (he ▸ List.nil_prefix)
    have hbase : (d.erase source).root.look base = some .folder := by
      rw [look_erase_disk hroot, if_neg fun hp => hapart (hp.trans (List.prefix_append _ _)), hb]
    refine ⟨rfl, rfl, (Upholds.erase hroot).trans (.place hbase a), by rw [hlook, if_pos rfl], .inl ?_,
      fun k hks hkt => ?_⟩
    · rw [hlook, if_neg hne, if_pos rfl]
    · rw [hlook, if_neg hkt, if_neg hks]

end File

theorem Relocates.numbered {a : Nat} {source target : List String} (h : Relocates a source target d d')
    (hs : d.root.look source = some (.file a)) (hd : d.Numbered) : d'.Numbered := by
  intro k id hk
  rw [h.nodes]
  by_cases hkt : k = target
  · rw [hkt, h.arrived] at hk
    cases hk
    exact hd source a hs
  · by_cases hks : k = source
    · rw [hks] at hk
      rcases h.departed with hnone | hfile
      · rw [hnone] at hk
        cases hk
      · rw [hfile] at hk
        cases hk
        exact hd source a hs
    · rw [h.other k hks hkt] at hk
      exact hd k id hk

end KernelForge.Disk
