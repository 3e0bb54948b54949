import KernelForge.Cache.Visit
import KernelForge.Proofs.Cache.Site
import KernelForge.Proofs.Digest.Hexadecimal

/-!
What a cache relies on when it lets a generator work in a build location.

`WorksIn` is how far anybody who works in a location may go: names change only below its folder, the lock
file keeps its name, and files that were there hold what they held. A generator is tidy (`Generator.Tidy`)
if it keeps to that in a location with nothing in it but the lock file, makes no manifest and no draft of
one, and returns a file below the folder. The operations of a location keep to it, too (`worksIn_erase`,
`placeLibrary_places`, `writeDraft_writes`, `publishDraft_places`).
-/
namespace KernelForge

open Disk FileTree

/-- Changes of a disk that somebody may make who works in the location at a path. -/
structure WorksIn (key : List String) (d d' : Disk) : Prop where
  keeps : Keeps d d'
  numbered : d.Numbered → d'.Numbered
  outside : ∀ k, (∀ n rest, k ≠ key ++ n :: rest) → d'.root.look k = d.root.look k
  lock : d'.root.look (key ++ [Location.lockName]) = d.root.look (key ++ [Location.lockName])

theorem WorksIn.refl (key : List String) (d : Disk) : WorksIn key d d :=
  ⟨.refl d, id, fun _ _ => rfl, rfl⟩

/-- A location as a generator finds it: its route leads to its folder, and nothing but the lock file is
there. -/
structure Swept (folder : Place) (key : List String) (d : Disk) : Prop where
  route : follow d.root linkLimit [] folder.route = .ok key
  folder : d.root.look key = some .folder
  numbered : d.Numbered
  empty : ∀ n, n ≠ Location.lockName → d.root.look (key ++ [n]) = none

/-- A library that a generator says it has left: below the folder, not by way of a link, and not the lock
file. It may be missing, or a folder. -/
structure Delivers (folder : Place) (key : List String) (d : Disk) (library : Place) (names : List String) :
    Prop where
  place : library = folder.joinNames names
  single : ∀ n ∈ names, Path.Single n
  kept : names ≠ [Location.lockName]
  straight : Site.Straight d.root key names
  regular : ∀ id, d.root.look (key ++ names) = some (.file id) → (d.node id).kind = .regular

theorem Delivers.keep {d d' : Disk} {folder library : Place} {key names : List String}
    (h : Delivers folder key d library names) (hd : d.Numbered) (hk : Keeps d d')
    (hlook : ∀ rest, d'.root.look (key ++ rest) = d.root.look (key ++ rest)) :
    Delivers folder key d' library names := by
  refine ⟨h.place, h.single, h.kept, fun init hinit target => ?_, fun id hid => ?_⟩
  · rw [hlook]
    exact h.straight init hinit target
  · rw [hlook] at hid
    rw [hk.node id (hd _ _ hid)]
    exact h.regular id hid

/-- What a tidy generator makes of a disk. -/
structure Leaves (folder : Place) (key : List String) (d d' : Disk)
    (outcome : Except GeneratorFailure Place) : Prop where
  works : WorksIn key d d'
  unpublished : d'.root.look (key ++ [Manifest.fileName]) = none
  undrafted : d'.root.look (key ++ [Manifest.draftName]) = none
  library : ∀ library, outcome = .ok library → ∃ names, Delivers folder key d' library names

/-- A generator that works only in the location it was given. -/
def Generator.Tidy (generator : Generator) (folder : Place) (key : List String) : Prop :=
  ∀ (request : BuildRequest) (host : Host), request.folder = folder → Swept folder key host.disk →
    Leaves folder key host.disk (generator request host).1 (generator request host).2

/-! ### Names of libraries -/

namespace Fingerprint

theorem publishedName_chars (fp : Fingerprint) (checksum : Digest) :
    (fp.publishedName checksum).toList =
      'l' :: 'i' :: 'b' :: (fp.name.toList ++ '-' :: (checksum.toHexChars.take 16 ++ ['.', 's', 'o'])) := by
  simp [publishedName]

theorem publishedName_ne {fp : Fingerprint} {checksum : Digest} {name : String}
    (h : name.toList.head? ≠ some 'l') : fp.publishedName checksum ≠ name := by
  rintro rfl
  rw [publishedName_chars] at h
  exact h rfl

theorem single_publishedName {fp : Fingerprint} (h : '/' ∉ fp.name.toList) (checksum : Digest) :
    Path.Single (fp.publishedName checksum) := by
  refine ⟨⟨publishedName_ne (by decide), publishedName_ne (by decide), publishedName_ne (by decide)⟩, ?_⟩
  have hhex : '/' ∉ checksum.toHexChars.take 16 := fun hmem =>
    checksum.not_mem_toHexChars (by decide) (List.mem_of_mem_take hmem)
  rw [publishedName_chars]
  simp [h, hhex]

end Fingerprint

/-! ### Removing -/

theorem worksIn_erase {key : List String} {name : String} (hname : name ≠ Location.lockName)
    (rest : List String) (d : Disk) : WorksIn key d (d.erase (key ++ name :: rest)) := by
  have hne : key ++ name :: rest ≠ [] := by simp
  refine ⟨.of_nodes rfl rfl, fun h => numbered_erase h hne, fun k hk => ?_, ?_⟩
  · rw [look_erase_disk hne, if_neg]
    rintro ⟨more, rfl⟩
    exact hk name (rest ++ more) (by simp)
  · rw [look_erase_disk hne, if_neg]
    intro hp
    have hcons : name :: rest <+: [Location.lockName] := (List.prefix_append_right_inj key).mp hp
    exact hname (List.cons_prefix_cons.mp hcons).1

namespace Site

variable {s : Site} {d : Disk} {keys : List (List String)} {k names : List String} {name : String} {id : Nat}
  {d' : Disk}

theorem unpublish_cases {host : Host} (h : s.Stands host.disk) :
    (∃ e, s.location.unpublish host = (host, .error e) ∧ (s.fault? Manifest.fileName = none →
        host.disk.opens .write s.key = true → host.disk.root.look (s.path Manifest.fileName) = some .folder)) ∨
      ∃ disk, s.location.unpublish host = ({ host with disk }, .ok ()) ∧ WorksIn s.key host.disk disk ∧
        Upholds host.disk disk ∧ disk.root.look (s.path Manifest.fileName) = none := by
  rcases Location.unpublish_in (withoutSlash_of_last s.ends) h.follow h.folder with he | ⟨_, ⟨hnone, hsame⟩ | hgone⟩
  · exact .inl he
  · exact .inr ⟨_, hsame, .refl _ _, .refl _, hnone⟩
  · refine .inr ⟨_, hgone, worksIn_erase (by decide) [] host.disk, .erase (by simp), ?_⟩
    rw [path, look_erase_disk (by simp), if_pos (List.prefix_refl _)]

theorem outputs_ok (h : s.Stands d) (ho : s.location.outputs d = .ok keys) (k : List String) :
    k ∈ keys ↔ ∃ n, n ≠ Location.lockName ∧ k = s.path n ∧ d.root.look k ≠ none := by
  cases hflaw : flaw? s.location.folder.route with
  | some f =>
    have hne : f ≠ .notFound := by rcases flaw?_cases hflaw with rfl | rfl <;> nofun
    have hlocate : d.locate s.location.folder.route = .error f := by simp [locate, hflaw]
    rw [Location.outputs, hlocate] at ho
    cases f <;> first | exact absurd rfl hne | cases ho
  | none => exact Location.mem_outputs (h.locate hflaw) ho k

theorem mem_removalPlan (h : k ∈ Location.removalPlan keys d) : ∃ k₀ ∈ keys, k₀ <+: k := by
  obtain ⟨k₀, hk₀, hk⟩ := List.mem_flatMap.mp h
  refine ⟨k₀, hk₀, ?_⟩
  rcases List.mem_append.mp hk with hk | hk
  · obtain ⟨rest, _, rfl⟩ := List.mem_map.mp hk
    exact List.prefix_append _ _
  · exact List.mem_singleton.mp hk ▸ List.prefix_refl _

theorem removalPlan_contains (h : k ∈ keys) : k ∈ Location.removalPlan keys d :=
  List.mem_flatMap.mpr ⟨k, h, by simp⟩

/-! ### Writing and moving -/

/-- The modes allow to give a file below the folder the name of an entry: both folders may be written, or it
has the name. -/
def Movable (s : Site) (d : Disk) (names : List String) (name : String) : Prop :=
  (d.opens .write (s.key ++ names.dropLast) && d.opens .write s.key || d.isSame (s.key ++ names)
    (s.path name)) = true

instance (d : Disk) (names : List String) (name : String) : Decidable (s.Movable d names name) :=
  inferInstanceAs (Decidable (_ = true))

theorem rename_file (h : s.Stands d) {a : Nat} (hns : ∀ n ∈ names, Path.Single n) (hp : s.Passable names)
    (hn : Path.Single name) (hfile : d.root.look (s.key ++ names) = some (.file a)) :
    d.rename (s.location.folder.route ++ names) (s.route name) =
      match s.fault? name with
      | some f => .error f
      | none =>
        if s.Movable d names name then d.move (s.key ++ names) (s.path name) else .error .permission := by
  rcases List.eq_nil_or_concat names with rfl | ⟨init, last, rfl⟩
  · rw [List.append_nil, h.folder] at hfile
    cases hfile
  · rw [List.concat_eq_append] at hns hp hfile ⊢
    have hlast := hns last (by simp)
    have hfolder : d.root.look (s.key ++ init) = some .folder := by
      rw [← List.append_assoc] at hfile
      exact look_folder_of_below hfile
    have hfollow : follow d.root linkLimit [] (s.location.folder.route ++ init) = .ok (s.key ++ init) := by
      obtain ⟨left, hleads⟩ := h.leads
      refine (hleads.append (.ofNames (fun n hn => ?_) hfolder nofun)).follow
      exact ⟨(hns n (by simp [hn])).1, hp.2 n (by simp [hn])⟩
    have hsource : d.tip (s.location.folder.route ++ (init ++ [last])) =
        .ok (.entry (s.key ++ init) last false) := by
      have hdots : ¬(last = "." ∨ last = "..") := not_or.mpr ⟨hlast.1.2.1, hlast.1.2.2⟩
      have hflaw := hp.1
      rw [← List.append_assoc] at hflaw ⊢
      rw [tip_append hlast.1.1 hfollow hfolder, hflaw]
      simp [hdots, hp.2 last (by simp)]
    have hget : d.get? (s.key ++ (init ++ [last])) = some (.file a) := look_eq_file_iff.mp hfile
    unfold rename Movable
    rw [hsource, h.tip_entry hn]
    cases s.fault? name with
    | some f => rfl
    | none => simp [hget, path]

/-- A file below the folder has got the name of an entry. -/
structure Placed (s : Site) (names : List String) (name : String) (id : Nat) (d d' : Disk) : Prop where
  works : WorksIn s.key d d'
  passable : s.Passable [name]
  moved : Relocates id (s.key ++ names) (s.path name) d d'

theorem Placed.free (h : s.Placed names name id d d') (hfile : d.root.look (s.key ++ names) = some (.file id))
    {n : String} (hn : n ≠ name) (hfree : d.root.look (s.path n) = none) : d'.root.look (s.path n) = none := by
  rw [h.moved.other, hfree]
  · intro he
    rw [he, hfile] at hfree
    cases hfree
  · intro he
    have hlast := List.append_cancel_left he
    exact hn (List.cons.inj hlast).1

theorem placed_of_relocates (h : s.Stands d) (hfile : d.root.look (s.key ++ names) = some (.file id))
    (hkept : names ≠ [Location.lockName]) (hname : name ≠ Location.lockName) (hp : s.Passable [name])
    (hr : Relocates id (s.key ++ names) (s.path name) d d') : s.Placed names name id d d' := by
  refine ⟨⟨.of_nodes hr.nodes hr.user, hr.numbered hfile, fun k hk => hr.other k ?_ (hk name []),
    hr.other _ ?_ ?_⟩, hp, hr⟩
  · cases names with
    | nil =>
      rw [List.append_nil, h.folder] at hfile
      cases hfile
    | cons n rest => exact hk n rest
  · intro he
    exact hkept (List.append_cancel_left he).symm
  · intro he
    exact hname (List.cons.inj (List.append_cancel_left he)).1.symm

theorem rename_places (h : s.Stands d) (hns : ∀ n ∈ names, Path.Single n) (hp : s.Passable names)
    (hn : Path.Single name) (hfile : d.root.look (s.key ++ names) = some (.file id))
    (hkept : names ≠ [Location.lockName]) (hname : name ≠ Location.lockName)
    (hr : d.rename (s.location.folder.route ++ names) (s.route name) = .ok d') : s.Placed names name id d d' := by
  rw [rename_file h hns hp hn hfile] at hr
  cases hf : s.fault? name with
  | some f =>
    rw [hf] at hr
    cases hr
  | none =>
    rw [hf] at hr
    dsimp only at hr
    split at hr
    · exact placed_of_relocates h hfile hkept hname (passable_single.mpr hf) (move_file hfile h.folder hr)
    · cases hr

theorem placeLibrary_places (h : s.Stands d) {library : Place} {checksum : Digest}
    (ho : Delivers s.location.folder s.key d library names) (hfile : d.root.look (s.key ++ names) = some (.file id))
    (hp : s.Passable names) (hplace : Visit.placeLibrary s.location library checksum d = .ok d') :
    s.Placed names (s.location.fingerprint.publishedName checksum) id d d' := by
  have hsingle := Fingerprint.single_publishedName s.name checksum
  have hlock : s.location.fingerprint.publishedName checksum ≠ Location.lockName :=
    Fingerprint.publishedName_ne (by decide)
  have hroute := route_entry (s := s) hsingle
  unfold Visit.placeLibrary at hplace
  rw [ho.place] at hplace
  generalize s.location.fingerprint.publishedName checksum = published at *
  simp only at hplace
  split at hplace
  · next hsame =>
    cases hplace
    have hnames : names = [published] :=
      Place.same_joinNames s.text ho.single (by simpa using hsingle) hsame
    subst hnames
    exact placed_of_relocates h hfile ho.kept hlock hp ⟨rfl, rfl, .refl d, hfile, .inr hfile, fun _ _ _ => rfl⟩
  · split at hplace
    · next hrename =>
      cases hplace
      rw [Place.route_joinNames s.ends ho.single, show (s.location.folder.join published).route =
        s.route published from hroute] at hrename
      exact rename_places h ho.single hp hsingle hfile ho.kept hlock hrename
    · cases hplace

theorem writeDraft_writes (h : s.Stands d) (hd : d.Numbered)
    (hfree : d.root.look (s.path Manifest.draftName) = none)
    {m : Manifest} (hw : m.writeDraft s.location.folder d = .ok d') :
    WorksIn s.key d d' ∧ Upholds d d' ∧ s.Passable [Manifest.draftName] ∧
      (∀ k, d'.root.look k =
        if k = s.path Manifest.draftName then some (.file d.nodes.size) else d.root.look k) ∧
      d'.allows .read d.nodes.size = true ∧ d'.content d.nodes.size = m.text.toUTF8 := by
  have hopen := h.openFile_entry single_draftName (by rw [hfree]; nofun) 0o644
  unfold Manifest.writeDraft Disk.write at hw
  simp only [route_draftName, hopen, hfree] at hw
  cases hf : s.fault? Manifest.draftName with
  | some f =>
    simp only [hf] at hw
    cases hw
  | none =>
    cases hwrite : d.opens .write s.key with
    | false =>
      simp only [hf, hwrite] at hw
      cases hw
    | true =>
    simp only [hf, hwrite] at hw
    cases hw
    have hlook := look_newFile h.folder hfree { mode := 0o644 }
    have hnode := node_newFile d (s.path Manifest.draftName) { mode := 0o644 }
    have hkeeps := keeps_newFile d (s.path Manifest.draftName) { mode := 0o644 }
    refine ⟨⟨⟨?_, fun id hid => ?_, rfl⟩, fun _ k id hk => ?_, fun k hk => ?_, ?_⟩, ?_,
      passable_single.mpr hf, hlook,
      (allows_setContent _ _ _).trans (allows_push rfl (by show 0o644 &&& 0o400 ≠ 0; decide)), ?_⟩
    · rw [size_setContent, size_newFile]
      exact Nat.le_succ _
    · rw [node_setContent_ne _ (Nat.ne_of_lt hid), hkeeps.node id hid]
    · rw [size_setContent]
      exact numbered_newFile hd h.folder hfree _ k id hk
    · exact (hlook k).trans (if_neg (hk Manifest.draftName []))
    · exact (hlook _).trans (if_neg (by simp [Location.lockName, Manifest.draftName]))
    · exact (Upholds.newFile h.folder hfree _).trans (.setContent _ _ _)
    · rw [Disk.content, node_setContent_regular _ (by simp) (by rw [hnode])]

theorem publishDraft_places (h : s.Stands d) (hdraft : d.root.look (s.path Manifest.draftName) = some (.file id))
    (hp : s.Passable [Manifest.draftName]) (hm : Manifest.publishDraft s.location.folder d = .ok d') :
    s.Placed [Manifest.draftName] Manifest.fileName id d d' := by
  unfold Manifest.publishDraft at hm
  simp only [route_draftName, route_fileName] at hm
  split at hm
  · next hrename =>
    cases hm
    exact rename_places h (by simpa using single_draftName) hp single_fileName hdraft (by decide) (by decide)
      hrename
  · cases hm

end Site

/-! ### Generators -/

/-- A generator that changes the files at the folder it is given, and returns an entry of it. -/
def Generator.below (library : String) (change : List String → Disk → Disk) : Generator := fun request host =>
  match follow host.disk.root linkLimit [] request.folder.route with
  | .ok key => (change key host.disk, .ok (request.folder.join library))
  | .error _ => (host.disk, .error ⟨none, ""⟩)

/-- A generator that writes the library and nothing else. -/
def scribe : Generator :=
  .below "kernel.so" fun key disk => disk.newFile (key ++ ["kernel.so"]) { content := "kernel".toUTF8 }

theorem scribe_tidy (folder : Place) (key : List String) : scribe.Tidy folder key := by
  intro request host hfolder hswept
  have hfree := hswept.empty "kernel.so" (by decide)
  have hlook := look_newFile hswept.folder hfree { content := "kernel".toUTF8 }
  have hother (name : String) (hn : name ≠ "kernel.so") (hlock : name ≠ Location.lockName) :
      (host.disk.newFile (key ++ ["kernel.so"]) { content := "kernel".toUTF8 }).root.look
        (key ++ [name]) = none := by
    rw [hlook, if_neg (by simpa using hn), hswept.empty name hlock]
  simp only [scribe, Generator.below, hfolder, hswept.route]
  refine ⟨⟨keeps_newFile _ _ _, fun hd => numbered_newFile hd hswept.folder hfree _, fun k hk => ?_, ?_⟩,
    hother _ (by decide) (by decide), hother _ (by decide) (by decide), fun library hlibrary => ?_⟩
  · rw [hlook, if_neg (hk _ [])]
  · rw [hlook, if_neg (by simp [Location.lockName])]
  · cases hlibrary
    refine ⟨["kernel.so"], rfl, by simpa using (by decide : Path.Single "kernel.so"), by decide,
      fun init hinit target => ?_, fun id hid => ?_⟩
    · rcases List.prefix_cons_iff.mp hinit with rfl | ⟨more, rfl, hmore⟩
      · rw [hlook, if_neg (by simp), List.append_nil, hswept.folder]
        nofun
      · rw [List.prefix_nil.mp hmore, hlook, if_pos rfl]
        nofun
    · rw [hlook, if_pos rfl] at hid
      cases hid
      rw [node_newFile]

end KernelForge
