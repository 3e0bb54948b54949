import KernelForge.Proofs.Cache.Vacancy
import KernelForge.Proofs.Fingerprint.Recognition
import KernelForge.Proofs.Loading.Binding

/-!
What listing and cleaning see of a cache.

The fingerprints of a cache are those of the locations that are there (`Store.mem_fingerprints`): a name is
recognized or not, and a location that can be reached is an entry of the root (`Store.entry_of_isFolder`).
So the list is that of everything published, in order (`Store.mem_list`, `Store.pairwise_list`). Cleaning
removes at each of the fingerprints, which leaves every location without anything but its lock file
(`Store.clean_settles`), and then nothing is listed, published or left to clean (`Store.list_clean_exact`).
A root with an empty path is taken for one that is missing (`nameless_root_unseen`).
-/
namespace KernelForge

open Disk FileTree

/-- A folder that could be listed can be listed when names have gone, or it is missing. -/
theorem Dwindles.list {d d' : Disk} {route names : List String} (h : Dwindles d d') (hup : Upholds d d')
    (hlist : d.list route = .ok names) :
    (∃ names', d'.list route = .ok names') ∨ d'.list route = .error .notFound := by
  obtain ⟨key, hlocate, hfolder, _⟩ := list_eq_ok hlist
  have hfades : ∀ k x, d'.root.look k = some x → d.root.look k = some x ∨ d.root.look k = none := by
    intro k x hx
    rcases h.look k x hx with hold | ⟨_, _, _, _, _, hnone⟩
    · exact .inl hold
    · exact .inr hnone
  obtain ⟨hflaw, left, hleads⟩ := locate_eq_ok_iff.mp hlocate
  rcases follow_fades hfades hleads with hfollow | hfollow
  · have hlocate' : d'.locate route = .ok key := by rw [Disk.locate, hflaw]; exact hfollow
    cases hx : d'.root.look key with
    | none =>
      right
      simp only [Disk.list, walk, hlocate', Disk.get?, look_eq_none_iff.mp hx]
    | some x =>
      left
      rcases hfades key x hx with hold | hnone
      · obtain rfl := Option.some.inj (hfolder.symm.trans hold)
        have hagain := list_folder hlocate' hx
        rwa [if_pos (hup _ _ hx fun _ => opens_of_list hlocate hlist)] at hagain
      · rw [hfolder] at hnone
        cases hnone
  · exact .inr (by simp [Disk.list, walk, Disk.locate, hflaw, hfollow])

namespace Store

variable {store : Store} {disk : Disk} {fps : List Fingerprint} {fp : Fingerprint} {p : Published}
  {l : List Published}

/-- The fingerprints of a cache: none if there is no root, and else those of the folders in it that are
recognized. -/
theorem fingerprints_ok (h : store.fingerprints disk = .ok fps) :
    ((store.root.text = "" ∨ disk.list store.root.route = .error .notFound) ∧ fps = []) ∨
      ∃ names, disk.list store.root.route = .ok names ∧
        fps.Nodup ∧
        ∀ fp, fp ∈ fps ↔ fp.name ∈ names ∧ Fingerprint.ofDirectory? fp.name = some fp ∧
          disk.isFolder (store.location fp).folder.route = true := by
  unfold fingerprints at h
  split at h
  · next htext =>
    cases h
    exact .inl ⟨.inl htext, rfl⟩
  · split at h
    · next names hlist =>
      cases h
      refine .inr ⟨names, hlist, ?_, fun fp => ?_⟩
      · refine List.pairwise_filterMap.mpr (((nodup_of_list hlist).filter _).imp ?_)
        intro a b hne fp hfp fp' hfp'
        rw [← (Fingerprint.ofDirectory?_eq_some hfp).1, ← (Fingerprint.ofDirectory?_eq_some hfp').1] at hne
        exact fun heq => hne (congrArg Fingerprint.name heq)
      · simp only [List.mem_filterMap, List.mem_filter]
        constructor
        · rintro ⟨name, ⟨hmem, hfolder⟩, hfp⟩
          obtain ⟨rfl, _⟩ := Fingerprint.ofDirectory?_eq_some hfp
          exact ⟨hmem, hfp, hfolder⟩
        · rintro ⟨hmem, hfp, hfolder⟩
          exact ⟨fp.name, ⟨hmem, hfolder⟩, hfp⟩
    · next hlist =>
      cases h
      exact .inl ⟨.inr hlist, rfl⟩
    · cases h

theorem single_of_fingerprints (h : store.fingerprints disk = .ok fps) : ∀ fp ∈ fps, Path.Single fp.name := by
  intro fp hmem
  rcases fingerprints_ok h with ⟨_, rfl⟩ | ⟨_, _, _, hfps⟩
  · cases hmem
  · exact (Fingerprint.ofDirectory?_eq_some ((hfps fp).mp hmem).2.1).2

/-- Whatever the root cannot be listed for, it is missing. -/
theorem fingerprints_listable (h : (∃ names, disk.list store.root.route = .ok names) ∨
    disk.list store.root.route = .error .notFound) : ∃ fps, store.fingerprints disk = .ok fps := by
  unfold fingerprints
  split
  · exact ⟨_, rfl⟩
  · rcases h with ⟨names, hlist⟩ | hlist
    · rw [hlist]
      exact ⟨_, rfl⟩
    · rw [hlist]
      exact ⟨_, rfl⟩

theorem entry_of_isFolder (hname : Path.Single fp.name)
    (h : disk.isFolder (store.location fp).folder.route = true) :
    ∃ base, disk.locate store.root.route = .ok base ∧ disk.root.look base = some .folder ∧
      disk.root.look (base ++ [fp.name]) ≠ none := by
  obtain ⟨hflaw, left, key, hleads, _⟩ := Disk.isFolder_iff.mp h
  rw [location, Location.of, Place.route_join _ hname] at hflaw hleads
  obtain ⟨left', base, hbase, hlast⟩ := hleads.split
  have hlocate : disk.locate store.root.route = .ok base := by
    rw [locate_eq_ok_iff]
    by_cases hslash : store.root.route.getLast? = some ""
    · rw [← withoutSlash_append hslash]
      exact ⟨flaw?_none_of_le hflaw (by decide) (Nat.zero_le _), left',
        hbase.append (.stay hlast.folder (.inl rfl) .here)⟩
    · rw [withoutSlash_of_last hslash] at hflaw hbase
      exact ⟨flaw?_none_init hflaw, left', hbase⟩
  obtain ⟨x, hx⟩ := hlast.found hname.1
  exact ⟨base, hlocate, hlast.folder, by rw [hx]; exact Option.some_ne_none x⟩

theorem mem_fingerprints (hroot : store.root.text ≠ "") (h : store.fingerprints disk = .ok fps) :
    fp ∈ fps ↔ Fingerprint.ofDirectory? fp.name = some fp ∧
      disk.isFolder (store.location fp).folder.route = true := by
  rcases fingerprints_ok h with ⟨hnone, rfl⟩ | ⟨names, hlist, _, hfps⟩
  · refine ⟨nofun, fun ⟨hfp, hfolder⟩ => ?_⟩
    obtain ⟨base, hlocate, hbase, _⟩ := entry_of_isFolder (Fingerprint.ofDirectory?_eq_some hfp).2 hfolder
    have hlist := list_folder hlocate hbase
    rcases hnone with htext | hmissing
    · exact absurd htext hroot
    · rw [hmissing] at hlist
      split at hlist
      · obtain ⟨_, hlist⟩ := hlist
        cases hlist
      · cases hlist
  · rw [hfps]
    refine ⟨fun h => h.2, fun h => ⟨?_, h⟩⟩
    obtain ⟨base, hlocate, _, hentry⟩ := entry_of_isFolder (Fingerprint.ofDirectory?_eq_some h.1).2 h.2
    obtain ⟨base', hlocate', _, hnames⟩ := Disk.list_eq_ok hlist
    obtain rfl := Except.ok.inj (hlocate.symm.trans hlocate')
    exact (hnames fp.name).mpr hentry

theorem isFolder_of_published? (hname : Path.Single fp.name) (h : store.published? fp disk = some p) :
    disk.isFolder (store.location fp).folder.route = true := by
  by_contra hfolder
  have hnone : store.published? fp disk = none :=
    Location.published?_eq_none (Location.ends_of hname)
      fun key hat => absurd (Location.StandsAt.isFolder_iff.mpr ⟨key, hat⟩) hfolder
  rw [h] at hnone
  cases hnone

theorem list_eq_ok (h : store.list disk = .ok l) :
    ∃ fps, store.fingerprints disk = .ok fps ∧
      l = (FlagSet.ofList (fps.map Fingerprint.name)).toList.filterMap fun name =>
        store.published? ⟨name⟩ disk := by
  unfold list at h
  split at h
  · next fps hfps =>
    cases h
    exact ⟨fps, hfps, rfl⟩
  · cases h

/-- What is listed is what the fingerprints of the cache publish. -/
theorem mem_of_list_eq_ok (h : store.list disk = .ok l) : ∃ fps, store.fingerprints disk = .ok fps ∧
    ∀ p, p ∈ l ↔ ∃ fp ∈ fps, store.published? fp disk = some p := by
  obtain ⟨fps, hfps, rfl⟩ := list_eq_ok h
  refine ⟨fps, hfps, fun p => ?_⟩
  simp only [List.mem_filterMap, FlagSet.mem_ofList, List.mem_map]
  constructor
  · rintro ⟨_, ⟨fp, hfp, rfl⟩, hp⟩
    exact ⟨fp, hfp, hp⟩
  · rintro ⟨fp, hfp, hp⟩
    exact ⟨_, ⟨fp, hfp, rfl⟩, hp⟩

theorem list_singleton (hfps : store.fingerprints disk = .ok [fp]) (hp : store.published? fp disk = some p) :
    store.list disk = .ok [p] := by
  rw [list, hfps]
  show Except.ok (List.filterMap (fun name => store.published? ⟨name⟩ disk) [fp.name]) = _
  simp [hp]

theorem mem_list (hroot : store.root.text ≠ "") (h : store.list disk = .ok l)
    (hfp : Fingerprint.ofDirectory? fp.name = some fp) :
    store.published? fp disk = some p ↔ p ∈ l ∧ p.fingerprint = fp := by
  obtain ⟨fps, hfps, hmem⟩ := mem_of_list_eq_ok h
  rw [hmem]
  constructor
  · intro hp
    have hfolder := isFolder_of_published? (Fingerprint.ofDirectory?_eq_some hfp).2 hp
    exact ⟨⟨fp, (mem_fingerprints hroot hfps).mpr ⟨hfp, hfolder⟩, hp⟩, Location.fingerprint_published? hp⟩
  · rintro ⟨⟨fp', _, hp⟩, rfl⟩
    rwa [show p.fingerprint = fp' from Location.fingerprint_published? hp]

theorem mem_list_iff (hroot : store.root.text ≠ "") (h : store.list disk = .ok l) :
    p ∈ l ↔ ∃ names name fp, disk.list store.root.route = .ok names ∧ name ∈ names ∧
      Fingerprint.ofDirectory? name = some fp ∧ Published.read? (store.root.join name) fp disk = some p := by
  constructor
  · intro hmem
    obtain ⟨fps, hfps, hlisted⟩ := mem_of_list_eq_ok h
    obtain ⟨fp, hfp, hp⟩ := (hlisted p).mp hmem
    rcases fingerprints_ok hfps with ⟨_, rfl⟩ | ⟨names, hlist, _, hall⟩
    · cases hfp
    · obtain ⟨hname, hof, _⟩ := (hall fp).mp hfp
      exact ⟨names, fp.name, fp, hlist, hname, hof, hp⟩
  · rintro ⟨_, name, fp, _, _, hof, hp⟩
    obtain ⟨rfl, _⟩ := Fingerprint.ofDirectory?_eq_some hof
    exact ((mem_list hroot h hof).mp hp).1

theorem pairwise_list (h : store.list disk = .ok l) :
    l.Pairwise fun p q => p.fingerprint.name < q.fingerprint.name := by
  obtain ⟨fps, hfps, rfl⟩ := list_eq_ok h
  refine List.pairwise_filterMap.mpr ((FlagSet.ofList _).ascending.imp fun {a b} hlt p hp q hq => ?_)
  rwa [show p.fingerprint = ⟨a⟩ from Location.fingerprint_published? hp,
    show q.fingerprint = ⟨b⟩ from Location.fingerprint_published? hq]

/-! ### Cleaning -/

section Clean

variable {host host' : Host}

/-- Removing cleared locations one after the other removes nothing. -/
theorem removeEach_settled (todo : List Fingerprint) (h : ∀ fp ∈ todo, (store.location fp).Settled host) :
    (store.removeEach todo host).2 = .ok 0 := by
  induction todo generalizing host with
  | nil => rfl
  | cons fp todo ih =>
    obtain ⟨hsettled, hrest⟩ := List.forall_mem_cons.mp h
    have hagain : (store.remove fp host).2 = .ok false := by
      rw [remove_eq]
      exact hsettled.again store.impatient
    have hplain : store.PlainLocks [fp] host.disk := by
      intro fp' hmem key hat
      obtain rfl := List.mem_singleton.mp hmem
      obtain ⟨file, hfile, _⟩ := (hsettled key hat).lock
      rw [hfile]
      nofun
    obtain ⟨hpurges, _⟩ := (remove_purges List.mem_cons_self hplain).2 false hagain
    rw [removeEach_cons]
    rcases hremove : store.remove fp host with ⟨host₁, r⟩
    rw [hremove] at hagain hpurges
    obtain rfl : r = .ok false := hagain
    have heach := @ih host₁ fun fp' hmem => hpurges.settled (hrest fp' hmem)
    dsimp only
    rcases hrest : store.removeEach todo host₁ with ⟨host₂, r⟩
    rw [hrest] at heach
    obtain rfl : r = .ok 0 := heach
    rfl

/-- Cleaning leaves nothing but lock files in the locations of a cache. -/
theorem clean_settles (hroot : store.root.text ≠ "")
    (hplain : ∀ fps, store.fingerprints host.disk = .ok fps → store.PlainLocks fps host.disk) {n : Nat}
    (h : store.clean host = (host', .ok n)) :
    (∀ fp, Fingerprint.ofDirectory? fp.name = some fp → (store.location fp).Settled host') ∧
      ∃ fps, store.fingerprints host'.disk = .ok fps := by
  unfold clean at h
  cases hfps : store.fingerprints host.disk with
  | error e =>
    rw [hfps] at h
    cases h
  | ok fps =>
    rw [hfps] at h
    have hsucceeds := (removeEach_purges fps (fun _ h => h) (hplain fps hfps)).2
    rw [show store.removeEach fps host = _ from h] at hsucceeds
    obtain ⟨hpurges, hsettled⟩ := hsucceeds n rfl
    constructor
    · intro fp hfp key hat
      have hfolder := Location.StandsAt.isFolder_iff.mpr ⟨key, hat.before hpurges.dwindles.narrows⟩
      exact hsettled fp ((mem_fingerprints hroot hfps).mpr ⟨hfp, hfolder⟩) key hat
    · rcases fingerprints_ok hfps with ⟨_, rfl⟩ | ⟨names, hlist, _⟩
      · obtain rfl : host = host' := (Prod.mk.inj h).1
        exact ⟨[], hfps⟩
      · exact fingerprints_listable (hpurges.dwindles.list hpurges.upholds hlist)

end Clean

/-- **Listing and cleaning see exactly the cache**, unless the path of its root is empty. What is listed is
in the order of the fingerprints, and is what the recognized entries of the root publish; every kernel that
is published is among it. Where no lock file is a symbolic link, a cleaning that succeeds leaves nothing to
list, to resolve or to clean. -/
theorem list_clean_exact (store : Store) (hroot : store.root.text ≠ "") :
    (∀ disk l, store.list disk = .ok l →
      l.Pairwise (fun p q => p.fingerprint.name < q.fingerprint.name) ∧
      (∀ p, p ∈ l ↔ ∃ names name fp, disk.list store.root.route = .ok names ∧ name ∈ names ∧
        Fingerprint.ofDirectory? name = some fp ∧ Published.read? (store.root.join name) fp disk = some p) ∧
      ∀ spec name target p, Target.create? name = some target →
        (store.published? (.of spec target) disk = some p ↔ p ∈ l ∧ p.fingerprint = .of spec target)) ∧
    ∀ host host' n, (∀ fps, store.fingerprints host.disk = .ok fps → store.PlainLocks fps host.disk) →
      store.clean host = (host', .ok n) →
        store.list host'.disk = .ok [] ∧
        (∀ fp, Fingerprint.ofDirectory? fp.name = some fp → store.published? fp host'.disk = none) ∧
        (store.clean host').2 = .ok 0 := by
  refine ⟨fun disk l hl => ⟨pairwise_list hl, fun p => ?_, fun spec name target p htarget => ?_⟩,
    fun host host' n hplain hclean => ?_⟩
  · exact mem_list_iff hroot hl
  · exact mem_list hroot hl (Fingerprint.ofDirectory?_of spec htarget)
  · obtain ⟨hsettled, fps, hfps⟩ := clean_settles hroot hplain hclean
    have hunpublished : ∀ fp, Fingerprint.ofDirectory? fp.name = some fp → store.published? fp host'.disk = none :=
      fun fp hfp => (hsettled fp hfp).unpublished (Location.ends_of (Fingerprint.ofDirectory?_eq_some hfp).2)
    have hrecognized : ∀ fp ∈ fps, Fingerprint.ofDirectory? fp.name = some fp :=
      fun fp hmem => ((mem_fingerprints hroot hfps).mp hmem).1
    refine ⟨?_, hunpublished, ?_⟩
    · rw [list, hfps]
      simp only [Except.ok.injEq, List.filterMap_eq_nil_iff, FlagSet.mem_ofList, List.mem_map]
      rintro _ ⟨fp, hmem, rfl⟩
      exact hunpublished fp (hrecognized fp hmem)
    · rw [clean, hfps]
      exact removeEach_settled fps fun fp hmem => hsettled fp (hrecognized fp hmem)

end Store

/-! ### A kernel on a shelf -/

/-- The name of a kernel. -/
def shelvedName : String := "genred_cpu_float32_00000000000000000000000000000000"

/-- The manifest of a kernel whose library is next to it. -/
def shelvedManifest : Manifest where
  formatVersion := Manifest.currentFormat
  toolVersion := Manifest.currentTool
  fingerprint := ⟨shelvedName⟩
  target := .cpu
  library := "kernel.so"
  checksum := .ofBytes .empty
  formula := ""
  aliases := ""
  precision := .float32

/-- A folder with the folder of the kernel, in which there are a library and a file under the name of a
manifest. -/
def shelfWith (content : ByteArray) : Host where
  disk := (((({} : Disk).newFolder ["cache"] 0o755).newFolder ["cache", shelvedName] 0o755).newFile
    ["cache", shelvedName, "kernel.so"] {}).newFile ["cache", shelvedName, "artifact.json"] { content }

/-- That folder with the manifest of the kernel. -/
def shelf : Host := shelfWith shelvedManifest.text.toUTF8

/-- A cache in that folder, whose root is at a path. -/
def shelfStore (folder : List String) (path : String) : Store := ⟨.ofPath folder path, .release, false⟩

theorem shelf_published {store : Store}
    (hmanifest : shelf.disk.fileAt ((store.location ⟨shelvedName⟩).folder.join Manifest.fileName).route = .ok 4)
    (hlibrary : shelf.disk.isFile
    (shelvedManifest.libraryPlace (store.location ⟨shelvedName⟩).folder).route = true) :
    store.published? ⟨shelvedName⟩ shelf.disk =
      some ⟨(store.location ⟨shelvedName⟩).folder, shelvedManifest⟩ := by
  have hcontent : ∀ content, (shelfWith content).disk.content 4 = content := fun _ => rfl
  have hcompatible : shelvedManifest.isCompatible ⟨shelvedName⟩ = true := by decide +kernel
  exact Site.published?_of_text hmanifest rfl (hcontent _) hcompatible hlibrary

theorem shelf_plainLocks : (shelfStore [] "cache").PlainLocks [⟨shelvedName⟩] shelf.disk := by
  have hlocate : shelf.disk.locate ((shelfStore [] "cache").location ⟨shelvedName⟩).folder.route =
      .ok ["cache", shelvedName] := by decide +kernel
  have hlock : shelf.disk.root.look (["cache", shelvedName] ++ [Location.lockName]) = none := by decide +kernel
  intro fp hmem key hat target
  obtain rfl := List.mem_singleton.mp hmem
  obtain rfl := Except.ok.inj (hlocate.symm.trans hat.locate)
  rw [hlock]
  nofun

/-- The kernel is listed, and gone after cleaning. -/
theorem list_clean_exact_shelf : ∃ p host', (shelfStore [] "cache").root.text ≠ "" ∧
    (shelfStore [] "cache").list shelf.disk = .ok [p] ∧ (shelfStore [] "cache").clean shelf = (host', .ok 1) ∧
    (shelfStore [] "cache").list host'.disk = .ok [] ∧
    (shelfStore [] "cache").published? ⟨shelvedName⟩ host'.disk = none ∧
    ((shelfStore [] "cache").clean host').2 = .ok 0 := by
  have hroot : (shelfStore [] "cache").root.text ≠ "" := by decide
  have hfps : (shelfStore [] "cache").fingerprints shelf.disk = .ok [⟨shelvedName⟩] := by decide +kernel
  have hplain : ∀ fps, (shelfStore [] "cache").fingerprints shelf.disk = .ok fps →
      (shelfStore [] "cache").PlainLocks fps shelf.disk := by
    intro fps h
    obtain rfl := Except.ok.inj (hfps.symm.trans h)
    exact shelf_plainLocks
  have hlisted := Store.list_singleton hfps (shelf_published (by decide +kernel) (by decide +kernel))
  have hcount : ((shelfStore [] "cache").clean shelf).2 = .ok 1 := by decide +kernel
  rcases hclean : (shelfStore [] "cache").clean shelf with ⟨host', r⟩
  rw [hclean] at hcount
  obtain rfl : r = .ok 1 := hcount
  obtain ⟨hlist, hunpublished, hagain⟩ := (Store.list_clean_exact _ hroot).2 _ host' 1 hplain hclean
  exact ⟨_, host', hroot, hlisted, rfl, hlist, hunpublished _ (by decide +kernel), hagain⟩

/-- **A cache whose root has an empty path does not see a kernel that it publishes**, and cleaning leaves it
published. -/
theorem nameless_root_unseen :
    ((shelfStore ["cache"] "").published? ⟨shelvedName⟩ shelf.disk).isSome = true ∧
      (shelfStore ["cache"] "").list shelf.disk = .ok [] ∧ (shelfStore ["cache"] "").clean shelf =
        (shelf, .ok 0) := by
  have hpublished := @shelf_published (shelfStore ["cache"] "") (by decide +kernel) (by decide +kernel)
  exact ⟨by rw [hpublished]; rfl, rfl, rfl⟩

end KernelForge
