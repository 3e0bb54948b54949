import KernelForge.Proofs.Cache.Depot

/-!
What a manifest says is true, whatever happened before.

A location is consistent if a manifest that counts there names a library that exists and has the digest it
says. That alone is not kept by others' steps: the library could be a file of another location.
`Site.Honest` also says that the library is a file of the location itself, and it is kept by every turn at
the site (`Honest.turn`) and at other sites (`Honest.elsewhere`). So it holds along every run of builds,
removals and cleanings with crashes anywhere, and lock files stay (`crash_consistent`).
-/
namespace KernelForge

open Disk FileTree

/-- A manifest that is for the location names a library that is there, by the right digest. -/
def Location.Consistent (l : Location) (d : Disk) : Prop :=
  ∀ m, Manifest.load? l.folder d = some m → m.isCompatible l.fingerprint = true →
    d.isFile (m.libraryPlace l.folder).route = true ∧
      ∃ content, d.read (m.libraryPlace l.folder).route = .ok content ∧ Digest.ofBytes content = m.checksum

namespace Site

variable {s : Site} {d d' : Disk} {host host' : Host} {v v' : Visit}

/-- The manifest is no link, and if it is for the location it names a file of the location, by the right
digest. -/
structure Honest (s : Site) (d : Disk) : Prop where
  no_link : ∀ target, d.root.look (s.path Manifest.fileName) ≠ some (.link target)
  shelved : ∀ id m, d.root.look (s.path Manifest.fileName) = some (.file id) → d.allows .read id = true →
    Manifest.ofBytes? (d.content id) = some m → m.isCompatible s.location.fingerprint = true →
    ∃ names file, s.Shelved d m names file

theorem honest_unpublished (h : s.Unpublished d) : s.Honest d := by
  refine ⟨fun target hlink => ?_, fun id m hfile => ?_⟩
  · rw [h] at hlink
    cases hlink
  · rw [h] at hfile
    cases hfile

theorem honest_vacant (h : d.root.look s.key = none) : s.Honest d :=
  honest_unpublished (look_none_below (List.prefix_append _ _) h)

theorem Publishes.honest {m : Manifest} (h : s.Publishes d m) : s.Honest d := by
  obtain ⟨id, hfile, _, hcontent⟩ := h.manifest
  refine ⟨fun target hlink => ?_, fun id' m' hfile' _ hm' _ => ?_⟩
  · rw [hfile] at hlink
    cases hlink
  · rw [hfile] at hfile'
    cases hfile'
    rw [hcontent, Manifest.ofBytes?_text] at hm'
    cases hm'
    exact h.library

namespace Honest

/-- The manifest stays as it is, and so do the files of the location. -/
theorem keep (h : s.Honest d) (hd : d.Numbered) (hk : Keeps d d')
    (hmanifest : d'.root.look (s.path Manifest.fileName) = d.root.look (s.path Manifest.fileName))
    (hfiles : ∀ names x, d.root.look (s.key ++ names) = some x → d'.root.look (s.key ++ names) = some x) :
    s.Honest d' := by
  refine ⟨fun target => ?_, fun id m hfile hread hm hcompatible => ?_⟩
  · rw [hmanifest]
    exact h.no_link target
  · rw [hmanifest] at hfile
    rw [hk.content (hd _ _ hfile)] at hm
    rw [hk.allows_eq (hd _ _ hfile)] at hread
    obtain ⟨names, file, hshelved⟩ := h.shelved id m hfile hread hm hcompatible
    exact ⟨names, file, hshelved.keep hd hk ((hfiles _ _ hshelved.file).trans hshelved.file.symm)⟩

theorem prepare (h : s.Honest d) (hd : d.Numbered) (hp : s.Prepares d d') : s.Honest d' :=
  h.keep hd hp.confined.keeps (hp.below (by decide) []) fun _ _ hx => hp.grows _ _ hx

theorem turn (h : s.Honest host.disk) (hd : host.disk.Numbered) (ht : s.Turn host v host' v') :
    s.Honest host'.disk := by
  cases ht with
  | rests | gives => exact h
  | comes disk stage early prepares | takes disk file stage waiting prepares => exact h.prepare hd prepares
  | acts host' v' holds stay acts =>
    cases acts.outcome with
    | still disk => rw [disk]; exact h
    | gone unpublished => exact honest_unpublished unpublished
    | published m stage yields publishes => exact publishes.honest

theorem elsewhere {other : Site} (h : other.Honest host.disk) (hapart : s.Apart other) (hd : host.disk.Numbered)
    (ht : s.Turn host v host' v') : other.Honest host'.disk :=
  h.keep hd ht.confined.keeps (hapart.look ht.confined [Manifest.fileName])
    fun names _ hx => (hapart.look ht.confined names).trans hx

theorem consistent (h : s.Honest d) (hb : s.ground.Bears d.root) : s.location.Consistent d := by
  intro m hm hcompatible
  rw [load?_eq, route_fileName] at hm
  cases hat : d.fileAt (s.route Manifest.fileName) with
  | error f => simp [hat] at hm
  | ok id =>
    rw [hat] at hm
    obtain ⟨hread, hm⟩ := Option.ite_none_right_eq_some.mp hm
    have hs : s.Stands d := by
      refine ⟨hb, ?_⟩
      rcases hb.at_key with hnone | hfolder
      · exact absurd hat (fileAt_absent hb hnone single_fileName id)
      · exact hfolder
    obtain ⟨hfile, _⟩ := look_of_fileAt hs (by simpa using single_fileName) (straight_entry hs h.no_link) hat
    obtain ⟨names, file, hshelved⟩ := h.shelved id m hfile hread hm hcompatible
    rw [hshelved.route]
    exact ⟨hs.isFile_file hshelved.single hshelved.file hshelved.passable hshelved.regular, _,
      hs.read_file hshelved.single hshelved.file hshelved.passable hshelved.readable,
      hshelved.checksum⟩

end Honest

end Site

/-! ### Runs -/

section Runs

variable {ι : Type} {e : Estate ι} {c c' : Crowd} {deed : Deed} {deeds : List Deed}

theorem Effect.honest (hc : Effect e c deed c') (hd : c.host.disk.Numbered)
    (h : ∀ a, (e.site a).Honest c.host.disk) (a : ι) : (e.site a).Honest c'.host.disk := by
  cases hc with
  | idle | enters | proceeds => exact h a
  | turns i generator v rest b queue location admits turn =>
    by_cases hab : b = a
    · subst hab
      exact (h b).turn hd turn
    · exact (h a).elsewhere (e.apart b a hab) hd turn
  | crashes i v rest queue =>
    rw [show (c.put (Crowd.drop c.host v) i []).host.disk = c.host.disk from Crowd.disk_drop c.host v]
    exact h a

theorem Effect.lock_kept (hc : Effect e c deed c') {a : ι} {file : Nat}
    (h : c.host.disk.root.look ((e.site a).path Location.lockName) = some (.file file)) :
    c'.host.disk.root.look ((e.site a).path Location.lockName) = some (.file file) := by
  cases hc with
  | idle | enters | proceeds => exact h
  | turns i generator v rest b queue location admits turn =>
    by_cases hab : b = a
    · subst hab
      exact turn.lock_kept h
    · exact ((e.apart b a hab).look turn.confined [Location.lockName]).trans h
  | crashes i v rest queue =>
    rw [show (c.put (Crowd.drop c.host v) i []).host.disk = c.host.disk from Crowd.disk_drop c.host v]
    exact h

theorem Effect.keeps (hc : Effect e c deed c') : Keeps c.host.disk c'.host.disk := by
  cases hc with
  | idle | enters | proceeds => exact .refl _
  | turns i generator v rest b queue location admits turn => exact turn.confined.keeps
  | crashes i v rest queue =>
    exact .of_nodes (congrArg Disk.nodes (Crowd.disk_drop c.host v))
      (congrArg Disk.privileged (Crowd.disk_drop c.host v))

/-- Files that were there at the beginning of a run hold what they held. -/
theorem Orderly.run_keeps (ho : Orderly e c) (hdeeds : ∀ deed ∈ deeds, e.Allows deed) :
    Keeps c.host.disk (c.run deeds).host.disk := by
  induction deeds generalizing c with
  | nil => exact .refl _
  | cons deed deeds ih =>
    have hdeed := hdeeds deed List.mem_cons_self
    exact (ho.effect hdeed).keeps.trans (ih (ho.act hdeed) fun d hd => hdeeds d (List.mem_cons_of_mem _ hd))

theorem Orderly.always_honest (ho : Orderly e c) (h : ∀ a, (e.site a).Honest c.host.disk)
    (hdeeds : ∀ deed ∈ deeds, e.Allows deed) :
    c.Always (fun c => ∀ a, (e.site a).location.Consistent c.host.disk) deeds := by
  have hnow : ∀ a, (e.site a).location.Consistent c.host.disk := fun a => (h a).consistent (ho.ready.bears a)
  induction deeds generalizing c with
  | nil => exact Crowd.always_nil hnow
  | cons deed deeds ih =>
    have hdeed := hdeeds deed List.mem_cons_self
    have hnext := ho.act hdeed
    have hhonest := (ho.effect hdeed).honest ho.ready.numbered h
    exact Crowd.always_cons hnow (ih hnext hhonest (fun d hd => hdeeds d (List.mem_cons_of_mem _ hd))
      fun a => (hhonest a).consistent (hnext.ready.bears a))

theorem Orderly.run_lock_kept (ho : Orderly e c) (hdeeds : ∀ deed ∈ deeds, e.Allows deed) {a : ι} {file : Nat}
    (h : c.host.disk.root.look ((e.site a).path Location.lockName) = some (.file file)) :
    (c.run deeds).host.disk.root.look ((e.site a).path Location.lockName) = some (.file file) := by
  induction deeds generalizing c with
  | nil => exact h
  | cons deed deeds ih =>
    have hdeed := hdeeds deed List.mem_cons_self
    exact ih (ho.act hdeed) (fun d hd => hdeeds d (List.mem_cons_of_mem _ hd)) ((ho.effect hdeed).lock_kept h)

/-- A lock file is found by its route exactly if it is at its path and its name can be followed. -/
theorem Site.fileAt_lockFile {s : Site} {d : Disk} (hb : s.ground.Bears d.root)
    (hlink : ∀ target, d.root.look (s.path Location.lockName) ≠ some (.link target)) (file : Nat) :
    d.fileAt s.location.lockFile.route = .ok file ↔
      d.root.look (s.path Location.lockName) = some (.file file) ∧ s.fault? Location.lockName = none := by
  rw [Location.lockFile, Site.route_entry single_lockName]
  constructor
  · intro hat
    rcases hb.at_key with hnone | hfolder
    · exact absurd hat (Site.fileAt_absent hb hnone single_lockName file)
    · have hs : s.Stands d := ⟨hb, hfolder⟩
      obtain ⟨hlock, hp⟩ :=
        Site.look_of_fileAt hs (by simpa using single_lockName) (Site.straight_entry hs hlink) hat
      exact ⟨hlock, Site.passable_single.mp hp⟩
  · rintro ⟨hlock, hfault⟩
    have hs : s.Stands d := ⟨hb, look_folder_of_below hlock⟩
    exact hs.fileAt_file (by simpa using single_lockName) hlock (Site.passable_single.mpr hfault)

theorem Orderly.run_lockFile (ho : Orderly e c) (hdeeds : ∀ deed ∈ deeds, e.Allows deed) {a : ι} {file : Nat}
    (h : c.host.disk.fileAt (e.site a).location.lockFile.route = .ok file) :
    (c.run deeds).host.disk.fileAt (e.site a).location.lockFile.route = .ok file := by
  have hafter := ho.run hdeeds
  obtain ⟨hlock, hfault⟩ := (Site.fileAt_lockFile (ho.ready.bears a) (ho.ready.no_link a) file).mp h
  exact (Site.fileAt_lockFile (hafter.ready.bears a) (hafter.ready.no_link a) file).mpr
    ⟨ho.run_lock_kept hdeeds hlock, hfault⟩

end Runs

namespace Depot

variable {depot : Depot} {host : Host}

/-- A cache to begin with: the locations in use are folders or missing, no lock file is a link, and
manifests are honest. -/
structure Sound (depot : Depot) (host : Host) : Prop where
  numbered : host.disk.Numbered
  bears : depot.ground.Bears host.disk.root
  folders : ∀ fp, depot.kernels fp →
    host.disk.root.look (depot.folder fp) = none ∨ host.disk.root.look (depot.folder fp) = some .folder
  locks : ∀ fp, depot.kernels fp → ∀ target,
    host.disk.root.look (depot.folder fp ++ [Location.lockName]) ≠ some (.link target)
  honest : ∀ fp h, (depot.site fp h).Honest host.disk

theorem Sound.ready (h : depot.Sound host) : depot.estate.Ready host :=
  ⟨h.numbered, fun a => depot.bears_site a.2 h.bears (h.folders a.1 a.2), fun a => h.locks a.1 a.2⟩

/-- A cache without locations is a cache to begin with. -/
theorem sound_empty (hd : host.disk.Numbered) (hb : depot.ground.Bears host.disk.root)
    (h : ∀ fp, depot.kernels fp → host.disk.root.look (depot.folder fp) = none) : depot.Sound host := by
  refine ⟨hd, hb, fun fp hfp => .inl (h fp hfp), fun fp hfp target hlink => ?_,
    fun fp hfp => Site.honest_vacant (h fp hfp)⟩
  rw [look_none_below (List.prefix_append _ _) (h fp hfp)] at hlink
  cases hlink

/-- **Manifests are true at every moment, and lock files stay.** -/
theorem crash_consistent (depot : Depot) (host : Host) (hsound : depot.Sound host) (deeds : List Deed)
    (hdeeds : ∀ deed ∈ deeds, depot.Serves deed) (fp : Fingerprint) (hfp : depot.kernels fp) :
    (Crowd.start host).Always (fun c => (Location.of depot.root fp).Consistent c.host.disk) deeds ∧
      ∀ before after, deeds = before ++ after → ∀ file,
        ((Crowd.start host).run before).host.disk.fileAt (Location.of depot.root fp).lockFile.route = .ok file →
        ((Crowd.start host).run deeds).host.disk.fileAt (Location.of depot.root fp).lockFile.route = .ok file := by
  have hstart : Orderly depot.estate (.start host) := .start hsound.ready
  have hallows : ∀ deed ∈ deeds, depot.estate.Allows deed := fun deed hdeed => (hdeeds deed hdeed).allows
  refine ⟨fun before hbefore => ?_, fun before after he file hlock => ?_⟩
  · exact hstart.always_honest (fun a => hsound.honest a.1 a.2) hallows before hbefore ⟨fp, hfp⟩
  · subst he
    rw [Crowd.run_append]
    have hmid := hstart.run fun d hd => hallows d (List.mem_append_left _ hd)
    exact hmid.run_lockFile (a := ⟨fp, hfp⟩) (fun d hd => hallows d (List.mem_append_right _ hd)) hlock

/-! ### Examples -/

/-- A kernel is built, another build of it crashes when its generator has run, and then the kernel is
removed and the cache is cleaned. -/
def storm : List Deed :=
  let moves (i count : Nat) : List Deed := List.replicate count (.move i scribe)
  .enter 0 vacantStore (ask ⟨"kernel"⟩) :: moves 0 11 ++
    .enter 1 ⟨vacant.root, .debug, false⟩ (ask ⟨"kernel"⟩) :: moves 1 6 ++
    .crash 1 :: .enter 2 vacantStore (.remove ⟨"kernel"⟩) :: moves 2 7 ++ .enter 3 vacantStore .clean :: moves 3 7

theorem kernels_storm : vacant.kernels ⟨"kernel"⟩ := ⟨by decide, by decide⟩

theorem sound_vacant : vacant.Sound {} :=
  sound_empty numbered_empty bears_vacant fun _ _ => rfl

theorem serves_storm : ∀ deed ∈ storm, vacant.Serves deed := by
  intro deed hdeed
  have henter (i : Nat) (store : Store) (wish : Wish) (hroot : store.root = vacant.root)
      (hwish : ∀ fp, wish.fingerprint? = some fp → fp = ⟨"kernel"⟩) : vacant.Serves (.enter i store wish) :=
    ⟨hroot, fun fp hfp => hwish fp hfp ▸ kernels_storm⟩
  have hmove (i : Nat) : vacant.Serves (.move i scribe) := fun _ _ => scribe_tidy _ _
  simp only [storm, List.mem_append, List.mem_cons, List.mem_replicate] at hdeed
  rcases hdeed with (((rfl | ⟨_, rfl⟩) | rfl | ⟨_, rfl⟩) | rfl | rfl | ⟨_, rfl⟩) | rfl | ⟨_, rfl⟩
  · exact henter 0 _ _ rfl fun _ hfp => (Option.some.inj hfp).symm
  · exact hmove 0
  · exact henter 1 _ _ rfl fun _ hfp => (Option.some.inj hfp).symm
  · exact hmove 1
  · trivial
  · exact henter 2 _ _ rfl fun _ hfp => (Option.some.inj hfp).symm
  · exact hmove 2
  · exact henter 3 _ _ rfl nofun
  · exact hmove 3

/-- The manifest is there after the first build. -/
theorem crash_consistent_storm :
    vacant.Sound {} ∧ (∀ deed ∈ storm, vacant.Serves deed) ∧ vacant.kernels ⟨"kernel"⟩ ∧
      ((Crowd.start {}).run (storm.take 12)).host.disk.isFile ["cache", "kernel", "artifact.json"] = true ∧
      (Crowd.start {}).Always (fun c => (Location.of vacant.root ⟨"kernel"⟩).Consistent c.host.disk) storm ∧
      ∀ before after, storm = before ++ after → ∀ file,
        ((Crowd.start {}).run before).host.disk.fileAt (Location.of vacant.root ⟨"kernel"⟩).lockFile.route =
          .ok file →
        ((Crowd.start {}).run storm).host.disk.fileAt (Location.of vacant.root ⟨"kernel"⟩).lockFile.route =
          .ok file :=
  ⟨sound_vacant, serves_storm, kernels_storm, by decide +kernel,
    crash_consistent vacant {} sound_vacant storm serves_storm ⟨"kernel"⟩ kernels_storm⟩

/-- A manifest of one location that names a library of another one. -/
def borrowed : Manifest where
  formatVersion := Manifest.currentFormat
  toolVersion := Manifest.currentTool
  fingerprint := ⟨"b"⟩
  target := .cpu
  library := "../a/kernel.so"
  checksum := .ofBytes "kernel".toUTF8
  formula := "x"
  aliases := ""
  precision := .float32

/-- A disk with that manifest and the library. -/
def borrowing : Disk where
  root := .folder 0 [("cache", .folder 1
    [("a", .folder 2 [("kernel.so", .file 4)]), ("b", .folder 3 [("artifact.json", .file 5)])])]
  nodes := #[{}, {}, {}, {}, { content := "kernel".toUTF8 }, { content := borrowed.text.toUTF8 }]

/-- Somebody removes what the other location holds. -/
def removal : List Deed := .enter 0 vacantStore (.remove ⟨"a"⟩) :: List.replicate 7 (.move 0 scribe)

theorem manifest_borrowing {id : Nat} {m : Manifest} (h : Manifest.ofBytes? (borrowing.content id) = some m) :
    m = borrowed := by
  have hempty : Manifest.ofBytes? .empty = none := by decide +kernel
  have hlibrary : Manifest.ofBytes? "kernel".toUTF8 = none := by decide +kernel
  unfold Disk.content Disk.node at h
  cases hnode : borrowing.nodes[id]? with
  | none =>
    rw [hnode, Option.getD_none, hempty] at h
    cases h
  | some node =>
    have hmem := Array.mem_of_getElem? hnode
    simp only [borrowing, List.mem_toArray, List.mem_cons, List.not_mem_nil, or_false] at hmem
    rw [hnode, Option.getD_some] at h
    rcases hmem with rfl | rfl | rfl | rfl | rfl | rfl
    · rw [hempty] at h
      cases h
    · rw [hempty] at h
      cases h
    · rw [hempty] at h
      cases h
    · rw [hempty] at h
      cases h
    · rw [hlibrary] at h
      cases h
    · dsimp only at h
      rw [Manifest.ofBytes?_text] at h
      exact (Option.some.inj h).symm

/-- So far, everything on that disk is consistent. -/
theorem consistent_borrowing (fp : Fingerprint) : (Location.of vacant.root fp).Consistent borrowing := by
  intro m hm hcompatible
  rw [Site.load?_eq] at hm
  split at hm
  · next id hid =>
    split at hm
    · rw [manifest_borrowing hm] at hcompatible ⊢
      obtain rfl : ⟨"b"⟩ = fp := by simpa [Manifest.isCompatible, borrowed, Location.of] using hcompatible
      have hread : borrowing.fileAt (borrowed.libraryPlace (Location.of vacant.root ⟨"b"⟩).folder).route =
          .ok 4 := by
        decide +kernel
      refine ⟨by decide +kernel, borrowing.content 4, ?_, by decide +kernel⟩
      rw [Disk.read, hread]
      exact if_pos (by decide)
    · cases hm
  · cases hm

theorem look_borrowing {k : List String} {x : Spot} (h : borrowing.root.look k = some x) :
    x = .folder ∨ (k = ["cache", "a", "kernel.so"] ∧ x = .file 4) ∨
      (k = ["cache", "b", "artifact.json"] ∧ x = .file 5) := by
  -- Either file is the only entry of its folder.
  have hfile {id file : Nat} {name : String} {k : List String}
      (h : (FileTree.folder id [(name, .file file)]).look k = some x) :
        x = .folder ∨ (k = [name] ∧ x = .file file) := by
    rcases look_entries_cases h with hx | ⟨rest, rfl, hentry⟩ | hrest
    · exact .inl hx
    · obtain ⟨rfl, hx⟩ := look_file_eq hentry
      exact .inr ⟨rfl, hx⟩
    · exact .inl (look_empty_eq hrest)
  rcases look_entries_cases h with hx | ⟨k, rfl, hcache⟩ | hrest
  · exact .inl hx
  · rcases look_entries_cases hcache with hx | ⟨k, rfl, ha⟩ | hmore
    · exact .inl hx
    · rcases hfile ha with hx | ⟨rfl, hx⟩
      · exact .inl hx
      · exact .inr (.inl ⟨rfl, hx⟩)
    · rcases look_entries_cases hmore with hx | ⟨k, rfl, hb⟩ | hrest
      · exact .inl hx
      · rcases hfile hb with hx | ⟨rfl, hx⟩
        · exact .inl hx
        · exact .inr (.inr ⟨rfl, hx⟩)
      · exact .inl (look_empty_eq hrest)
  · exact .inl (look_empty_eq hrest)

theorem ready_borrowing : vacant.estate.Ready { disk := borrowing } := by
  have hroot : borrowing.root.Clear ["cache"] := by
    intro k hk
    rcases List.prefix_cons_iff.mp hk with rfl | ⟨more, rfl, hmore⟩
    · exact .inr rfl
    · rw [List.prefix_nil.mp hmore]
      exact .inr rfl
  have hbears : vacant.ground.Bears borrowing.root :=
    Ground.bears_under (clear_empty 0 _) hroot fun k x hk hx => by
      cases k with
      | nil => exact absurd List.nil_prefix hk
      | cons n rest => cases hx
  refine ⟨fun key id hfile => ?_, fun a => vacant.bears_site a.2 hbears ?_, fun a target hlink => ?_⟩
  · obtain hx | ⟨_, hx⟩ | ⟨_, hx⟩ := look_borrowing hfile <;> cases hx <;> decide
  · cases hlook : borrowing.root.look (vacant.folder a.1) with
    | none => exact .inl rfl
    | some x =>
      obtain rfl | ⟨hk, _⟩ | ⟨hk, _⟩ := look_borrowing hlook
      · exact .inr rfl
      · cases congrArg List.length hk
      · cases congrArg List.length hk
  · obtain hx | ⟨_, hx⟩ | ⟨_, hx⟩ := look_borrowing hlink <;> cases hx

/-- **A manifest that names a library of another location is not safe.** Nothing is wrong with any manifest
before somebody removes the other location, and one is after it. -/
theorem removal_breaks_borrower :
    (∀ fp, (Location.of vacant.root fp).Consistent borrowing) ∧
      ¬(Location.of vacant.root ⟨"b"⟩).Consistent ((Crowd.start { disk := borrowing }).run removal).host.disk := by
  refine ⟨consistent_borrowing, fun h => ?_⟩
  have hserves : ∀ deed ∈ removal, vacant.Serves deed := by
    intro deed hdeed
    rcases List.mem_cons.mp hdeed with rfl | hdeed
    · exact ⟨rfl, fun fp hfp => by cases hfp; exact ⟨by decide, by decide⟩⟩
    · rw [List.eq_of_mem_replicate hdeed]
      exact fun _ _ => scribe_tidy _ _
  have hkeeps := (Orderly.start ready_borrowing).run_keeps fun deed hdeed => (hserves deed hdeed).allows
  have hfile : ((Crowd.start { disk := borrowing }).run removal).host.disk.fileAt
      ((Location.of vacant.root ⟨"b"⟩).folder.join Manifest.fileName).route = .ok 5 := by
    decide +kernel
  have hload : Manifest.load? (Location.of vacant.root ⟨"b"⟩).folder
      ((Crowd.start { disk := borrowing }).run removal).host.disk = some borrowed := by
    rw [Site.load?_eq, hfile]
    show (if Disk.allows _ .read 5 then Manifest.ofBytes? (Disk.content _ 5) else none) = some borrowed
    rw [if_pos (hkeeps.allows (by decide))]
    have hcontent : borrowing.content 5 = borrowed.text.toUTF8 := by
      simp [Disk.content, Disk.node, borrowing]
    rw [hkeeps.content (by decide), Crowd.start]
    dsimp only
    rw [hcontent, Manifest.ofBytes?_text]
  have hmissing : ((Crowd.start { disk := borrowing }).run removal).host.disk.isFile
      (borrowed.libraryPlace (Location.of vacant.root ⟨"b"⟩).folder).route = false := by
    decide +kernel
  rw [(h borrowed hload (by decide)).1] at hmissing
  cases hmissing

end Depot

end KernelForge
