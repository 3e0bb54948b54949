import KernelForge.Proofs.Cache.Delivery

/-!
Generators that always leave a library.

A generator provides at a site (`Generator.Provides`) if it keeps to the location and, whenever it is run in
the empty folder, leaves a library there that can be read. Then a build that is forced, or where nothing is
published, goes well: it runs the generator once, publishes what that left, and changes nothing but its
location (`Store.build_produces`). There has to be room for the name that the library is published by. Where
there is none, each build runs the generator again, and each fails (`Store.build_cramped`).

A depot is stocked (`Depot.Stocked`) if, of the kernels that are asked for, some are published and nothing
is at the locations of the others. A build by such a generator keeps it so, with one more kernel published
(`Stocked.build`).
-/
namespace KernelForge

open Disk FileTree

/-! ### Libraries by any name -/

namespace Site

variable {s : Site} {d : Disk}

theorem movable_of_permits (h : s.Stands d) (hpermits : Location.Permits d s.key) {names : List String} {id : Nat}
    (hfile : d.root.look (s.key ++ names) = some (.file id)) (name : String) : s.Movable d names name := by
  have hfolder : d.root.look (s.key ++ names.dropLast) = some .folder := by
    rcases List.eq_nil_or_concat names with rfl | ⟨init, last, rfl⟩
    · rw [List.append_nil, h.folder] at hfile
      cases hfile
    · rw [List.concat_eq_append, List.dropLast_concat]
      rw [List.concat_eq_append, ← List.append_assoc] at hfile
      exact look_folder_of_below hfile
  simp [Movable, hpermits.folders .write _ (List.prefix_append _ _) hfolder,
    hpermits.opens .write h.folder]

theorem placeLibrary_goes (h : s.Stands d) {library : Place} {names : List String} {id : Nat} {checksum : Digest}
    (ho : Delivers s.location.folder s.key d library names)
    (hfile : d.root.look (s.key ++ names) = some (.file id)) (hp : s.Passable names) (hroom : s.Roomy)
    (hpermits : Location.Permits d s.key)
    (hfree : d.root.look (s.path (s.location.fingerprint.publishedName checksum)) ≠ some .folder) :
    ∃ d', Visit.placeLibrary s.location library checksum d = .ok d' := by
  have hsingle := Fingerprint.single_publishedName s.name checksum
  have hf := hroom checksum
  have hmovable := movable_of_permits h hpermits hfile (s.location.fingerprint.publishedName checksum)
  unfold Visit.placeLibrary
  rw [ho.place]
  generalize s.location.fingerprint.publishedName checksum = published at *
  dsimp only
  split
  · exact ⟨d, rfl⟩
  · have hroute : (s.location.folder.join published).route = s.route published := route_entry hsingle
    rw [Place.route_joinNames s.ends ho.single, hroute, rename_file h ho.single hp hsingle hfile, hf,
      if_pos hmovable]
    rw [show d.move (s.key ++ names) (s.path published) = _ from move_onto hfile h.folder hfree]
    exact ⟨_, rfl⟩

/-- A library stays where it is if there is no room for the name that it is to be published by. -/
theorem placeLibrary_cramped (h : s.Stands d) {library : Place} {names : List String} {id : Nat} {checksum : Digest}
    (ho : Delivers s.location.folder s.key d library names)
    (hfile : d.root.look (s.key ++ names) = some (.file id)) (hp : s.Passable names) (hlong : s.Cramped) :
    ∃ e, Visit.placeLibrary s.location library checksum d = .error e := by
  cases hplace : Visit.placeLibrary s.location library checksum d with
  | error e => exact ⟨e, rfl⟩
  | ok d' => exact absurd (passable_single.mp (placeLibrary_places h ho hfile hp hplace).passable) (hlong checksum)

end Site

/-! ### Builds -/

/-- A generator that keeps to the location and always leaves a library that can be read. No folder stands
where the library is to be published, and none is made or exchanged for one that the user may not list and
change. -/
structure Generator.Provides (generator : Generator) (s : Site) : Prop where
  tidy : generator.Tidy s.location.folder s.key
  library : ∀ (request : BuildRequest) (host : Host), request.folder = s.location.folder → s.Stands host.disk →
    host.disk.Numbered → s.Inside host.disk .generate → ∃ left library content,
      generator request host = (left, .ok library) ∧ left.read library.route = .ok content ∧
      left.root.look (s.path (s.location.fingerprint.publishedName (.ofBytes content))) ≠ some .folder ∧
      Upholds host.disk left

theorem scribe_provides {s : Site} (hample : s.Ample) : scribe.Provides s := by
  refine ⟨scribe_tidy _ _, fun request host hfolder hs hd hempty => ?_⟩
  have hfree : host.disk.root.look (s.path "kernel.so") = none := hempty "kernel.so" (by decide)
  have hlook := hs.look_newFile hfree { content := "kernel".toUTF8 }
  have hstands : s.Stands (host.disk.newFile (s.path "kernel.so") { content := "kernel".toUTF8 }) :=
    hs.grow (extends_newFile hs.folder hfree _)
  have hsingle : ∀ n ∈ ["kernel.so"], Path.Single n := by simpa using (by decide : Path.Single "kernel.so")
  have hread := hstands.read_file hsingle ((hlook _).trans (if_pos rfl))
    (Site.passable_single.mpr (hample.fits (by decide) (by decide)))
      (allows_push rfl (by show 0o644 &&& 0o400 ≠ 0; decide))
  rw [Disk.content, node_newFile] at hread
  refine ⟨host.disk.newFile (s.path "kernel.so") { content := "kernel".toUTF8 }, _, "kernel".toUTF8,
    Generator.below_of_follow (hfolder ▸ hs.follow), ?_, ?_, .newFile hs.folder hfree _⟩
  · rw [hfolder, show (s.location.folder.join "kernel.so").route = _ from Site.route_entry (by decide)]
    exact hread
  · have hne : s.location.fingerprint.publishedName (.ofBytes "kernel".toUTF8) ≠ "kernel.so" :=
      Fingerprint.publishedName_ne (by decide)
    have hlock : s.location.fingerprint.publishedName (.ofBytes "kernel".toUTF8) ≠ Location.lockName :=
      Fingerprint.publishedName_ne (by decide)
    rw [hlook, if_neg (Site.path_inj.not.mpr hne), hempty _ hlock]
    simp

namespace Visit

variable {s : Site} {host : Host} {v : Visit} {generator : Generator} {spec : KernelSpec} {target : Target}
  {force : Bool} {ticket : Nat}

theorem steps_confined (hg : generator.Tidy s.location.folder s.key) (n : Nat) (hv : v.location = s.location)
    (hb : s.ground.Bears host.disk.root) (hd : host.disk.Numbered)
    (hlink : ∀ target, host.disk.root.look (s.path Location.lockName) ≠ some (.link target))
    (ha : s.Admits host v) :
    Confined s.key host.disk (steps generator n host v).1.disk := by
  induction n generalizing host v with
  | zero => exact (WorksIn.refl _ _).confined
  | succ n ih =>
    have hturn := Site.turn_of_step hv hb hd hlink hg ha
    rw [steps_succ]
    exact hturn.confined.trans (ih (hturn.visit.1.trans hv) (hb.confined_own hturn.confined)
      (hturn.confined.numbered hd) (hturn.no_link hlink) (hturn.admits ha))

section Provided

variable (hg : generator.Provides s) (hv : v.location = s.location) (herrand : v.errand = .build spec target force)
  (hstage : v.stage = .generate) (hs : s.Stands host.disk) (hd : host.disk.Numbered)
  (hinside : s.Inside host.disk .generate)
include hg hv herrand hstage hs hd hinside

/-- From the empty folder on, a build by such a generator comes to know the digest of its library. -/
theorem steps_digested : ∃ left library checksum,
    (∀ n, steps generator (n + 2) host v =
      steps generator n { host with disk := left, runs := host.runs + 1 } (v.goto (.place library checksum))) ∧
    WorksIn s.key host.disk left ∧ Upholds host.disk left ∧ s.Inside left (.place library checksum) ∧
    left.root.look (s.path (s.location.fingerprint.publishedName checksum)) ≠ some .folder := by
  obtain ⟨left, library, content, hgenerator, hread, hfree, hup⟩ :=
    hg.library ⟨spec, target, s.location.fingerprint, s.location.folder⟩ host rfl hs hd hinside
  have h₁ := step_generates hv herrand hstage hgenerator
  have hacts₁ := acts_of_step h₁ (Site.step_generate hv hs hd hg.tidy hstage hinside)
  have h₂ := @step_digests v generator library { host with disk := left, runs := host.runs + 1 } content hread
  have hacts₂ := acts_of_step h₂ (Site.step_digest (hs.confined hacts₁.works.confined) rfl hacts₁.inside)
  refine ⟨left, library, .ofBytes content, fun n => ?_, hacts₁.works, hup, hacts₂.inside, hfree⟩
  rw [steps_of_step h₁, steps_of_step h₂]

variable (hticket : v.ticket = some ticket)
include hticket

/-- If there is room for the name of the library, the build goes well. -/
theorem steps_provided (hroom : s.Roomy) (hpermits : Location.Permits host.disk s.key) : ∃ final m,
    steps generator 6 host v = (({ host with disk := final, runs := host.runs + 1 } : Host).unlock ticket,
      v.goto (.done (.ok (.published ⟨s.location.folder, m⟩)))) ∧
    WorksIn s.key host.disk final ∧ Upholds host.disk final ∧ s.Publishes final m := by
  obtain ⟨left, library, checksum, hsteps, hworks₁, hup₁, hplaces, hfree⟩ :=
    steps_digested hg hv herrand hstage hs hd hinside
  let ran (disk : Disk) : Host := { host with disk, runs := host.runs + 1 }
  let m := manifestFor s.location spec target checksum
  have hs₁ : s.Stands left := hs.confined hworks₁.confined
  have hd₁ : left.Numbered := hworks₁.numbered hd
  have hpermits₁ := hpermits.upheld hup₁ hworks₁.keeps hworks₁.lock
  -- Each step leads to the next stage, and that it can be made follows from what holds at its own.
  have hlibrary := hplaces
  obtain ⟨_, _, names, id, ho, hfile, hp, _⟩ := hlibrary
  obtain ⟨d₂, hplace⟩ := Site.placeLibrary_goes hs₁ ho hfile hp hroom hpermits₁ hfree
  have hup₂ := (Site.placeLibrary_places hs₁ ho hfile hp hplace).moved.upholds
  have h₂ := @step_places s v generator spec target force library (ran left) _ _ hv herrand hplace
  have hacts₂ := acts_of_step h₂ (Site.step_place hv hs₁ hd₁ rfl hplaces)
  have hs₂ : s.Stands d₂ := hs₁.confined hacts₂.works.confined
  have hd₂ : d₂.Numbered := hacts₂.works.numbered hd₁
  have hpermits₂ := hpermits₁.upheld hup₂ hacts₂.works.keeps hacts₂.works.lock
  obtain ⟨d₃, hwrite⟩ := Site.writeDraft_goes hs₂ hroom.ample (hpermits₂.opens .write hs₂.folder)
    hacts₂.inside.2.1 m
  obtain ⟨_, hup₃, _⟩ := Site.writeDraft_writes hs₂ hd₂ hacts₂.inside.2.1 hwrite
  have h₃ := @step_drafts s v generator (ran d₂) _ _ hv hwrite
  have hacts₃ := acts_of_step h₃ (Site.step_draft hv hs₂ hd₂ rfl hacts₂.inside)
  have hs₃ : s.Stands d₃ := hs₂.confined hacts₃.works.confined
  obtain ⟨hu, hp, ⟨_, hdraft, _⟩, _⟩ := hacts₃.inside
  have hpermits₃ := hpermits₂.upheld hup₃ hacts₃.works.keeps hacts₃.works.lock
  obtain ⟨d₄, hpublish, hplaced₄, _⟩ := Site.publishDraft_replaces hs₃ hroom.ample.fileName
    (hpermits₃.opens .write hs₃.folder) hp hdraft (by simp [show d₃.root.look _ = none from hu])
  have h₄ := @step_publishes s v generator (ran d₃) m _ hv hpublish
  have hacts₄ := acts_of_step h₄ (Site.step_publish hv hs₃ (hacts₃.works.numbered hd₂) rfl hacts₃.inside)
  refine ⟨d₄, m, ?_, ((hworks₁.trans hacts₂.works).trans hacts₃.works).trans hacts₄.works,
    ((hup₁.trans hup₂).trans hup₃).trans hplaced₄.moved.upholds, ?_⟩
  · rw [hsteps 4, steps_of_step h₂, steps_of_step h₃, steps_of_step h₄,
      steps_of_step (step_releases (ran d₄) hticket)]
    rfl
  · cases hacts₄.outcome with
    | published m hm _ publishes =>
      cases hm
      exact publishes
    | still _ yields =>
      obtain hremove | ⟨_, hrecheck, _⟩ := yields _ rfl
      · exact absurd (herrand.symm.trans hremove) (by simp)
      · cases hrecheck
    | gone _ yields => exact absurd (herrand.symm.trans (yields _ rfl)) (by simp)

/-- Where no library can be published, it ends when the library is to get its name. -/
theorem steps_cramped (hlong : s.Cramped) : ∃ left e,
    steps generator 4 host v = (({ host with disk := left, runs := host.runs + 1 } : Host).unlock ticket,
      v.goto (.done (.error e))) ∧
    WorksIn s.key host.disk left ∧ Upholds host.disk left ∧ s.Unpublished left := by
  obtain ⟨left, library, checksum, hsteps, hworks, hup, ⟨hu, _, names, id, ho, hfile, hp, _⟩, _⟩ :=
    steps_digested hg hv herrand hstage hs hd hinside
  let ran : Host := { host with disk := left, runs := host.runs + 1 }
  obtain ⟨e, hplace⟩ := @Site.placeLibrary_cramped s left (hs.confined hworks.confined) library names id checksum
    ho hfile hp hlong
  have hstep : (v.goto (.place library checksum)).step generator ran = (ran, v.fail e) := by
    simp only [Visit.step, goto, fail, herrand, hv, ran, hplace]
  refine ⟨left, .cache e, ?_, hworks, hup, hu⟩
  rw [hsteps 2, steps_of_step hstep, fail, steps_of_step (step_releases ran hticket)]
  rfl

end Provided

end Visit

namespace Site

variable {s : Site} {host host' : Host} {m : Manifest}

/-- A build has run its generator once and is over, and nothing has changed elsewhere. -/
structure Worked (s : Site) (host host' : Host) : Prop where
  confined : Confined s.key host.disk host'.disk
  upholds : Upholds host.disk host'.disk
  permits : Location.Permits host'.disk s.key
  stands : s.Stands host'.disk
  unlocked : s.Unlocked host'
  sound : host'.Sound
  locks : host'.locks = host.locks
  runs : host'.runs = host.runs + 1

/-- It has also published what the generator left. -/
structure Produces (s : Site) (host host' : Host) (m : Manifest) : Prop extends s.Worked host host' where
  publishes : s.Publishes host'.disk m

theorem Unlocked.no_link (h : s.Unlocked host) (target : String) :
    host.disk.root.look (s.path Location.lockName) ≠ some (.link target) := by
  intro he
  obtain hnone | ⟨file, hfile, _⟩ := h
  · rw [hnone] at he
    cases he
  · rw [hfile] at he
    cases he

theorem Unlocked.keep (h : s.Unlocked host) (hlocks : host'.locks = host.locks)
    (hlook : host'.disk.root.look (s.path Location.lockName) = host.disk.root.look (s.path Location.lockName)) :
    s.Unlocked host' := by
  unfold Unlocked Host.isLocked
  rw [hlook, hlocks]
  exact h

theorem Apart.stands {other : Site} {d d' : Disk} (h : s.Apart other) (hs : other.Stands d)
    (hc : Confined s.key d d') :
    other.Stands d' := by
  have hfolder := h.look hc []
  rw [List.append_nil, hs.folder] at hfolder
  exact ⟨h.bears hs.bears hc, hfolder⟩

/-- A true manifest stays one while the files of its location stay. -/
theorem Publishes.keep {d d' : Disk} (h : s.Publishes d m) (hd : d.Numbered) (hk : Keeps d d')
    (hlook : ∀ rest, d'.root.look (s.key ++ rest) = d.root.look (s.key ++ rest)) : s.Publishes d' m := by
  obtain ⟨id, hfile, hread, hcontent⟩ := h.manifest
  obtain ⟨names, id', hshelved⟩ := h.library
  refine ⟨h.passable, ⟨id, (hlook _).trans hfile, hk.allows hread, ?_⟩, names, id',
    hshelved.keep hd hk (hlook names)⟩
  rw [hk.content (hd _ _ hfile), hcontent]

end Site

namespace Store

variable {store : Store} {s : Site} {generator : Generator} {spec : KernelSpec} {target : Target} {force : Bool}
  {host : Host} (hstore : store.location s.location.fingerprint = s.location) (hg : generator.Provides s)
  (h : s.Accessible host) (hplain : force = false → s.Unpublished host.disk)
include hstore hg h hplain

/-- A build comes to its generator. When it is over some steps later, and its generator has kept to the
location, so has the build. -/
theorem build_worked : ∃ v : Visit, v.location = s.location ∧ v.errand = .build spec target force ∧
    v.stage = .generate ∧ v.ticket = some host.issued ∧ s.Entered host (s.location.cleared host) ∧
    s.Inside (s.location.cleared host).disk .generate ∧
    ∀ k final r, Visit.steps generator k (s.location.cleared host) v =
        (({ s.location.cleared host with disk := final, runs := (s.location.cleared host).runs + 1 } : Host).unlock
          host.issued, v.goto (.done (r.map .published))) →
      WorksIn s.key (s.location.cleared host).disk final → Upholds (s.location.cleared host).disk final →
      ∃ host', store.build generator spec target s.location.fingerprint force host = (host', r) ∧
        host'.disk = final ∧ s.Worked host host' := by
  have hv : (store.visit s.location.fingerprint (.build spec target force)).location = s.location := hstore
  have hnone : force = false →
      s.location.published? (s.location.tryLock (s.location.create host).1).1.disk = none := by
    intro hforce
    obtain ⟨host₁, host₂, hmade, htaken, hentered, hkept⟩ := h.enters
    rw [hmade, htaken]
    exact Site.published?_unpublished hentered.stands ((hkept _ (by decide)).trans (hplain hforce))
  obtain ⟨n, hsteps, hearly, hentered, hinside⟩ :=
    @Visit.steps_cleared s host _ generator spec target force hv rfl rfl h hnone
  refine ⟨{ store.visit s.location.fingerprint (.build spec target force) with
    ticket := some host.issued, stage := .generate }, hv, rfl, rfl, rfl, hentered, hinside,
    fun k final r hrest hworks hup => ?_⟩
  have hdone := Visit.steps_add generator n k host (store.visit s.location.fingerprint (.build spec target force))
  rw [hsteps, hrest, hentered.unlock h.sound, hentered.runs] at hdone
  have hrun := (Visit.run_eq_of_steps rfl hearly (by rw [hdone]; rfl)).trans hdone
  have hconfined := Visit.steps_confined hg.tidy (n + k) hv h.bears h.sound.numbered h.unlocked.no_link
    (Site.admits_without rfl (by simp [Store.visit]))
  rw [hdone] at hconfined
  obtain ⟨file, hfile, hfree, hlocks⟩ := hentered.lock
  refine ⟨_, Store.build_of_run hrun rfl, rfl, hconfined, hentered.upholds.trans hup,
    hentered.permits.upheld hup hworks.keeps hworks.lock, hentered.stands.confined hworks.confined,
    .inr ⟨file, hworks.lock.trans hfile, hfree⟩, ⟨hconfined.numbered h.sound.numbered, fun lock hmem => ?_⟩,
      rfl, rfl⟩
  obtain ⟨hlt, hticket⟩ := h.sound.locks lock hmem
  exact ⟨Nat.lt_of_lt_of_le hlt hconfined.keeps.size, Nat.lt_succ_of_lt hticket⟩

/-- **A build by a generator that provides publishes a kernel**, if it is forced or nothing is published. -/
theorem build_produces (hroom : s.Roomy) :
    ∃ host' m, store.build generator spec target s.location.fingerprint force host =
        (host', .ok ⟨s.location.folder, m⟩) ∧ s.Produces host host' m := by
  obtain ⟨v, hv, herrand, hstage, hticket, hentered, hinside, hover⟩ := build_worked hstore hg h hplain
  obtain ⟨final, m, hrest, hworks, hup, hpublishes⟩ := Visit.steps_provided hg hv herrand hstage
    hentered.stands hentered.sound.numbered hinside hticket hroom hentered.permits
  obtain ⟨host', hbuild, rfl, hworked⟩ := hover 6 final (.ok ⟨s.location.folder, m⟩) hrest hworks hup
  exact ⟨host', m, hbuild, hworked, hpublishes⟩

/-- **Where no library can be published, every build runs the generator and fails.** It leaves the location
as the next one needs it to do the same. -/
theorem build_cramped (hlong : s.Cramped) :
    ∃ host' e, store.build generator spec target s.location.fingerprint force host = (host', .error e) ∧
      host'.runs = host.runs + 1 ∧ s.Accessible host' ∧ s.Unpublished host'.disk := by
  obtain ⟨v, hv, herrand, hstage, hticket, hentered, hinside, hover⟩ := build_worked hstore hg h hplain
  obtain ⟨left, e, hrest, hworks, hup, hu⟩ := Visit.steps_cramped hg hv herrand hstage
    hentered.stands hentered.sound.numbered hinside hticket hlong
  obtain ⟨host', hbuild, rfl, hworked⟩ := hover 4 left (.error e) hrest hworks hup
  refine ⟨host', e, hbuild, hworked.runs, ⟨hworked.stands.bears, hworked.sound, h.ample, .inl hworked.stands.folder,
    hworked.permits, hworked.unlocked, ?_⟩, hu⟩
  rw [show host'.disk.root.look (s.path Manifest.fileName) = none from hu]
  simp

end Store

/-! ### Depots -/

namespace Depot

variable {depot : Depot} {host host' : Host} {fp : Fingerprint}

theorem create_goes (h : depot.kernels fp) (hb : depot.ground.Bears host.disk.root)
    (hroot : host.disk.root.look depot.key = some .folder) (hopens : host.disk.opens .write depot.key = true)
    (hfree : host.disk.root.look (depot.folder fp) = none) (hample : (depot.site fp h).Ample) :
    ((depot.site fp h).location.create host).2 = .ok () := by
  have hroute : (Location.of depot.root fp).folder.route = Path.withoutSlash depot.root.route ++ [fp.name] :=
    Place.route_join _ (depot.single fp h)
  obtain ⟨left, hleads⟩ := depot.leads
  obtain ⟨⟨hne, hdot, hdots⟩, _⟩ := depot.single fp h
  have hflaw : flaw? (Location.of depot.root fp).folder.route = none := hample.folder
  have htip : host.disk.tip (Location.of depot.root fp).folder.route = .ok (.entry depot.key fp.name false) := by
    rw [hroute] at hflaw ⊢
    rw [tip_append hne (hleads.mono (hb.stands hroot)).follow hroot, hflaw]
    simp [hdot, hdots, depot.short fp h]
  have hget : host.disk.get? (depot.key ++ [fp.name]) = none := look_eq_none_iff.mp hfree
  have hmake : host.disk.makeFolder (Location.of depot.root fp).folder.route =
      .ok (host.disk.newFolder (depot.key ++ [fp.name]) 0o755) := by
    simp only [makeFolder, htip, hget, hopens, if_true]
  show ((Location.of depot.root fp).create host).2 = .ok ()
  simp only [Location.create, makeFolders, ensureFolder_made hmake]

/-- A depot as a process finds it: of the kernels in use some are published, by true manifests, and at the
locations of the others nothing is there, but a folder could be made. Nobody is at any of them, and the user
may list and change what is there. -/
structure Stocked (depot : Depot) (used published : Fingerprint → Prop) (host : Host) : Prop where
  kernels : ∀ fp, used fp → depot.kernels fp
  bears : depot.ground.Bears host.disk.root
  sound : host.Sound
  roomy : ∀ fp (h : used fp), (depot.site fp (kernels fp h)).Roomy
  root : host.disk.root.look depot.key = some .folder → host.disk.opens .write depot.key = true
  permits : ∀ fp (_ : used fp), Location.Permits host.disk (depot.folder fp)
  shelf : ∀ fp (h : used fp), published fp → (depot.site fp (kernels fp h)).Stands host.disk ∧
    (depot.site fp (kernels fp h)).Unlocked host ∧ ∃ m, (depot.site fp (kernels fp h)).Publishes host.disk m
  vacancy : ∀ fp (h : used fp), ¬published fp → host.disk.root.look (depot.folder fp) = none ∧
    ((depot.site fp (kernels fp h)).location.create host).2 = .ok ()

namespace Stocked

variable {used published : Fingerprint → Prop}

theorem accessible (h : depot.Stocked used published host) (hu : used fp) :
    (depot.site fp (h.kernels fp hu)).Accessible host := by
  by_cases hp : published fp
  · obtain ⟨hstands, hunlocked, m, hm⟩ := h.shelf fp hu hp
    obtain ⟨id, hfile, _⟩ := hm.manifest
    refine ⟨hstands.bears, h.sound, (h.roomy fp hu).ample, .inl hstands.folder, h.permits fp hu, hunlocked, ?_⟩
    rw [hfile]
    simp
  · obtain ⟨hnone, hmade⟩ := h.vacancy fp hu hp
    have hbelow : ∀ n, host.disk.root.look ((depot.site fp (h.kernels fp hu)).path n) = none := fun n =>
      look_none_below (List.prefix_append _ _) hnone
    refine ⟨depot.bears_site _ h.bears (.inl hnone), h.sound, (h.roomy fp hu).ample, .inr hmade, h.permits fp hu,
      .inl (hbelow _), ?_⟩
    rw [hbelow]
    simp

theorem published? (h : depot.Stocked used published host) (hu : used fp) (hp : published fp) :
    ∃ m, (Location.of depot.root fp).published? host.disk = some ⟨(Location.of depot.root fp).folder, m⟩ := by
  obtain ⟨hstands, _, m, hm⟩ := h.shelf fp hu hp
  exact ⟨m, hm.published? hstands⟩

theorem unpublished? (h : depot.Stocked used published host) (hu : used fp) (hp : ¬published fp) :
    (Location.of depot.root fp).published? host.disk = none := by
  obtain ⟨hnone, _⟩ := h.vacancy fp hu hp
  exact Site.published?_absent (s := depot.site fp (h.kernels fp hu))
    (depot.bears_site _ h.bears (.inl hnone)) hnone

/-- What a build does at one location keeps the depot stocked. -/
theorem produce (h : depot.Stocked used published host) (hu : used fp) {m : Manifest}
    (hm : (depot.site fp (h.kernels fp hu)).Produces host host' m) :
    depot.Stocked used (fun q => published q ∨ q = fp) host' := by
  have hapart : ∀ q (hq : used q), q ≠ fp →
      (depot.site fp (h.kernels fp hu)).Apart (depot.site q (h.kernels q hq)) := fun q hq hne =>
    depot.apart _ _ (Ne.symm hne)
  have hbears : depot.ground.Bears host'.disk.root :=
    h.bears.confined hm.confined fun n rest => depot.ground.empty _ (by simp [site, folder])
      (by simp [site, folder])
  refine ⟨h.kernels, hbears, hm.sound, h.roomy, fun hfolder => hm.upholds _ _ hfolder h.root, fun q hq => ?_,
    fun q hq hp => ?_, fun q hq hp => ?_⟩
  · by_cases hne : q = fp
    · subst hne
      exact hm.permits
    · exact (h.permits q hq).upheld hm.upholds hm.confined.keeps ((hapart q hq hne).look hm.confined _)
  · by_cases hne : q = fp
    · subst hne
      exact ⟨hm.stands, hm.unlocked, m, hm.publishes⟩
    · have hother := hapart q hq hne
      obtain ⟨hstands, hunlocked, m', hm'⟩ := h.shelf q hq (hp.resolve_right hne)
      exact ⟨hother.stands hstands hm.confined, hunlocked.keep hm.locks (hother.look hm.confined _), m',
        hm'.keep h.sound.numbered hm.confined.keeps (hother.look hm.confined)⟩
  · obtain ⟨hpublished, hne⟩ := not_or.mp hp
    have hfree := (hapart q hq hne).look hm.confined []
    rw [List.append_nil] at hfree
    have hnone := hfree.trans (h.vacancy q hq hpublished).1
    -- The folder that the build has made or found stands in the root.
    have hroot := look_folder_of_below hm.stands.folder
    exact ⟨hnone, create_goes _ hbears hroot (hm.upholds _ _ hroot h.root) hnone (h.roomy q hq).ample⟩

/-- **A build keeps the depot stocked, and its kernel is published then.** -/
theorem build (h : depot.Stocked used published host) (hu : used fp) (store : Store)
    (hroot : store.root = depot.root)
    {generator : Generator} (hg : generator.Provides (depot.site fp (h.kernels fp hu))) (spec : KernelSpec)
    (target : Target) (force : Bool) (hplain : force = false → ¬published fp) :
    ∃ host' p, store.build generator spec target fp force host = (host', .ok p) ∧ p.fingerprint = fp ∧
      host'.runs = host.runs + 1 ∧ depot.Stocked used (fun q => published q ∨ q = fp) host' := by
  have hstore : store.location fp = (depot.site fp (h.kernels fp hu)).location := by
    rw [Store.location, hroot]
    rfl
  have hfree : force = false → (depot.site fp (h.kernels fp hu)).Unpublished host.disk := fun hforce =>
    look_none_below (List.prefix_append _ _) (h.vacancy fp hu (hplain hforce)).1
  obtain ⟨host', m, hbuild, hm⟩ := @Store.build_produces store _ generator spec target force host hstore hg
    (h.accessible hu) hfree (h.roomy fp hu)
  obtain ⟨_, _, hshelved⟩ := hm.publishes.library
  have hcompatible := hshelved.compatible
  simp only [Manifest.isCompatible, Bool.and_eq_true, decide_eq_true_eq] at hcompatible
  exact ⟨host', _, hbuild, hcompatible.2, hm.runs, h.produce hu hm⟩

end Stocked

end Depot

end KernelForge
