import KernelForge.Proofs.Cache.ManifestText
import KernelForge.Proofs.Cache.Tidiness

/-!
Visitors at work.

Whoever has the lock of a location and is past the removal of the manifest works on a location that is not
published. `Site.Inside` is what holds of the disk at each stage of such a visit: which entries are gone,
where the library is and what its digest is, what the draft holds. Every step takes one stage to the next
(`step_acts`), and the last one publishes a manifest that is true (`Site.Publishes`).
-/
namespace KernelForge

open Disk FileTree

namespace Site

variable {s : Site} {d d' : Disk} {m : Manifest} {names : List String} {id : Nat} {stage : Stage} {library : Place}
  {checksum : Digest}

/-! ### Manifests -/

/-- No manifest is there. -/
def Unpublished (s : Site) (d : Disk) : Prop := d.root.look (s.path Manifest.fileName) = none

/-- No draft is there. -/
def Undrafted (s : Site) (d : Disk) : Prop := d.root.look (s.path Manifest.draftName) = none

/-- A manifest for the location that names a file below its folder, by the right digest. -/
structure Shelved (s : Site) (d : Disk) (m : Manifest) (names : List String) (id : Nat) : Prop where
  compatible : m.isCompatible s.location.fingerprint = true
  route : (m.libraryPlace s.location.folder).route = s.location.folder.route ++ names
  single : ∀ n ∈ names, Path.Single n
  passable : s.Passable names
  file : d.root.look (s.key ++ names) = some (.file id)
  regular : (d.node id).kind = .regular
  readable : d.allows .read id = true
  checksum : Digest.ofBytes (d.content id) = m.checksum

/-- The location publishes a manifest that is true. -/
structure Publishes (s : Site) (d : Disk) (m : Manifest) : Prop where
  passable : s.Passable [Manifest.fileName]
  manifest : ∃ id, d.root.look (s.path Manifest.fileName) = some (.file id) ∧ d.allows .read id = true ∧
    d.content id = m.text.toUTF8
  library : ∃ names id, s.Shelved d m names id

theorem Shelved.keep (h : s.Shelved d m names id) (hd : d.Numbered) (hk : Keeps d d')
    (hfile : d'.root.look (s.key ++ names) = d.root.look (s.key ++ names)) : s.Shelved d' m names id := by
  have hid := hd _ _ h.file
  exact ⟨h.compatible, h.route, h.single, h.passable, hfile.trans h.file, by rw [hk.node id hid]; exact h.regular,
    hk.allows h.readable, by rw [hk.content hid]; exact h.checksum⟩

theorem load?_eq {folder : Place} :
    Manifest.load? folder d =
      match d.fileAt (folder.join Manifest.fileName).route with
      | .ok id => if d.allows .read id then Manifest.ofBytes? (d.content id) else none
      | .error _ => none := by
  unfold Manifest.load? Disk.read
  cases d.fileAt (folder.join Manifest.fileName).route with
  | error f => rfl
  | ok id =>
    dsimp only
    cases d.allows .read id <;> rfl

theorem load?_none (h : ∀ id, d.fileAt (s.route Manifest.fileName) ≠ .ok id) :
    Manifest.load? s.location.folder d = none := by
  rw [load?_eq, route_fileName]
  cases hf : d.fileAt (s.route Manifest.fileName) with
  | ok id => exact absurd hf (h id)
  | error f => rfl

theorem published?_none (h : ∀ id, d.fileAt (s.route Manifest.fileName) ≠ .ok id) :
    s.location.published? d = none := by
  rw [Location.published?, Published.read?, load?_none h]

theorem published?_unpublished (h : s.Stands d) (hu : s.Unpublished d) : s.location.published? d = none :=
  published?_none (fileAt_missing h single_fileName hu)

theorem published?_absent (hb : s.ground.Bears d.root) (hkey : d.root.look s.key = none) :
    s.location.published? d = none :=
  published?_none (fileAt_absent hb hkey single_fileName)

theorem load?_file (h : s.Stands d) (hp : s.Passable [Manifest.fileName])
    (hfile : d.root.look (s.path Manifest.fileName) = some (.file id)) (hread : d.allows .read id = true) :
    Manifest.load? s.location.folder d = Manifest.ofBytes? (d.content id) := by
  have hat : d.fileAt (s.route Manifest.fileName) = .ok id :=
    h.fileAt_file (by simpa using single_fileName) hfile hp
  rw [load?_eq, route_fileName, hat]
  exact if_pos hread

theorem published?_of_text {l : Location} (hfile : d.fileAt (l.folder.join Manifest.fileName).route = .ok id)
    (hread : d.allows .read id = true) (hcontent : d.content id = m.text.toUTF8)
    (hm : m.isCompatible l.fingerprint = true)
    (hlibrary : d.isFile (m.libraryPlace l.folder).route = true) : l.published? d = some ⟨l.folder, m⟩ := by
  rw [Location.published?, Published.read?, load?_eq, hfile]
  simp only [hread, hcontent, Manifest.ofBytes?_text, hm, hlibrary, Bool.and_self, if_true]

theorem Publishes.published? (hp : s.Publishes d m) (h : s.Stands d) :
    s.location.published? d = some ⟨s.location.folder, m⟩ := by
  obtain ⟨id, hfile, hread, hcontent⟩ := hp.manifest
  obtain ⟨names, id', hshelved⟩ := hp.library
  refine published?_of_text ?_ hread hcontent hshelved.compatible ?_
  · rw [route_fileName]
    exact h.fileAt_file (by simpa using single_fileName) hfile hp.passable
  · rw [hshelved.route]
    exact h.isFile_file hshelved.single hshelved.file hshelved.passable hshelved.regular

/-! ### Stages -/

/-- What holds at a stage of a visit under the lock. -/
def Inside (s : Site) (d : Disk) : Stage → Prop
  | .survey => s.Unpublished d
  | .clear pending _ => s.Unpublished d ∧
      (∀ k ∈ pending, ∃ n rest, n ≠ Location.lockName ∧ k = s.key ++ n :: rest) ∧
      ∀ n, n ≠ Location.lockName → d.root.look (s.path n) ≠ none → s.path n ∈ pending
  | .generate => ∀ n, n ≠ Location.lockName → d.root.look (s.path n) = none
  | .digest library => s.Unpublished d ∧ s.Undrafted d ∧
      ∃ names, Delivers s.location.folder s.key d library names
  | .place library checksum => s.Unpublished d ∧ s.Undrafted d ∧
      ∃ names id, Delivers s.location.folder s.key d library names ∧
        d.root.look (s.key ++ names) = some (.file id) ∧ s.Passable names ∧ d.allows .read id = true ∧
        Digest.ofBytes (d.content id) = checksum
  | .draft m => s.Unpublished d ∧ s.Undrafted d ∧ ∃ names id, s.Shelved d m names id
  | .publish m => s.Unpublished d ∧ s.Passable [Manifest.draftName] ∧
      (∃ id, d.root.look (s.path Manifest.draftName) = some (.file id) ∧ d.allows .read id = true ∧
        d.content id = m.text.toUTF8) ∧
      ∃ names id, names ≠ [Manifest.draftName] ∧ s.Shelved d m names id
  | _ => True

/-- What others do elsewhere does not matter to a visit. -/
theorem Inside.keep (h : s.Inside d stage) (hd : d.Numbered) (hk : Keeps d d')
    (hlook : ∀ rest, d'.root.look (s.key ++ rest) = d.root.look (s.key ++ rest)) : s.Inside d' stage := by
  have hentry : ∀ n, d'.root.look (s.path n) = d.root.look (s.path n) := fun n => hlook [n]
  cases stage with
  | survey => exact (hentry _).trans h
  | clear pending outputs =>
    exact ⟨(hentry _).trans h.1, h.2.1, fun n hn hsome => h.2.2 n hn (hentry n ▸ hsome)⟩
  | generate => exact fun n hn => (hentry n).trans (h n hn)
  | digest library =>
    obtain ⟨hu, hdraft, names, ho⟩ := h
    exact ⟨(hentry _).trans hu, (hentry _).trans hdraft, names, ho.keep hd hk hlook⟩
  | place library checksum =>
    obtain ⟨hu, hdraft, names, id, ho, hfile, hp, hread, hsum⟩ := h
    refine ⟨(hentry _).trans hu, (hentry _).trans hdraft, names, id, ho.keep hd hk hlook,
      (hlook names).trans hfile, hp, hk.allows hread, ?_⟩
    rw [hk.content (hd _ _ hfile), hsum]
  | draft m =>
    obtain ⟨hu, hdraft, names, id, hs⟩ := h
    exact ⟨(hentry _).trans hu, (hentry _).trans hdraft, names, id, hs.keep hd hk (hlook names)⟩
  | publish m =>
    obtain ⟨hu, hp, ⟨id, hfile, hread, hcontent⟩, names, id', hne, hs⟩ := h
    refine ⟨(hentry _).trans hu, hp, ⟨id, (hentry _).trans hfile, hk.allows hread, ?_⟩, names, id', hne,
      hs.keep hd hk (hlook names)⟩
    rw [hk.content (hd _ _ hfile), hcontent]
  | _ => trivial

theorem inside_clearing {errand : Errand} {pending : List (List String)} {outputs : Nat}
    (h : s.Inside d (.clear pending outputs)) : s.Inside d (Visit.clearing errand pending outputs) := by
  cases pending with
  | cons k pending => exact h
  | nil =>
    cases errand with
    | remove => trivial
    | build spec target force =>
      intro n hn
      cases hlook : d.root.look (s.path n) with
      | none => rfl
      | some x => exact absurd (h.2.2 n hn (by rw [hlook]; nofun)) List.not_mem_nil

theorem inside_afterClear {errand : Errand} {outputs : Nat} (h : s.Inside d (.clear [] outputs)) :
    s.Inside d (Visit.afterClear errand outputs) :=
  @inside_clearing s d errand [] outputs h

/-! ### Steps -/

/-- What a step under the lock means for the manifest, and what a visit may end with after it. -/
inductive Outcome (s : Site) (host host' : Host) (v v' : Visit) : Prop
  /-- The disk is as it was. -/
  | still (disk : host'.disk = host.disk)
      (yields : ∀ y, v'.stage = .release (.ok y) → v.errand = .remove ∨
        ∃ p, v.stage = .recheck ∧ s.location.published? host.disk = some p ∧ y = .published p)
  /-- No manifest is there. -/
  | gone (unpublished : s.Unpublished host'.disk)
      (yields : ∀ y, v'.stage = .release (.ok y) → v.errand = .remove)
  /-- A manifest was published, and it is true. -/
  | published (m : Manifest) (stage : v.stage = .publish m)
      (yields : v'.stage = .release (.ok (.published ⟨s.location.folder, m⟩)))
      (publishes : s.Publishes host'.disk m)

/-- One step of a visit under the lock, other than giving it back. -/
structure Acts (s : Site) (host host' : Host) (v v' : Visit) : Prop where
  works : WorksIn s.key host.disk host'.disk
  locks : host'.locks = host.locks
  issued : host'.issued = host.issued
  visit : ∃ stage, v' = v.goto stage
  holds : v'.holdsLock = true
  inside : s.Inside host'.disk v'.stage
  outcome : s.Outcome host host' v v'

variable {host : Host} {generator : Generator} {v : Visit}

theorem acts_goto (hholds : (v.goto stage).holdsLock = true) (hinside : s.Inside host.disk stage)
    (hyields : ∀ y, stage = .release (.ok y) → v.errand = .remove ∨
      ∃ p, v.stage = .recheck ∧ s.location.published? host.disk = some p ∧ y = .published p) :
    s.Acts host host v (v.goto stage) :=
  ⟨.refl _ _, rfl, rfl, ⟨stage, rfl⟩, hholds, hinside, .still rfl hyields⟩

theorem acts_fail (e : CacheError) : s.Acts host host v (v.fail e) :=
  acts_goto rfl trivial nofun

theorem acts_work {runs : Nat} (hworks : WorksIn s.key host.disk d') (hu : s.Unpublished d')
    (hholds : (v.goto stage).holdsLock = true) (hinside : s.Inside d' stage)
    (hyields : ∀ y, stage = .release (.ok y) → v.errand = .remove) :
    s.Acts host { host with disk := d', runs } v (v.goto stage) :=
  ⟨hworks, rfl, rfl, ⟨stage, rfl⟩, hholds, hinside, .gone hu hyields⟩

theorem holds_clearing (errand : Errand) (pending : List (List String)) (outputs : Nat) :
    (v.goto (Visit.clearing errand pending outputs)).holdsLock = true := by
  cases pending <;> cases errand <;> rfl

theorem clearing_release {errand : Errand} {pending : List (List String)} {outputs : Nat} {y : Yield}
    (h : Visit.clearing errand pending outputs = .release (.ok y)) : errand = .remove := by
  cases pending with
  | cons k pending => cases h
  | nil => cases errand with
    | build spec target force => cases h
    | remove => rfl

theorem step_recheck (hv : v.location = s.location) (hstage : v.stage = .recheck) :
    s.Acts host (v.step generator host).1 v (v.step generator host).2 := by
  simp only [Visit.step, hstage, hv]
  cases hp : s.location.published? host.disk with
  | some p =>
    refine acts_goto rfl trivial fun y hy => .inr ⟨p, hstage, hp, ?_⟩
    cases hy
    rfl
  | none => exact acts_goto rfl trivial nofun

theorem step_unpublish (hv : v.location = s.location) (hs : s.Stands host.disk)
    (hstage : v.stage = .unpublish) :
    s.Acts host (v.step generator host).1 v (v.step generator host).2 := by
  simp only [Visit.step, hstage, hv]
  rcases unpublish_cases hs with ⟨e, he, _⟩ | ⟨disk, hgone, hworks, _, hu⟩
  · simp only [he]
    exact acts_fail e
  · simp only [hgone]
    exact acts_work hworks hu rfl hu nofun

theorem step_survey (hv : v.location = s.location) (hs : s.Stands host.disk)
    (hstage : v.stage = .survey) (hinside : s.Inside host.disk .survey) :
    s.Acts host (v.step generator host).1 v (v.step generator host).2 := by
  simp only [Visit.step, hstage, hv]
  cases ho : s.location.outputs host.disk with
  | error e => exact acts_fail e
  | ok keys =>
    have hkeys := outputs_ok hs ho
    have hclear : s.Inside host.disk (.clear (Location.removalPlan keys host.disk) keys.length) := by
      refine ⟨hinside, fun k hk => ?_, fun n hn hsome =>
        removalPlan_contains ((hkeys _).mpr ⟨n, hn, rfl, hsome⟩)⟩
      obtain ⟨k₀, hk₀, rest, rfl⟩ := mem_removalPlan hk
      obtain ⟨n, hn, rfl, _⟩ := (hkeys k₀).mp hk₀
      exact ⟨n, rest, hn, by simp [path]⟩
    exact acts_goto (holds_clearing _ _ _) (inside_clearing hclear)
      fun y hy => .inl (clearing_release hy)

theorem step_clear {pending : List (List String)} {outputs : Nat} (hstage : v.stage = .clear pending outputs)
    (hinside : s.Inside host.disk (.clear pending outputs)) :
    s.Acts host (v.step generator host).1 v (v.step generator host).2 := by
  cases pending with
  | nil =>
    simp only [Visit.step, hstage]
    exact acts_goto (holds_clearing v.errand [] outputs) (inside_afterClear hinside)
      fun y hy => .inl (@clearing_release v.errand [] outputs y hy)
  | cons k pending =>
    obtain ⟨hu, hbelow, hall⟩ := hinside
    obtain ⟨name, rest, hname, rfl⟩ := hbelow k List.mem_cons_self
    have hlook : ∀ k', (host.disk.erase (s.key ++ name :: rest)).root.look k' =
        if s.key ++ name :: rest <+: k' then none else host.disk.root.look k' := look_erase_disk (by simp)
    have hu' : s.Unpublished (host.disk.erase (s.key ++ name :: rest)) := by
      rw [Unpublished, hlook, hu, ite_self]
    have hclear : s.Inside (host.disk.erase (s.key ++ name :: rest)) (.clear pending outputs) := by
      refine ⟨hu', fun k' hk' => hbelow k' (List.mem_cons_of_mem _ hk'), fun n hn hsome => ?_⟩
      rw [hlook] at hsome
      split at hsome
      · exact absurd rfl hsome
      · next hother =>
        rcases List.mem_cons.mp (hall n hn hsome) with he | hmem
        · exact absurd (he ▸ List.prefix_refl _) hother
        · exact hmem
    simp only [Visit.step, hstage]
    cases hstrike : host.disk.strike (s.key ++ name :: rest) with
    | error fault => exact acts_fail _
    | ok disk =>
      obtain rfl := strike_eq_ok hstrike
      exact acts_work (worksIn_erase hname rest host.disk) hu' (holds_clearing _ _ _)
        (inside_clearing hclear) fun y hy => clearing_release hy

theorem step_generate (hv : v.location = s.location) (hs : s.Stands host.disk) (hd : host.disk.Numbered)
    (hg : generator.Tidy s.location.folder s.key) (hstage : v.stage = .generate)
    (hinside : s.Inside host.disk .generate) :
    s.Acts host (v.step generator host).1 v (v.step generator host).2 := by
  cases herrand : v.errand with
  | remove =>
    simp only [Visit.step, hstage, herrand]
    have hsame : v.goto .generate = v := by rw [← hstage]; rfl
    have hacts : s.Acts host host v (v.goto .generate) := acts_goto rfl hinside nofun
    rwa [hsame] at hacts
  | build spec target force =>
    have hleaves := hg ⟨spec, target, s.location.fingerprint, s.location.folder⟩ host rfl
      ⟨hs.follow, hs.folder, hd, hinside⟩
    simp only [Visit.step, hstage, herrand, hv]
    cases hr : generator ⟨spec, target, s.location.fingerprint, s.location.folder⟩ host with
    | mk disk outcome =>
      rw [hr] at hleaves
      cases outcome with
      | ok library =>
        exact acts_work hleaves.works hleaves.unpublished rfl
          ⟨hleaves.unpublished, hleaves.undrafted, hleaves.library library rfl⟩ nofun
      | error failure => exact acts_work hleaves.works hleaves.unpublished rfl trivial nofun

theorem step_digest (hs : s.Stands host.disk) (hstage : v.stage = .digest library)
    (hinside : s.Inside host.disk (.digest library)) :
    s.Acts host (v.step generator host).1 v (v.step generator host).2 := by
  obtain ⟨hu, hdraft, names, ho⟩ := hinside
  have hroute : library.route = s.location.folder.route ++ names := by
    rw [ho.place, Place.route_joinNames s.ends ho.single]
  simp only [Visit.step, hstage]
  cases hread : host.disk.read library.route with
  | error fault => exact acts_fail _
  | ok content =>
    rw [hroute] at hread
    obtain ⟨id, hfile, hp, hallows, rfl⟩ := file_of_read hs ho.single ho.straight hread
    exact acts_goto rfl ⟨hu, hdraft, names, id, ho, hfile, hp, hallows, rfl⟩ nofun

/-- The manifest of a build names the library that was put on the shelf. -/
theorem shelved_manifestFor {spec : KernelSpec} {target : Target} (hd : d.Numbered)
    (hfile : d.root.look (s.key ++ names) = some (.file id)) (hregular : (d.node id).kind = .regular)
    (hread : d.allows .read id = true) (hsum : Digest.ofBytes (d.content id) = checksum)
    (hp : s.Placed names (s.location.fingerprint.publishedName checksum) id d d') :
    s.Shelved d' (Visit.manifestFor s.location spec target checksum)
      [s.location.fingerprint.publishedName checksum] id := by
  have hsingle := Fingerprint.single_publishedName s.name checksum
  have hid := hd _ _ hfile
  refine ⟨by simp [Manifest.isCompatible, Visit.manifestFor], route_entry hsingle, by simpa using hsingle,
    hp.passable, hp.moved.arrived, ?_, hp.works.keeps.allows hread, ?_⟩
  · rw [hp.works.keeps.node id hid]
    exact hregular
  · rw [hp.works.keeps.content hid]
    exact hsum

theorem step_place (hv : v.location = s.location) (hs : s.Stands host.disk) (hd : host.disk.Numbered)
    (hstage : v.stage = .place library checksum) (hinside : s.Inside host.disk (.place library checksum)) :
    s.Acts host (v.step generator host).1 v (v.step generator host).2 := by
  cases herrand : v.errand with
  | remove =>
    simp only [Visit.step, hstage, herrand]
    have hsame : v.goto (.place library checksum) = v := by rw [← hstage]; rfl
    have hacts : s.Acts host host v (v.goto (.place library checksum)) := acts_goto rfl hinside nofun
    rwa [hsame] at hacts
  | build spec target force =>
    obtain ⟨hu, hdraft, names, id, ho, hfile, hp, hread, hsum⟩ := hinside
    simp only [Visit.step, hstage, herrand, hv]
    cases hplace : Visit.placeLibrary s.location library checksum host.disk with
    | error e => exact acts_fail e
    | ok disk =>
      have hplaced := placeLibrary_places hs ho hfile hp hplace
      have hu' : s.Unpublished disk :=
        hplaced.free hfile (Ne.symm (Fingerprint.publishedName_ne (by decide))) hu
      have hdraft' : s.Undrafted disk :=
        hplaced.free hfile (Ne.symm (Fingerprint.publishedName_ne (by decide))) hdraft
      exact acts_work hplaced.works hu' rfl
        ⟨hu', hdraft', _, id, shelved_manifestFor hd hfile (ho.regular id hfile) hread hsum hplaced⟩ nofun

theorem step_draft (hv : v.location = s.location) (hs : s.Stands host.disk) (hd : host.disk.Numbered)
    (hstage : v.stage = .draft m) (hinside : s.Inside host.disk (.draft m)) :
    s.Acts host (v.step generator host).1 v (v.step generator host).2 := by
  obtain ⟨hu, hdraft, names, id, hshelved⟩ := hinside
  simp only [Visit.step, hstage, hv]
  cases hw : m.writeDraft s.location.folder host.disk with
  | error e => exact acts_fail e
  | ok disk =>
    obtain ⟨hworks, _, hp, hlook, hread, hcontent⟩ := writeDraft_writes hs hd hdraft hw
    have hother : s.key ++ names ≠ s.path Manifest.draftName := by
      intro he
      have hfile := hshelved.file
      rw [he, hdraft] at hfile
      cases hfile
    have hu' : s.Unpublished disk := by
      rw [Unpublished, hlook, if_neg (by simp [path, Manifest.fileName, Manifest.draftName])]
      exact hu
    refine acts_work hworks hu' rfl ⟨hu', hp, ⟨_, (hlook _).trans (if_pos rfl), hread, hcontent⟩, names, id, ?_,
      hshelved.keep hd hworks.keeps ((hlook _).trans (if_neg hother))⟩ (fun _ h => by cases h)
    rintro rfl
    exact hother rfl

theorem step_publish (hv : v.location = s.location) (hs : s.Stands host.disk) (hd : host.disk.Numbered)
    (hstage : v.stage = .publish m) (hinside : s.Inside host.disk (.publish m)) :
    s.Acts host (v.step generator host).1 v (v.step generator host).2 := by
  obtain ⟨hu, hp, ⟨id, hdraft, hread, hcontent⟩, names, id', hne, hshelved⟩ := hinside
  simp only [Visit.step, hstage, hv]
  cases hm : Manifest.publishDraft s.location.folder host.disk with
  | error e => exact acts_fail e
  | ok disk =>
    have hplaced := publishDraft_places hs hdraft hp hm
    have hlibrary : disk.root.look (s.key ++ names) = host.disk.root.look (s.key ++ names) := by
      apply hplaced.moved.other
      · intro he
        exact hne (List.append_cancel_left he)
      · intro he
        have hfile := hshelved.file
        rw [he, hu] at hfile
        cases hfile
    have hpublishes : s.Publishes disk m := by
      refine ⟨hplaced.passable, ⟨id, hplaced.moved.arrived, hplaced.works.keeps.allows hread, ?_⟩, names, id',
        hshelved.keep hd hplaced.works.keeps hlibrary⟩
      rw [hplaced.works.keeps.content (hd _ _ hdraft), hcontent]
    exact ⟨hplaced.works, rfl, rfl, ⟨_, rfl⟩, rfl, trivial, .published m hstage rfl hpublishes⟩

/-- **A step under the lock keeps to the location and leads from stage to stage.** -/
theorem step_acts (hv : v.location = s.location) (hs : s.Stands host.disk) (hd : host.disk.Numbered)
    (hg : generator.Tidy s.location.folder s.key) (hholds : v.holdsLock = true)
    (hstay : ∀ r, v.stage ≠ .release r) (hinside : s.Inside host.disk v.stage) :
    s.Acts host (v.step generator host).1 v (v.step generator host).2 := by
  cases hstage : v.stage with
  | arrive => simp [Visit.holdsLock, hstage] at hholds
  | lock => simp [Visit.holdsLock, hstage] at hholds
  | recheck => exact step_recheck hv hstage
  | unpublish => exact step_unpublish hv hs hstage
  | survey => exact step_survey hv hs hstage (hstage ▸ hinside)
  | clear pending outputs => exact step_clear hstage (hstage ▸ hinside)
  | generate => exact step_generate hv hs hd hg hstage (hstage ▸ hinside)
  | digest library => exact step_digest hs hstage (hstage ▸ hinside)
  | place library checksum => exact step_place hv hs hd hstage (hstage ▸ hinside)
  | draft m => exact step_draft hv hs hd hstage (hstage ▸ hinside)
  | publish m => exact step_publish hv hs hd hstage (hstage ▸ hinside)
  | release r => exact absurd hstage (hstay r)
  | done r => simp [Visit.holdsLock, hstage] at hholds

end Site

end KernelForge
