import KernelForge.Proofs.Cache.Course
import KernelForge.Proofs.Cache.Room

/-!
What a build that goes well leaves behind.

A build that is alone at a location and compiles takes the lock, clears the location and has the generator
work in the empty folder (`Location.cleared`). If that leaves a library (`Site.Supplies`), then the build
moves the library to the name it is published by and publishes a manifest of it, and nothing else changes:
`Site.Delivered` says of every path what stands there afterwards.

The names must fit (`Site.Ample`, `Site.Roomy`), the folder must be there or can be made, nobody else may
have the lock, and no folder may stand in the place of the manifest (`Site.Accessible`).
-/
namespace KernelForge

open Disk FileTree

/-! ### Operations that go well -/

variable {key source : List String} {d d' : Disk} {name : String} {a : Nat} {s : Site} {host : Host}

theorem WorksIn.trans {d'' : Disk} (h : WorksIn key d d') (h' : WorksIn key d' d'') : WorksIn key d d'' :=
  ⟨h.keeps.trans h'.keeps, fun hd => h'.numbered (h.numbered hd),
    fun k hk => (h'.outside k hk).trans (h.outside k hk), h'.lock.trans h.lock⟩

theorem Disk.move_free {base : List String} (hs : d.root.look source = some (.file a))
    (hb : d.root.look base = some .folder) (ht : d.root.look (base ++ [name]) = none) :
    ∃ d', d.move source (base ++ [name]) = .ok d' ∧ Relocates a source (base ++ [name]) d d' ∧
      d'.root.look source = none := by
  have hfolder : d.root.look (base ++ [name]) ≠ some .folder := by simp [ht]
  have hne : source ≠ base ++ [name] := by
    rintro rfl
    rw [ht] at hs
    cases hs
  have hmove := move_onto hs hb hfolder
  rw [ht, if_neg nofun] at hmove
  refine ⟨_, hmove, move_file hs hb hmove, ?_⟩
  rw [look_moved hs hb hfolder hne, if_neg hne, if_pos rfl]

theorem Disk.Relocates.look {target : List String} (h : Relocates a source target d d')
    (hgone : d'.root.look source = none) (k : List String) : d'.root.look k =
      if k = target then some (.file a) else if k = source then none else d.root.look k := by
  split
  · next hk => rw [hk, h.arrived]
  · next hk =>
    split
    · next hk' => rw [hk', hgone]
    · next hk' => exact h.other k hk' hk

/-- The disk is in order: every file has a number that was given out, and every lock is on such a file,
under a ticket that was given out. -/
structure Host.Sound (host : Host) : Prop where
  numbered : host.disk.Numbered
  locks : ∀ lock ∈ host.locks, lock.file < host.disk.nodes.size ∧ lock.ticket < host.issued

namespace Host.Sound

variable {host : Host}

theorem keep {disk : Disk} (h : host.Sound) (hk : Keeps host.disk disk) (hd : disk.Numbered) :
    ({ host with disk } : Host).Sound :=
  ⟨hd, fun lock hmem => ⟨Nat.lt_of_lt_of_le (h.locks lock hmem).1 hk.size, (h.locks lock hmem).2⟩⟩

/-- Nobody has a lock on a file that is only now made. -/
theorem isLocked_new (h : host.Sound) : host.isLocked host.disk.nodes.size = false := by
  rw [Host.isLocked, List.any_eq_false]
  intro lock hmem he
  have hlt := (h.locks lock hmem).1
  rw [of_decide_eq_true he] at hlt
  exact Nat.lt_irrefl _ hlt

end Host.Sound

/-- The host as a generator finds it: the folder is made, the lock taken, and the manifest and all outputs are
removed. -/
def Location.cleared (l : Location) (host : Host) : Host :=
  (l.clearOutputs (l.unpublish (l.tryLock (l.create host).1).1).1).1

namespace Site

variable {s : Site} {d : Disk} {host : Host}

/-- The lock can be taken. -/
def Unlocked (s : Site) (host : Host) : Prop :=
  host.disk.root.look (s.path Location.lockName) = none ∨
    ∃ file, host.disk.root.look (s.path Location.lockName) = some (.file file) ∧ host.isLocked file = false

theorem create_standing (h : s.Stands host.disk) (hflaw : flaw? s.location.folder.route = none) :
    s.location.create host = (host, .ok ()) := by
  obtain ⟨left, hleads⟩ := h.leads
  obtain ⟨f, hmake, hf⟩ := makeFolder_standing s.ends hleads
  have hfolder : host.disk.isFolder s.location.folder.route = true :=
    isFolder_iff.mpr ⟨hflaw, left, s.key, hleads, h.folder⟩
  unfold Location.create
  rw [makeFolders, ensureFolder_refused hmake hf, hfolder]
  rfl

theorem create_makes (hb : s.ground.Bears host.disk.root) (hok : (s.location.create host).2 = .ok ()) :
    ∃ disk, s.location.create host = ({ host with disk }, .ok ()) ∧ Raises s.key host.disk disk ∧
      s.Stands disk := by
  obtain ⟨disk, _, hraises, hmade | ⟨e, he⟩⟩ := create_cases hb
  · exact ⟨disk, hmade.1, hraises, hmade.2⟩
  · rw [he] at hok
    cases hok

theorem tryLock_takes (h : s.Stands host.disk) (hsound : host.Sound) (hf : s.fault? Location.lockName = none)
    (hopens : Location.LockOpens host.disk s.key) (hlock : s.Unlocked host) :
    ∃ disk file, s.Prepares host.disk disk ∧
      disk.root.look (s.path Location.lockName) = some (.file file) ∧ host.isLocked file = false ∧
      s.location.tryLock host =
        ({ host with disk, locks := ⟨host.issued, file⟩ :: host.locks, issued := host.issued + 1 },
          .taken host.issued) := by
  have hsolid : ∀ x, host.disk.root.look (s.path Location.lockName) = some x → ∃ file, x = .file file := by
    intro x hx
    rcases hlock with hnone | ⟨file, hfile, _⟩
    · cases hnone.symm.trans hx
    · exact ⟨file, Option.some.inj (hx.symm.trans hfile)⟩
  rcases Location.tryLock_in (withoutSlash_of_last s.ends) h.follow h.folder
    (fun target he => nomatch hsolid _ he) with
    ⟨_, _, hfolder⟩ | ⟨disk, file, _, ⟨rfl, hfile⟩ | ⟨hnone, rfl, rfl⟩, ⟨hlocked, _⟩ | ⟨hfree, htaken⟩⟩
  · nomatch hsolid _ (hfolder hf hopens)
  · rcases hlock with hnone | ⟨_, hfile', hfree⟩
    · cases hnone.symm.trans hfile
    · cases hfile.symm.trans hfile'
      cases hfree.symm.trans hlocked
  · exact ⟨_, file, .still rfl, hfile, hfree, htaken⟩
  · cases hsound.isLocked_new.symm.trans hlocked
  · exact ⟨_, _, .lock h hnone rfl, by rw [h.look_newFile hnone, path, if_pos rfl], hfree, htaken⟩

theorem unpublish_goes (h : s.Stands host.disk) (hf : s.fault? Manifest.fileName = none)
    (hopens : host.disk.opens .write s.key = true)
    (hfolder : host.disk.root.look (s.path Manifest.fileName) ≠ some .folder) :
    ∃ disk, s.location.unpublish host = ({ host with disk }, .ok ()) ∧ WorksIn s.key host.disk disk ∧
      Upholds host.disk disk ∧ s.Unpublished disk := by
  rcases unpublish_cases h with ⟨_, _, hblocked⟩ | hgone
  · exact absurd (hblocked hf hopens) hfolder
  · exact hgone

theorem writeDraft_goes (h : s.Stands d) (hf : s.fault? Manifest.draftName = none)
    (hopens : d.opens .write s.key = true) (hfree : s.Undrafted d) (m : Manifest) :
    ∃ d', m.writeDraft s.location.folder d = .ok d' := by
  have hopen := h.openFile_entry single_draftName (by rw [show d.root.look _ = none from hfree]; nofun) 0o644
  rw [hf, show d.root.look _ = none from hfree, hopens] at hopen
  unfold Manifest.writeDraft Disk.write
  simp only [route_draftName, hopen]
  exact ⟨_, rfl⟩

/-- The draft takes the place of whatever is no folder. -/
theorem publishDraft_replaces (h : s.Stands d) (hf : s.fault? Manifest.fileName = none)
    (hopens : d.opens .write s.key = true) (hp : s.Passable [Manifest.draftName]) {id : Nat}
    (hdraft : d.root.look (s.path Manifest.draftName) = some (.file id))
    (hmanifest : d.root.look (s.path Manifest.fileName) ≠ some .folder) :
    ∃ d', Manifest.publishDraft s.location.folder d = .ok d' ∧
      s.Placed [Manifest.draftName] Manifest.fileName id d d' ∧
      (s.Unpublished d → d'.root.look (s.path Manifest.draftName) = none) := by
  have hrename := rename_file h (by simpa using single_draftName) hp single_fileName hdraft
  obtain ⟨d', hmove⟩ : ∃ d', d.move (s.path Manifest.draftName) (s.path Manifest.fileName) = .ok d' :=
    ⟨_, move_onto hdraft h.folder hmanifest⟩
  have hmovable : s.Movable d [Manifest.draftName] Manifest.fileName := by
    simp [Movable, hopens]
  rw [hf, if_pos hmovable] at hrename
  have hpublish : Manifest.publishDraft s.location.folder d = .ok d' := by
    unfold Manifest.publishDraft
    simp only [route_draftName, route_fileName, show d.rename (s.route Manifest.draftName) _ = _ from hrename]
    rw [show d.move (s.key ++ [Manifest.draftName]) (s.path Manifest.fileName) = .ok d' from hmove]
  refine ⟨d', hpublish, publishDraft_places h hdraft hp hpublish, fun hu => ?_⟩
  obtain ⟨_, hmove', _, hgone⟩ := move_free hdraft h.folder hu
  cases hmove.symm.trans hmove'
  exact hgone

end Site

/-! ### Taking the lock -/

namespace Site

/-- A location at which a build can come to its generator. The folder is there or can be made, the user may
list and change what is there, nobody has the lock, and no folder has the name of the manifest. -/
structure Accessible (s : Site) (host : Host) : Prop where
  bears : s.ground.Bears host.disk.root
  sound : host.Sound
  ample : s.Ample
  folder : host.disk.root.look s.key = some .folder ∨ (s.location.create host).2 = .ok ()
  permits : Location.Permits host.disk s.key
  unlocked : s.Unlocked host
  manifest : host.disk.root.look (s.path Manifest.fileName) ≠ some .folder

/-- Somebody has come to the location and has the lock. -/
structure Entered (s : Site) (host host' : Host) : Prop where
  stands : s.Stands host'.disk
  sound : host'.Sound
  upholds : Upholds host.disk host'.disk
  permits : Location.Permits host'.disk s.key
  lock : ∃ file, host'.disk.root.look (s.path Location.lockName) = some (.file file) ∧
    host.isLocked file = false ∧ host'.locks = ⟨host.issued, file⟩ :: host.locks
  issued : host'.issued = host.issued + 1
  runs : host'.runs = host.runs

variable {s : Site} {host host' : Host}

theorem look_raises {d d' : Disk} (h : Raises s.key d d') (n : String) (rest : List String) :
    d'.root.look (s.key ++ n :: rest) = d.root.look (s.key ++ n :: rest) := by
  rcases h.look (s.key ++ n :: rest) with hsame | ⟨hway, _⟩
  · exact hsame
  · have hlong := hway.length_le
    rw [List.length_append, List.length_cons] at hlong
    omega

/-- Whoever is alone can make the folder and take the lock. -/
theorem Accessible.enters (h : s.Accessible host) : ∃ host₁ host₂, s.location.create host = (host₁, .ok ()) ∧
    s.location.tryLock host₁ = (host₂, .taken host.issued) ∧ s.Entered host host₂ ∧
    ∀ n, n ≠ Location.lockName → host₂.disk.root.look (s.path n) = host.disk.root.look (s.path n) := by
  have hcreate : (s.location.create host).2 = .ok () := by
    rcases h.folder with hfolder | hmade
    · rw [create_standing ⟨h.bears, hfolder⟩ h.ample.folder]
    · exact hmade
  obtain ⟨disk₁, hmade, hraises, hstands⟩ := create_makes h.bears hcreate
  have hsound₁ : ({ host with disk := disk₁ } : Host).Sound :=
    h.sound.keep hraises.keeps (hraises.numbered h.sound.numbered)
  have hlock₁ : s.Unlocked { host with disk := disk₁ } := by
    obtain hnone | ⟨file, hfile, hfree⟩ := h.unlocked
    · exact .inl ((look_raises hraises _ []).trans hnone)
    · exact .inr ⟨file, (look_raises hraises _ []).trans hfile, hfree⟩
  have hpermits₁ : Location.Permits disk₁ s.key :=
    h.permits.upheld hraises.upholds hraises.keeps (look_raises hraises _ [])
  obtain ⟨disk₂, file, hprepares, hnamed, hfree, htaken⟩ :=
    tryLock_takes (s := s) hstands hsound₁ h.ample.lockName (hpermits₁.lockOpens hstands.folder) hlock₁
  have hconfined := hprepares.confined
  have hnumbered := hconfined.numbered hsound₁.numbered
  refine ⟨_, _, hmade, htaken, ⟨hstands.confined hconfined,
    ⟨hnumbered, fun lock hmem => ?_⟩, hraises.upholds.trans hprepares.upholds, hprepares.permits hpermits₁,
      ⟨file, hnamed, hfree, rfl⟩, rfl, rfl⟩,
    fun n hn => (hprepares.below hn []).trans (look_raises hraises n [])⟩
  · rcases List.mem_cons.mp hmem with rfl | hmem
    · exact ⟨hnumbered _ _ hnamed, Nat.lt_succ_self _⟩
    · obtain ⟨hfile, hticket⟩ := hsound₁.locks lock hmem
      exact ⟨Nat.lt_of_lt_of_le hfile hconfined.keeps.size, Nat.lt_succ_of_lt hticket⟩

theorem Entered.works (h : s.Entered host host') {disk : Disk} (hworks : WorksIn s.key host'.disk disk)
    (hup : Upholds host'.disk disk) : s.Entered host { host' with disk } := by
  obtain ⟨file, hfile, hfree, hlocks⟩ := h.lock
  exact ⟨h.stands.confined hworks.confined, h.sound.keep hworks.keeps (hworks.numbered h.sound.numbered),
    h.upholds.trans hup, h.permits.upheld hup hworks.keeps hworks.lock,
      ⟨file, hworks.lock.trans hfile, hfree, hlocks⟩, h.issued, h.runs⟩

/-- Giving the lock back leaves the locks as they were. -/
theorem Entered.unlock (h : s.Entered host host') (hsound : host.Sound) (disk : Disk) (runs : Nat) :
    ({ host' with disk, runs } : Host).unlock host.issued =
      { disk, locks := host.locks, issued := host.issued + 1, runs } := by
  obtain ⟨file, _, _, hlocks⟩ := h.lock
  have hothers : host.locks.filter (fun l => l.ticket ≠ host.issued) = host.locks := by
    rw [List.filter_eq_self]
    intro lock hmem
    simpa using Nat.ne_of_lt (hsound.locks lock hmem).2
  simp only [Host.unlock, hlocks, h.issued]
  rw [List.filter_cons_of_neg (by simp), hothers]

end Site

/-! ### Clearing the location -/

namespace Visit

variable {s : Site} {host : Host} {v : Visit} {generator : Generator} {spec : KernelSpec} {target : Target}
  {force : Bool} {host' : Host} {v' : Visit}

theorem steps_of_step (h : v.step generator host = (host', v')) (n : Nat) :
    steps generator (n + 1) host v = steps generator n host' v' := by
  rw [steps_succ, h]

theorem acts_of_step (h : v.step generator host = (host', v'))
    (hacts : s.Acts host (v.step generator host).1 v (v.step generator host).2) : s.Acts host host' v v' := by
  rwa [h] at hacts

/-- Removing one path after the other. -/
theorem steps_removeAll (herrand : v.errand = .build spec target force) (pending : List (List String))
    (outputs : Nat) (hpermits : Location.Permits host.disk s.key)
    (hinside : s.Inside host.disk (clearing v.errand pending outputs)) :
    ∃ disk, s.location.removeAll pending host = ({ host with disk }, .ok ()) ∧
      steps generator pending.length host (v.goto (clearing v.errand pending outputs)) =
        ({ host with disk }, v.goto .generate) ∧
      WorksIn s.key host.disk disk ∧ Upholds host.disk disk ∧ s.Inside disk .generate := by
  induction pending generalizing host with
  | nil =>
    rw [show clearing v.errand [] outputs = .generate by rw [herrand]; rfl] at hinside ⊢
    exact ⟨_, rfl, rfl, .refl _ _, .refl _, hinside⟩
  | cons key pending ih =>
    obtain ⟨n, rest, _, rfl⟩ := hinside.2.1 key List.mem_cons_self
    have hstrike : host.disk.strike (s.key ++ n :: rest) = .ok (host.disk.erase (s.key ++ n :: rest)) :=
      if_pos (hpermits.mayStrike n rest)
    have hstep : (v.goto (.clear ((s.key ++ n :: rest) :: pending) outputs)).step generator host =
        ({ host with disk := host.disk.erase (s.key ++ n :: rest) },
          v.goto (clearing v.errand pending outputs)) := by
      simp only [Visit.step, goto, hstrike]
    have hup : Upholds host.disk (host.disk.erase (s.key ++ n :: rest)) := .erase (by simp)
    have hacts := acts_of_step hstep (Site.step_clear rfl hinside)
    obtain ⟨disk, hremove, hsteps, hworks, hup', hgenerate⟩ :=
      @ih { host with disk := host.disk.erase (s.key ++ n :: rest) }
        (hpermits.upheld hup hacts.works.keeps hacts.works.lock) hacts.inside
    refine ⟨disk, ?_, ?_, hacts.works.trans hworks, hup.trans hup', hgenerate⟩
    · rw [Location.removeAll, hstrike]
      exact hremove
    · rw [List.length_cons]
      exact (steps_of_step hstep _).trans hsteps

/-- A build removes the manifest and then everything else but the lock file. -/
theorem steps_clear (hv : v.location = s.location) (herrand : v.errand = .build spec target force)
    (hstage : v.stage = .unpublish) (hs : s.Stands host.disk) (hample : s.Ample)
    (hpermits : Location.Permits host.disk s.key)
    (hfolder : host.disk.root.look (s.path Manifest.fileName) ≠ some .folder) :
    ∃ n disk, (s.location.clearOutputs (s.location.unpublish host).1).1 = { host with disk } ∧
      steps generator n host v = ({ host with disk }, v.goto .generate) ∧ WorksIn s.key host.disk disk ∧
      Upholds host.disk disk ∧ s.Inside disk .generate := by
  have hwrite := hpermits.opens .write hs.folder
  obtain ⟨disk₁, hunpublish, hworks₁, hup₁, hu⟩ := Site.unpublish_goes hs hample.fileName hwrite hfolder
  have hs₁ : s.Stands disk₁ := hs.confined hworks₁.confined
  have hpermits₁ := hpermits.upheld hup₁ hworks₁.keeps hworks₁.lock
  obtain ⟨keys, houtputs⟩ := Location.outputs_in (hs₁.locate hample.folder)
    (hpermits₁.opens .read hs₁.folder)
  have hstep₁ : v.step generator host = ({ host with disk := disk₁ }, v.goto .survey) := by
    simp only [Visit.step, hstage, hv, hunpublish]
  have hstep₂ : (v.goto .survey).step generator { host with disk := disk₁ } =
      ({ host with disk := disk₁ }, v.goto (clearing v.errand (Location.removalPlan keys disk₁) keys.length)) := by
    simp only [Visit.step, goto, hv, houtputs]
  have hacts := acts_of_step hstep₂ (Site.step_survey hv hs₁ rfl hu)
  obtain ⟨disk₂, hremove, hsteps, hworks₂, hup₂, hgenerate⟩ :=
    @steps_removeAll s { host with disk := disk₁ } _ generator _ _ _ herrand _ _ hpermits₁ hacts.inside
  refine ⟨(Location.removalPlan keys disk₁).length + 1 + 1, disk₂, ?_, ?_, hworks₁.trans hworks₂, hup₁.trans hup₂,
    hgenerate⟩
  · rw [hunpublish]
    simp only [Location.clearOutputs, houtputs, hremove]
  · rw [steps_of_step hstep₁, steps_of_step hstep₂, hsteps]

end Visit

/-! ### Publishing the library -/

namespace Site

/-- A generator has left a library at a location: a regular file at some names below the folder, which is
the file that the route of the library names. The lock file is the one that was there, and the names under
which the build will put something are free. The user may read the library, and change the folder it is in
and that of the location. -/
structure Supplies (s : Site) (swept left : Disk) (library : Place) (names : List String) (id : Nat) : Prop where
  stands : s.Stands left
  numbered : left.Numbered
  lock : left.root.look (s.path Location.lockName) = swept.root.look (s.path Location.lockName)
  unpublished : s.Unpublished left
  undrafted : s.Undrafted left
  unplaced : left.root.look
    (s.path (s.location.fingerprint.publishedName (.ofBytes (left.content id)))) = none
  file : left.root.look (s.key ++ names) = some (.file id)
  regular : (left.node id).kind = .regular
  readable : left.allows .read id = true
  movable : left.opens .write (s.key ++ names.dropLast) = true
  writable : left.opens .write s.key = true
  kept : names ≠ [Location.lockName]
  found : left.fileAt library.route = .ok id
  named : ∃ base last, left.tip library.route = .ok (.entry base last false) ∧ base ++ [last] = s.key ++ names
  other : Path.same library.text
    (s.location.folder.join (s.location.fingerprint.publishedName (.ofBytes (left.content id)))).text = false

/-- What a build has made of a disk on which a generator left a library: the manifest is there, the library
has moved to the name that the manifest gives it, and all else is as it was. -/
structure Delivered (s : Site) (left final : Disk) (names : List String) (id : Nat) (m : Manifest) : Prop where
  look : ∀ k, final.root.look k =
    if k = s.path Manifest.fileName then some (.file left.nodes.size)
    else if k = s.path m.library then some (.file id)
    else if k = s.key ++ names then none
    else left.root.look k
  keeps : Keeps left final
  fresh : left.nodes.size < final.nodes.size
  readable : final.allows .read left.nodes.size = true
  manifest : final.content left.nodes.size = m.text.toUTF8

variable {s : Site} {swept left : Disk} {library : Place} {names : List String} {id : Nat} {m : Manifest}
  {final : Disk}

theorem Supplies.place (h : s.Supplies swept left library names id) (hroom : s.Roomy) :
    ∃ d, Visit.placeLibrary s.location library (.ofBytes (left.content id)) left = .ok d ∧
      s.Placed names (s.location.fingerprint.publishedName (.ofBytes (left.content id))) id left d ∧
      d.root.look (s.key ++ names) = none := by
  have hsingle := Fingerprint.single_publishedName s.name (.ofBytes (left.content id))
  have hlock : s.location.fingerprint.publishedName (.ofBytes (left.content id)) ≠ Location.lockName :=
    Fingerprint.publishedName_ne (by decide)
  have hother := h.other
  have hfree := h.unplaced
  have hf := hroom (.ofBytes (left.content id))
  obtain ⟨base, last, htip, hnames⟩ := h.named
  unfold Visit.placeLibrary
  generalize s.location.fingerprint.publishedName (.ofBytes (left.content id)) = published at *
  obtain ⟨d, hmove, hrelocates, hgone⟩ := move_free h.file h.stands.folder hfree
  have htarget : (s.location.folder.join published).route = s.route published := route_entry hsingle
  have hget : left.get? (base ++ [last]) = some (.file id) := by
    rw [hnames]
    exact look_eq_file_iff.mp h.file
  have hrename : left.rename library.route (s.location.folder.join published).route = .ok d := by
    have hbase : base = s.key ++ names.dropLast := by
      have hnil : names ≠ [] := by
        rintro rfl
        have hfile := h.file
        rw [List.append_nil, h.stands.folder] at hfile
        cases hfile
      rw [← List.dropLast_append_of_ne_nil hnil, ← hnames, List.dropLast_concat]
    have hopens : left.opens .write base = true := hbase ▸ h.movable
    unfold rename
    rw [htip, htarget, h.stands.tip_entry hsingle, hf]
    simp only [hget, hopens, h.writable, Bool.and_self, Bool.true_or, if_true, Bool.or_self, Bool.false_eq_true,
      if_false]
    rw [hnames, hmove]
  refine ⟨d, ?_, placed_of_relocates h.stands h.file h.kept hlock (passable_single.mpr hf) hrelocates, hgone⟩
  simp only [hother, Bool.false_eq_true, if_false, hrename]

/-- The library can be placed, and then a manifest that names it can be written and put in its place. -/
theorem Supplies.deliver (h : s.Supplies swept left library names id) (hroom : s.Roomy)
    (hm : m.library = s.location.fingerprint.publishedName (.ofBytes (left.content id))) :
    ∃ d₁ d₂ d₃, Visit.placeLibrary s.location library (.ofBytes (left.content id)) left = .ok d₁ ∧
      m.writeDraft s.location.folder d₁ = .ok d₂ ∧ Manifest.publishDraft s.location.folder d₂ = .ok d₃ ∧
      s.Delivered left d₃ names id m := by
  have hdraft : s.location.fingerprint.publishedName (.ofBytes (left.content id)) ≠ Manifest.draftName :=
    Fingerprint.publishedName_ne (by decide)
  have hfile : s.location.fingerprint.publishedName (.ofBytes (left.content id)) ≠ Manifest.fileName :=
    Fingerprint.publishedName_ne (by decide)
  obtain ⟨d₁, hplace, hplaced, hgone⟩ := h.place hroom
  rw [← hm] at hdraft hfile hplaced
  have hs₁ : s.Stands d₁ := h.stands.confined hplaced.works.confined
  have hu₁ : s.Unpublished d₁ := hplaced.free h.file (Ne.symm hfile) h.unpublished
  have hfree₁ : s.Undrafted d₁ := hplaced.free h.file (Ne.symm hdraft) h.undrafted
  have hopens₁ : d₁.opens .write s.key = true := hplaced.moved.upholds _ _ hs₁.folder fun _ => h.writable
  obtain ⟨d₂, hwrite⟩ := writeDraft_goes hs₁ hroom.ample hopens₁ hfree₁ m
  obtain ⟨hworks, hup, hpassable, hlook, hreadable, hcontent⟩ :=
    writeDraft_writes hs₁ (hplaced.works.numbered h.numbered) hfree₁ hwrite
  have hnamed : d₂.root.look (s.path Manifest.draftName) = some (.file d₁.nodes.size) :=
    (hlook _).trans (if_pos rfl)
  have hu₂ : s.Unpublished d₂ := by
    rw [Unpublished, hlook, if_neg (by simp [path, Manifest.fileName, Manifest.draftName])]
    exact hu₁
  have hs₂ : s.Stands d₂ := hs₁.confined hworks.confined
  obtain ⟨d₃, hpublish, hplaced₃, hgone₃⟩ := publishDraft_replaces hs₂ hroom.ample.fileName
    (hup _ _ hs₂.folder fun _ => hopens₁) hpassable hnamed (by simp [show d₂.root.look _ = none from hu₂])
  have hgone₃ := hgone₃ hu₂
  rw [hplaced.moved.nodes] at hnamed hcontent hreadable
  have hnew : left.nodes.size < d₂.nodes.size :=
    hworks.numbered (hplaced.works.numbered h.numbered) _ _ hnamed
  refine ⟨d₁, d₂, d₃, hplace, hwrite, hpublish, fun k => ?_, ?_, ?_, ?_, ?_⟩
  · have hlook₃ : ∀ k, d₃.root.look k = if k = s.path Manifest.fileName then some (.file d₁.nodes.size)
        else if k = s.path Manifest.draftName then none else d₂.root.look k := hplaced₃.moved.look hgone₃
    rw [hlook₃, hlook, hplaced.moved.look hgone, hplaced.moved.nodes]
    by_cases hk : k = s.path Manifest.draftName
    · -- The draft is gone, as it was before it was written.
      rw [hk, if_pos rfl, if_neg (path_inj.not.mpr (Ne.symm hdraft)),
        show left.root.look (s.path Manifest.draftName) = none from h.undrafted, ite_self]
    · rw [if_neg hk, if_neg hk]
  · exact (hplaced.works.keeps.trans hworks.keeps).trans hplaced₃.works.keeps
  · exact Nat.lt_of_lt_of_le hnew hplaced₃.works.keeps.size
  · exact hplaced₃.works.keeps.allows hreadable
  · rw [hplaced₃.works.keeps.content hnew, hcontent]

namespace Delivered

variable (h : s.Delivered left final names id m) (hw : s.Supplies swept left library names id)

include h hw

theorem lock (hm : m.library ≠ Location.lockName) :
    final.root.look (s.path Location.lockName) = swept.root.look (s.path Location.lockName) := by
  rw [h.look, if_neg, if_neg, if_neg, hw.lock]
  · intro he
    exact hw.kept (List.append_cancel_left he).symm
  · exact path_inj.not.mpr (Ne.symm hm)
  · simp [path, Location.lockName, Manifest.fileName]

theorem numbered : final.Numbered := by
  intro k i hk
  rw [h.look] at hk
  split at hk
  · cases hk
    exact h.fresh
  · refine Nat.lt_of_lt_of_le ?_ h.keeps.size
    split at hk
    · cases hk
      exact hw.numbered _ _ hw.file
    · split at hk
      · cases hk
      · exact hw.numbered _ _ hk

theorem stands : s.Stands final := by
  obtain ⟨n, rest, rfl⟩ : ∃ n rest, names = n :: rest := by
    refine List.exists_cons_of_ne_nil ?_
    rintro rfl
    have hfile := hw.file
    rw [List.append_nil, hw.stands.folder] at hfile
    cases hfile
  refine hw.stands.confined ⟨h.keeps, fun _ => h.numbered hw, fun k => ?_⟩
  by_cases hk : ∃ n rest, k = s.key ++ n :: rest
  · exact .inr (.inl hk)
  · have hne : ∀ n rest, k ≠ s.key ++ n :: rest := fun n rest he => hk ⟨n, rest, he⟩
    exact .inl (by rw [h.look, path, path, if_neg (hne _ []), if_neg (hne _ []), if_neg (hne n rest)])

end Delivered

/-- What is published once the library is placed and the manifest in its place. -/
theorem Delivered.publishes {spec : KernelSpec} {target : Target}
    (h : s.Delivered left final names id (Visit.manifestFor s.location spec target (.ofBytes (left.content id))))
    (hw : s.Supplies swept left library names id) (hroom : s.Roomy) :
    ∃ p : Published, p =
      ⟨s.location.folder, Visit.manifestFor s.location spec target (.ofBytes (left.content id))⟩ ∧
      s.location.published? final = some p ∧ final.fileAt p.library.route = .ok id ∧
      final.read p.library.route = .ok (left.content id) := by
  have hid := hw.numbered _ _ hw.file
  have hsingle := Fingerprint.single_publishedName s.name (.ofBytes (left.content id))
  have hp := passable_single.mpr (hroom (.ofBytes (left.content id)))
  have hplaced : final.root.look (s.path (s.location.fingerprint.publishedName (.ofBytes (left.content id)))) =
      some (.file id) := by
    rw [h.look, if_neg (path_inj.not.mpr (Fingerprint.publishedName_ne (by decide)))]
    exact if_pos rfl
  have hsingles : ∀ n ∈ [s.location.fingerprint.publishedName (.ofBytes (left.content id))], Path.Single n := by
    simpa using hsingle
  have hread := (h.stands hw).read_file hsingles hplaced hp (h.keeps.allows hw.readable)
  have hfile := (h.stands hw).fileAt_file hsingles hplaced hp
  rw [h.keeps.content hid] at hread
  rw [show s.location.folder.route ++ [_] = _ from (route_entry hsingle).symm] at hread hfile
  refine ⟨_, rfl, Publishes.published? ⟨passable_single.mpr hroom.ample.fileName,
    ⟨_, (h.look _).trans (if_pos rfl), h.readable, h.manifest⟩, [_], id,
    by simp [Manifest.isCompatible, Visit.manifestFor], route_entry hsingle, hsingles, hp, hplaced, ?_,
    h.keeps.allows hw.readable, ?_⟩ (h.stands hw), hfile, hread⟩
  · rw [h.keeps.node id hid]
    exact hw.regular
  · rw [h.keeps.content hid]
    rfl

end Site

namespace Visit

variable {s : Site} {host : Host} {v : Visit} {generator : Generator} {spec : KernelSpec} {target : Target}
  {force : Bool} {left : Disk} {library : Place} {names : List String} {id ticket : Nat}

theorem step_generates (hv : v.location = s.location) (herrand : v.errand = .build spec target force)
    (hstage : v.stage = .generate)
    (hgenerator : generator ⟨spec, target, s.location.fingerprint, s.location.folder⟩ host = (left, .ok library)) :
    v.step generator host = ({ host with disk := left, runs := host.runs + 1 }, v.goto (.digest library)) := by
  simp only [Visit.step, hstage, herrand, hv, hgenerator]

theorem step_digests (host : Host) {content : ByteArray} (hread : host.disk.read library.route = .ok content) :
    (v.goto (.digest library)).step generator host = (host, v.goto (.place library (.ofBytes content))) := by
  simp only [Visit.step, goto, hread]

theorem step_places (host : Host) {checksum : Digest} {disk : Disk} (hv : v.location = s.location)
    (herrand : v.errand = .build spec target force)
    (hplace : placeLibrary s.location library checksum host.disk = .ok disk) :
    (v.goto (.place library checksum)).step generator host =
      ({ host with disk }, v.goto (.draft (manifestFor s.location spec target checksum))) := by
  simp only [Visit.step, goto, herrand, hv, hplace]

theorem step_drafts (host : Host) {m : Manifest} {disk : Disk} (hv : v.location = s.location)
    (hwrite : m.writeDraft s.location.folder host.disk = .ok disk) :
    (v.goto (.draft m)).step generator host = ({ host with disk }, v.goto (.publish m)) := by
  simp only [Visit.step, goto, hv, hwrite]

theorem step_publishes (host : Host) {m : Manifest} {disk : Disk} (hv : v.location = s.location)
    (hpublish : Manifest.publishDraft s.location.folder host.disk = .ok disk) :
    (v.goto (.publish m)).step generator host =
      ({ host with disk }, v.goto (.release (.ok (.published ⟨s.location.folder, m⟩)))) := by
  simp only [Visit.step, goto, hv, hpublish]

theorem step_releases (host : Host) {r : Except BuildError Yield} (hticket : v.ticket = some ticket) :
    (v.goto (.release r)).step generator host = (host.unlock ticket, v.goto (.done r)) := by
  simp only [Visit.step, goto, hticket]

theorem steps_deliver (hv : v.location = s.location) (herrand : v.errand = .build spec target force)
    (hstage : v.stage = .generate) (hticket : v.ticket = some ticket)
    (hgenerator : generator ⟨spec, target, s.location.fingerprint, s.location.folder⟩ host = (left, .ok library))
    (hw : s.Supplies host.disk left library names id) (hroom : s.Roomy) :
    ∃ final, s.Delivered left final names id (manifestFor s.location spec target (.ofBytes (left.content id))) ∧
      steps generator 6 host v = (({ host with disk := final, runs := host.runs + 1 } : Host).unlock ticket,
        v.goto (.done (.ok (.published
          ⟨s.location.folder, manifestFor s.location spec target (.ofBytes (left.content id))⟩)))) := by
  have hread : left.read library.route = .ok (left.content id) := by
    rw [Disk.read, hw.found]
    exact if_pos hw.readable
  obtain ⟨d₁, d₂, d₃, hplace, hwrite, hpublish, hdelivered⟩ :=
    hw.deliver hroom (m := manifestFor s.location spec target (.ofBytes (left.content id))) rfl
  let ran (disk : Disk) : Host := { host with disk, runs := host.runs + 1 }
  refine ⟨d₃, hdelivered, ?_⟩
  rw [steps_of_step (step_generates hv herrand hstage hgenerator), steps_of_step (step_digests (ran left) hread),
    steps_of_step (step_places (ran left) hv herrand hplace), steps_of_step (step_drafts (ran d₁) hv hwrite),
    steps_of_step (step_publishes (ran d₂) hv hpublish), steps_of_step (step_releases (ran d₃) hticket)]
  rfl

theorem steps_cleared (hv : v.location = s.location) (herrand : v.errand = .build spec target force)
    (hstage : v.stage = .arrive) (h : s.Accessible host)
    (hplain : force = false → s.location.published? (s.location.tryLock (s.location.create host).1).1.disk = none) :
    ∃ n, steps generator n host v =
        (s.location.cleared host, { v with ticket := some host.issued, stage := .generate }) ∧
      (steps generator 2 host v).2.stage.early ≤ 3 ∧ s.Entered host (s.location.cleared host) ∧
      s.Inside (s.location.cleared host).disk .generate := by
  obtain ⟨host₁, host₂, hmade, htaken, hentered, hkept⟩ := h.enters
  have hmanifest : host₂.disk.root.look (s.path Manifest.fileName) ≠ some .folder := by
    rw [hkept _ (by decide)]
    exact h.manifest
  have h₁ : v.step generator host = (host₁, v.goto .lock) := by
    simp only [Visit.step, hstage, herrand, hv, hmade]
  rw [hmade, htaken] at hplain
  obtain ⟨n, disk, hcleared, hsteps, hworks, hup, hinside⟩ :=
    @steps_clear s host₂ { v with ticket := some host.issued, stage := .unpublish } generator spec target force hv
      herrand rfl hentered.stands h.ample hentered.permits hmanifest
  have hdef : s.location.cleared host = { host₂ with disk } := by
    rw [← hcleared, Location.cleared, hmade, htaken]
  rw [hdef]
  cases force with
  | true =>
    have h₂ : (v.goto .lock).step generator host₁ =
        (host₂, { v with ticket := some host.issued, stage := .unpublish }) := by
      simp only [Visit.step, goto, herrand, hv, htaken]
    refine ⟨n + 1 + 1, ?_, ?_, hentered.works hworks hup, hinside⟩
    · rw [steps_of_step h₁, steps_of_step h₂, hsteps]
      rfl
    · rw [steps_of_step h₁, steps_of_step h₂]
      exact (by decide : 2 ≤ 3)
  | false =>
    have h₂ : (v.goto .lock).step generator host₁ =
        (host₂, { v with ticket := some host.issued, stage := .recheck }) := by
      simp only [Visit.step, goto, herrand, hv, htaken]
    have h₃ : ({ v with ticket := some host.issued, stage := .recheck } : Visit).step generator host₂ =
        (host₂, { v with ticket := some host.issued, stage := .unpublish }) := by
      simp only [Visit.step, goto, hv, hplain rfl]
    refine ⟨n + 1 + 1 + 1, ?_, ?_, hentered.works hworks hup, hinside⟩
    · rw [steps_of_step h₁, steps_of_step h₂, steps_of_step h₃, hsteps]
      rfl
    · rw [steps_of_step h₁, steps_of_step h₂]
      exact (by decide : 3 ≤ 3)

/-- **The steps of a build that goes well.** -/
theorem steps_build (hv : v.location = s.location) (herrand : v.errand = .build spec target force)
    (hstage : v.stage = .arrive) (h : s.Accessible host) (hroom : s.Roomy)
    (hplain : force = false → s.location.published? (s.location.tryLock (s.location.create host).1).1.disk = none)
    (hgenerator : generator ⟨spec, target, s.location.fingerprint, s.location.folder⟩ (s.location.cleared host) =
      (left, .ok library))
    (hw : s.Supplies (s.location.cleared host).disk left library names id) :
    ∃ n final, steps generator n host v =
        ({ disk := final, locks := host.locks, issued := host.issued + 1, runs := host.runs + 1 },
          { v with
            ticket := some host.issued,
            stage := .done (.ok (.published
              ⟨s.location.folder, manifestFor s.location spec target (.ofBytes (left.content id))⟩)) }) ∧
      (steps generator 2 host v).2.stage.early ≤ 3 ∧
      s.Delivered left final names id (manifestFor s.location spec target (.ofBytes (left.content id))) := by
  obtain ⟨n, hsteps, hearly, hentered, _⟩ := steps_cleared hv herrand hstage h hplain
  obtain ⟨final, hdelivered, hrest⟩ :=
    @steps_deliver s (s.location.cleared host) { v with ticket := some host.issued, stage := .generate }
      generator spec target force left library names id host.issued hv herrand rfl rfl hgenerator hw hroom
  refine ⟨n + 6, final, ?_, hearly, hdelivered⟩
  rw [steps_add generator n 6, hsteps, hrest, hentered.unlock h.sound, hentered.runs]
  rfl

end Visit

/-! ### Generators that leave one file -/

theorem Generator.below_of_follow {library : String} {change : List String → Disk → Disk} {request : BuildRequest}
    (h : follow host.disk.root linkLimit [] request.folder.route = .ok key) :
    Generator.below library change request host = (change key host.disk, .ok (request.folder.join library)) := by
  rw [Generator.below, h]

/-- A file that is made in the empty folder is a library. -/
theorem Site.supplies_newFile (hs : s.Stands d) (hd : d.Numbered) (hempty : s.Inside d .generate)
    (hopens : d.opens .write s.key = true)
    (hn : Path.Single name) (hf : s.fault? name = none) (hlock : name ≠ Location.lockName)
    (hfile : name ≠ Manifest.fileName) (hdraft : name ≠ Manifest.draftName) (hlib : name.toList.head? ≠ some 'l')
    (content : ByteArray) :
    s.Supplies d (d.newFile (s.path name) { content }) (s.location.folder.join name) [name] d.nodes.size := by
  have hfree : d.root.look (s.path name) = none := hempty name hlock
  have hlook := hs.look_newFile hfree { content }
  have hnumbered := numbered_newFile hd hs.folder hfree { content }
  have hother : ∀ n, n ≠ name → n ≠ Location.lockName →
      (d.newFile (s.path name) { content }).root.look (s.path n) = none := by
    intro n hne hnl
    rw [hlook, if_neg (by simpa [path] using hne), hempty n hnl]
  have hstands : s.Stands (d.newFile (s.path name) { content }) := by
    refine hs.confined ⟨keeps_newFile _ _ _, fun _ => hnumbered, fun k => ?_⟩
    by_cases hk : k = s.path name
    · exact .inr (.inl ⟨_, _, hk⟩)
    · exact .inl ((hlook k).trans (if_neg hk))
  have hwritable : (d.newFile (s.path name) { content }).opens .write s.key = true :=
    Upholds.newFile hs.folder hfree _ _ _ hstands.folder fun _ => hopens
  have hroute : (s.location.folder.join name).route = s.route name := route_entry hn
  have hthere : (d.newFile (s.path name) { content }).root.look (s.key ++ [name]) = some (.file d.nodes.size) :=
    (hlook _).trans (if_pos rfl)
  refine ⟨hstands, hnumbered, ?_, hother _ (Ne.symm hfile) (by decide), hother _ (Ne.symm hdraft) (by decide),
    hother _ (Fingerprint.publishedName_ne hlib) (Fingerprint.publishedName_ne (by decide)), hthere,
    by rw [node_newFile], allows_push rfl (by show 0o644 &&& 0o400 ≠ 0; decide), ?_, hwritable,
    by simpa using hlock, ?_, ⟨s.key, name, ?_, rfl⟩, ?_⟩
  · rw [hlook, if_neg (by simpa [path] using Ne.symm hlock)]
  · rw [List.dropLast_singleton, List.append_nil]
    exact hwritable
  · rw [hroute]
    exact hstands.fileAt_file (by simpa using hn) hthere (passable_single.mpr hf)
  · rw [hroute, hstands.tip_entry hn, hf]
  · rw [Bool.eq_false_iff]
    intro hsame
    have hnames : [name] = [_] := Place.same_joinNames s.text (by simpa using hn)
      (by simpa using Fingerprint.single_publishedName s.name _) hsame
    exact Fingerprint.publishedName_ne hlib (List.cons.inj hnames).1.symm

theorem Site.Entered.supplies {swept : Host} (h : s.Entered host swept) (hempty : s.Inside swept.disk .generate)
    (hample : s.Ample) (content : ByteArray) :
    s.Supplies swept.disk (swept.disk.newFile (s.path "kernel.so") { content })
      (s.location.folder.join "kernel.so") ["kernel.so"] swept.disk.nodes.size :=
  supplies_newFile h.stands h.sound.numbered hempty (h.permits.opens .write h.stands.folder) (by decide)
    (hample.fits (by decide) (by decide)) (by decide) (by decide) (by decide) (by decide) content

/-! ### A build that is alone -/

theorem Store.build_of_run {store : Store} {generator : Generator} {spec : KernelSpec} {target : Target}
    {fp : Fingerprint} {force : Bool} {host' : Host} {v : Visit} {r : Except BuildError Published}
    (hrun : (store.visit fp (.build spec target force)).run generator host = (host', v))
    (hstage : v.stage = .done (r.map .published)) :
    store.build generator spec target fp force host = (host', r) := by
  unfold Store.build
  simp only [show Visit.mk (store.location fp) (.build spec target force) store.impatient none .arrive =
    store.visit fp (.build spec target force) from rfl, hrun, Store.outcome, Visit.result?, hstage]
  cases r <;> rfl

/-- **A build publishes exactly what its generator made.** At a location that can be entered, a build that
is forced or finds nothing published lets its generator work in an empty folder. If that leaves a library,
the build succeeds: the library has moved to the name that carries the digest of its content, the manifest
is there, and besides these two everything is as the generator left it. What the build returns is what is
published then. -/
theorem Store.build_delivers (store : Store) (s : Site)
    (hstore : store.location s.location.fingerprint = s.location) (generator : Generator) (spec : KernelSpec)
    (target : Target) (force : Bool) (host : Host) (h : s.Accessible host) (hroom : s.Roomy)
    (hplain : force = false → s.location.published? (s.location.tryLock (s.location.create host).1).1.disk = none)
    (left : Disk) (library : Place) (names : List String) (id : Nat)
    (hgenerator : generator ⟨spec, target, s.location.fingerprint, s.location.folder⟩ (s.location.cleared host) =
      (left, .ok library))
    (hw : s.Supplies (s.location.cleared host).disk left library names id) :
    Swept s.location.folder s.key (s.location.cleared host).disk ∧
      ∃ host' p, store.build generator spec target s.location.fingerprint force host = (host', .ok p) ∧
        p.location = s.location.folder ∧
        p.manifest =
          { formatVersion := Manifest.currentFormat
            toolVersion := Manifest.currentTool
            fingerprint := s.location.fingerprint
            target
            library := s.location.fingerprint.publishedName (.ofBytes (left.content id))
            checksum := .ofBytes (left.content id)
            formula := spec.wrapped
            aliases := spec.signature
            precision := spec.precision } ∧
        s.Delivered left host'.disk names id p.manifest ∧
        (∃ file, host'.disk.root.look (s.path Location.lockName) = some (.file file)) ∧
        host'.disk.fileAt p.library.route = .ok id ∧
        store.published? s.location.fingerprint host'.disk = some p := by
  have hv : (store.visit s.location.fingerprint (.build spec target force)).location = s.location := hstore
  obtain ⟨_, _, _, hentered, hempty⟩ :=
    @Visit.steps_cleared s host _ generator spec target force hv rfl rfl h hplain
  obtain ⟨n, final, hsteps, hearly, hdelivered⟩ := Visit.steps_build hv rfl rfl h hroom hplain hgenerator hw
  have hrun := (Visit.run_eq_of_steps rfl hearly (by rw [hsteps])).trans hsteps
  obtain ⟨p, rfl, hpublished, hfile, _⟩ := hdelivered.publishes hw hroom
  refine ⟨⟨hentered.stands.follow, hentered.stands.folder, hentered.sound.numbered, hempty⟩, _,
    _, Store.build_of_run hrun rfl, rfl, rfl, hdelivered, ?_, hfile, ?_⟩
  · obtain ⟨file, hfile, _⟩ := hentered.lock
    exact ⟨file, (hdelivered.lock hw (Fingerprint.publishedName_ne (by decide))).trans hfile⟩
  · rw [Store.published?, hstore]
    exact hpublished

namespace Depot

/-- A kernel to build. -/
def plainSpec : KernelSpec :=
  { formula := "x", reduction := .sum, axis := .outer, aliases := [], precision := .float32, flags := .empty }

/-- A disk with leftovers at a location: a manifest, and a folder with a library in it. The user has no
rights but those that the modes give. -/
def littered : Disk :=
  ((((({ privileged := false } : Disk).newFolder ([] ++ ["cache"]) 0o755).newFolder
    (["cache"] ++ ["k"]) 0o755).newFile
    (["cache", "k"] ++ ["artifact.json"]) {}).newFolder (["cache", "k"] ++ ["old"]) 0o755).newFile
    (["cache", "k", "old"] ++ ["kernel.so"]) {}

/-- The location of those leftovers. -/
def litteredSite : Site := vacant.site ⟨"k"⟩ ⟨by decide, by decide⟩

theorem numbered_littered : littered.Numbered :=
  numbered_newFile (numbered_newFolder (numbered_newFile (numbered_newFolder (numbered_newFolder numbered_empty
    rfl rfl _) rfl rfl _) rfl rfl _) rfl rfl _) rfl rfl _

theorem permits_littered : Location.Permits littered litteredSite.key := by
  have hup : Upholds { privileged := false } littered :=
    ((((Upholds.newFolder rfl rfl).trans (.newFolder rfl rfl)).trans (.newFile rfl rfl _)).trans
      (.newFolder rfl rfl)).trans (.newFile rfl rfl _)
  refine ⟨fun right k hk hfolder => hup right k hfolder fun hroot => ?_, fun right file hfile => by cases hfile⟩
  obtain ⟨rest, rfl⟩ := hk
  cases hroot

theorem bears_root {t : FileTree} (hroot : t.look ["cache"] = some .folder) : vacant.ground.Bears t := by
  have hclear : t.Clear ["cache"] := by
    intro k hk
    rcases List.prefix_cons_iff.mp hk with rfl | ⟨more, rfl, hmore⟩
    · exact .inr (look_folder_above List.nil_prefix (by decide) hroot)
    · rw [List.prefix_nil.mp hmore]
      exact .inr hroot
  refine Ground.bears_under (clear_empty 0 _) hclear fun k x hk hx => ?_
  cases k with
  | nil => exact absurd List.nil_prefix hk
  | cons n rest => cases hx

theorem fault?_vacant {fp : Fingerprint} (h : vacant.kernels fp) (hnul : Char.ofNat 0 ∉ fp.name.toList)
    {name : String} (hname : Char.ofNat 0 ∉ name.toList) (hshort : name.utf8ByteSize ≤ nameLimit) :
    (vacant.site fp h).fault? name = none := by
  have hroute : (vacant.site fp h).location.folder.route = ["cache", fp.name] := by
    rw [show (vacant.site fp h).location.folder = vacant.root.join fp.name from rfl, Place.route_join _ h.1]
    rw [show Path.withoutSlash vacant.root.route = ["cache"] by decide +kernel]
    rfl
  have hcache : "cache".utf8ByteSize = 5 := by decide
  have hfolder : fp.name.utf8ByteSize ≤ nameLimit := by simpa [tooLong] using h.2
  refine Site.fault?_none_of_short ?_ hshort ?_
  · rw [Site.route, hroute]
    simpa using ⟨hnul, hname⟩
  · rw [hroute]
    simp only [List.map_cons, List.map_nil, List.sum_cons, List.sum_nil, hcache, nameLimit, pathLimit]
      at hfolder hshort ⊢
    omega

theorem roomy_vacant {fp : Fingerprint} (h : vacant.kernels fp) (hnul : Char.ofNat 0 ∉ fp.name.toList)
    (hshort : fp.name.utf8ByteSize + 23 ≤ nameLimit) : (vacant.site fp h).Roomy := fun checksum =>
  fault?_vacant h hnul (Fingerprint.nul_not_mem_publishedName hnul checksum)
    (Fingerprint.size_publishedName fp checksum ▸ hshort)

theorem cpu_chars : ∀ c ∈ Target.cpu.name.toList, Target.isNameChar c = true := List.all_eq_true.mp (by decide)

theorem size_cpu (spec : KernelSpec) : (Fingerprint.of spec .cpu).name.utf8ByteSize = 51 :=
  (Fingerprint.size_of spec cpu_chars).trans (by decide)

theorem kernels_cpu (spec : KernelSpec) : vacant.kernels (.of spec .cpu) := by
  refine ⟨Fingerprint.single_of spec cpu_chars, ?_⟩
  rw [tooLong, size_cpu]
  decide

theorem roomy_cpu (spec : KernelSpec) : (vacant.site _ (kernels_cpu spec)).Roomy :=
  roomy_vacant _ (fun h => (Fingerprint.plain_of spec cpu_chars h).2.1 rfl) (size_cpu spec ▸ by decide)

theorem accessible_littered : litteredSite.Accessible { disk := littered } :=
  ⟨vacant.bears_site _ (bears_root rfl) (.inr rfl), ⟨numbered_littered, nofun⟩,
    fault?_vacant _ (by decide) (by decide) (by decide), .inl rfl, permits_littered, .inl rfl, nofun⟩

/-- A forced build among leftovers publishes the new library, and the leftovers are gone. -/
theorem build_delivers_littered :
    ∃ host' p, vacantStore.build scribe plainSpec .cpu ⟨"k"⟩ true { disk := littered } = (host', .ok p) ∧
      p.manifest.checksum = .ofBytes "kernel".toUTF8 ∧ vacantStore.published? ⟨"k"⟩ host'.disk = some p ∧
      littered.root.look ["cache", "k", "old", "kernel.so"] = some (.file 5) ∧
      host'.disk.root.look ["cache", "k", "old"] = none := by
  have haccess := accessible_littered
  obtain ⟨_, _, _, hentered, hempty⟩ := @Visit.steps_cleared litteredSite _
    (vacantStore.visit ⟨"k"⟩ (.build plainSpec .cpu true)) scribe _ _ _ rfl rfl rfl haccess nofun
  have hw := hentered.supplies hempty haccess.ample "kernel".toUTF8
  obtain ⟨_, host', p, hbuild, _, hmanifest, hdelivered, _, _, hpublished⟩ :=
    Store.build_delivers vacantStore litteredSite rfl scribe plainSpec .cpu true _ haccess
      (roomy_vacant _ (by decide) (by decide)) nofun _ _ _ _
      (Generator.below_of_follow hentered.stands.follow) hw
  refine ⟨host', p, hbuild, ?_, hpublished, rfl, ?_⟩
  · rw [hmanifest, Disk.content, node_newFile]
  · have hlibrary : p.manifest.library ≠ "old" := by
      rw [hmanifest]
      exact Fingerprint.publishedName_ne (by decide)
    have hold := hdelivered.look (litteredSite.path "old")
    rw [if_neg (by simp [Site.path, Manifest.fileName]), if_neg (by simpa [Site.path] using Ne.symm hlibrary),
      if_neg (by simp [Site.path]), Disk.look_newFile hentered.stands.folder (hempty _ (by decide)),
      if_neg (by simp [Site.path]), hempty _ (by decide)] at hold
    exact hold

/-- **A fingerprint of two names cannot be published.** The generator leaves its library, but the name that
it should get is in a folder that nobody makes. -/
theorem build_nested_fails :
    (vacantStore.build scribe plainSpec .cpu ⟨"x/y"⟩ true {}).1.runs = 1 ∧
      (vacantStore.build scribe plainSpec .cpu ⟨"x/y"⟩ true {}).1.disk.isFile
        ["cache", "x", "y", "kernel.so"] = true ∧
      (vacantStore.build scribe plainSpec .cpu ⟨"x/y"⟩ true {}).2.isOk = false := by
  decide +kernel

end Depot

end KernelForge
