import KernelForge.Proofs.Cache.Stages

/-!
The steps of a visit, from outside.

`Site.Turn` is all that one step of a visit can be (`turn_of_step`): somebody makes the folder or the lock
file, takes the lock, works under it, or gives it back. `Site.Admits` is what holds of a visitor at each
stage. A turn keeps it for whoever makes it (`Turn.admits`) and for whoever else is at the site and does not
have the lock as well (`Turn.admits_beside`). Sites that are apart (`Site.Apart`) do not notice each other's
turns (`Apart.admits`).
-/
namespace KernelForge

open Disk FileTree

theorem WorksIn.confined {key : List String} {d d' : Disk} (h : WorksIn key d d') : Confined key d d' := by
  refine ⟨h.keeps, h.numbered, fun k => ?_⟩
  by_cases hk : ∃ n rest, k = key ++ n :: rest
  · exact .inr (.inl hk)
  · exact .inl (h.outside k fun n rest he => hk ⟨n, rest, he⟩)

namespace Site

variable {s : Site} {d d' : Disk}

/-! ### Before the lock is taken -/

theorem Stands.look_newFile (h : s.Stands d) {name : String} (hfree : d.root.look (s.path name) = none)
    (n : Node) (k : List String) : (d.newFile (s.path name) n).root.look k =
      if k = s.path name then some (.file d.nodes.size) else d.root.look k :=
  Disk.look_newFile h.folder hfree n k

/-- What somebody does to the disk who has no lock: nothing, or making the folder, or making the lock file. -/
inductive Prepares (s : Site) (d d' : Disk) : Prop
  | still (disk : d' = d)
  | folder (vacant : d.root.look s.key = none) (raises : Raises s.key d d')
  | lock (stands : s.Stands d) (free : d.root.look (s.path Location.lockName) = none)
      (disk : d' = d.newFile (s.path Location.lockName) { mode := 0o644 })

namespace Prepares

theorem confined (h : s.Prepares d d') : Confined s.key d d' := by
  cases h with
  | still disk =>
    subst disk
    exact (WorksIn.refl s.key d').confined
  | folder vacant raises => exact raises.confined
  | lock stands free disk =>
    subst disk
    refine ⟨keeps_newFile _ _ _, fun hd => numbered_newFile hd stands.folder free _, fun k => ?_⟩
    rw [stands.look_newFile free]
    by_cases hk : k = s.path Location.lockName
    · exact .inr (.inl ⟨_, _, hk⟩)
    · exact .inl (if_neg hk)

theorem grows (h : s.Prepares d d') : Extends d.root d'.root := by
  cases h with
  | still disk => exact fun _ _ hx => disk ▸ hx
  | folder vacant raises =>
    intro k x hx
    rcases raises.look k with hsame | ⟨_, hnone, _⟩
    · rw [hsame, hx]
    · rw [hnone] at hx
      cases hx
  | lock stands free disk =>
    rw [disk]
    exact extends_newFile stands.folder free _

theorem upholds (h : s.Prepares d d') : Upholds d d' := by
  cases h with
  | still disk => exact disk ▸ .refl d'
  | folder vacant raises => exact raises.upholds
  | lock stands free disk => exact disk ▸ .newFile stands.folder free _

/-- Below the folder nothing appears but the lock file. -/
theorem below (h : s.Prepares d d') {n : String} (hn : n ≠ Location.lockName) (rest : List String) :
    d'.root.look (s.key ++ n :: rest) = d.root.look (s.key ++ n :: rest) := by
  cases h with
  | still disk => rw [disk]
  | folder vacant raises =>
    rcases raises.look (s.key ++ n :: rest) with hsame | ⟨hway, _⟩
    · exact hsame
    · have hlong := hway.length_le
      rw [List.length_append, List.length_cons] at hlong
      omega
  | lock stands free disk =>
    rw [disk, stands.look_newFile free, if_neg]
    intro he
    exact hn (List.cons.inj (List.append_cancel_left he)).1

theorem permits (h : s.Prepares d d') (hp : Location.Permits d s.key) : Location.Permits d' s.key := by
  refine ⟨fun right k hk hfolder => h.upholds right k hfolder (hp.folders right k hk), fun right file hfile => ?_⟩
  cases h with
  | still disk => exact disk ▸ hp.lock right file (disk ▸ hfile)
  | folder vacant raises =>
    rcases raises.look (s.path Location.lockName) with hsame | ⟨_, _, hfolder⟩
    · exact raises.keeps.allows (hp.lock right file (hsame ▸ hfile))
    · cases hfolder.symm.trans hfile
  | lock stands free disk =>
    subst disk
    have hlook := stands.look_newFile free { mode := 0o644 } (s.path Location.lockName)
    rw [if_pos rfl] at hlook
    cases hlook.symm.trans hfile
    refine allows_push rfl ?_
    show 0o644 &&& right.bit ≠ 0
    cases right <;> decide

/-- The lock file does not become a link. -/
theorem no_link (h : s.Prepares d d')
    (hlink : ∀ target, d.root.look (s.path Location.lockName) ≠ some (.link target)) (target : String) :
    d'.root.look (s.path Location.lockName) ≠ some (.link target) := by
  cases h with
  | still disk => rw [disk]; exact hlink target
  | folder vacant raises =>
    rcases raises.look (s.path Location.lockName) with hsame | ⟨_, _, hfolder⟩
    · rw [hsame]
      exact hlink target
    · rw [hfolder]
      nofun
  | lock stands free disk =>
    rw [disk, stands.look_newFile free, if_pos rfl]
    nofun

/-- Where the folder and the lock file are there, nothing happens. -/
theorem same (h : s.Prepares d d') (hs : s.Stands d) {file : Nat}
    (hlock : d.root.look (s.path Location.lockName) = some (.file file)) : d' = d := by
  cases h with
  | still disk => exact disk
  | folder vacant raises =>
    rw [hs.folder] at vacant
    cases vacant
  | lock stands free disk =>
    rw [free] at hlock
    cases hlock

end Prepares

theorem create_cases {host : Host} (hb : s.ground.Bears host.disk.root) :
    ∃ disk, s.Prepares host.disk disk ∧ Raises s.key host.disk disk ∧
      ((s.location.create host = ({ host with disk }, .ok ()) ∧ s.Stands disk) ∨
        ∃ e, s.location.create host = ({ host with disk }, .error e)) := by
  obtain ⟨left, hleads⟩ := s.leads
  have hraises := makeFolders_raises hb s.ends hleads
  have harrives := makeFolders_arrives hb s.ends hleads
  have hprepares : s.Prepares host.disk (host.disk.makeFolders s.location.folder.route).1 := by
    rcases hb.at_key with hnone | hfolder
    · exact .folder hnone hraises
    · exact .still (makeFolders_standing hb s.ends hleads hfolder)
  unfold Location.create
  cases hm : host.disk.makeFolders s.location.folder.route with
  | mk disk outcome =>
    rw [hm] at hraises harrives hprepares
    refine ⟨disk, hprepares, hraises, ?_⟩
    cases outcome with
    | error fault => exact .inr ⟨_, rfl⟩
    | ok done => exact .inl ⟨rfl, hb.confined_own hraises.confined, harrives rfl⟩

theorem tryLock_cases {host : Host} (hs : s.Stands host.disk)
    (hlink : ∀ target, host.disk.root.look (s.path Location.lockName) ≠ some (.link target)) :
    (∃ fault, s.location.tryLock host = (host, .failed fault)) ∨
      ∃ disk file, s.Prepares host.disk disk ∧ disk.root.look (s.path Location.lockName) = some (.file file) ∧
        ((host.isLocked file = true ∧ s.location.tryLock host = ({ host with disk }, .held)) ∨
          (host.isLocked file = false ∧ s.location.tryLock host =
            ({ host with disk, locks := ⟨host.issued, file⟩ :: host.locks, issued := host.issued + 1 },
              .taken host.issued))) := by
  rcases Location.tryLock_in (withoutSlash_of_last s.ends) hs.follow hs.folder hlink with
    ⟨fault, hfailed, _⟩ | ⟨disk, file, _, ⟨rfl, hfile⟩ | ⟨hnone, rfl, rfl⟩, hattempt⟩
  · exact .inl ⟨fault, hfailed⟩
  · exact .inr ⟨_, file, .still rfl, hfile, hattempt⟩
  · exact .inr ⟨_, _, .lock hs hnone rfl, by rw [hs.look_newFile hnone, path, if_pos rfl], hattempt⟩

/-! ### Visitors -/

/-- What holds of somebody at a site. The folder stands when they come for the lock, and whoever has the
lock has it on the file that is there under its name, and finds the disk as the stage wants it. -/
structure Admits (s : Site) (host : Host) (v : Visit) : Prop where
  stands : v.stage = .lock ∨ v.holdsLock = true → s.Stands host.disk
  holds : v.holdsLock = true → ∃ lock ∈ host.locks, v.ticket = some lock.ticket ∧ lock.ticket < host.issued ∧
    host.disk.root.look (s.path Location.lockName) = some (.file lock.file)
  inside : s.Inside host.disk v.stage

variable {host host' : Host} {v v' w : Visit} {generator : Generator}

theorem stage_without (h : v.holdsLock = false) :
    v.stage = .arrive ∨ v.stage = .lock ∨ ∃ r, v.stage = .done r := by
  cases hstage : v.stage with
  | arrive => exact .inl rfl
  | lock => exact .inr (.inl rfl)
  | done r => exact .inr (.inr ⟨r, rfl⟩)
  | _ => simp [Visit.holdsLock, hstage] at h

theorem admits_without (h : v.holdsLock = false) (hstands : v.stage = .lock → s.Stands host.disk) :
    s.Admits host v := by
  refine ⟨fun hs => ?_, fun hholds => ?_, ?_⟩
  · rcases hs with hlock | hholds
    · exact hstands hlock
    · rw [h] at hholds
      cases hholds
  · rw [h] at hholds
    cases hholds
  · rcases stage_without h with hstage | hstage | ⟨r, hstage⟩ <;> rw [hstage] <;> trivial

/-- A visitor does not notice what leaves the site and the lock as they are. -/
theorem Admits.keep (h : s.Admits host v) (hd : host.disk.Numbered) (hk : Keeps host.disk host'.disk)
    (hb : s.ground.Bears host'.disk.root)
    (hlook : ∀ rest, host'.disk.root.look (s.key ++ rest) = host.disk.root.look (s.key ++ rest))
    (hlocks : ∀ lock ∈ host.locks, v.holdsLock = true → v.ticket = some lock.ticket → lock ∈ host'.locks)
    (hissued : host.issued ≤ host'.issued) : s.Admits host' v := by
  refine ⟨fun hs => ⟨hb, ?_⟩, fun hholds => ?_, h.inside.keep hd hk hlook⟩
  · have hfolder := hlook []
    rw [List.append_nil, (h.stands hs).folder] at hfolder
    exact hfolder
  · obtain ⟨lock, hlock, hticket, hlt, hfile⟩ := h.holds hholds
    exact ⟨lock, hlocks lock hlock hholds hticket, hticket, Nat.lt_of_lt_of_le hlt hissued,
      (hlook [Location.lockName]).trans hfile⟩

theorem Stands.confined (h : s.Stands d) (hc : Confined s.key d d') : s.Stands d' := by
  refine ⟨h.bears.confined_own hc, ?_⟩
  rcases hc.look s.key with hsame | ⟨n, rest, he⟩ | ⟨_, _, hfolder⟩
  · rw [hsame, h.folder]
  · simp at he
  · exact hfolder

/-! ### Turns -/

/-- One step of a visit. -/
inductive Turn (s : Site) (host : Host) (v : Visit) : Host → Visit → Prop
  | rests (r : Except BuildError Yield) (ended : v.stage = .done r) : Turn s host v host v
  | comes (disk : Disk) (stage : Stage) (early : v.stage = .arrive ∨ v.stage = .lock)
      (prepares : s.Prepares host.disk disk)
      (next : (stage = .lock ∧ s.Stands disk) ∨ ∃ r, stage = .done r ∧ ∀ y, r = .ok y → v.errand = .remove) :
      Turn s host v { host with disk } (v.goto stage)
  | takes (disk : Disk) (file : Nat) (stage : Stage) (waiting : v.stage = .lock)
      (prepares : s.Prepares host.disk disk)
      (named : disk.root.look (s.path Location.lockName) = some (.file file))
      (free : host.isLocked file = false)
      (next : stage = .recheck ∨ (stage = .unpublish ∧ ∀ spec target, v.errand ≠ .build spec target false)) :
      Turn s host v { host with disk, locks := ⟨host.issued, file⟩ :: host.locks, issued := host.issued + 1 }
        { v with ticket := some host.issued, stage }
  | acts (host' : Host) (v' : Visit) (holds : v.holdsLock = true) (stay : ∀ r, v.stage ≠ .release r)
      (acts : s.Acts host host' v v') : Turn s host v host' v'
  | gives (r : Except BuildError Yield) (ticket : Nat) (stage : v.stage = .release r)
      (mine : v.ticket = some ticket) : Turn s host v (host.unlock ticket) (v.goto (.done r))

theorem turn_arrive (hv : v.location = s.location) (hb : s.ground.Bears host.disk.root)
    (hstage : v.stage = .arrive) : s.Turn host v (v.step generator host).1 (v.step generator host).2 := by
  cases herrand : v.errand with
  | build spec target force =>
    simp only [Visit.step, hstage, herrand, hv]
    obtain ⟨disk, hprepares, _, ⟨hok, hs⟩ | ⟨e, he⟩⟩ := create_cases hb
    · simp only [hok]
      exact .comes disk .lock (.inl hstage) hprepares (.inl ⟨rfl, hs⟩)
    · simp only [he]
      exact .comes disk _ (.inl hstage) hprepares (.inr ⟨_, rfl, fun _ h => by cases h⟩)
  | remove =>
    simp only [Visit.step, hstage, herrand, hv]
    obtain ⟨left, hleads⟩ := s.leads
    split
    · next hfolder =>
      exact .comes host.disk .lock (.inl hstage) (.still rfl) (.inl ⟨rfl, hb, isFolder_arrives hb hleads hfolder⟩)
    · exact .comes host.disk _ (.inl hstage) (.still rfl) (.inr ⟨_, rfl, fun _ _ => herrand⟩)

theorem turn_lock (hv : v.location = s.location) (hs : s.Stands host.disk)
    (hlink : ∀ target, host.disk.root.look (s.path Location.lockName) ≠ some (.link target))
    (hstage : v.stage = .lock) : s.Turn host v (v.step generator host).1 (v.step generator host).2 := by
  have htry := tryLock_cases hs hlink
  rw [← hv] at htry
  simp only [Visit.step, hstage]
  obtain ⟨fault, hfault⟩ | ⟨disk, file, hprepares, hnamed, ⟨_, hheld⟩ | ⟨hfree, htaken⟩⟩ := htry
  · simp only [hfault]
    exact .comes host.disk _ (.inr hstage) (.still rfl) (.inr ⟨_, rfl, fun _ h => by cases h⟩)
  · simp only [hheld]
    split
    · exact .comes disk _ (.inr hstage) hprepares (.inr ⟨_, rfl, fun _ h => by cases h⟩)
    · have hsame : v.goto .lock = v := by rw [← hstage]; rfl
      have hturn : s.Turn host v { host with disk } (v.goto .lock) :=
        .comes disk .lock (.inr hstage) hprepares (.inl ⟨rfl, hs.confined hprepares.confined⟩)
      rwa [hsame] at hturn
  · simp only [htaken]
    split
    · exact .takes disk file .recheck hstage hprepares hnamed hfree (.inl rfl)
    · next hforced => exact .takes disk file .unpublish hstage hprepares hnamed hfree (.inr ⟨rfl, hforced⟩)

/-- **Every step of a visit is a turn.** -/
theorem turn_of_step (hv : v.location = s.location) (hb : s.ground.Bears host.disk.root)
    (hd : host.disk.Numbered)
    (hlink : ∀ target, host.disk.root.look (s.path Location.lockName) ≠ some (.link target))
    (hg : generator.Tidy s.location.folder s.key) (ha : s.Admits host v) :
    s.Turn host v (v.step generator host).1 (v.step generator host).2 := by
  cases hholds : v.holdsLock with
  | true =>
    by_cases hr : ∃ r, v.stage = .release r
    · obtain ⟨r, hstage⟩ := hr
      obtain ⟨lock, _, hticket, _⟩ := ha.holds hholds
      simp only [Visit.step, hstage, hticket]
      exact .gives r lock.ticket hstage hticket
    · have hstay : ∀ r, v.stage ≠ .release r := fun r hstage => hr ⟨r, hstage⟩
      exact .acts _ _ hholds hstay (step_acts hv (ha.stands (.inr hholds)) hd hg hholds hstay ha.inside)
  | false =>
    rcases stage_without hholds with hstage | hstage | ⟨r, hstage⟩
    · exact turn_arrive hv hb hstage
    · exact turn_lock hv (ha.stands (.inl hstage)) hlink hstage
    · simp only [Visit.step, hstage]
      exact .rests r hstage

namespace Turn

theorem confined (h : s.Turn host v host' v') : Confined s.key host.disk host'.disk := by
  cases h with
  | rests | gives => exact (WorksIn.refl s.key host.disk).confined
  | comes _ _ _ prepares | takes _ _ _ _ prepares => exact prepares.confined
  | acts _ _ _ _ acts => exact acts.works.confined

theorem visit (h : s.Turn host v host' v') : v'.location = v.location ∧ v'.errand = v.errand := by
  cases h with
  | acts _ _ _ _ acts =>
    obtain ⟨stage, rfl⟩ := acts.visit
    exact ⟨rfl, rfl⟩
  | _ => exact ⟨rfl, rfl⟩

/-- **The lock file is not removed, and its name stays on it.** -/
theorem lock_kept (h : s.Turn host v host' v') {file : Nat}
    (hlock : host.disk.root.look (s.path Location.lockName) = some (.file file)) :
    host'.disk.root.look (s.path Location.lockName) = some (.file file) := by
  cases h with
  | rests | gives => exact hlock
  | comes _ _ _ prepares | takes _ _ _ _ prepares => exact prepares.grows _ _ hlock
  | acts _ _ _ _ acts => exact acts.works.lock.trans hlock

theorem no_link (h : s.Turn host v host' v')
    (hlink : ∀ target, host.disk.root.look (s.path Location.lockName) ≠ some (.link target)) (target : String) :
    host'.disk.root.look (s.path Location.lockName) ≠ some (.link target) := by
  cases h with
  | rests | gives => exact hlink target
  | comes _ _ _ prepares | takes _ _ _ _ prepares => exact prepares.no_link hlink target
  | acts _ _ _ _ acts =>
    intro he
    exact hlink target (acts.works.lock.symm.trans he)

theorem locks (h : s.Turn host v host' v') {lock : Lock} (hlock : lock ∈ host.locks)
    (hother : v.holdsLock = true → v.ticket ≠ some lock.ticket) : lock ∈ host'.locks := by
  cases h with
  | rests | comes => exact hlock
  | takes => exact List.mem_cons_of_mem _ hlock
  | acts _ _ _ _ acts =>
    rw [acts.locks]
    exact hlock
  | gives r ticket stage mine =>
    refine List.mem_filter.mpr ⟨hlock, ?_⟩
    have hne := hother (by simp [Visit.holdsLock, stage])
    simp only [ne_eq, decide_not, Bool.not_eq_eq_eq_not, Bool.not_true, decide_eq_false_iff_not]
    rintro rfl
    exact hne mine

theorem issued (h : s.Turn host v host' v') : host.issued ≤ host'.issued := by
  cases h with
  | rests | comes | gives => exact Nat.le_refl _
  | takes => exact Nat.le_succ _
  | acts _ _ _ _ acts => exact Nat.le_of_eq acts.issued.symm

/-- Whoever has the lock after a turn had it before, or has the newest ticket. -/
theorem ticket (h : s.Turn host v host' v') (hholds : v'.holdsLock = true) :
    (v.holdsLock = true ∧ v'.ticket = v.ticket) ∨ (v.holdsLock = false ∧ v'.ticket = some host.issued) := by
  cases h with
  | rests => exact .inl ⟨hholds, rfl⟩
  | comes disk stage early prepares next =>
    obtain ⟨rfl, _⟩ | ⟨r, rfl, _⟩ := next <;> cases hholds
  | takes disk file stage waiting => exact .inr ⟨by simp [Visit.holdsLock, waiting], rfl⟩
  | acts _ _ holds _ acts =>
    obtain ⟨stage, rfl⟩ := acts.visit
    exact .inl ⟨holds, rfl⟩
  | gives => cases hholds

/-- Nobody takes a lock that somebody has. -/
theorem alone (h : s.Turn host v host' v') (hw : s.Admits host w) (hheld : w.holdsLock = true)
    (hfree : v.holdsLock = false) : v'.holdsLock = false := by
  cases h with
  | rests => exact hfree
  | comes disk stage early prepares next => obtain ⟨rfl, _⟩ | ⟨r, rfl, _⟩ := next <;> rfl
  | takes disk file stage waiting prepares named free =>
    obtain ⟨lock, hmem, _, _, hlock⟩ := hw.holds hheld
    rw [prepares.grows _ _ hlock] at named
    cases named
    have hlocked : host.isLocked lock.file = true := List.any_eq_true.mpr ⟨lock, hmem, by simp⟩
    rw [hlocked] at free
    cases free
  | acts _ _ holds =>
    rw [hfree] at holds
    cases holds
  | gives => rfl

theorem admits (h : s.Turn host v host' v') (ha : s.Admits host v) : s.Admits host' v' := by
  have hc := h.confined
  cases h with
  | rests => exact ha
  | comes disk stage early prepares next =>
    obtain ⟨rfl, hs⟩ | ⟨r, rfl, _⟩ := next
    · exact admits_without rfl fun _ => hs
    · exact admits_without rfl nofun
  | takes disk file stage waiting prepares named free next =>
    refine ⟨fun _ => (ha.stands (.inl waiting)).confined hc,
      fun _ => ⟨_, List.mem_cons_self, rfl, Nat.lt_succ_self _, named⟩, ?_⟩
    obtain rfl | ⟨rfl, _⟩ := next <;> trivial
  | acts host' v' holds _ acts =>
    obtain ⟨lock, hmem, hticket, hlt, hlock⟩ := ha.holds holds
    have hstands := (ha.stands (.inr holds)).confined hc
    have hinside := acts.inside
    obtain ⟨stage, rfl⟩ := acts.visit
    refine ⟨fun _ => hstands, fun _ => ⟨lock, ?_, hticket, ?_, acts.works.lock.trans hlock⟩, hinside⟩
    · rw [acts.locks]
      exact hmem
    · rw [acts.issued]
      exact hlt
  | gives => exact admits_without rfl nofun

/-- Others at the same site go on as before, if they do not have the lock as well. -/
theorem admits_beside (h : s.Turn host v host' v') (hw : s.Admits host w)
    (hone : v.holdsLock = true → w.holdsLock = false) : s.Admits host' w := by
  cases hheld : w.holdsLock with
  | false => exact admits_without hheld fun hstage => (hw.stands (.inl hstage)).confined h.confined
  | true =>
    have hfree : v.holdsLock = false := by
      cases hv : v.holdsLock with
      | false => rfl
      | true => rw [hone hv] at hheld; cases hheld
    have hnone := h.alone hw hheld hfree
    obtain ⟨lock, _, _, _, hlock⟩ := hw.holds hheld
    cases h with
    | rests => exact hw
    | comes disk stage early prepares =>
      rw [prepares.same (hw.stands (.inr hheld)) hlock]
      exact hw
    | takes disk file stage waiting prepares named free next =>
      obtain rfl | ⟨rfl, _⟩ := next <;> cases hnone
    | acts _ _ holds =>
      rw [hfree] at holds
      cases holds
    | gives r ticket stage => simp [Visit.holdsLock, stage] at hfree

end Turn

/-! ### Other sites -/

/-- Two sites neither of which is on the way to the other, nor on its ground. -/
structure Apart (s other : Site) : Prop where
  above : ¬s.key <+: other.key
  below : ¬other.key <+: s.key
  free : ∀ n rest, other.ground.tree.look (s.key ++ n :: rest) = none

namespace Apart

variable {other : Site}

theorem bears (h : s.Apart other) (hb : other.ground.Bears d.root) (hc : Confined s.key d d') :
    other.ground.Bears d'.root :=
  hb.confined hc h.free

theorem look (h : s.Apart other) (hc : Confined s.key d d') (rest : List String) :
    d'.root.look (other.key ++ rest) = d.root.look (other.key ++ rest) := by
  rcases hc.look (other.key ++ rest) with hsame | ⟨n, more, he⟩ | ⟨hway, _⟩
  · exact hsame
  · have hp : other.key <+: s.key ++ n :: more := he ▸ List.prefix_append _ _
    rcases List.prefix_or_prefix_of_prefix hp (List.prefix_append s.key _) with hbelow | habove
    · exact absurd hbelow h.below
    · exact absurd habove h.above
  · exact absurd ((List.prefix_append _ _).trans hway) h.below

/-- Visitors elsewhere do not notice a turn. -/
theorem admits (h : s.Apart other) (ht : s.Turn host v host' v') (hw : other.Admits host w)
    (hb : other.ground.Bears host.disk.root) (hd : host.disk.Numbered)
    (hticket : v.holdsLock = true → w.holdsLock = true → v.ticket ≠ w.ticket) : other.Admits host' w := by
  refine hw.keep hd ht.confined.keeps (h.bears hb ht.confined) (h.look ht.confined)
    (fun lock hlock hheld hw => ht.locks hlock fun hholds => ?_) ht.issued
  rw [← hw]
  exact hticket hholds hheld

end Apart

end Site

end KernelForge
