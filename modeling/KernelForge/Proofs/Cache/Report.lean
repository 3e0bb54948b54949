import KernelForge.Proofs.Cache.Apart

/-!
What removals say of themselves.

A removal unpublishes a location first, then removes its outputs and says whether there were any. So what it
says is whether the location held anything besides the lock file and the manifest
(`Location.emptied_reports`). A manifest that was all there is has gone by then and is not counted. Cleaning
counts the removals that say so. As none of them touches another location (`Store.Level.operate`), that is
the number of locations that held an output before the first one (`Store.removeEach_reports`).
-/
namespace KernelForge

open Disk FileTree

namespace Location

variable {l : Location} {d d' : Disk} {key : List String} {name : String} {kept : List String} {host : Host}

/-- The folder of a location has an entry. -/
def Holds (l : Location) (d : Disk) (name : String) : Prop :=
  ∃ key, l.StandsAt d key ∧ d.root.look (key ++ [name]) ≠ none

/-- The folder of a location has an entry besides some. -/
def HoldsBesides (l : Location) (d : Disk) (kept : List String) : Prop := ∃ name, l.Holds d name ∧ name ∉ kept

/-- The folder of a location has an entry besides the lock file and the manifest. -/
def HoldsOutput (l : Location) (d : Disk) : Prop := l.HoldsBesides d [lockName, Manifest.fileName]

/-- The lock file of a location is no link, and the way to the location does not pass its manifest. -/
structure Sound (l : Location) (d : Disk) : Prop where
  lock : ∀ key, l.StandsAt d key → ∀ target, d.root.look (key ++ [lockName]) ≠ some (.link target)
  manifest : ∀ key, l.StandsAt d key → l.StandsAt (d.erase (key ++ [Manifest.fileName])) key

theorem StandsAt.holdsBesides_iff (h : l.StandsAt d key) :
    l.HoldsBesides d kept ↔ ∃ name, name ∉ kept ∧ d.root.look (key ++ [name]) ≠ none := by
  constructor
  · rintro ⟨name, hholds, hkept⟩
    obtain ⟨key', hat, hsome⟩ := hholds
    obtain rfl := h.unique hat
    exact ⟨name, hkept, hsome⟩
  · rintro ⟨name, hkept, hsome⟩
    exact ⟨name, ⟨key, h, hsome⟩, hkept⟩

/-- A manifest that is a file is on the way to nothing. -/
theorem Sound.of_files (h : ∀ key, l.StandsAt d key → ∀ name ∈ [lockName, Manifest.fileName], ∀ x,
    d.root.look (key ++ [name]) = some x → ∃ file, x = .file file) : l.Sound d := by
  refine ⟨fun key hat target hlink => ?_, fun key hat => hat.before fun k x hx hsolid => ?_⟩
  · obtain ⟨_, hfile⟩ := h key hat _ (by simp) _ hlink
    cases hfile
  · have hfile := h key hat Manifest.fileName (by simp)
    rw [look_erase_disk (by simp), if_neg, hx]
    intro hk
    by_cases heq : key ++ [Manifest.fileName] = k
    · obtain ⟨file, rfl⟩ := hfile x (heq ▸ hx)
      exact hsolid file rfl
    · obtain ⟨_, hfolder⟩ := hfile _ (look_folder_above hk heq hx)
      cases hfolder

/-- **A removal that succeeds says whether there were outputs**, and leaves nothing but the lock file. -/
theorem emptied_reports {host' : Host} {impatient any : Bool} (hsound : l.Sound host.disk)
    (h : l.emptied impatient host = (host', .ok any)) :
    (any = true ↔ l.HoldsOutput host.disk) ∧ ¬l.HoldsBesides host'.disk [lockName] := by
  by_cases hfolder : host.disk.isFolder l.folder.route = true
  · obtain ⟨key, hat⟩ := StandsAt.isFolder_iff.mp hfolder
    obtain ⟨_, hsettled, hany⟩ := (emptied_empties hat (hsound.lock key hat) impatient).2 any (by rw [h])
    rw [h] at hsettled
    refine ⟨(hany (hsound.manifest key hat)).trans hat.holdsBesides_iff.symm, ?_⟩
    rintro ⟨name, hholds, hkept⟩
    obtain ⟨key', hat', hsome⟩ := hholds
    exact hsome ((hsettled key' hat').empty name (by simpa using hkept))
  · rw [emptied, if_neg hfolder] at h
    cases h
    have hnone : ∀ kept, ¬l.HoldsBesides host.disk kept := by
      rintro kept ⟨name, hholds, _⟩
      obtain ⟨key, hat, _⟩ := hholds
      exact hfolder (StandsAt.isFolder_iff.mpr ⟨key, hat⟩)
    exact ⟨iff_of_false Bool.false_ne_true (hnone _), hnone _⟩

end Location

namespace Store

variable {store : Store} {fp : Fingerprint} {host host' : Host} {base : List String} {ground : Ground base}
  {fps : List Fingerprint} {d d' : Disk} {any : Bool} {r : Except BuildError Bool}

theorem remove_reports (hsound : (store.location fp).Sound host.disk)
    (h : store.remove fp host = (host', .ok any)) :
    (any = true ↔ (store.location fp).HoldsOutput host.disk) ∧
      ¬(store.location fp).HoldsBesides host'.disk [Location.lockName] := by
  rw [remove_eq] at h
  exact Location.emptied_reports hsound h

section Level

variable (hroot : ∃ left, Leads ground.tree linkLimit [] (Path.withoutSlash store.root.route) left base)
include hroot

/-- A location stays where it is as long as its folder does. -/
theorem Level.stands (h : Level ground fps d) (h' : Level ground fps d') (hmem : fp ∈ fps)
    (hname : Path.Single fp.name)
    (hsame : d'.root.look (base ++ [fp.name]) = d.root.look (base ++ [fp.name])) {key : List String}
    (hat : (store.location fp).StandsAt d key) : (store.location fp).StandsAt d' key := by
  obtain rfl := h.located hroot hmem hname hat.locate
  obtain ⟨left, hground⟩ := hroot
  have hfolder := hsame.trans hat.folder
  have hbase : d'.root.look base = some .folder := look_folder_of_below hfolder
  have hroute : (store.location fp).folder.route = _ := route_location hname
  have hshort : tooLong fp.name = false := by
    obtain ⟨_, hleads⟩ := hat.leads
    rw [hroute] at hleads
    obtain ⟨_, _, _, hlast⟩ := hleads.split
    exact (hlast.after_name hname.1).1
  have hleads := (hground.mono (h'.bears.stands hbase)).append (.down hbase hname.1 hshort hfolder (by simp) .here)
  exact .of_leads hat.flaw (hroute ▸ hleads) hfolder

theorem Level.sound (h : Level ground fps d) (hmem : fp ∈ fps) (hname : Path.Single fp.name) :
    (store.location fp).Sound d := by
  refine ⟨h.plainLocks hroot hmem hname fp (List.mem_singleton_self fp), fun key hat => ?_⟩
  obtain rfl := h.located hroot hmem hname hat.locate
  have hclears : Clears (base ++ [fp.name]) d (d.erase (base ++ [fp.name] ++ [Manifest.fileName])) :=
    .erase (by decide)
  have hspares : Location.Spares True (base ++ [fp.name]) d _ := .of_trims hclears.trims
  exact h.stands hroot (h.spares hspares trivial) hmem hname (hclears.outside _ (Outside.self _)) hat

/-- What a location holds is what is below its folder. -/
theorem Level.holdsOutput_congr (h : Level ground fps d) (h' : Level ground fps d') (hmem : fp ∈ fps)
    (hname : Path.Single fp.name) (hsame : ∀ k, base ++ [fp.name] <+: k → d'.root.look k = d.root.look k) :
    (store.location fp).HoldsOutput d' ↔ (store.location fp).HoldsOutput d := by
  have hfolder := hsame _ (List.prefix_refl _)
  constructor
  · rintro ⟨name, hholds, hkept⟩
    obtain ⟨key, hat', hsome⟩ := hholds
    obtain rfl := h'.located hroot hmem hname hat'.locate
    have hat := h'.stands hroot h hmem hname hfolder.symm hat'
    exact hat.holdsBesides_iff.mpr ⟨name, hkept, hsame _ (List.prefix_append _ _) ▸ hsome⟩
  · rintro ⟨name, hholds, hkept⟩
    obtain ⟨key, hat, hsome⟩ := hholds
    obtain rfl := h.located hroot hmem hname hat.locate
    have hat' := h.stands hroot h' hmem hname hfolder hat
    exact hat'.holdsBesides_iff.mpr ⟨name, hkept, (hsame _ (List.prefix_append _ _)).symm ▸ hsome⟩

/-- A removal leaves the locations side by side, and what is in the others. -/
theorem Level.remove (h : Level ground fps host.disk) (hmem : fp ∈ fps) (hname : Path.Single fp.name)
    (hremove : store.remove fp host = (host', r)) : Level ground fps host'.disk ∧
      ∀ other ∈ fps, other ≠ fp → Path.Single other.name →
        ((store.location other).HoldsOutput host'.disk ↔ (store.location other).HoldsOutput host.disk) := by
  have hhost : store.operate fp .remove host = host' := congrArg Prod.fst hremove
  obtain ⟨hnext, _, hsame⟩ :=
    h.operate hroot hmem hname (show Operation.KeepsTo (store.location fp) .remove from trivial)
    (show Operation.SparesLock (store.location fp) .remove from trivial)
  rw [hhost] at hnext hsame
  refine ⟨hnext, fun other hother hne hsingle => h.holdsOutput_congr hroot hnext hother hsingle fun k hk => ?_⟩
  exact (hsame other.name k (fun heq => hne (congrArg Fingerprint.mk heq)) hk).look

open Classical in
/-- Removals one after the other say in how many locations there were outputs. -/
theorem removeEach_reports {todo : List Fingerprint} {n : Nat} (hlevel : Level ground fps host.disk)
    (hnodup : todo.Nodup) (hmem : ∀ fp ∈ todo, fp ∈ fps) (hnames : ∀ fp ∈ fps, Path.Single fp.name)
    (h : store.removeEach todo host = (host', .ok n)) :
    n = todo.countP fun fp => (store.location fp).HoldsOutput host.disk := by
  induction todo generalizing host host' n with
  | nil =>
    cases h
    rfl
  | cons fp todo ih =>
    obtain ⟨hfp, htodo⟩ := List.forall_mem_cons.mp hmem
    obtain ⟨hnot, hnodup⟩ := List.nodup_cons.mp hnodup
    rw [removeEach_cons] at h
    rcases hremove : store.remove fp host with ⟨host₁, e | any⟩
    · rw [hremove] at h
      cases h
    · rw [hremove] at h
      dsimp only at h
      rcases heach : store.removeEach todo host₁ with ⟨host₂, e | m⟩
      · rw [heach] at h
        cases h
      · rw [heach] at h
        obtain ⟨hnext, hothers⟩ := hlevel.remove hroot hfp (hnames fp hfp) hremove
        have hany : decide ((store.location fp).HoldsOutput host.disk) = any := by
          rw [Bool.eq_iff_iff, decide_eq_true_eq]
          exact (remove_reports (hlevel.sound hroot hfp (hnames fp hfp)) hremove).1.symm
        have hsame : (todo.countP fun other => (store.location other).HoldsOutput host₁.disk) =
            todo.countP fun other => (store.location other).HoldsOutput host.disk := by
          refine List.countP_congr fun other hother => ?_
          rw [decide_eq_true_eq, decide_eq_true_eq]
          exact hothers other (htodo other hother) (fun heq => hnot (heq ▸ hother))
            (hnames other (htodo other hother))
        rw [List.countP_cons, ← hsame, ← ih hnext hnodup htodo heach, hany]
        cases h
        cases any <;> rfl

end Level

/-- **Removing and cleaning report the outputs that they removed**: what a location held besides its lock
file and its manifest. A removal that succeeds says whether there were any, and leaves nothing but the lock
file; a cleaning that succeeds counts the recognized locations with any. So they say nothing of a location
that held a manifest and no outputs.

For a removal, the lock file is no link, and the way to the location does not pass its manifest. For
cleaning, no lock file and no location is a link, the route to the root does not pass what is below it, and
its path is not empty. -/
theorem removal_reported (store : Store) :
    (∀ (fp : Fingerprint) (host host' : Host) (any : Bool), (store.location fp).Sound host.disk →
      store.remove fp host = (host', .ok any) →
        (any = true ↔ (store.location fp).HoldsOutput host.disk) ∧
        ¬(store.location fp).HoldsBesides host'.disk [Location.lockName]) ∧
    ∀ (host host' : Host) (n : Nat) (base : List String) (ground : Ground base), store.root.text ≠ "" →
      (∃ left, Leads ground.tree linkLimit [] (Path.withoutSlash store.root.route) left base) →
      (∀ fps, store.fingerprints host.disk = .ok fps → Level ground fps host.disk) →
      store.clean host = (host', .ok n) →
        ∃ held : List Fingerprint, held.length = n ∧ held.Nodup ∧
          ∀ fp, fp ∈ held ↔ Fingerprint.ofDirectory? fp.name = some fp ∧
            (store.location fp).HoldsOutput host.disk := by
  refine ⟨fun fp host host' any hsound h => remove_reports hsound h, ?_⟩
  intro host host' n base ground hpath hroot hlevel h
  classical
  unfold clean at h
  cases hfps : store.fingerprints host.disk with
  | error e =>
    rw [hfps] at h
    cases h
  | ok fps =>
    rw [hfps] at h
    have hnodup : fps.Nodup := by
      rcases fingerprints_ok hfps with ⟨_, rfl⟩ | ⟨_, _, hnodup, _⟩
      · exact .nil
      · exact hnodup
    have hcount := removeEach_reports hroot (hlevel fps hfps) hnodup (fun _ h => h) (single_of_fingerprints hfps) h
    refine ⟨_, (hcount.trans List.countP_eq_length_filter).symm, hnodup.filter _, fun fp => ?_⟩
    rw [List.mem_filter, mem_fingerprints hpath hfps, decide_eq_true_eq, and_assoc]
    refine and_congr_right fun _ => and_iff_right_of_imp fun ⟨name, hholds, _⟩ => ?_
    obtain ⟨key, hat, _⟩ := hholds
    exact Location.StandsAt.isFolder_iff.mpr ⟨key, hat⟩

end Store

/-! ### A manifest on its own -/

/-- The shelf with the folder of another kernel, in which there is nothing but a manifest. -/
def stripped : Host where
  disk := ((shelfWith .empty).disk.newFolder ["cache", neighborName] 0o755).newFile
    ["cache", neighborName, "artifact.json"] {}

theorem stripped_level {fps : List Fingerprint}
    (h : (shelfStore [] "cache").fingerprints stripped.disk = .ok fps) :
    Store.Level Depot.vacant.ground fps stripped.disk := by
  have hfps : (shelfStore [] "cache").fingerprints stripped.disk = .ok [⟨shelvedName⟩, ⟨neighborName⟩] := by
    decide +kernel
  obtain rfl := Except.ok.inj (hfps.symm.trans h)
  have hlook : ∀ fp ∈ ([⟨shelvedName⟩, ⟨neighborName⟩] : List Fingerprint),
      stripped.disk.root.look (["cache"] ++ [fp.name]) = some .folder ∧
        stripped.disk.root.look (["cache"] ++ [fp.name] ++ [Location.lockName]) = none := by decide +kernel
  refine ⟨Depot.bears_root rfl, fun fp hmem target hlink => ?_, fun fp hmem target hlink => ?_⟩
  · cases (hlook fp hmem).1.symm.trans hlink
  · cases (hlook fp hmem).2.symm.trans hlink

theorem stripped_sound : ((shelfStore [] "cache").location ⟨shelvedName⟩).Sound stripped.disk := by
  have hlocate : stripped.disk.locate ((shelfStore [] "cache").location ⟨shelvedName⟩).folder.route =
      .ok ["cache", shelvedName] := by decide +kernel
  have hlock : stripped.disk.root.look (["cache", shelvedName] ++ [Location.lockName]) = none := by decide +kernel
  have hmanifest : stripped.disk.root.look (["cache", shelvedName] ++ [Manifest.fileName]) = some (.file 4) := by
    decide +kernel
  refine .of_files fun key hat => ?_
  obtain rfl := Except.ok.inj (hlocate.symm.trans hat.locate)
  refine List.forall_mem_cons.mpr ⟨fun x hx => ?_, List.forall_mem_singleton.mpr fun x hx => ⟨4, ?_⟩⟩
  · cases hlock.symm.trans hx
  · exact (Option.some.inj (hmanifest.symm.trans hx)).symm

theorem stripped_count : ((shelfStore [] "cache").clean stripped).2 = .ok 1 := by decide +kernel

/-- Of the two kernels one has a library. -/
theorem removal_reported_stripped : ∃ host₁ host₂,
    (shelfStore [] "cache").remove ⟨shelvedName⟩ stripped = (host₁, .ok true) ∧
      ((shelfStore [] "cache").location ⟨shelvedName⟩).HoldsOutput stripped.disk ∧
      ¬((shelfStore [] "cache").location ⟨shelvedName⟩).HoldsBesides host₁.disk [Location.lockName] ∧
    (shelfStore [] "cache").clean stripped = (host₂, .ok 1) ∧
      ∃ held : List Fingerprint, held.length = 1 ∧ held.Nodup ∧
        ∀ fp, fp ∈ held ↔ Fingerprint.ofDirectory? fp.name = some fp ∧
          ((shelfStore [] "cache").location fp).HoldsOutput stripped.disk := by
  have hany : ((shelfStore [] "cache").remove ⟨shelvedName⟩ stripped).2 = .ok true := by decide +kernel
  have hcount := stripped_count
  rcases hremove : (shelfStore [] "cache").remove ⟨shelvedName⟩ stripped with ⟨host₁, r⟩
  rcases hclean : (shelfStore [] "cache").clean stripped with ⟨host₂, n⟩
  rw [hremove] at hany
  rw [hclean] at hcount
  obtain rfl : r = .ok true := hany
  obtain rfl : n = .ok 1 := hcount
  obtain ⟨hreports, hcounts⟩ := Store.removal_reported (shelfStore [] "cache")
  obtain ⟨hreport, hempty⟩ := hreports ⟨shelvedName⟩ stripped host₁ true stripped_sound hremove
  have hheld := hcounts stripped host₂ 1 ["cache"] Depot.vacant.ground (by decide) shelf_root
    (fun _ => stripped_level) hclean
  exact ⟨host₁, host₂, rfl, hreport.mp rfl, hempty, rfl, hheld⟩

/-- **A manifest that is all there is goes unreported**: it is removed, but removing its location says that
there was nothing, and cleaning does not count it. -/
theorem stripped_unreported :
    ((shelfStore [] "cache").location ⟨neighborName⟩).HoldsBesides stripped.disk [Location.lockName] ∧
      ((shelfStore [] "cache").remove ⟨neighborName⟩ stripped).2 = .ok false ∧
      ((shelfStore [] "cache").remove ⟨neighborName⟩ stripped).1.disk.root.look
        ["cache", neighborName, "artifact.json"] = none ∧
      ((shelfStore [] "cache").location ⟨shelvedName⟩).HoldsBesides stripped.disk [Location.lockName] ∧
      ((shelfStore [] "cache").clean stripped).2 = .ok 1 := by
  have hneighbor : ((shelfStore [] "cache").location ⟨neighborName⟩).StandsAt stripped.disk
      ["cache", neighborName] :=
    ⟨by decide +kernel, by decide +kernel⟩
  have hshelved : ((shelfStore [] "cache").location ⟨shelvedName⟩).StandsAt stripped.disk ["cache", shelvedName] :=
    ⟨by decide +kernel, by decide +kernel⟩
  exact ⟨⟨"artifact.json", ⟨_, hneighbor, by decide +kernel⟩, by decide⟩, by decide +kernel, by decide +kernel,
    ⟨"kernel.so", ⟨_, hshelved, by decide +kernel⟩, by decide⟩, stripped_count⟩

end KernelForge
