import KernelForge.Cli
import KernelForge.Proofs.Cache.Inventory

/-!
What cleaning can reach.

Names on the command line that are no fingerprints are refused before anything is done
(`Cli.clean_rejected`). Those that are fingerprints are single names, and the location of such a name is the
child of the root with that name (`Location.isChild_of`). What is removed is inside of these children, each
removal by itself (`Store.remove_purges`) and all of them one after the other (`Cli.removeEach_inside`), so
a run changes nothing else (`Cli.clean_confined`). A lock file that is a symbolic link is opened where it
leads, and so may be made outside (`Cli.clean_escapes`).
-/
namespace KernelForge

open Disk FileTree

/-- A location is the direct child of a root with a name: by its route, by the components of its path, and
by where it stands, unless the entry with that name is a symbolic link. -/
structure Location.IsChild (l : Location) (root : Place) (name : String) : Prop where
  route : l.folder.route = Path.withoutSlash root.route ++ [name]
  components : Path.components l.folder.text = Path.components root.text ++ [name]
  absolute : Path.isAbsolute l.folder.text = Path.isAbsolute root.text
  stands : ∀ disk key, l.StandsAt disk key → ∃ base, disk.locate (Path.withoutSlash root.route) = .ok base ∧
    (key = base ++ [name] ∨ ∃ target, disk.root.look (base ++ [name]) = some (.link target))

theorem Location.isChild_of {fp : Fingerprint} (h : Path.Single fp.name) (root : Place) :
    (Location.of root fp).IsChild root fp.name := by
  obtain ⟨name⟩ := fp
  have hroute : (Location.of root ⟨name⟩).folder.route = Path.withoutSlash root.route ++ [name] :=
    Place.route_join root h
  have htext := Path.components_child root.text h
  refine ⟨hroute, htext.1, htext.2, fun disk key hat => ?_⟩
  obtain ⟨left, hleads⟩ := hat.leads
  have hflaw := hat.flaw
  rw [hroute] at hleads hflaw
  obtain ⟨left', base, hbase, hlast⟩ := hleads.split
  refine ⟨base, by rw [Disk.locate, flaw?_none_init hflaw]; exact hbase.follow, ?_⟩
  obtain ⟨_, _, hx, ⟨_, hnext⟩ | ⟨target, _, rfl, _⟩⟩ := hlast.after_name h.1
  · cases hnext
    exact .inl rfl
  · exact .inr ⟨target, hx⟩

namespace Cli

/-! ### Names -/

variable {names : List String} {fps : List Fingerprint} {request : Request}

theorem fingerprints_eq_ok (h : fingerprints names = .ok fps) :
    fps.map Fingerprint.name = names ∧ ∀ fp ∈ fps, Path.Single fp.name := by
  induction names generalizing fps with
  | nil =>
    cases h
    exact ⟨rfl, nofun⟩
  | cons name names ih =>
    unfold fingerprints at h
    split at h
    · cases h
    · next fp hfp =>
      obtain ⟨hname, hsingle⟩ := Fingerprint.ofDirectory?_eq_some hfp
      cases hrest : fingerprints names with
      | error e =>
        rw [hrest] at h
        cases h
      | ok rest =>
        rw [hrest] at h
        cases h
        obtain ⟨hnames, hall⟩ := ih hrest
        exact ⟨by rw [List.map_cons, hname, hnames], List.forall_mem_cons.mpr ⟨hname ▸ hsingle, hall⟩⟩

theorem fingerprints_rejected (h : ∃ name ∈ names, Fingerprint.ofDirectory? name = none) :
    ∃ e, fingerprints names = .error e := by
  induction names with
  | nil =>
    obtain ⟨_, hmem, _⟩ := h
    cases hmem
  | cons name names ih =>
    unfold fingerprints
    split
    · exact ⟨_, rfl⟩
    · next fp hfp =>
      obtain ⟨other, hmem, hother⟩ := h
      rcases List.mem_cons.mp hmem with rfl | hmem
      · rw [hfp] at hother
        cases hother
      · obtain ⟨e, he⟩ := ih ⟨other, hmem, hother⟩
        rw [he]
        exact ⟨e, rfl⟩

/-! ### Removals -/

section Each

-- Looking at what came of a removal is not to run through its steps.
attribute [local irreducible] Store.remove

theorem removeEach_cons (store : Store) (fp : Fingerprint) (rest : List Fingerprint) (host : Host) :
    removeEach store (fp :: rest) host =
      match store.remove fp host with
      | (host, .error e) => .failed host (.forge (.build e))
      | (host, .ok removed) =>
        Ending.after ((if removed then "     Removed " else "     Missing ") ++ fp.name)
          (removeEach store rest host) :=
  rfl

end Each

theorem removeEach_inside {store : Store} (todo : List Fingerprint) {host : Host} (hmem : ∀ fp ∈ todo, fp ∈ fps)
    (hplain : store.PlainLocks fps host.disk) :
    store.ChangesInside fps host.disk (removeEach store todo host).host.disk := by
  induction todo generalizing host with
  | nil => exact .refl _
  | cons fp todo ih =>
    obtain ⟨hfp, htodo⟩ := List.forall_mem_cons.mp hmem
    obtain ⟨hinside, hsucceeds⟩ := Store.remove_purges hfp hplain
    rw [removeEach_cons]
    rcases hremove : store.remove fp host with ⟨host₁, e | removed⟩
    · rw [hremove] at hinside
      exact hinside
    · rw [hremove] at hsucceeds
      obtain ⟨hpurges, _⟩ := hsucceeds removed rfl
      exact hpurges.changesInside (ih htodo (hpurges.plainLocks hplain))

theorem clean_rejected (config : Config) (folder : List String) (host : Host)
    (h : ∃ name ∈ names, Fingerprint.ofDirectory? name = none) :
    ∃ e, clean config folder names host = .failed host e := by
  obtain ⟨e, he⟩ := fingerprints_rejected h
  cases names with
  | nil =>
    obtain ⟨_, hmem, _⟩ := h
    cases hmem
  | cons name names =>
    simp only [clean, he]
    exact ⟨e, rfl⟩

/-- The fingerprints that cleaning removes: those that are named, or all that are there. -/
def Cleans (store : Store) (disk : Disk) (names : List String) (fps : List Fingerprint) : Prop :=
  if names = [] then store.fingerprints disk = .ok fps else fps.map Fingerprint.name = names

theorem clean_inside (config : Config) (folder : List String) (names : List String) (host : Host) :
    (clean config folder names host).host = host ∨ ∃ fps, Cleans (config.store folder) host.disk names fps ∧
      ((config.store folder).PlainLocks fps host.disk →
        (config.store folder).ChangesInside fps host.disk (clean config folder names host).host.disk) := by
  cases names with
  | nil =>
    have hhost : (clean config folder [] host).host = ((config.store folder).clean host).1 := by
      rw [clean]
      rcases (config.store folder).clean host with ⟨host', e | n⟩ <;> rfl
    rw [hhost, Store.clean]
    cases hfps : (config.store folder).fingerprints host.disk with
    | error e => exact .inl rfl
    | ok fps =>
      refine .inr ⟨fps, by rw [Cleans, if_pos rfl]; exact hfps, fun hplain => ?_⟩
      exact (Store.removeEach_purges fps (fun _ h => h) hplain).1
  | cons name names =>
    simp only [clean]
    cases hfps : fingerprints (name :: names) with
    | error e => exact .inl rfl
    | ok fps =>
      obtain ⟨hnames, hsingle⟩ := fingerprints_eq_ok hfps
      exact .inr ⟨fps, by rw [Cleans, if_neg (by simp)]; exact hnames,
        fun hplain => removeEach_inside fps (fun _ h => h) hplain⟩

/-! ### Runs -/

theorem perform_clean (h : request.command = .clean names) (site : Surroundings) (host : Host) :
    perform request site host =
      match configOf request site host.disk with
      | .error e => .failed host (.config e)
      | .ok config => clean config site.folder names host := by
  cases hconfig : configOf request site host.disk <;> simp only [perform, h, hconfig]

theorem run_of_parse {words : List String} (h : Request.parse words = .ok request) (site : Surroundings)
    (host : Host) :
    run site words host = ((perform request site host).host, (perform request site host).transcript
      request.quiet) := by
  rw [run, h]

/-- **Cleaning is confined to the locations that are named.** Every kernel has a name that is recognized,
and what is recognized is the name of a direct child of the root, whatever the root is. If a name is not
recognized, wherever it stands, cleaning fails and changes nothing. Else it changes nothing outside the
locations, unless a lock file is a symbolic link. -/
theorem clean_confined {words : List String} {request : Request} {names : List String}
    (hparse : Request.parse words = .ok request) (hcommand : request.command = .clean names) (site : Surroundings)
    (host : Host) :
    (∀ spec name target, Target.create? name = some target →
      Fingerprint.ofDirectory? (Fingerprint.of spec target).name = some (.of spec target)) ∧
    (∀ name fp, Fingerprint.ofDirectory? name = some fp →
      Path.Single name ∧ ∀ root, (Location.of root fp).IsChild root name) ∧
    ((∃ name ∈ names, Fingerprint.ofDirectory? name = none) →
      (run site words host).1 = host ∧ (run site words host).2.code = 1) ∧
    ((run site words host).1 = host ∨ ∃ config fps, configOf request site host.disk = .ok config ∧
      Cleans (config.store site.folder) host.disk names fps ∧
      ((config.store site.folder).PlainLocks fps host.disk →
        (config.store site.folder).ChangesInside fps host.disk (run site words host).1.disk)) := by
  rw [run_of_parse hparse, perform_clean hcommand]
  refine ⟨fun spec name target h => Fingerprint.ofDirectory?_of spec h, fun name fp h => ?_,
    fun hrejected => ?_, ?_⟩
  · obtain ⟨rfl, hsingle⟩ := Fingerprint.ofDirectory?_eq_some h
    exact ⟨hsingle, Location.isChild_of hsingle⟩
  · cases configOf request site host.disk with
    | error e => exact ⟨rfl, rfl⟩
    | ok config =>
      obtain ⟨e, he⟩ := clean_rejected config site.folder host hrejected
      dsimp only
      rw [he]
      exact ⟨rfl, rfl⟩
  · cases configOf request site host.disk with
    | error e => exact .inl rfl
    | ok config =>
      rcases clean_inside config site.folder names host with hsame | ⟨fps, hcleans, hinside⟩
      · exact .inl hsame
      · exact .inr ⟨config, fps, rfl, hcleans, hinside⟩

/-- Surroundings in which a cache is meant. -/
def shelfSurroundings : Surroundings := ⟨[("GENRED_BIN_FOLDER", "cache")], []⟩

def shelfRequest : Request := ⟨false, false, none, .clean [shelvedName]⟩

/-- Cleaning removes the kernel that is named, and changes nothing but its location. With one more name that
leads to the same location and is not recognized, it changes nothing at all. -/
theorem clean_confined_shelf :
    Request.parse ["clean", shelvedName] = .ok shelfRequest ∧
    (run shelfSurroundings ["clean", shelvedName] shelf).2.progress = ["     Removed " ++ shelvedName] ∧
    (shelfStore [] "cache").ChangesInside [⟨shelvedName⟩] shelf.disk
      (run shelfSurroundings ["clean", shelvedName] shelf).1.disk ∧
    (run shelfSurroundings ["clean", shelvedName, "../cache/" ++ shelvedName] shelf).1 = shelf ∧
    (run shelfSurroundings ["clean", shelvedName, "../cache/" ++ shelvedName] shelf).2.code = 1 := by
  have hparse : Request.parse ["clean", shelvedName] = .ok shelfRequest := by rfl
  have hparse' : Request.parse ["clean", shelvedName, "../cache/" ++ shelvedName] =
      .ok { shelfRequest with command := .clean [shelvedName, "../cache/" ++ shelvedName] } := by rfl
  have hconfig : (configOf shelfRequest shelfSurroundings shelf.disk).map (Config.store · []) =
      .ok (shelfStore [] "cache") := by decide +kernel
  have hprogress : (run shelfSurroundings ["clean", shelvedName] shelf).2.progress =
      ["     Removed " ++ shelvedName] := by
    decide +kernel
  refine ⟨hparse, hprogress, ?_, (clean_confined hparse' rfl shelfSurroundings shelf).2.2.1
    ⟨_, .tail _ (.head _), ?_⟩⟩
  · rcases (clean_confined hparse rfl shelfSurroundings shelf).2.2.2 with hsame |
      ⟨config, fps, hok, hcleans, hinside⟩
    · rw [hsame]
      exact ⟨.refl _, fun _ _ => rfl⟩
    · obtain hstore : config.store [] = shelfStore [] "cache" := by
        rw [hok] at hconfig
        exact Except.ok.inj hconfig
      obtain rfl : fps = [⟨shelvedName⟩] := by
        have hnames : fps.map Fingerprint.name = [shelvedName] := hcleans
        obtain ⟨⟨name⟩, rfl, hname⟩ := List.map_eq_singleton_iff.mp hnames
        rw [← hname]
      rw [show config.store shelfSurroundings.folder = shelfStore [] "cache" from hstore] at hinside
      exact hinside shelf_plainLocks
  · decide +kernel

/-- The folder of a kernel whose lock file is a symbolic link that leads out of the cache, to nothing. -/
def trap : Host where
  disk := (shelfWith .empty).disk.place ["cache", shelvedName, Location.lockName] (.link "../../made")

/-- **A lock file that is a symbolic link makes cleaning change what is not inside the location**: the file
is made that the link leads to. -/
theorem clean_escapes :
    (run shelfSurroundings ["clean", shelvedName] trap).2.code = 0 ∧ trap.disk.root.look ["made"] = none ∧
      (run shelfSurroundings ["clean", shelvedName] trap).1.disk.root.look ["made"] = some (.file 5) := by
  decide +kernel

end Cli

end KernelForge
