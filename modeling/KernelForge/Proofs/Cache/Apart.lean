import KernelForge.Proofs.Cache.Bounds
import KernelForge.Proofs.Cache.Inventory

/-!
Operations for one fingerprint, and everything else.

An operation makes the folders on the way to its location if it is a build, and changes nothing besides but
what is below the folder of the location (`operate_spares`). Below a root whose route does not pass what is
in it (`Ground`), locations that are no links stand side by side (`Level.located`), so that operations one
after the other leave every location alone that they are not for (`operateAll_same`). `operate_apart` says
both.
-/
namespace KernelForge

open Disk FileTree

namespace Store

/-- What can be asked of a cache for a fingerprint. -/
inductive Operation where
  | ensure (generator : Generator) (spec : KernelSpec) (target : Target)
  | rebuild (generator : Generator) (spec : KernelSpec) (target : Target)
  | remove

/-- The host after an operation, whatever came of it. -/
def operate (store : Store) (fp : Fingerprint) : Operation → Host → Host
  | .ensure generator spec target, host => (store.ensureBuilt generator spec target fp host).1
  | .rebuild generator spec target, host => (store.ensureBuiltForced generator spec target fp host).1
  | .remove, host => (store.remove fp host).1

/-- Operations one after the other. -/
def operateAll (store : Store) : List (Fingerprint × Operation) → Host → Host
  | [], host => host
  | (fp, op) :: rest, host => store.operateAll rest (store.operate fp op host)

namespace Operation

/-- The disk when an operation comes to the location: builds make the folder first. -/
def reached (l : Location) (d : Disk) : Operation → Disk
  | .remove => d
  | _ => (d.makeFolders l.folder.route).1

/-- The generator of an operation, if it has one, keeps to the location. -/
def KeepsTo (l : Location) : Operation → Prop
  | .ensure generator _ _ | .rebuild generator _ _ => generator.KeepsTo l
  | .remove => True

/-- The generator of an operation, if it has one, leaves no link in the place of the lock file. -/
def SparesLock (l : Location) : Operation → Prop
  | .ensure generator _ _ | .rebuild generator _ _ => generator.SparesLock l
  | .remove => True

end Operation

end Store

/-- A path is where the route of a location leads, or a route above it. -/
def Location.OnTheWay (l : Location) (d : Disk) (k : List String) : Prop :=
  ∃ route ∈ l.folder.route :: Path.ancestors l.folder.route, d.locate route = .ok k

namespace Store

variable {store : Store} {fp : Fingerprint} {op : Operation} {host : Host} {k : List String}

/-! ### One operation -/

theorem widens_reached (op : Operation) (l : Location) (d : Disk) : Widens d (op.reached l d) := by
  cases op with
  | remove => exact .refl d
  | _ => exact makeFolders_widens d _

/-- What is new when an operation comes to its location is on the way there. -/
theorem onTheWay_reached {l : Location} (hends : l.Ends) {d : Disk}
    (hk : (op.reached l d).root.look k ≠ d.root.look k) :
    op ≠ .remove ∧ l.OnTheWay (op.reached l d) k := by
  cases op with
  | remove => exact absurd rfl hk
  | _ => exact ⟨nofun, makeFolders_made hends hk⟩

theorem build_spares {generator : Generator} {spec : KernelSpec} {target : Target} {force : Bool}
    (hname : Path.Single fp.name) (hg : generator.KeepsTo (store.location fp)) {reached : Disk}
    (hreached : (host.disk.makeFolders (store.location fp).folder.route).1 = reached)
    (hplain : store.PlainLocks [fp] reached) :
    (store.build generator spec target fp force host).1.disk = reached ∨
      ∃ key, (store.location fp).StandsAt reached key ∧
        Location.Spares (generator.SparesLock (store.location fp)) key reached
          (store.build generator spec target fp force host).1.disk := by
  rw [host_build]
  exact Visit.run_spares (v := store.visit fp (.build spec target force)) hreached hg rfl rfl
    (Location.ends_of hname) hname.2 (hplain fp (List.mem_singleton_self fp))

/-- **An operation changes nothing but what is below the folder of its location**, once a build has made the
folder. -/
theorem operate_spares (hname : Path.Single fp.name) (hop : op.KeepsTo (store.location fp))
    (hplain : store.PlainLocks [fp] (op.reached (store.location fp) host.disk)) :
    (store.operate fp op host).disk = op.reached (store.location fp) host.disk ∨
      ∃ key, (store.location fp).StandsAt (op.reached (store.location fp) host.disk) key ∧
        Location.Spares (op.SparesLock (store.location fp)) key (op.reached (store.location fp) host.disk)
          (store.operate fp op host).disk := by
  cases op with
  | ensure generator spec target =>
    rw [operate, ensureBuilt]
    exact build_spares hname hop rfl hplain
  | rebuild generator spec target =>
    rw [operate, ensureBuiltForced]
    exact build_spares hname hop rfl hplain
  | remove =>
    rw [operate, remove_eq, Operation.reached]
    by_cases hfolder : host.disk.isFolder (store.location fp).folder.route = true
    · obtain ⟨key, hat⟩ := Location.StandsAt.isFolder_iff.mp hfolder
      have htrims := (Location.emptied_empties hat
        (hplain fp (List.mem_singleton_self fp) key hat) store.impatient).1
      exact .inr ⟨key, hat, .of_trims htrims⟩
    · rw [Location.emptied, if_neg hfolder]
      exact .inl rfl

/-- What an operation leaves of a path that is not below the folder of its location. -/
theorem operate_same (hname : Path.Single fp.name) (hop : op.KeepsTo (store.location fp))
    (hplain : store.PlainLocks [fp] (op.reached (store.location fp) host.disk))
    (hk : ∀ key, (store.location fp).StandsAt (op.reached (store.location fp) host.disk) key → Outside key k) :
    Same host.disk (store.operate fp op host).disk k ∨
      (op ≠ .remove ∧ (store.location fp).OnTheWay (op.reached (store.location fp) host.disk) k ∧
        host.disk.root.look k = none ∧ (store.operate fp op host).disk.root.look k = some .folder) := by
  have hwidens := widens_reached op (store.location fp) host.disk
  have hsame : Same (op.reached (store.location fp) host.disk) (store.operate fp op host).disk k := by
    rcases operate_spares hname hop hplain with heq | ⟨key, hat, hspares⟩
    · rw [heq]
      exact .refl _ k
    · exact hspares.within.same k (hk key hat)
  by_cases hnew : (op.reached (store.location fp) host.disk).root.look k = host.disk.root.look k
  · exact .inl ((hwidens.keeps.same hnew).trans hwidens.keeps.size hsame)
  · obtain ⟨hbuild, hway⟩ := onTheWay_reached (Location.ends_of hname) hnew
    rcases hwidens.look k with heq | ⟨hnone, hfolder⟩
    · exact absurd heq hnew
    · exact .inr ⟨hbuild, hway, hnone, hsame.look.trans hfolder⟩

/-! ### Side by side -/

/-- A root that is at a path, and below it the locations of some fingerprints, of which none is a link and
none has a lock file that is one. -/
structure Level {base : List String} (ground : Ground base) (fps : List Fingerprint) (d : Disk) : Prop where
  bears : ground.Bears d.root
  folder : ∀ fp ∈ fps, ∀ target, d.root.look (base ++ [fp.name]) ≠ some (.link target)
  lock : ∀ fp ∈ fps, ∀ target, d.root.look (base ++ [fp.name] ++ [Location.lockName]) ≠ some (.link target)

end Store

variable {key route here : List String} {t : FileTree} {left left' : Nat} {l : Location} {d : Disk}

/-- Two routes that begin alike lead alike, on a disk and on the ground that it bears. -/
theorem Disk.Ground.Bears.arrives {here' : List String} {g : Ground key} (h : g.Bears t)
    (hleads : Leads t linkLimit [] route left here) (hground : Leads g.tree linkLimit [] route left' here') :
    here = here' := by
  obtain ⟨u, hu, hgu, _⟩ := h.join
  exact ((hleads.mono hu).unique (hground.mono hgu)).2

/-- What a first piece of a route to the path of a ground leads to is a folder of the ground. -/
theorem Disk.Ground.folder_partway {more : List String} {g : Ground key} (h : g.Bears t)
    (hground : Leads g.tree linkLimit [] (route ++ more) left key)
    (hleads : Leads t linkLimit [] route left' here) :
    g.tree.look here = some .folder := by
  obtain ⟨_, there, hfirst, hrest⟩ := hground.split
  obtain rfl := h.arrives hleads hfirst
  cases more with
  | nil =>
    cases hrest
    exact g.folder
  | cons part more => exact hrest.folder

namespace Store

variable {store : Store} {fp : Fingerprint} {op : Operation} {host : Host} {base : List String}
  {ground : Ground base} {fps : List Fingerprint} {d d' : Disk}

theorem route_location (hname : Path.Single fp.name) :
    (store.location fp).folder.route = Path.withoutSlash store.root.route ++ [fp.name] :=
  Place.route_join _ hname

namespace Level

/-- More folders do not matter. -/
theorem widens (h : Level ground fps d) (hwidens : Widens d d') : Level ground fps d' := by
  have hplain {k : List String} (hk : ∀ target, d.root.look k ≠ some (.link target)) (target : String) :
      d'.root.look k ≠ some (.link target) := by
    rcases hwidens.look k with hsame | ⟨_, hfolder⟩
    · rw [hsame]
      exact hk target
    · rw [hfolder]
      nofun
  refine ⟨h.bears.keep base (fun k => ?_) fun n rest => ground.empty _ (List.prefix_append _ _) (by simp),
    fun fp hmem => hplain (h.folder fp hmem), fun fp hmem => hplain (h.lock fp hmem)⟩
  exact (hwidens.look k).imp_right .inr

/-- Changes below the folder of one location leave it where it is, and the others, too. -/
theorem spares {careful : Prop} (h : Level ground fps d)
    (hspares : Location.Spares careful (base ++ [fp.name]) d d')
    (hcareful : careful) : Level ground fps d' := by
  have hside {k : List String} (hk : ∀ n rest, k ≠ base ++ [fp.name] ++ n :: rest) :
      d'.root.look k = d.root.look k := hspares.within.look hk
  refine ⟨h.bears.keep (base ++ [fp.name]) (fun k => ?_) fun n rest => ?_, fun other hmem target => ?_,
    fun other hmem target => ?_⟩
  · by_cases hbelow : ∃ n rest, k = base ++ [fp.name] ++ n :: rest
    · exact .inr (.inl hbelow)
    · exact .inl (hside fun n rest hk => hbelow ⟨n, rest, hk⟩)
  · exact ground.empty _ (by simp) (by simp)
  · rw [hside fun n rest hk => ?_]
    · exact h.folder other hmem target
    · have hlength := congrArg List.length hk
      simp at hlength
  · by_cases hother : other.name = fp.name
    · rw [hother]
      intro hlink
      exact h.lock other hmem target (hother ▸ hspares.lock hcareful target hlink)
    · rw [hside fun n rest hk => hother ?_]
      · exact h.lock other hmem target
      · have hbelow : base ++ [other.name] <+: base ++ [other.name] ++ [Location.lockName] := List.prefix_append _ _
        rw [hk] at hbelow
        exact name_unique hbelow (List.prefix_append _ _)

variable (hroot : ∃ left, Leads ground.tree linkLimit [] (Path.withoutSlash store.root.route) left base)
include hroot

/-- The route of a location leads to its name below the root. -/
theorem located (h : Level ground fps d) (hmem : fp ∈ fps) (hname : Path.Single fp.name) {key : List String}
    (hlocate : d.locate (store.location fp).folder.route = .ok key) : key = base ++ [fp.name] := by
  obtain ⟨_, left, hleads⟩ := locate_eq_ok_iff.mp hlocate
  obtain ⟨left', hground⟩ := hroot
  rw [route_location hname] at hleads
  obtain ⟨_, here, hfirst, hlast⟩ := hleads.split
  obtain rfl := h.bears.arrives hfirst hground
  obtain ⟨x, hx⟩ := hlast.found hname.1
  exact hlast.last hname.1 hx fun target hlink => h.folder fp hmem target (hlink ▸ hx)

theorem plainLocks (h : Level ground fps d) (hmem : fp ∈ fps) (hname : Path.Single fp.name) :
    store.PlainLocks [fp] d := by
  intro fp' hmem' key hat target
  obtain rfl := List.mem_singleton.mp hmem'
  obtain rfl := h.located hroot hmem hname hat.locate
  exact h.lock fp' hmem target

theorem onTheWay (h : Level ground fps d) (hwidens : Widens d d') (hmem : fp ∈ fps) (hname : Path.Single fp.name)
    {k : List String} (hnone : d.root.look k = none) (hway : (store.location fp).OnTheWay d' k) :
    k <+: base ++ [fp.name] := by
  have h' := h.widens hwidens
  obtain ⟨route, hroute, hlocate⟩ := hway
  rcases List.mem_cons.mp hroute with rfl | hroute
  · obtain rfl := h'.located hroot hmem hname hlocate
    exact List.prefix_refl _
  · obtain ⟨_, left, hleads⟩ := locate_eq_ok_iff.mp hlocate
    obtain ⟨left', hground⟩ := hroot
    have hnames : Path.names (store.location fp).folder.route =
        Path.names (Path.withoutSlash store.root.route) ++ [fp.name] := by
      rw [route_location hname, Path.names, Path.names, List.filter_append]
      simp [hname.1.1, hname.1.2.1]
    simp only [Path.ancestors, List.mem_map, List.mem_reverse, List.mem_range, hnames, List.length_append,
      List.length_singleton] at hroute
    obtain ⟨i, hi, rfl⟩ := hroute
    rw [List.take_append_of_le_length (Nat.le_of_lt_succ hi)] at hleads
    have hnamed := hground.names
    rw [← List.take_append_drop i (Path.names _)] at hnamed
    rcases h.bears.has k _ (Ground.folder_partway h'.bears hnamed hleads) with hthere | ⟨_, hbase⟩
    · rw [hnone] at hthere
      cases hthere
    · exact hbase.trans (List.prefix_append _ _)

end Level

/-! ### Operations one after the other -/

section Sequence

variable (hroot : ∃ left, Leads ground.tree linkLimit [] (Path.withoutSlash store.root.route) left base)
include hroot

/-- An operation leaves the locations side by side, and every other one as it was. -/
theorem Level.operate (h : Level ground fps host.disk) (hmem : fp ∈ fps) (hname : Path.Single fp.name)
    (hop : op.KeepsTo (store.location fp)) (hlock : op.SparesLock (store.location fp)) :
    Level ground fps (store.operate fp op host).disk ∧
      host.disk.nodes.size ≤ (store.operate fp op host).disk.nodes.size ∧
      ∀ (other : String) (k : List String), other ≠ fp.name → base ++ [other] <+: k →
        Same host.disk (store.operate fp op host).disk k := by
  have hwidens := widens_reached op (store.location fp) host.disk
  have hreached := h.widens hwidens
  have hplain := hreached.plainLocks hroot hmem hname
  refine ⟨?_, ?_, fun other k hother hk => ?_⟩
  · rcases operate_spares hname hop hplain with heq | ⟨key, hat, hspares⟩
    · rw [heq]
      exact hreached
    · obtain rfl := hreached.located hroot hmem hname hat.locate
      exact hreached.spares hspares hlock
  · rcases operate_spares hname hop hplain with heq | ⟨key, _, hspares⟩
    · rw [heq]
      exact hwidens.keeps.size
    · exact Nat.le_trans hwidens.keeps.size hspares.within.size
  · have houtside : ∀ key, (store.location fp).StandsAt (op.reached (store.location fp) host.disk) key →
        Outside key k := by
      rintro key hat n rest rfl
      obtain rfl := hreached.located hroot hmem hname hat.locate
      exact hother (name_unique hk (List.prefix_append _ _))
    rcases operate_same hname hop hplain houtside with hsame | ⟨_, hway, hnone, _⟩
    · exact hsame
    · have hbelow := hk.trans (h.onTheWay hroot hwidens hmem hname hnone hway)
      exact absurd (name_unique hbelow (List.prefix_refl _)) hother

/-- **Operations leave every location as it was that they are not for.** -/
theorem operateAll_same {ops : List (Fingerprint × Operation)} (h : Level ground fps host.disk)
    (hops : ∀ entry ∈ ops, entry.1 ∈ fps ∧ Path.Single entry.1.name ∧ entry.2.KeepsTo (store.location entry.1) ∧
      entry.2.SparesLock (store.location entry.1))
    {other : String} (hother : ∀ entry ∈ ops, other ≠ entry.1.name) {k : List String} (hk : base ++ [other] <+: k) :
    Same host.disk (store.operateAll ops host).disk k := by
  induction ops generalizing host with
  | nil => exact .refl host.disk k
  | cons entry rest ih =>
    obtain ⟨hmem, hname, hop, hlock⟩ := hops entry List.mem_cons_self
    obtain ⟨hnext, hsize, hsame⟩ := h.operate hroot hmem hname hop hlock
    exact (hsame other k (hother entry List.mem_cons_self) hk).trans hsize
      (ih hnext (fun entry hrest => hops entry (List.mem_cons_of_mem _ hrest))
        fun entry hrest => hother entry (List.mem_cons_of_mem _ hrest))

end Sequence

/-- **Operations for one fingerprint leave everything else as it was.** A build or a removal, whatever comes
of it, changes nothing but what is below the folder of its location, and a build makes the folders that are
missing on the way there. So operations one after the other, for whichever fingerprints, leave all that is
at or below the location of any other one.

Generators keep to their locations (`Generator.KeepsTo`), and the lock file is no link. For operations one
after the other, generators make none of it either, no location is a link, and the route to the root does
not pass what is below it. -/
theorem operate_apart (store : Store) :
    (∀ (fp : Fingerprint) (op : Operation) (host : Host), Fingerprint.ofDirectory? fp.name = some fp →
      op.KeepsTo (store.location fp) → store.PlainLocks [fp] (op.reached (store.location fp) host.disk) →
      ∀ k, (∀ key, (store.location fp).StandsAt (op.reached (store.location fp) host.disk) key → Outside key k) →
        Same host.disk (store.operate fp op host).disk k ∨
          (op ≠ .remove ∧ (store.location fp).OnTheWay (op.reached (store.location fp) host.disk) k ∧
            host.disk.root.look k = none ∧ (store.operate fp op host).disk.root.look k = some .folder)) ∧
    ∀ (b : Fingerprint) (ops : List (Fingerprint × Operation)) (host : Host) (base : List String)
      (ground : Ground base),
      (∃ left, Leads ground.tree linkLimit [] (Path.withoutSlash store.root.route) left base) →
      Level ground (ops.map Prod.fst) host.disk →
      (∀ entry ∈ ops, Fingerprint.ofDirectory? entry.1.name = some entry.1 ∧ entry.1 ≠ b ∧
        entry.2.KeepsTo (store.location entry.1) ∧ entry.2.SparesLock (store.location entry.1)) →
      ∀ k, base ++ [b.name] <+: k → Same host.disk (store.operateAll ops host).disk k := by
  constructor
  · intro fp op host hfp hop hplain k hk
    exact operate_same (Fingerprint.ofDirectory?_eq_some hfp).2 hop hplain hk
  · intro b ops host base ground hroot hlevel hops k hk
    refine operateAll_same hroot hlevel (fun entry hmem => ?_) (fun entry hmem => ?_) hk
    · obtain ⟨hfp, _, hop⟩ := hops entry hmem
      exact ⟨List.mem_map_of_mem hmem, (Fingerprint.ofDirectory?_eq_some hfp).2, hop⟩
    · intro hsame
      refine (hops entry hmem).2.1 ?_
      cases b
      cases hentry : entry.1
      rw [hentry] at hsame
      exact congrArg _ hsame.symm

end Store

/-! ### Two kernels on a shelf -/

/-- A generator that writes a library. -/
def Generator.writing (content : ByteArray) : Generator := fun request host =>
  match host.disk.write (request.folder.join "kernel.so").route content with
  | .ok disk => (disk, .ok (request.folder.join "kernel.so"))
  | .error _ => (host.disk, .error ⟨none, ""⟩)

theorem Location.Encloses.refl (l : Location) (d : Disk) : l.Encloses d d := ⟨Nat.le_refl _, fun k _ => .refl d k⟩

theorem Location.Encloses.of_within {d' : Disk} (hat : l.StandsAt d key) (h : Within key d d') : l.Encloses d d' :=
  ⟨h.size, fun k hk => h.same k (hk key hat)⟩

theorem Location.inside_entry {base : List String} {name last : String} {slash : Bool} (hends : l.Ends)
    (hn : Path.Single name) (hat : l.StandsAt d key)
    (h : d.tip (l.folder.join name).route = .ok (.entry base last slash)) : key <+: base := by
  rw [show (l.folder.join name).route = l.folder.route ++ [name] from hends.route_entry hn] at h
  obtain rfl := hat.unique (Location.standsAt_of_tip hn.1.1 h).1
  exact List.prefix_refl _

/-- It fails, or the library is new in the folder and nothing else has changed. -/
theorem Generator.writing_cases (content : ByteArray) (hends : l.Ends) (spec : KernelSpec) (target : Target)
    {host : Host} (hready : l.Ready host.disk) :
    (∃ failure, Generator.writing content ⟨spec, target, l.fingerprint, l.folder⟩
      host = (host.disk, .error failure)) ∨
      ∃ disk key, Generator.writing content ⟨spec, target, l.fingerprint, l.folder⟩ host =
          (disk, .ok (l.folder.join "kernel.so")) ∧ l.StandsAt host.disk key ∧ Within key host.disk disk ∧
        ∀ n, n ≠ "kernel.so" → disk.root.look (key ++ [n]) = host.disk.root.look (key ++ [n]) := by
  have hn : Path.Single "kernel.so" := by decide
  unfold Generator.writing
  dsimp only
  rw [show (l.folder.join "kernel.so").route = l.folder.route ++ ["kernel.so"] from hends.route_entry hn]
  cases hwrite : host.disk.write (l.folder.route ++ ["kernel.so"]) content with
  | error fault => exact .inl ⟨_, rfl⟩
  | ok disk =>
    obtain ⟨key, hkey⟩ := Location.write_within hn
      (fun key hat => .missing ((hready key hat).empty _ (by decide))) hwrite
    exact .inr ⟨disk, key, rfl, hkey⟩

theorem Generator.writing_keepsTo (content : ByteArray) (hends : l.Ends) :
    (Generator.writing content).KeepsTo l := by
  intro spec target host hready
  rcases Generator.writing_cases content hends spec target hready with
    ⟨failure, hr⟩ | ⟨disk, key, hr, hat, hwithin, hlook⟩
  · rw [hr]
    exact ⟨.refl l _, nofun, nofun⟩
  · rw [hr]
    have hbare := hready key hat
    refine ⟨.of_within hat hwithin, fun key' library hat' hlibrary base name slash htip => ?_,
      fun key' library hat' _ => .missing ?_⟩
    · cases hlibrary
      obtain rfl := hat.unique hat'
      exact Location.inside_entry hends (by decide) (hbare.stands hat hwithin) htip
    · obtain rfl := hat.unique hat'
      rw [hlook _ (by decide), hbare.empty _ (by decide)]

theorem Generator.writing_sparesLock (content : ByteArray) (hends : l.Ends) :
    (Generator.writing content).SparesLock l := by
  intro spec target host key hready hat link
  obtain ⟨file, hfile⟩ := (hready key hat).lock
  rcases Generator.writing_cases content hends spec target hready with ⟨failure, hr⟩ |
    ⟨disk, key', hr, hat', _, hlook⟩
  · rw [hr, hfile]
    nofun
  · obtain rfl := hat.unique hat'
    rw [hr, hlook _ (by decide), hfile]
    nofun

/-- The name of another kernel. -/
def neighborName : String := "genred_cpu_float64_00000000000000000000000000000000"

/-- Where it goes, beside the one on the shelf. -/
def neighborLocation : Location := (shelfStore [] "cache").location ⟨neighborName⟩

/-- What it is. -/
def neighborSpec : KernelSpec :=
  { formula := "x", reduction := .sum, axis := .outer, aliases := [], precision := .float64, flags := .empty }

/-- Building it. -/
def neighborBuild : Store.Operation := .rebuild (.writing .empty) neighborSpec .cpu

theorem shelf_root : ∃ left, Leads Depot.vacant.ground.tree linkLimit []
    (Path.withoutSlash (shelfStore [] "cache").root.route) left ["cache"] :=
  follow_eq_ok_iff.mp (by decide +kernel)

theorem shelf_level {fps : List Fingerprint} (h : ∀ fp ∈ fps, fp = ⟨neighborName⟩) (content : ByteArray) :
    Store.Level Depot.vacant.ground fps (shelfWith content).disk := by
  have hnone : (shelfWith content).disk.root.look (Depot.vacant.key ++ [neighborName]) = none := rfl
  refine ⟨Ground.bears_under (Depot.clear_empty 0 _) (fun k hk => ?_) fun k x hk hx => ?_, fun fp hmem target => ?_,
    fun fp hmem target => ?_⟩
  · rcases List.prefix_cons_iff.mp hk with rfl | ⟨rest, rfl, hrest⟩
    · exact .inr rfl
    · rw [List.prefix_nil.mp hrest]
      exact .inr rfl
  · cases k with
    | nil => exact absurd List.nil_prefix hk
    | cons n rest => cases hx
  · rw [h fp hmem, hnone]
    nofun
  · rw [h fp hmem, look_none_below (List.prefix_append _ _) hnone]
    nofun

/-- A kernel is built beside the one on the shelf and removed again, which leaves the manifest on the shelf
as it is. -/
theorem operate_apart_neighbor :
    Fingerprint.ofDirectory? neighborName = some ⟨neighborName⟩ ∧
      shelf.disk.root.look ["cache", shelvedName, "artifact.json"] = some (.file 4) ∧
      Same shelf.disk ((shelfStore [] "cache").operate ⟨neighborName⟩ neighborBuild shelf).disk
        ["cache", shelvedName, "artifact.json"] ∧
      Same shelf.disk ((shelfStore [] "cache").operateAll
        [(⟨neighborName⟩, neighborBuild), (⟨neighborName⟩, .remove)] shelf).disk
          ["cache", shelvedName, "artifact.json"] := by
  let fp : Fingerprint := ⟨neighborName⟩
  have hfp : Fingerprint.ofDirectory? neighborName = some fp := by decide +kernel
  have hname := (Fingerprint.ofDirectory?_eq_some hfp).2
  have hlook : shelf.disk.root.look ["cache", shelvedName, "artifact.json"] = some (.file 4) := rfl
  have hkeeps : neighborBuild.KeepsTo neighborLocation := Generator.writing_keepsTo .empty (Location.ends_of hname)
  obtain ⟨hone, hall⟩ := Store.operate_apart (shelfStore [] "cache")
  refine ⟨hfp, hlook, ?_, ?_⟩
  · have hmem : fp ∈ [fp] := List.mem_singleton_self fp
    have hreached : Store.Level Depot.vacant.ground [fp] (neighborBuild.reached neighborLocation shelf.disk) :=
      (shelf_level (by simp [fp]) _).widens (Store.widens_reached neighborBuild neighborLocation shelf.disk)
    have houtside : ∀ key, neighborLocation.StandsAt (neighborBuild.reached neighborLocation shelf.disk) key →
        Outside key ["cache", shelvedName, "artifact.json"] := by
      intro key hat n rest hk
      rw [hreached.located shelf_root hmem hname hat.locate] at hk
      exact absurd (List.cons.inj (List.cons.inj hk).2).1 (by decide)
    rcases hone fp neighborBuild shelf hfp hkeeps (hreached.plainLocks shelf_root hmem hname) _ houtside with
      hsame | ⟨_, _, hnone, _⟩
    · exact hsame
    · rw [hlook] at hnone
      cases hnone
  · refine hall ⟨shelvedName⟩ _ shelf ["cache"] Depot.vacant.ground shelf_root (shelf_level (by simp) _) ?_ _
      ⟨["artifact.json"], rfl⟩
    intro entry hentry
    have hne : fp ≠ ⟨shelvedName⟩ := by decide
    rcases List.mem_cons.mp hentry with rfl | hentry
    · exact ⟨hfp, hne, hkeeps, Generator.writing_sparesLock .empty (Location.ends_of hname)⟩
    · obtain rfl := List.mem_singleton.mp hentry
      exact ⟨hfp, hne, trivial, trivial⟩

/-! ### Lock files that lead elsewhere -/

/-- The shelf with the folder of the other kernel, whose lock file is a link to the shelf. -/
def linkedShelf : Host where
  disk := ((shelfWith .empty).disk.newFolder ["cache", neighborName] 0o755).place
    ["cache", neighborName, Location.lockName] (.link ("../" ++ shelvedName ++ "/made"))

/-- **An operation can change the location of another kernel**: where a lock file is a link, the file that
it leads to is made. -/
theorem linked_lock_escapes :
    Fingerprint.ofDirectory? neighborName = some ⟨neighborName⟩ ∧
      linkedShelf.disk.root.look ["cache", shelvedName, "made"] = none ∧
      ((shelfStore [] "cache").operate ⟨neighborName⟩ .remove linkedShelf).disk.root.look
        ["cache", shelvedName, "made"] = some (.file 6) := by
  decide +kernel

end KernelForge
