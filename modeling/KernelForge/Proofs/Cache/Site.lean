import KernelForge.Cache.Location
import KernelForge.Proofs.Host.Entries

/-!
Build locations on a disk.

A `Site` is a location with the path of its folder and the ground on which its route leads there. Once the
folder stands (`Site.Stands`), what an operation does with an entry of the location depends on what is at
the path of the entry alone, and on the length of its route. There is one equation for each operation:
`openFile_entry`, `tip_entry`, and `read_file` with `file_of_read` for files further down.
-/
namespace KernelForge

open Disk FileTree

/-! ### Names in a location -/

theorem single_lockName : Path.Single Location.lockName := by decide

theorem single_fileName : Path.Single Manifest.fileName := by decide

theorem single_draftName : Path.Single Manifest.draftName := by decide

namespace Location

variable {l : Location} {host : Host} {d : Disk} {route key : List String}

theorem route_entry {name : String} (hn : Path.Single name) :
    (l.entry name).route = Path.withoutSlash l.folder.route ++ [name] :=
  Place.route_join _ hn

/-! ### Operations in a folder -/

/-- Once the lock file is open, only its number counts. -/
theorem tryLock_opened {disk : Disk} {file : Nat}
    (h : host.disk.openFile l.lockFile.route = .ok (disk, file)) :
    (disk.allows .read file = false ∧ l.tryLock host = (host, .failed .permission)) ∨
      (host.isLocked file = true ∧ l.tryLock host = ({ host with disk }, .held)) ∨
      (host.isLocked file = false ∧ l.tryLock host =
        ({ host with disk, locks := ⟨host.issued, file⟩ :: host.locks, issued := host.issued + 1 },
          .taken host.issued)) := by
  unfold tryLock
  rw [h]
  dsimp only
  cases hread : disk.allows .read file with
  | false => exact .inl ⟨rfl, rfl⟩
  | true =>
    cases hlocked : host.isLocked file with
    | true => exact .inr (.inl ⟨rfl, if_pos hlocked⟩)
    | false =>
      have hfree : ¬({ host with disk } : Host).isLocked file = true := fun h => by cases hlocked.symm.trans h
      exact .inr (.inr ⟨rfl, if_neg hfree⟩)

theorem tryLock_failed {fault : Fault} (h : host.disk.openFile l.lockFile.route = .error fault) :
    l.tryLock host = (host, .failed fault) := by
  rw [tryLock, h]

/-- Who has taken the lock may read and write the lock file. -/
theorem tryLock_allows {host' : Host} {ticket : Nat} (h : l.tryLock host = (host', .taken ticket)) :
    ∃ file, host'.locks = ⟨host.issued, file⟩ :: host.locks ∧ ∀ right, host'.disk.allows right file = true := by
  unfold tryLock at h
  cases hopen : host.disk.openFile l.lockFile.route with
  | error f =>
    rw [hopen] at h
    cases h
  | ok opened =>
    obtain ⟨disk, file⟩ := opened
    have hwrite := openFile_allows hopen (by decide)
    rw [hopen] at h
    dsimp only at h
    split at h
    · cases h
    · next hread =>
      have hallows : disk.allows .read file = true := by simpa using hread
      split at h
      · cases h
      · cases h
        refine ⟨file, rfl, fun right => ?_⟩
        cases right with
        | read => exact hallows
        | write => exact hwrite

/-- The modes allow to open the lock file of the location at a path, or to make it. -/
def LockOpens (d : Disk) (key : List String) : Prop :=
  match d.root.look (key ++ [lockName]) with
  | some (.file id) => d.allows .write id = true ∧ d.allows .read id = true
  | _ => d.opens .write key = true

/-- The user may list and change the folder of a location with all folders below it, and open its lock file. -/
structure Permits (d : Disk) (key : List String) : Prop where
  folders : ∀ right k, key <+: k → d.root.look k = some .folder → d.opens right k = true
  lock : ∀ right file, d.root.look (key ++ [lockName]) = some (.file file) → d.allows right file = true

namespace Permits

/-- Where nothing is, nothing forbids. -/
theorem of_none (h : d.root.look key = none) : Permits d key := by
  refine ⟨fun _ k hk hfolder => ?_, fun _ file hfile => ?_⟩
  · rw [look_none_below hk h] at hfolder
    simp at hfolder
  · rw [look_none_below (List.prefix_append _ _) h] at hfile
    simp at hfile

theorem opens (h : Permits d key) (right : Right) (hfolder : d.root.look key = some .folder) :
    d.opens right key = true :=
  h.folders right key (List.prefix_refl key) hfolder

theorem lockOpens (h : Permits d key) (hfolder : d.root.look key = some .folder) : LockOpens d key := by
  unfold LockOpens
  split
  · next file hfile => exact ⟨h.lock .write file hfile, h.lock .read file hfile⟩
  · exact h.opens .write hfolder

theorem mayStrike (h : Permits d key) (n : String) (rest : List String) :
    d.mayStrike (key ++ n :: rest) = true := by
  have hopens : ∀ right, d.get? (key ++ n :: rest) ≠ none → d.opens right (key ++ n :: rest).dropLast = true := by
    intro right hthere
    refine h.folders right _ ?_ ?_
    · rw [List.dropLast_append_of_ne_nil (List.cons_ne_nil n rest)]
      exact List.prefix_append _ _
    · cases hlook : d.root.look (key ++ n :: rest) with
      | none => exact absurd (look_eq_none_iff.mp hlook) hthere
      | some x =>
        rw [← List.dropLast_concat_getLast (l := key ++ n :: rest) (by simp)] at hlook
        exact look_folder_of_below hlook
  unfold Disk.mayStrike
  cases hget : d.get? (key ++ n :: rest) with
  | none => rfl
  | some found =>
    rw [hopens .read (by simp [hget]), hopens .write (by simp [hget])]
    cases hnumber : d.root.number? (key ++ n :: rest) with
    | none => rfl
    | some id =>
      obtain ⟨_, hid, hallows⟩ := opens_iff.mp
        (h.folders .read _ (List.prefix_append key _) (look_of_number? hnumber))
      cases hnumber.symm.trans hid
      simpa using hallows

/-- Where rights are upheld and the lock file stays, the user may still do all that. -/
theorem upheld {d' : Disk} (h : Permits d key) (hup : Upholds d d') (hkeeps : Keeps d d')
    (hlock : d'.root.look (key ++ [lockName]) = d.root.look (key ++ [lockName])) : Permits d' key :=
  ⟨fun right k hk hfolder => hup right k hfolder (h.folders right k hk),
    fun right file hfile => hkeeps.allows (h.lock right file (hlock ▸ hfile))⟩

end Permits

section Folder

variable (hroute : Path.withoutSlash l.folder.route = route)
  (hfollow : follow host.disk.root linkLimit [] route = .ok key) (hfolder : host.disk.root.look key = some .folder)

include hroute hfollow hfolder

/-- What comes of an attempt to take the lock where the lock file is no link. It is there, or it is made. -/
theorem tryLock_in (hlink : ∀ target, host.disk.root.look (key ++ [lockName]) ≠ some (.link target)) :
    (∃ fault, l.tryLock host = (host, .failed fault) ∧
        (entryFault? route lockName = none → LockOpens host.disk key →
          host.disk.root.look (key ++ [lockName]) = some .folder)) ∨
      ∃ disk file, entryFault? route lockName = none ∧
        ((disk = host.disk ∧ host.disk.root.look (key ++ [lockName]) = some (.file file)) ∨
          (host.disk.root.look (key ++ [lockName]) = none ∧ file = host.disk.nodes.size ∧
            disk = host.disk.newFile (key ++ [lockName]) { mode := 0o644 })) ∧
        ((host.isLocked file = true ∧ l.tryLock host = ({ host with disk }, .held)) ∨
          (host.isLocked file = false ∧ l.tryLock host =
            ({ host with disk, locks := ⟨host.issued, file⟩ :: host.locks, issued := host.issued + 1 },
              .taken host.issued))) := by
  have hopen := openFile_in single_lockName hfollow hfolder hlink 0o644
  rw [← show l.lockFile.route = route ++ [lockName] from hroute ▸ route_entry single_lockName] at hopen
  cases hfault : entryFault? route lockName with
  | some f => exact .inl ⟨f, tryLock_failed (by rw [hopen, hfault]), nofun⟩
  | none =>
    unfold LockOpens
    cases hlook : host.disk.root.look (key ++ [lockName]) with
    | none =>
      rw [hfault, hlook] at hopen
      cases hwrite : host.disk.opens .write key with
      | false =>
        rw [hwrite] at hopen
        exact .inl ⟨_, tryLock_failed hopen, fun _ hgranted => absurd hgranted Bool.false_ne_true⟩
      | true =>
        rw [hwrite] at hopen
        have hread : (host.disk.newFile (key ++ [lockName]) { mode := 0o644 }).allows .read
            host.disk.nodes.size = true :=
          allows_push rfl (by show 0o644 &&& 0o400 ≠ 0; decide)
        rcases tryLock_opened hopen with ⟨hrefused, _⟩ | hattempt
        · rw [hread] at hrefused
          cases hrefused
        · exact .inr ⟨_, _, rfl, .inr ⟨rfl, rfl, rfl⟩, hattempt⟩
    | some x =>
      rw [hfault, hlook] at hopen
      cases x with
      | file id =>
        dsimp only at hopen ⊢
        cases hwrite : host.disk.allows .write id with
        | false =>
          rw [hwrite] at hopen
          exact .inl ⟨_, tryLock_failed hopen, fun _ hgranted => absurd hgranted.1 Bool.false_ne_true⟩
        | true =>
          rw [hwrite] at hopen
          rcases tryLock_opened hopen with ⟨hrefused, hfailed⟩ | hattempt
          · refine .inl ⟨_, hfailed, fun _ hgranted => ?_⟩
            rw [hrefused] at hgranted
            exact absurd hgranted.2 Bool.false_ne_true
          · exact .inr ⟨_, _, rfl, .inl ⟨rfl, rfl⟩, hattempt⟩
      | link target => exact absurd hlook (hlink target)
      | folder => exact .inl ⟨.isFolder, tryLock_failed hopen, fun _ _ => rfl⟩

/-- Removing the manifest removes it, or nothing. -/
theorem unpublish_in :
    (∃ e, l.unpublish host = (host, .error e) ∧ (entryFault? route Manifest.fileName = none →
        host.disk.opens .write key = true → host.disk.root.look (key ++ [Manifest.fileName]) = some .folder)) ∨
      (entryFault? route Manifest.fileName = none ∧
        ((host.disk.root.look (key ++ [Manifest.fileName]) = none ∧ l.unpublish host = (host, .ok ())) ∨
          l.unpublish host = ({ host with disk := host.disk.erase (key ++ [Manifest.fileName]) }, .ok ()))) := by
  unfold unpublish
  simp only [route_entry single_fileName, hroute, unlink_in single_fileName hfollow hfolder]
  cases hfault : entryFault? route Manifest.fileName with
  | some f =>
    have hne := entryFault?_ne_notFound hfault
    cases f <;> first | exact absurd rfl hne | exact .inl ⟨_, rfl, nofun⟩
  | none =>
    cases host.disk.root.look (key ++ [Manifest.fileName]) with
    | none => exact .inr ⟨rfl, .inl ⟨rfl, rfl⟩⟩
    | some x =>
      cases hwrite : host.disk.opens .write key with
      | false => cases x <;> exact .inl ⟨_, rfl, fun _ h => absurd h Bool.false_ne_true⟩
      | true =>
        cases x with
        | folder => exact .inl ⟨_, rfl, fun _ _ => rfl⟩
        | file | link => exact .inr ⟨rfl, .inr rfl⟩

end Folder

/-- A location whose folder may be listed has outputs. -/
theorem outputs_in (hlocate : d.locate l.folder.route = .ok key) (hread : d.opens .read key = true) :
    ∃ keys, l.outputs d = .ok keys := by
  obtain ⟨id, hid, _⟩ := opens_iff.mp hread
  have hlist := list_folder hlocate (look_of_number? hid)
  rw [if_pos hread] at hlist
  obtain ⟨names, hlist⟩ := hlist
  exact ⟨_, by rw [outputs, hlocate, hlist]⟩

theorem opens_of_outputs {keys : List (List String)} (hlocate : d.locate l.folder.route = .ok key)
    (h : l.outputs d = .ok keys) : d.opens .read key = true := by
  rw [outputs, hlocate] at h
  cases hlist : d.list l.folder.route with
  | error f =>
    rw [hlist] at h
    cases h
  | ok names => exact opens_of_list hlocate hlist

/-- The outputs of a location are its entries besides the lock file. -/
theorem mem_outputs {keys : List (List String)} (hlocate : d.locate l.folder.route = .ok key)
    (h : l.outputs d = .ok keys) (k : List String) :
    k ∈ keys ↔ ∃ n, n ≠ lockName ∧ k = key ++ [n] ∧ d.root.look k ≠ none := by
  rw [outputs, hlocate] at h
  cases hlist : d.list l.folder.route with
  | error f =>
    rw [hlist] at h
    cases h
  | ok names =>
  rw [hlist] at h
  cases h
  obtain ⟨_, hlocate', _, hnames⟩ := list_eq_ok hlist
  obtain rfl := Except.ok.inj (hlocate.symm.trans hlocate')
  simp only [List.mem_map, List.mem_filter, hnames, ne_eq, decide_eq_true_eq]
  constructor
  · rintro ⟨n, ⟨hsome, hn⟩, rfl⟩
    exact ⟨n, hn, rfl, hsome⟩
  · rintro ⟨n, hn, rfl, hsome⟩
    exact ⟨n, ⟨hsome, hn⟩, rfl⟩

end Location

/-- A build location, and where on a disk it is. -/
structure Site where
  location : Location
  key : List String
  ground : Ground key
  leads : ∃ left, Leads ground.tree linkLimit [] location.folder.route left key
  ends : location.folder.route.getLast? ≠ some ""
  text : location.folder.text ≠ ""
  name : '/' ∉ location.fingerprint.name.toList

namespace Site

variable (s : Site)

/-- The path of an entry. -/
def path (name : String) : List String := s.key ++ [name]

/-- The route to an entry. -/
def route (name : String) : List String := s.location.folder.route ++ [name]

/-- What is wrong with the name of an entry, whatever the disk. -/
def fault? (name : String) : Option Fault :=
  match flaw? (s.route name) with
  | some f => some f
  | none => if tooLong name then some .nameTooLong else none

/-- Names below the folder that are short enough to be followed. -/
def Passable (names : List String) : Prop :=
  flaw? (s.location.folder.route ++ names) = none ∧ ∀ n ∈ names, tooLong n = false

/-- The folder of the location is there. -/
structure Stands (d : Disk) : Prop where
  bears : s.ground.Bears d.root
  folder : d.root.look s.key = some .folder

variable {s} {d : Disk} {name : String} {id : Nat} {names : List String}

theorem route_entry (hn : Path.Single name) : (s.location.entry name).route = s.route name := by
  rw [Location.entry, Place.route_join _ hn, withoutSlash_of_last s.ends]
  rfl

theorem route_fileName : (s.location.folder.join Manifest.fileName).route = s.route Manifest.fileName :=
  route_entry single_fileName

theorem route_draftName : (s.location.folder.join Manifest.draftName).route = s.route Manifest.draftName :=
  route_entry single_draftName

theorem path_inj {name name' : String} : s.path name = s.path name' ↔ name = name' := by simp [path]

theorem passable_single : s.Passable [name] ↔ s.fault? name = none := by
  unfold Passable fault? route
  cases flaw? (s.location.folder.route ++ [name]) with
  | some f => simp
  | none => simp

namespace Stands

/-! ### Routes -/

theorem leads (h : s.Stands d) : ∃ left, Leads d.root linkLimit [] s.location.folder.route left s.key := by
  obtain ⟨left, hleads⟩ := s.leads
  exact ⟨left, hleads.mono (h.bears.stands h.folder)⟩

theorem follow (h : s.Stands d) : Disk.follow d.root linkLimit [] s.location.folder.route = .ok s.key := by
  obtain ⟨left, hleads⟩ := h.leads
  exact hleads.follow

theorem locate (h : s.Stands d) (hflaw : flaw? s.location.folder.route = none) :
    d.locate s.location.folder.route = .ok s.key := by
  rw [Disk.locate, hflaw]
  exact h.follow

theorem tip_entry (h : s.Stands d) (hn : Path.Single name) :
    d.tip (s.route name) =
      match s.fault? name with
      | some f => .error f
      | none => .ok (.entry s.key name false) :=
  tip_in hn h.follow h.folder

theorem grow {d' : Disk} (h : s.Stands d) (hgrows : Extends d.root d'.root) : s.Stands d' := by
  refine ⟨⟨fun k hk => .inr (hgrows _ _ ?_), fun k x hx => .inl (hgrows _ _ (h.bears.stands h.folder k x hx))⟩,
    hgrows _ _ h.folder⟩
  rcases h.bears.clear k hk with hnone | hfolder
  · have hkey := look_none_below hk hnone
    rw [h.folder] at hkey
    cases hkey
  · exact hfolder

/-! ### Entries -/

theorem openFile_entry (h : s.Stands d) (hn : Path.Single name)
    (hlink : ∀ target, d.root.look (s.path name) ≠ some (.link target)) (mode : Nat) :
    d.openFile (s.route name) mode =
      match s.fault? name, d.root.look (s.path name) with
      | some f, _ => .error f
      | none, some (.file id) => if d.allows .write id then .ok (d, id) else .error .permission
      | none, some _ => .error .isFolder
      | none, none =>
        if d.opens .write s.key then .ok (d.newFile (s.path name) { mode }, d.nodes.size)
        else .error .permission :=
  openFile_in hn h.follow h.folder hlink mode

/-! ### Files -/

variable {names : List String} {id : Nat}

theorem fileAt_file (h : s.Stands d) (hns : ∀ n ∈ names, Path.Single n)
    (hx : d.root.look (s.key ++ names) = some (.file id)) (hp : s.Passable names) :
    d.fileAt (s.location.folder.route ++ names) = .ok id := by
  obtain ⟨left, hleads⟩ := h.leads
  refine fileAt_eq_ok_iff.mpr ⟨hp.1, left, s.key ++ names, hleads.append ?_, hx⟩
  exact .ofNames (fun n hn => ⟨(hns n hn).1, hp.2 n hn⟩) hx nofun

theorem read_file (h : s.Stands d) (hns : ∀ n ∈ names, Path.Single n)
    (hx : d.root.look (s.key ++ names) = some (.file id)) (hp : s.Passable names)
    (hread : d.allows .read id = true) : d.read (s.location.folder.route ++ names) = .ok (d.content id) := by
  rw [Disk.read, h.fileAt_file hns hx hp]
  exact if_pos hread

theorem isFile_file (h : s.Stands d) (hns : ∀ n ∈ names, Path.Single n)
    (hx : d.root.look (s.key ++ names) = some (.file id)) (hp : s.Passable names)
    (hk : (d.node id).kind = .regular) :
    d.isFile (s.location.folder.route ++ names) = true :=
  isFile_iff.mpr ⟨id, h.fileAt_file hns hx hp, hk⟩

end Stands

/-! ### Routes that lead nowhere -/

/-- No link stands on the way down, nor at its end. -/
def Straight (t : FileTree) (here names : List String) : Prop :=
  ∀ init, init <+: names → ∀ target, t.look (here ++ init) ≠ some (.link target)

/-- Names that are followed where nothing on the way is a link are short, and lead straight down. -/
theorem Straight.leads {t : FileTree} {links left : Nat} {here there : List String} (hns : ∀ n ∈ names, IsName n)
    (hstraight : Straight t here names) (h : Leads t links here names left there) :
    (∀ n ∈ names, tooLong n = false) ∧ there = here ++ names := by
  induction names generalizing here with
  | nil =>
    cases h
    exact ⟨nofun, by simp⟩
  | cons n names ih =>
    have hassoc (init : List String) : here ++ n :: init = (here ++ [n]) ++ init := by simp
    obtain ⟨hshort, x, hx, ⟨_, hnext⟩ | ⟨target, _, rfl, _⟩⟩ := h.after_name (hns n List.mem_cons_self)
    · have hbelow : Straight t (here ++ [n]) names := fun init hinit target => by
        rw [← hassoc]
        exact hstraight (n :: init) (List.cons_prefix_cons.mpr ⟨rfl, hinit⟩) target
      obtain ⟨hmore, hthere⟩ := ih (fun m hm => hns m (List.mem_cons_of_mem _ hm)) hbelow hnext
      refine ⟨fun m hm => ?_, hthere.trans (hassoc names).symm⟩
      rcases List.mem_cons.mp hm with rfl | hm
      · exact hshort
      · exact hmore m hm
    · exact absurd hx (hstraight [n] (List.cons_prefix_cons.mpr ⟨rfl, List.nil_prefix⟩) _)

/-- What is found below the folder, with no link on the way, is what stands at the path. -/
theorem look_of_fileAt (h : s.Stands d) (hns : ∀ n ∈ names, Path.Single n) (hstraight : Straight d.root s.key names)
    (hfile : d.fileAt (s.location.folder.route ++ names) = .ok id) :
    d.root.look (s.key ++ names) = some (.file id) ∧ s.Passable names := by
  obtain ⟨hflaw, left, key, hleads, hkey⟩ := fileAt_eq_ok_iff.mp hfile
  obtain ⟨left', hfolder⟩ := h.leads
  obtain ⟨hshort, rfl⟩ := hstraight.leads (fun n hn => (hns n hn).1) (hfolder.rest hleads)
  exact ⟨hkey, hflaw, hshort⟩

theorem file_of_read (h : s.Stands d) (hns : ∀ n ∈ names, Path.Single n) (hstraight : Straight d.root s.key names)
    {content : ByteArray} (hread : d.read (s.location.folder.route ++ names) = .ok content) :
    ∃ id, d.root.look (s.key ++ names) = some (.file id) ∧ s.Passable names ∧ d.allows .read id = true ∧
      content = d.content id := by
  unfold Disk.read at hread
  cases hfile : d.fileAt (s.location.folder.route ++ names) with
  | error f => simp [hfile] at hread
  | ok id =>
    obtain ⟨hlook, hp⟩ := look_of_fileAt h hns hstraight hfile
    rw [hfile] at hread
    dsimp only at hread
    split at hread
    · next hallows => exact ⟨id, hlook, hp, hallows, (Except.ok.inj hread).symm⟩
    · cases hread

theorem straight_entry (h : s.Stands d) (hlink : ∀ target, d.root.look (s.path name) ≠ some (.link target)) :
    Straight d.root s.key [name] := by
  intro init hinit target
  rcases List.prefix_cons_iff.mp hinit with rfl | ⟨more, rfl, hmore⟩
  · rw [List.append_nil, h.folder]
    nofun
  · rw [List.prefix_nil.mp hmore]
    exact hlink target

/-- Below a folder that is missing nothing is found. -/
theorem fileAt_absent (hb : s.ground.Bears d.root) (hkey : d.root.look s.key = none)
    (hn : Path.Single name) (id : Nat) : d.fileAt (s.route name) ≠ .ok id := by
  intro hfile
  obtain ⟨_, left, key, hleads, _⟩ := fileAt_eq_ok_iff.mp hfile
  obtain ⟨u, hu, hgu, hnew⟩ := hb.join
  obtain ⟨left', hground⟩ := s.leads
  -- With the folder there, the route would pass it, and the entry it goes on to is missing still.
  obtain ⟨x, hx⟩ := ((hground.mono hgu).rest (hleads.mono hu)).found hn.1
  have hmissing : d.root.look (s.key ++ [name]) = none := look_none_below (List.prefix_append _ _) hkey
  have hlong := (hnew _ _ hx hmissing).1.length_le
  rw [List.length_append] at hlong
  exact absurd hlong (Nat.not_succ_le_self _)

theorem fileAt_missing (h : s.Stands d) (hn : Path.Single name)
    (hmissing : d.root.look (s.path name) = none) (id : Nat) : d.fileAt (s.route name) ≠ .ok id := by
  intro hfile
  obtain ⟨_, left, key, hleads, _⟩ := fileAt_eq_ok_iff.mp hfile
  obtain ⟨left', hfolder⟩ := h.leads
  obtain ⟨x, hx⟩ := (hfolder.rest hleads).found hn.1
  rw [show d.root.look (s.key ++ [name]) = none from hmissing] at hx
  cases hx

end Site

end KernelForge
