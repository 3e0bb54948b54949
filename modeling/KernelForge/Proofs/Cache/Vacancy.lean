import KernelForge.Proofs.Cache.Removal

/-!
What a removal leaves.

A removal takes names from a disk. It adds none but that of a lock file (`Dwindles`), and none of those that
go is outside the folder of its location (`Clears`). Where that folder is, is found on the disk as it is
(`Location.StandsAt`), also through symbolic links. A removal that succeeds leaves nothing there but the
lock file (`Location.emptied_empties`), so nothing is published (`Settled.unpublished`) and there is nothing
to remove any more (`Settled.again`). What later removals do does not change that (`Settled.keep`), and so
it holds of all locations after any removals one after the other (`Store.removeEach_purges`).
-/
namespace KernelForge

open Disk FileTree

/-! ### Disks that lose names -/

/-- Names have gone from a disk. Nothing is new but lock files in folders that had none, a folder that is
left has its lock file, and files hold what they held. -/
structure Dwindles (d d' : Disk) : Prop where
  keeps : Keeps d d'
  look : ∀ k x, d'.root.look k = some x → d.root.look k = some x ∨
    ∃ init file, k = init ++ [Location.lockName] ∧ x = .file file ∧ d.root.look init = some .folder ∧
      d.root.look k = none
  locks : ∀ k x, d'.root.look k = some .folder → d.root.look (k ++ [Location.lockName]) = some x →
    d'.root.look (k ++ [Location.lockName]) = some x

namespace Dwindles

variable {d d' d'' : Disk}

theorem refl (d : Disk) : Dwindles d d := ⟨.refl d, fun _ _ h => .inl h, fun _ _ _ h => h⟩

theorem narrows (h : Dwindles d d') : Narrows d.root d'.root := by
  intro k x hx hsolid
  rcases h.look k x hx with hold | ⟨_, file, _, rfl, _⟩
  · exact hold
  · exact absurd rfl (hsolid file)

theorem trans (h : Dwindles d d') (h' : Dwindles d' d'') : Dwindles d d'' := by
  refine ⟨h.keeps.trans h'.keeps, fun k x hx => ?_,
    fun k x hk hx => h'.locks k x hk (h.locks k x (h'.narrows k _ hk nofun) hx)⟩
  rcases h'.look k x hx with hmid | ⟨init, file, rfl, rfl, hfolder, hnone⟩
  · exact h.look k x hmid
  · -- A folder that is still there would still have its lock file.
    refine .inr ⟨init, file, rfl, rfl, h.narrows _ _ hfolder nofun, Option.eq_none_iff_forall_ne_some.mpr
      fun y hy => ?_⟩
    rw [h.locks init y hfolder hy] at hnone
    cases hnone

end Dwindles

/-- What a removal in the folder at a path may do to a disk: names go, and none outside the folder. -/
structure Clears (key : List String) (d d' : Disk) : Prop where
  dwindles : Dwindles d d'
  outside : ∀ k, (∀ n rest, k ≠ key ++ n :: rest) → d'.root.look k = d.root.look k

namespace Clears

variable {key : List String} {d d' d'' : Disk}

theorem refl (key : List String) (d : Disk) : Clears key d d := ⟨.refl d, fun _ _ => rfl⟩

theorem trans (h : Clears key d d') (h' : Clears key d' d'') : Clears key d d'' :=
  ⟨h.dwindles.trans h'.dwindles, fun k hk => (h'.outside k hk).trans (h.outside k hk)⟩

theorem newFile (hfolder : d.root.look key = some .folder) (hnone : d.root.look (key ++ [Location.lockName]) = none)
    (n : Node) : Clears key d (d.newFile (key ++ [Location.lockName]) n) := by
  have hlook := look_newFile hfolder hnone n
  refine ⟨⟨keeps_newFile d _ n, fun k x hx => ?_, fun k x _ hx => ?_⟩, fun k hk => ?_⟩
  · rw [hlook] at hx
    split at hx
    · next hk => exact .inr ⟨key, _, hk, (Option.some.inj hx).symm, hfolder, hk ▸ hnone⟩
    · exact .inl hx
  · rw [hlook, if_neg, hx]
    intro hk
    rw [hk, hnone] at hx
    cases hx
  · rw [hlook, if_neg (hk _ [])]

/-- Entries besides the lock file that are gone with all below them. -/
theorem of_gone (gone : String → Prop) (hkeeps : Keeps d d') (hkept : ¬gone Location.lockName)
    (hlook : ∀ k, ((∃ n, gone n ∧ key ++ [n] <+: k) ∧ d'.root.look k = none) ∨
      ((∀ n, gone n → ¬key ++ [n] <+: k) ∧ d'.root.look k = d.root.look k)) : Clears key d d' := by
  refine ⟨⟨hkeeps, fun k x hx => ?_, fun k x hfolder hx => ?_⟩, fun k hk => ?_⟩
  · rcases hlook k with ⟨_, hnone⟩ | ⟨_, hsame⟩
    · rw [hnone] at hx
      cases hx
    · exact .inl (hsame ▸ hx)
  · rcases hlook (k ++ [Location.lockName]) with ⟨⟨n, hn, hprefix⟩, _⟩ | ⟨_, hsame⟩
    · -- The lock file is not an entry that is gone, so its folder is below one or is one, and is gone, too.
      rcases List.prefix_concat_iff.mp hprefix with heq | hprefix
      · obtain ⟨_, hname⟩ := List.append_inj' heq rfl
        exact absurd ((List.cons.inj hname).1 ▸ hn) hkept
      · rcases hlook k with ⟨_, hnone⟩ | ⟨hall, _⟩
        · rw [hnone] at hfolder
          cases hfolder
        · exact absurd hprefix (hall n hn)
    · rw [hsame, hx]
  · rcases hlook k with ⟨⟨n, _, rest, rfl⟩, _⟩ | ⟨_, hsame⟩
    · exact absurd (by simp) (hk n rest)
    · exact hsame

theorem erase {name : String} (h : name ≠ Location.lockName) : Clears key d (d.erase (key ++ [name])) := by
  refine .of_gone (· = name) (.of_nodes rfl rfl) (fun hlock => h hlock.symm) fun k => ?_
  rw [look_erase_disk (by simp)]
  by_cases hk : key ++ [name] <+: k
  · exact .inl ⟨⟨_, rfl, hk⟩, if_pos hk⟩
  · exact .inr ⟨by rintro _ rfl; exact hk, if_neg hk⟩

end Clears

/-- What a removal in the folder at a path may have done when it breaks off: some of the names there have
gone, and a file may be new. -/
structure Trims (key : List String) (d d' : Disk) : Prop where
  keeps : Keeps d d'
  narrows : Narrows d.root d'.root
  outside : ∀ k, (∀ n rest, k ≠ key ++ n :: rest) → d'.root.look k = d.root.look k

theorem Clears.trims {key : List String} {d d' : Disk} (h : Clears key d d') : Trims key d d' :=
  ⟨h.dwindles.keeps, h.dwindles.narrows, h.outside⟩

namespace Trims

variable {key : List String} {d d' d'' : Disk}

theorem trans (h : Trims key d d') (h' : Trims key d' d'') : Trims key d d'' :=
  ⟨h.keeps.trans h'.keeps, fun k x hx hsolid => h.narrows k x (h'.narrows k x hx hsolid) hsolid,
    fun k hk => (h'.outside k hk).trans (h.outside k hk)⟩

theorem erase (d : Disk) (n : String) (rest : List String) : Trims key d (d.erase (key ++ n :: rest)) := by
  have hlook := fun k => @look_erase_disk d (key ++ n :: rest) (by simp) k
  refine ⟨.of_nodes rfl rfl, fun k x hx _ => ?_, fun k hk => ?_⟩
  · rw [hlook] at hx
    split at hx
    · cases hx
    · exact hx
  · rw [hlook, if_neg]
    rintro ⟨more, rfl⟩
    exact hk n (rest ++ more) (by simp)

end Trims

/-! ### Where a location is -/

namespace Location

variable {l : Location} {d d' : Disk} {key key' : List String}

/-- The folder of a location is at a path. -/
structure StandsAt (l : Location) (d : Disk) (key : List String) : Prop where
  locate : d.locate l.folder.route = .ok key
  folder : d.root.look key = some .folder

namespace StandsAt

theorem flaw (h : l.StandsAt d key) : flaw? l.folder.route = none := (locate_eq_ok_iff.mp h.locate).1

theorem leads (h : l.StandsAt d key) : ∃ left, Leads d.root linkLimit [] l.folder.route left key :=
  (locate_eq_ok_iff.mp h.locate).2

theorem follow (h : l.StandsAt d key) : Disk.follow d.root linkLimit [] l.folder.route = .ok key :=
  follow_eq_ok_iff.mpr h.leads

theorem follow_withoutSlash (h : l.StandsAt d key) :
    Disk.follow d.root linkLimit [] (Path.withoutSlash l.folder.route) = .ok key := by
  obtain ⟨left, hleads⟩ := h.leads
  exact follow_eq_ok_iff.mpr ⟨left, hleads.withoutSlash⟩

theorem of_leads {left : Nat} (hflaw : flaw? l.folder.route = none)
    (hleads : Leads d.root linkLimit [] l.folder.route left key) (hfolder : d.root.look key = some .folder) :
    l.StandsAt d key :=
  ⟨locate_eq_ok_iff.mpr ⟨hflaw, left, hleads⟩, hfolder⟩

theorem unique (h : l.StandsAt d key) (h' : l.StandsAt d key') : key = key' :=
  Except.ok.inj (h.locate.symm.trans h'.locate)

theorem grow (h : l.StandsAt d key) (hgrows : Extends d.root d'.root) : l.StandsAt d' key := by
  obtain ⟨left, hleads⟩ := h.leads
  exact of_leads h.flaw (hleads.mono hgrows) (hgrows _ _ h.folder)

theorem before (h : l.StandsAt d' key) (hnarrows : Narrows d.root d'.root) : l.StandsAt d key := by
  obtain ⟨left, hleads⟩ := h.leads
  exact of_leads h.flaw (hleads.widen hnarrows h.folder) (hnarrows _ _ h.folder nofun)

theorem isFolder_iff : d.isFolder l.folder.route = true ↔ ∃ key, l.StandsAt d key := by
  rw [Disk.isFolder_iff]
  constructor
  · rintro ⟨hflaw, left, key, hleads, hfolder⟩
    exact ⟨key, of_leads hflaw hleads hfolder⟩
  · rintro ⟨key, h⟩
    obtain ⟨left, hleads⟩ := h.leads
    exact ⟨h.flaw, left, key, hleads, h.folder⟩

end StandsAt

/-- The route of a location ends in a name. -/
def Ends (l : Location) : Prop := l.folder.route.getLast? ≠ some ""

theorem Ends.route_entry (h : l.Ends) {name : String} (hn : Path.Single name) :
    (l.entry name).route = l.folder.route ++ [name] := by
  rw [Location.route_entry hn, withoutSlash_of_last h]

theorem ends_of {root : Place} {fp : Fingerprint} (h : Path.Single fp.name) : (Location.of root fp).Ends := by
  rw [Ends, Location.of, Place.route_join _ h, List.getLast?_concat]
  simpa using h.1.1

/-! ### The operations -/

/-- The lock file at a path was there or is new, and nothing else has changed. -/
structure Opens (key : List String) (file : Nat) (d d' : Disk) : Prop where
  clears : Clears key d d'
  upholds : Upholds d d'
  grows : Extends d.root d'.root
  lock : d'.root.look (key ++ [lockName]) = some (.file file)

variable {host : Host} {keys : List (List String)} {file : Nat} {host' : Host}

/-- Taking the lock leaves the other entries. -/
theorem Opens.look {name : String} (h : Opens key file d d') (hname : name ≠ lockName) :
    d'.root.look (key ++ [name]) = d.root.look (key ++ [name]) := by
  cases hlook : d'.root.look (key ++ [name]) with
  | none =>
    cases hold : d.root.look (key ++ [name]) with
    | none => rfl
    | some x =>
      rw [h.grows _ _ hold] at hlook
      cases hlook
  | some x =>
    rcases h.clears.dwindles.look _ _ hlook with hold | ⟨init, _, heq, _⟩
    · exact hold.symm
    · obtain ⟨_, hlast⟩ := List.append_inj' heq rfl
      exact absurd (List.cons.inj hlast).1 hname

/-- What comes of an attempt to take the lock where the lock file is no link. -/
theorem tryLock_cases (h : l.StandsAt host.disk key)
    (hlink : ∀ target, host.disk.root.look (key ++ [lockName]) ≠ some (.link target)) :
    (∃ f, l.tryLock host = (host, .failed f)) ∨
      ∃ host₁ file, Opens key file host.disk host₁.disk ∧
        entryFault? (Path.withoutSlash l.folder.route) lockName = none ∧
        ((l.tryLock host = (host₁, .held) ∧ host₁.locks = host.locks) ∨
          (l.tryLock host = (host₁, .taken host.issued) ∧ host₁.locks = ⟨host.issued, file⟩ :: host.locks ∧
            host.isLocked file = false)) := by
  rcases tryLock_in rfl h.follow_withoutSlash h.folder hlink with ⟨f, hfailed, _⟩ |
    ⟨disk, file, hfault, hfile, hattempt⟩
  · exact .inl ⟨f, hfailed⟩
  · have hopens : Opens key file host.disk disk := by
      rcases hfile with ⟨rfl, hfile⟩ | ⟨hnone, rfl, rfl⟩
      · exact ⟨.refl _ _, .refl _, fun _ _ hx => hx, hfile⟩
      · exact ⟨.newFile h.folder hnone _, .newFile h.folder hnone _, extends_newFile h.folder hnone _,
          by rw [look_newFile h.folder hnone, if_pos rfl]⟩
    rcases hattempt with ⟨_, hheld⟩ | ⟨hfree, htaken⟩
    · exact .inr ⟨_, file, hopens, hfault, .inl ⟨hheld, rfl⟩⟩
    · exact .inr ⟨_, file, hopens, hfault, .inr ⟨htaken, rfl, hfree⟩⟩

/-- Removing the manifest removes it, or nothing. -/
theorem unpublish_cases (h : l.StandsAt host.disk key) :
    (∃ e, l.unpublish host = (host, .error e)) ∨
      ∃ disk, l.unpublish host = ({ host with disk }, .ok ()) ∧
        entryFault? (Path.withoutSlash l.folder.route) Manifest.fileName = none ∧ Clears key host.disk disk ∧
        Upholds host.disk disk ∧ ∀ k, disk.root.look k = if key ++ [Manifest.fileName] <+: k then none
          else host.disk.root.look k := by
  rcases unpublish_in rfl h.follow_withoutSlash h.folder with ⟨e, he, _⟩ | ⟨hfault, ⟨hnone, hsame⟩ | hgone⟩
  · exact .inl ⟨e, he⟩
  · refine .inr ⟨_, hsame, hfault, .refl _ _, .refl _, fun k => ?_⟩
    split
    · next hk => exact look_none_below hk hnone
    · rfl
  · exact .inr ⟨_, hgone, hfault, .erase (by decide), .erase (by simp), look_erase_disk (by simp)⟩

/-- A location that is not there has no outputs, unless something is wrong with its route. -/
theorem outputs_missing (hmissing : ∀ key, ¬l.StandsAt d key) (h : l.outputs d = .ok keys) : keys = [] := by
  unfold outputs at h
  split at h
  · next key names hlocate hlist =>
    obtain ⟨key, hat, hfolder, _⟩ := list_eq_ok hlist
    exact absurd ⟨hat, hfolder⟩ (hmissing key)
  · cases h
    rfl
  · cases h
  · cases h

/-- Removing paths, as far as it goes, erases paths. -/
theorem removeAll_erases {P : Disk → Prop} (h : ∀ d, ∀ k ∈ keys, P d → P (d.erase k)) (host : Host)
    (hstart : P host.disk) : ∃ disk r, l.removeAll keys host = ({ host with disk }, r) ∧ P disk := by
  induction keys generalizing host with
  | nil => exact ⟨_, _, rfl, hstart⟩
  | cons e keys ih =>
    rw [removeAll]
    cases hstrike : host.disk.strike e with
    | error fault => exact ⟨_, _, rfl, hstart⟩
    | ok disk =>
      obtain rfl := strike_eq_ok hstrike
      exact ih (fun d k hk => h d k (List.mem_cons_of_mem _ hk)) { host with disk := host.disk.erase e }
        (h _ e List.mem_cons_self hstart)

theorem look_removeAll (hne : ∀ k ∈ keys, k ≠ []) (host : Host) (hok : (l.removeAll keys host).2 = .ok ())
    (k : List String) : ((∃ e ∈ keys, e <+: k) ∧ (l.removeAll keys host).1.disk.root.look k = none) ∨
      ((∀ e ∈ keys, ¬e <+: k) ∧ (l.removeAll keys host).1.disk.root.look k = host.disk.root.look k) := by
  induction keys generalizing host with
  | nil => exact .inr ⟨nofun, rfl⟩
  | cons e keys ih =>
    rw [removeAll] at hok ⊢
    cases hstrike : host.disk.strike e with
    | error fault =>
      rw [hstrike] at hok
      cases hok
    | ok disk =>
      rw [hstrike] at hok
      obtain rfl := strike_eq_ok hstrike
      have herase := @look_erase_disk host.disk e (hne e List.mem_cons_self) k
      rcases ih (fun k hk => hne k (List.mem_cons_of_mem _ hk)) _ hok with ⟨⟨e', he', hk⟩, hnone⟩ | ⟨hall, hsame⟩
      · exact .inl ⟨⟨e', List.mem_cons_of_mem _ he', hk⟩, hnone⟩
      · by_cases hk : e <+: k
        · exact .inl ⟨⟨e, List.mem_cons_self, hk⟩, hsame.trans (herase.trans (if_pos hk))⟩
        · exact .inr ⟨List.forall_mem_cons.mpr ⟨hk, hall⟩, hsame.trans (herase.trans (if_neg hk))⟩

/-- What is removed of a location is below its folder. -/
theorem removalPlan_below (h : l.StandsAt d key) (houtputs : l.outputs d = .ok keys) :
    ∀ k ∈ removalPlan keys d, ∃ n rest, k = key ++ n :: rest := by
  intro k hk
  obtain ⟨k₀, hk₀, rest, rfl⟩ := Site.mem_removalPlan hk
  obtain ⟨n, _, rfl, _⟩ := (mem_outputs h.locate houtputs k₀).mp hk₀
  exact ⟨n, rest, by simp⟩

/-- When all outputs are removed, everything below one of them is gone, and all else stands. -/
theorem look_outputs_removed {disk : Disk} (h : l.StandsAt host.disk key) (houtputs : l.outputs host.disk = .ok keys)
    (hremove : l.removeAll (removalPlan keys host.disk) host = ({ host with disk }, .ok ())) (k : List String) :
    ((∃ n, (n ≠ lockName ∧ host.disk.root.look (key ++ [n]) ≠ none) ∧ key ++ [n] <+: k) ∧
        disk.root.look k = none) ∨
      ((∀ n, (n ≠ lockName ∧ host.disk.root.look (key ++ [n]) ≠ none) → ¬key ++ [n] <+: k) ∧
        disk.root.look k = host.disk.root.look k) := by
  have hkeys := mem_outputs h.locate houtputs
  have hne : ∀ e ∈ removalPlan keys host.disk, e ≠ [] := by
    rintro _ he rfl
    obtain ⟨n, rest, hnil⟩ := removalPlan_below h houtputs _ he
    simp at hnil
  have hlook := look_removeAll hne host (congrArg Prod.snd hremove) k
  rw [hremove] at hlook
  rcases hlook with ⟨⟨e, he, hprefix⟩, hnone⟩ | ⟨hall, hsame⟩
  · obtain ⟨k₀, hk₀, hprefix₀⟩ := Site.mem_removalPlan he
    obtain ⟨n, hn, rfl, hsome⟩ := (hkeys k₀).mp hk₀
    exact .inl ⟨⟨n, ⟨hn, hsome⟩, hprefix₀.trans hprefix⟩, hnone⟩
  · refine .inr ⟨fun n hn => ?_, hsame⟩
    exact hall _ (Site.removalPlan_contains ((hkeys _).mpr ⟨n, hn.1, rfl, hn.2⟩))

/-- Removing outputs removes entries besides the lock file, and if nothing keeps it from that it removes
them all. -/
theorem clearOutputs_standing (h : l.StandsAt host.disk key) :
    ∃ disk r, l.clearOutputs host = ({ host with disk }, r) ∧ Trims key host.disk disk ∧
      ∀ n, r = .ok n → Clears key host.disk disk ∧ Upholds host.disk disk ∧ disk.opens .read key = true ∧
        (∀ n, n ≠ lockName → disk.root.look (key ++ [n]) = none) ∧
        (0 < n ↔ ∃ name, name ≠ lockName ∧ host.disk.root.look (key ++ [name]) ≠ none) := by
  unfold clearOutputs
  cases houtputs : l.outputs host.disk with
  | error e => exact ⟨host.disk, _, rfl, (Clears.refl key host.disk).trims, nofun⟩
  | ok keys =>
  have hkeys := mem_outputs h.locate houtputs
  have hbelow := removalPlan_below h houtputs
  obtain ⟨disk, outcome, hremove, hkeeps, htrims, hup⟩ := @removeAll_erases l (removalPlan keys host.disk)
    (fun d => Keeps host.disk d ∧ Trims key host.disk d ∧ Upholds host.disk d) (by
      rintro d k hk ⟨hkeeps, htrims, hup⟩
      obtain ⟨n, rest, rfl⟩ := hbelow k hk
      exact ⟨hkeeps.trans (.of_nodes rfl rfl), htrims.trans (.erase d n rest), hup.trans (.erase (by simp))⟩)
    host ⟨.refl _, (Clears.refl key host.disk).trims, .refl _⟩
  dsimp only
  rw [hremove]
  cases outcome with
  | error e => exact ⟨_, _, rfl, htrims, nofun⟩
  | ok done =>
  have hgone := look_outputs_removed h houtputs hremove
  have hfolder : disk.root.look key = some .folder := (htrims.outside key (by simp)).trans h.folder
  refine ⟨disk, _, rfl, htrims, fun n hn => ?_⟩
  cases hn
  refine ⟨.of_gone _ hkeeps (fun hlock => hlock.1 rfl) hgone, hup,
    hup _ _ hfolder fun _ => opens_of_outputs h.locate houtputs, fun n hn => ?_, ?_⟩
  · rcases hgone (key ++ [n]) with ⟨_, hnone⟩ | ⟨hall, hsame⟩
    · exact hnone
    · rw [hsame]
      exact not_not.mp fun hsome => hall n ⟨hn, hsome⟩ (List.prefix_refl _)
  · rw [List.length_pos_iff_exists_mem]
    constructor
    · rintro ⟨k, hk⟩
      obtain ⟨name, hname, rfl, hsome⟩ := (hkeys k).mp hk
      exact ⟨name, hname, hsome⟩
    · rintro ⟨name, hname, hsome⟩
      exact ⟨_, (hkeys _).mpr ⟨name, hname, rfl, hsome⟩⟩

/-- Where a location is not there, removing outputs changes nothing. -/
theorem clearOutputs_missing (hmissing : ∀ key, ¬l.StandsAt host.disk key) :
    ∃ r, l.clearOutputs host = (host, r) := by
  unfold clearOutputs
  cases houtputs : l.outputs host.disk with
  | error e => exact ⟨_, rfl⟩
  | ok keys =>
    rw [outputs_missing hmissing houtputs]
    exact ⟨_, rfl⟩

/-! ### Removals -/

/-- Nothing but the lock file is in the folder of a location at a path, and nobody has the lock. The folder
can be listed and the lock file opened. -/
structure Vacated (l : Location) (host : Host) (key : List String) : Prop where
  lockFault : entryFault? (Path.withoutSlash l.folder.route) lockName = none
  manifestFault : entryFault? (Path.withoutSlash l.folder.route) Manifest.fileName = none
  lock : ∃ file, host.disk.root.look (key ++ [lockName]) = some (.file file) ∧ host.isLocked file = false ∧
    ∀ right, host.disk.allows right file = true
  listed : host.disk.opens .read key = true
  empty : ∀ n, n ≠ lockName → host.disk.root.look (key ++ [n]) = none

/-- A location that has been cleared, unless it is not there. -/
def Settled (l : Location) (host : Host) : Prop := ∀ key, l.StandsAt host.disk key → l.Vacated host key

/-- What a removal that succeeds makes of a host. -/
structure Empties (key : List String) (host host' : Host) : Prop where
  clears : Clears key host.disk host'.disk
  upholds : Upholds host.disk host'.disk
  locks : ∀ lock ∈ host'.locks, lock ∈ host.locks

theorem locks_unlock {locks : List Lock} {ticket : Nat} (h : host.locks = ⟨ticket, file⟩ :: locks) :
    ∀ lock ∈ (host.unlock ticket).locks, lock ∈ locks := by
  intro lock hlock
  simp only [Host.unlock, h, List.mem_filter, List.mem_cons, ne_eq, decide_eq_true_eq] at hlock
  rcases hlock with ⟨rfl | hlock, hne⟩
  · exact absurd rfl hne
  · exact hlock

theorem isLocked_of_locks (h : ∀ lock ∈ host'.locks, lock ∈ host.locks) (hfree : host.isLocked file = false) :
    host'.isLocked file = false := by
  rw [Host.isLocked, List.any_eq_false] at hfree ⊢
  exact fun lock hlock => hfree lock (h lock hlock)

/-- **A removal keeps to the folder of its location.** If it succeeds it leaves nothing there but the lock
file, and it says whether there was anything besides that and the manifest, unless the manifest was on the
way to the location itself. -/
theorem emptied_empties (h : l.StandsAt host.disk key)
    (hlink : ∀ target, host.disk.root.look (key ++ [lockName]) ≠ some (.link target)) (impatient : Bool) :
    Trims key host.disk (l.emptied impatient host).1.disk ∧
      ∀ any, (l.emptied impatient host).2 = .ok any → Empties key host (l.emptied impatient host).1 ∧
        l.Settled (l.emptied impatient host).1 ∧
        (l.StandsAt (host.disk.erase (key ++ [Manifest.fileName])) key → (any = true ↔
          ∃ name, name ∉ [lockName, Manifest.fileName] ∧ host.disk.root.look (key ++ [name]) ≠ none)) := by
  unfold emptied
  rw [if_pos (StandsAt.isFolder_iff.mpr ⟨key, h⟩)]
  rcases tryLock_cases h hlink with
    ⟨f, hlock⟩ | ⟨host₁, file, hopens, hfault, ⟨hlock, hlocks⟩ | ⟨hlock, hlocks, hfree⟩⟩
  · rw [hlock]
    exact ⟨(Clears.refl key host.disk).trims, nofun⟩
  · rw [hlock]
    exact ⟨hopens.clears.trims, nofun⟩
  · obtain ⟨_, hlocks', hallows⟩ := tryLock_allows hlock
    cases hlocks.symm.trans hlocks'
    rw [hlock]
    dsimp only
    have h₁ : l.StandsAt host₁.disk key := h.grow hopens.grows
    rcases unpublish_cases h₁ with ⟨e, hunpublish⟩ | ⟨disk₂, hunpublish, hmanifest, hclears, hup, hlook₂⟩
    · rw [hunpublish]
      exact ⟨hopens.clears.trims, nofun⟩
    · rw [hunpublish]
      dsimp only
      have hclears₂ := hopens.clears.trans hclears
      by_cases hmissing : ∀ key', ¬l.StandsAt disk₂ key'
      · -- The manifest was on the way to the location itself.
        obtain ⟨r, hclear⟩ := @clearOutputs_missing l { host₁ with disk := disk₂ } hmissing
        have hway : ¬l.StandsAt (host.disk.erase (key ++ [Manifest.fileName])) key := by
          refine fun hat => hmissing key (hat.grow fun k x hx => ?_)
          rw [look_erase_disk (by simp)] at hx
          split at hx
          · cases hx
          · next hk => rw [hlook₂, if_neg hk, hopens.grows k x hx]
        rw [hclear]
        cases r <;> exact ⟨hclears₂.trims, fun _ _ => ⟨⟨hclears₂, hopens.upholds.trans hup, locks_unlock hlocks⟩,
          fun key' h' => absurd h' (hmissing key'), fun hat => absurd hat hway⟩⟩
      · obtain ⟨key', h₂⟩ : ∃ key', l.StandsAt disk₂ key' := by simpa using hmissing
        obtain rfl : key = key' := h₁.unique (h₂.before hclears.dwindles.narrows)
        obtain ⟨disk₃, r, hclear, htrims₃, hok⟩ := @clearOutputs_standing l key { host₁ with disk := disk₂ } h₂
        rw [hclear]
        cases r with
        | error e => exact ⟨hclears₂.trims.trans htrims₃, nofun⟩
        | ok n =>
        obtain ⟨hclears₃, hup₃, hlisted, hempty, hcount⟩ := hok n rfl
        refine ⟨hclears₂.trims.trans htrims₃, fun any hany => ⟨⟨hclears₂.trans hclears₃,
          (hopens.upholds.trans hup).trans hup₃, locks_unlock hlocks⟩, fun key' h₃ => ?_, fun _ => ?_⟩⟩
        · obtain rfl : key = key' := h₂.unique (h₃.before hclears₃.dwindles.narrows)
          have hlater := hclears.trans hclears₃
          exact ⟨hfault, hmanifest, ⟨_, hlater.dwindles.locks _ _ h₃.folder hopens.lock,
            isLocked_of_locks (locks_unlock hlocks) hfree, fun right =>
              hlater.dwindles.keeps.allows (hallows right)⟩,
            hlisted, hempty⟩
        · cases hany
          rw [decide_eq_true_iff, hcount]
          refine exists_congr fun name => ?_
          by_cases hname : name = lockName
          · simp [hname]
          · rw [hlook₂, ← hopens.look hname]
            simp [hname, List.prefix_append_right_inj, List.prefix_cons_iff, eq_comm]

/-- Removing what a cleared location holds removes nothing. -/
theorem Settled.again (h : l.Settled host) (impatient : Bool) : (l.emptied impatient host).2 = .ok false := by
  unfold emptied
  split
  · next hfolder =>
    obtain ⟨key, hat⟩ := StandsAt.isFolder_iff.mp hfolder
    obtain ⟨hlockFault, hmanifestFault, ⟨file, hfile, hfree, hallows⟩, hlisted, hempty⟩ := h key hat
    have hopen := openFile_in single_lockName hat.follow_withoutSlash hat.folder (by rw [hfile]; nofun) 0o644
    rw [hlockFault, hfile] at hopen
    dsimp only at hopen
    rw [if_pos (hallows .write)] at hopen
    have hlock : l.tryLock host = ((host.lock file).1, .taken host.issued) := by
      simp only [tryLock, lockFile, route_entry single_lockName, hopen, hallows .read, hfree, Bool.not_true,
        Bool.false_eq_true, if_false]
      rfl
    have hunpublish : l.unpublish (host.lock file).1 = ((host.lock file).1, .ok ()) := by
      have hunlink := unlink_in single_fileName hat.follow_withoutSlash hat.folder
      rw [hmanifestFault, hempty _ (by decide)] at hunlink
      simp only [unpublish, route_entry single_fileName, Host.lock, hunlink]
    have houtputs : l.outputs host.disk = .ok [] := by
      obtain ⟨keys, houtputs⟩ := outputs_in hat.locate hlisted
      have hkeys := mem_outputs hat.locate houtputs
      have hnone : keys = [] := by
        refine List.eq_nil_iff_forall_not_mem.mpr fun k hk => ?_
        obtain ⟨n, hn, rfl, hsome⟩ := (hkeys k).mp hk
        exact hsome (hempty n hn)
      rw [houtputs, hnone]
    have hclear : l.clearOutputs (host.lock file).1 = ((host.lock file).1, .ok 0) := by
      simp only [clearOutputs, Host.lock, houtputs]
      rfl
    simp only [hlock, hunpublish, hclear]
    rfl
  · rfl

theorem published?_eq_none (hends : l.Ends)
    (h : ∀ key, l.StandsAt d key → d.root.look (key ++ [Manifest.fileName]) = none) : l.published? d = none := by
  have hfile : ∀ id, d.fileAt (l.folder.route ++ [Manifest.fileName]) ≠ .ok id := by
    intro id hfile
    obtain ⟨hflaw, left, _, hleads, _⟩ := fileAt_eq_ok_iff.mp hfile
    obtain ⟨left', key, hinit, hlast⟩ := hleads.split
    obtain ⟨x, hx⟩ := hlast.found single_fileName.1
    rw [h key (.of_leads (flaw?_none_init hflaw) hinit hlast.folder)] at hx
    cases hx
  have hload : Manifest.load? l.folder d = none := by
    rw [Site.load?_eq, show (l.folder.join Manifest.fileName).route = _ from hends.route_entry single_fileName]
    cases hat : d.fileAt (l.folder.route ++ [Manifest.fileName]) with
    | ok id => exact absurd hat (hfile id)
    | error f => rfl
  rw [published?, Published.read?, hload]

/-- A location that has been cleared publishes nothing. -/
theorem Settled.unpublished (h : l.Settled host) (hends : l.Ends) : l.published? host.disk = none :=
  published?_eq_none hends fun key hat => (h key hat).empty _ (by decide)

/-- A location that has been cleared stays so when another one is. -/
theorem Settled.keep (h : l.Settled host) (hempties : Empties key host host') : l.Settled host' := by
  intro key' hat
  obtain ⟨hlockFault, hmanifestFault, ⟨file, hfile, hfree, hallows⟩, hlisted, hempty⟩ :=
    h key' (hat.before hempties.clears.dwindles.narrows)
  refine ⟨hlockFault, hmanifestFault, ⟨file, hempties.clears.dwindles.locks _ _ hat.folder hfile,
    isLocked_of_locks hempties.locks hfree, fun right => hempties.clears.dwindles.keeps.allows (hallows right)⟩,
    hempties.upholds _ _ hat.folder fun _ => hlisted, fun n hn => Option.eq_none_iff_forall_ne_some.mpr
      fun x hx => ?_⟩
  rcases hempties.clears.dwindles.look _ x hx with hold | ⟨_, _, hlock, _⟩
  · rw [hempty n hn] at hold
    cases hold
  · obtain ⟨_, hname⟩ := List.append_inj' hlock rfl
    exact hn (List.cons.inj hname).1

end Location

/-! ### One removal after the other -/

namespace Store

variable {store : Store} {fps : List Fingerprint} {host host' : Host}

/-- What removals of some fingerprints make of a host, one after the other. -/
inductive Purges (store : Store) (fps : List Fingerprint) : Host → Host → Prop
  | rest {host : Host} : Purges store fps host host
  | empty {host host' host'' : Host} {fp : Fingerprint} {key : List String} (hmem : fp ∈ fps)
      (hat : (store.location fp).StandsAt host.disk key) (h : Location.Empties key host host')
      (next : Purges store fps host' host'') : Purges store fps host host''

/-- No lock file of some fingerprints is a link. -/
def PlainLocks (store : Store) (fps : List Fingerprint) (disk : Disk) : Prop :=
  ∀ fp ∈ fps, ∀ key, (store.location fp).StandsAt disk key →
    ∀ target, disk.root.look (key ++ [Location.lockName]) ≠ some (.link target)

namespace Purges

theorem trans {host'' : Host} (h : Purges store fps host host') (h' : Purges store fps host' host'') :
    Purges store fps host host'' := by
  induction h with
  | rest => exact h'
  | empty hmem hat hempties _ ih => exact .empty hmem hat hempties (ih h')

theorem dwindles (h : Purges store fps host host') : Dwindles host.disk host'.disk := by
  induction h with
  | rest => exact .refl _
  | empty _ _ hempties _ ih => exact hempties.clears.dwindles.trans ih

theorem upholds (h : Purges store fps host host') : Upholds host.disk host'.disk := by
  induction h with
  | rest => exact .refl _
  | empty _ _ hempties _ ih => exact hempties.upholds.trans ih

theorem settled {l : Location} (h : Purges store fps host host') (hsettled : l.Settled host) : l.Settled host' := by
  induction h with
  | rest => exact hsettled
  | empty _ _ hempties _ ih => exact ih (hsettled.keep hempties)

theorem plainLocks (h : Purges store fps host host') (hplain : store.PlainLocks fps host.disk) :
    store.PlainLocks fps host'.disk := by
  intro fp hmem key hat target hlink
  exact hplain fp hmem key (hat.before h.dwindles.narrows) target (h.dwindles.narrows _ _ hlink nofun)

/-- Removals change nothing but what is below the folders of their locations. -/
theorem outside (h : Purges store fps host host') {k : List String}
    (hk : ∀ fp ∈ fps, ∀ key, (store.location fp).StandsAt host.disk key → ∀ n rest, k ≠ key ++ n :: rest) :
    host'.disk.root.look k = host.disk.root.look k := by
  induction h with
  | rest => rfl
  | @empty host host₁ host' fp key hmem hat hempties _ ih =>
    rw [ih, hempties.clears.outside k (hk fp hmem key hat)]
    intro fp' hmem' key' hat'
    exact hk fp' hmem' key' (hat'.before hempties.clears.dwindles.narrows)

end Purges

/-- Nothing has changed but what is inside the folders of some fingerprints. -/
structure ChangesInside (store : Store) (fps : List Fingerprint) (d d' : Disk) : Prop where
  keeps : Keeps d d'
  outside : ∀ k, (∀ fp ∈ fps, ∀ key, (store.location fp).StandsAt d key → ∀ n rest, k ≠ key ++ n :: rest) →
    d'.root.look k = d.root.look k

theorem ChangesInside.refl (d : Disk) : store.ChangesInside fps d d := ⟨.refl d, fun _ _ => rfl⟩

/-- What is changed inside after some removals. -/
theorem Purges.changesInside {d : Disk} (h : Purges store fps host host')
    (h' : store.ChangesInside fps host'.disk d) :
    store.ChangesInside fps host.disk d :=
  ⟨h.dwindles.keeps.trans h'.keeps, fun k hk => (h'.outside k fun fp hmem key hat =>
    hk fp hmem key (hat.before h.dwindles.narrows)).trans (h.outside hk)⟩

/-- A removal keeps to its location and clears it, if it succeeds. -/
theorem remove_purges {fp : Fingerprint} (hmem : fp ∈ fps) (hplain : store.PlainLocks fps host.disk) :
    store.ChangesInside fps host.disk (store.remove fp host).1.disk ∧
      ∀ any, (store.remove fp host).2 = .ok any →
        Purges store fps host (store.remove fp host).1 ∧ (store.location fp).Settled (store.remove fp host).1 := by
  rw [remove_eq]
  by_cases hfolder : host.disk.isFolder (store.location fp).folder.route = true
  · obtain ⟨key, hat⟩ := Location.StandsAt.isFolder_iff.mp hfolder
    obtain ⟨htrims, hsucceeds⟩ := Location.emptied_empties hat (hplain fp hmem key hat) store.impatient
    refine ⟨⟨htrims.keeps, fun k hk => htrims.outside k (hk fp hmem key hat)⟩, fun any hany => ?_⟩
    obtain ⟨hempties, hsettled, _⟩ := hsucceeds any hany
    exact ⟨.empty hmem hat hempties .rest, hsettled⟩
  · rw [Location.emptied, if_neg hfolder]
    exact ⟨.refl _, fun _ _ => ⟨.rest, fun key hat =>
      absurd (Location.StandsAt.isFolder_iff.mpr ⟨key, hat⟩) hfolder⟩⟩

/-- Removing locations one after the other clears them all, if it succeeds. -/
theorem removeEach_purges (todo : List Fingerprint) (hmem : ∀ fp ∈ todo, fp ∈ fps)
    (hplain : store.PlainLocks fps host.disk) :
    store.ChangesInside fps host.disk (store.removeEach todo host).1.disk ∧
      ∀ n, (store.removeEach todo host).2 = .ok n → Purges store fps host (store.removeEach todo host).1 ∧
        ∀ fp ∈ todo, (store.location fp).Settled (store.removeEach todo host).1 := by
  induction todo generalizing host with
  | nil => exact ⟨.refl _, fun _ _ => ⟨.rest, nofun⟩⟩
  | cons fp todo ih =>
    obtain ⟨hfp, htodo⟩ := List.forall_mem_cons.mp hmem
    obtain ⟨hinside, hsucceeds⟩ := remove_purges hfp hplain
    rcases hremove : store.remove fp host with ⟨host₁, e | any⟩
    · rw [hremove] at hinside
      rw [removeEach_cons, hremove]
      exact ⟨hinside, nofun⟩
    · rw [hremove] at hsucceeds
      obtain ⟨hpurges, hsettled⟩ := hsucceeds any rfl
      obtain ⟨hrest, hall⟩ := ih htodo (hpurges.plainLocks hplain)
      rw [removeEach_cons, hremove]
      dsimp only
      rcases heach : store.removeEach todo host₁ with ⟨host₂, e | n⟩
      · rw [heach] at hrest
        exact ⟨hpurges.changesInside hrest, nofun⟩
      · rw [heach] at hrest hall
        obtain ⟨hmore, hothers⟩ := hall n rfl
        exact ⟨hpurges.changesInside hrest, fun _ _ => ⟨hpurges.trans hmore,
          List.forall_mem_cons.mpr ⟨hmore.settled hsettled, hothers⟩⟩⟩

end Store

end KernelForge
