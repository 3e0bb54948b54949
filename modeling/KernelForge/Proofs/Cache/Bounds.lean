import KernelForge.Proofs.Cache.Vacancy
import KernelForge.Proofs.Host.Bounds

/-!
How far a build goes.

Nothing that is done at a location changes anything but what is below its folder (`Location.Spares`),
wherever the route of the location leads (`Location.StandsAt`). That is not for lack of ways out: the lock
file, the draft of a manifest and the library can be links, or names of files that have other names. So a
generator has to leave the location without such (`Generator.KeepsTo`), and the lock file must not be a link
to begin with. `Location.Bounded` says of every stage what keeps the next step inside; each step leads from
one to the next (`bounded_step`), and so does a whole build (`Visit.run_spares`).
-/
namespace KernelForge

open Disk FileTree

namespace Location

variable {l : Location} {d d' d'' : Disk} {key key' : List String} {careful : Prop} {name : String}

/-- Nothing has changed but what is below a path. With some care, the lock file there has not become a link. -/
structure Spares (careful : Prop) (key : List String) (d d' : Disk) : Prop where
  within : Within key d d'
  lock : careful → ∀ target, d'.root.look (key ++ [lockName]) = some (.link target) →
    d.root.look (key ++ [lockName]) = some (.link target)

namespace Spares

theorem refl (key : List String) (d : Disk) : Spares careful key d d := ⟨.refl key d, fun _ _ h => h⟩

theorem trans (h : Spares careful key d d') (h' : Spares careful key d' d'') : Spares careful key d d'' :=
  ⟨h.within.trans h'.within, fun hcare target hlink => h.lock hcare target (h'.lock hcare target hlink)⟩

theorem of_look (h : Within key d d') (hlook : d'.root.look (key ++ [lockName]) = d.root.look (key ++ [lockName]) ∨
    d'.root.look (key ++ [lockName]) = none) : Spares careful key d d' := by
  refine ⟨h, fun _ target hlink => ?_⟩
  rcases hlook with hsame | hnone
  · exact hsame ▸ hlink
  · rw [hnone] at hlink
    cases hlink

theorem of_trims (h : Trims key d d') : Spares careful key d d' :=
  ⟨.of_keeps h.keeps h.outside, fun _ _ hlink => h.narrows _ _ hlink nofun⟩

end Spares

/-- The folder at a path has a lock file, and nothing else. -/
structure Bare (d : Disk) (key : List String) : Prop where
  lock : ∃ file, d.root.look (key ++ [lockName]) = some (.file file)
  empty : ∀ n, n ≠ lockName → d.root.look (key ++ [n]) = none

/-- Where a location was bare it stands whatever is below now. -/
theorem Bare.stands (h : Bare d key) (hat : l.StandsAt d key) (hwithin : Within key d d') : l.StandsAt d' key := by
  obtain ⟨left, hleads⟩ := hat.leads
  have hfiles : ∀ n x, d.root.look (key ++ [n]) = some x → ∃ id, x = .file id := by
    intro n x hx
    by_cases hn : n = lockName
    · obtain ⟨file, hfile⟩ := h.lock
      rw [hn, hfile] at hx
      exact ⟨file, (Option.some.inj hx).symm⟩
    · rw [h.empty n hn] at hx
      cases hx
  refine .of_leads hat.flaw (hleads.within (fun k hk => hwithin.look hk) hfiles ?_) ?_
  · exact (Outside.self key).above List.nil_prefix
  · rw [hwithin.look (.self key), hat.folder]

/-- A location that is there because it was, bare, and because nothing has changed since but what is below. -/
def Rests (l : Location) (key : List String) (d : Disk) : Prop :=
  ∃ swept, l.StandsAt swept key ∧ Bare swept key ∧ Within key swept d

namespace Rests

theorem stands (h : l.Rests key d) : l.StandsAt d key := by
  obtain ⟨swept, hat, hbare, hwithin⟩ := h
  exact hbare.stands hat hwithin

theorem within (h : l.Rests key d) (hwithin : Within key d d') : l.Rests key d' := by
  obtain ⟨swept, hat, hbare, hsince⟩ := h
  exact ⟨swept, hat, hbare, hsince.trans hwithin⟩

end Rests

/-- Where an entry of a location can be named, the location stands. -/
theorem standsAt_of_tip {last : String} {slash : Bool} (hname : name ≠ "")
    (h : d.tip (l.folder.route ++ [name]) = .ok (.entry key last slash)) : l.StandsAt d key ∧ last = name := by
  have hflaw := flaw_of_tip h
  obtain ⟨init, hroute, hfollow, hfolder, _⟩ := Disk.tip_entry (by simpa using hname) h
  obtain ⟨rfl, hlast⟩ := List.append_inj' hroute rfl
  obtain ⟨left, hleads⟩ := follow_eq_ok_iff.mp hfollow
  exact ⟨.of_leads (flaw?_none_init hflaw) hleads hfolder, (List.cons.inj hlast).1.symm⟩

/-- An entry of a location is written in its folder. -/
theorem write_within {content : ByteArray} (hn : Path.Single name)
    (hprivate : ∀ key, l.StandsAt d key → Private key d name)
    (h : d.write (l.folder.route ++ [name]) content = .ok d') :
    ∃ key, l.StandsAt d key ∧ Within key d d' ∧
      ∀ n, n ≠ name → d'.root.look (key ++ [n]) = d.root.look (key ++ [n]) := by
  have hopened : ∃ disk file, d.openFile (l.folder.route ++ [name]) = .ok (disk, file) := by
    unfold Disk.write at h
    split at h
    · cases h
    · next hopen => exact ⟨_, _, hopen⟩
  obtain ⟨_, _, hopen⟩ := hopened
  obtain ⟨key, _, htip, _⟩ := openFile_leaves hn.1 hopen
  obtain ⟨hat, _⟩ := standsAt_of_tip hn.1.1 htip
  exact ⟨key, hat, Within.write hn hat.follow hat.folder (hprivate key hat) h⟩

/-! ### Generators -/

/-- Nothing has changed but what is below the folder of a location. Where there is none, nothing has changed. -/
structure Encloses (l : Location) (d d' : Disk) : Prop where
  size : d.nodes.size ≤ d'.nodes.size
  same : ∀ k, (∀ key, l.StandsAt d key → Outside key k) → Same d d' k

theorem Encloses.within (h : l.Encloses d d') (hat : l.StandsAt d key) : Within key d d' := by
  refine ⟨h.size, fun k hk => h.same k fun key' hat' => ?_⟩
  obtain rfl := hat.unique hat'
  exact hk

/-- What a generator leaves that keeps to a location. If it returns a library, that is the name of something
inside, and the draft of a manifest can be written. -/
structure Respects (l : Location) (d d' : Disk) (outcome : Except GeneratorFailure Place) : Prop where
  encloses : l.Encloses d d'
  inside : ∀ key library, l.StandsAt d key → outcome = .ok library →
    ∀ base name slash, d'.tip library.route = .ok (.entry base name slash) → key <+: base
  draft : ∀ key library, l.StandsAt d key → outcome = .ok library → Private key d' Manifest.draftName

/-- Wherever a location is, nothing but the lock file is in its folder. -/
def Ready (l : Location) (d : Disk) : Prop := ∀ key, l.StandsAt d key → Bare d key

end Location

/-- A generator that keeps to a location, when it finds nothing there but the lock file. -/
def Generator.KeepsTo (generator : Generator) (l : Location) : Prop :=
  ∀ (spec : KernelSpec) (target : Target) (host : Host), l.Ready host.disk →
    l.Respects host.disk (generator ⟨spec, target, l.fingerprint, l.folder⟩ host).1
      (generator ⟨spec, target, l.fingerprint, l.folder⟩ host).2

/-- A generator that leaves no link in the place of the lock file of a location. -/
def Generator.SparesLock (generator : Generator) (l : Location) : Prop :=
  ∀ (spec : KernelSpec) (target : Target) (host : Host) (key : List String), l.Ready host.disk →
    l.StandsAt host.disk key →
    ∀ link, (generator ⟨spec, target, l.fingerprint, l.folder⟩ host).1.root.look (key ++ [Location.lockName]) ≠
      some (.link link)

/-! ### Stages -/

namespace Location

variable {l : Location} {d d' : Disk} {key : List String} {careful : Prop}

/-- Paths that are still to be removed, below the folder of a location, so that it is bare. -/
structure Sweeping (l : Location) (key : List String) (d : Disk) (pending : List (List String)) : Prop where
  only : ∀ key', l.StandsAt d key' → key' = key
  lock : ∃ file, d.root.look (key ++ [lockName]) = some (.file file)
  below : ∀ k ∈ pending, ∃ n rest, n ≠ lockName ∧ k = key ++ n :: rest
  rest : l.StandsAt d key → ∀ n, n ≠ lockName → d.root.look (key ++ [n]) ≠ none → key ++ [n] ∈ pending

/-- What the disk is like at each stage of a build whose location stood at a path. -/
def Bounded (l : Location) (key : List String) (d : Disk) : Stage → Prop
  | .arrive => False
  | .lock => l.StandsAt d key ∧ ∀ target, d.root.look (key ++ [lockName]) ≠ some (.link target)
  | .recheck | .unpublish => l.StandsAt d key ∧ ∃ file, d.root.look (key ++ [lockName]) = some (.file file)
  | .survey =>
    (∀ key', l.StandsAt d key' → key' = key) ∧ ∃ file, d.root.look (key ++ [lockName]) = some (.file file)
  | .clear pending _ => l.Sweeping key d pending
  | .generate => l.Sweeping key d []
  | .digest library | .place library _ =>
    ∀ key', l.StandsAt d key' → l.Rests key d ∧ Private key d Manifest.draftName ∧
      ∀ base name slash, d.tip library.route = .ok (.entry base name slash) → key <+: base
  | .draft _ => ∀ key', l.StandsAt d key' → l.Rests key d ∧ Private key d Manifest.draftName
  | .publish _ => ∀ key', l.StandsAt d key' → l.Rests key d
  | .release _ | .done _ => True

/-- A step of a build with a generator has not gone too far, and neither will the next. -/
structure Goes (l : Location) (generator : Generator) (key : List String) (d : Disk)
    (after : Host × Visit) : Prop where
  spares : Spares (generator.SparesLock l) key d after.1.disk
  bounded : l.Bounded key after.1.disk after.2.stage

variable {generator : Generator} {host : Host} {v : Visit} {spec : KernelSpec} {target : Target} {force : Bool}
  {pending : List (List String)} {m : Manifest}

theorem bounded_clearing (h : l.Sweeping key d pending) (outputs : Nat) :
    l.Bounded key d (Visit.clearing (.build spec target force) pending outputs) := by
  cases pending <;> exact h

theorem goes_lock (hv : v.location = l) (herrand : v.errand = .build spec target force) (hstage : v.stage = .lock)
    (h : l.Bounded key host.disk .lock) : l.Goes generator key host.disk (v.step generator host) := by
  obtain ⟨hat, hlink⟩ := h
  rcases tryLock_cases hat hlink with
    ⟨f, hlock⟩ | ⟨host₁, file, hopens, _, ⟨hlock, _⟩ | ⟨hlock, _⟩⟩
  · simp only [Visit.step, hstage, hv, hlock]
    exact ⟨.refl key _, trivial⟩
  · have hat₁ := hat.grow hopens.grows
    have hspares : Spares (generator.SparesLock l) key host.disk host₁.disk := .of_trims hopens.clears.trims
    simp only [Visit.step, hstage, hv, hlock]
    split
    · exact ⟨hspares, trivial⟩
    · refine ⟨hspares, ?_⟩
      dsimp only
      rw [hstage]
      exact ⟨hat₁, fun target => by simp [hopens.lock]⟩
  · have hat₁ := hat.grow hopens.grows
    have hspares : Spares (generator.SparesLock l) key host.disk host₁.disk := .of_trims hopens.clears.trims
    cases force <;> simp only [Visit.step, hstage, herrand, hv, hlock] <;>
      exact ⟨hspares, hat₁, file, hopens.lock⟩

theorem goes_unpublish (hv : v.location = l) (hstage : v.stage = .unpublish)
    (h : l.Bounded key host.disk .unpublish) : l.Goes generator key host.disk (v.step generator host) := by
  obtain ⟨hat, file, hfile⟩ := h
  simp only [Visit.step, hstage, hv]
  rcases unpublish_cases hat with ⟨e, hunpublish⟩ | ⟨disk, hunpublish, _, hclears, _, _⟩
  · rw [hunpublish]
    exact ⟨.refl key _, trivial⟩
  · rw [hunpublish]
    have hfolder : disk.root.look key = some .folder := (hclears.outside key (Outside.self key)).trans hat.folder
    exact ⟨.of_trims hclears.trims, fun key' hat' => (hat'.before hclears.dwindles.narrows).unique hat,
      file, hclears.dwindles.locks key _ hfolder hfile⟩

theorem goes_survey (hv : v.location = l) (herrand : v.errand = .build spec target force)
    (hstage : v.stage = .survey)
    (h : l.Bounded key host.disk .survey) : l.Goes generator key host.disk (v.step generator host) := by
  obtain ⟨honly, hlock⟩ := h
  simp only [Visit.step, hstage, herrand, hv]
  cases houtputs : l.outputs host.disk with
  | error e => exact ⟨.refl key _, trivial⟩
  | ok keys =>
    refine ⟨.refl key _, bounded_clearing ⟨honly, hlock, fun k hk => ?_, fun hat n hn hsome => ?_⟩ _⟩
    · obtain ⟨k₀, hk₀, rest, rfl⟩ := Site.mem_removalPlan hk
      by_cases hmissing : ∀ key', ¬l.StandsAt host.disk key'
      · rw [outputs_missing hmissing houtputs] at hk₀
        cases hk₀
      · obtain ⟨key', hat⟩ : ∃ key', l.StandsAt host.disk key' := by simpa using hmissing
        obtain rfl := honly key' hat
        obtain ⟨n, hn, rfl, _⟩ := (mem_outputs hat.locate houtputs k₀).mp hk₀
        exact ⟨n, rest, hn, by simp⟩
    · exact Site.removalPlan_contains ((mem_outputs hat.locate houtputs _).mpr ⟨n, hn, rfl, hsome⟩)

/-- Removing one of the paths that are to be removed. -/
theorem Sweeping.erase {k : List String} (h : l.Sweeping key d (k :: pending)) :
    Spares careful key d (d.erase k) ∧ l.Sweeping key (d.erase k) pending := by
  obtain ⟨n, rest, hn, rfl⟩ := h.below k List.mem_cons_self
  have hlook := fun k' => @look_erase_disk d (key ++ n :: rest) (by simp) k'
  have hlock : (d.erase (key ++ n :: rest)).root.look (key ++ [lockName]) = d.root.look (key ++ [lockName]) := by
    rw [hlook, if_neg]
    rw [List.prefix_append_right_inj, List.cons_prefix_cons]
    exact fun hp => hn hp.1
  have hgone : ∀ k' x, (d.erase (key ++ n :: rest)).root.look k' = some x → d.root.look k' = some x := by
    intro k' x hx
    rw [hlook] at hx
    split at hx
    · cases hx
    · exact hx
  have hbefore {key' : List String} (hat : l.StandsAt (d.erase (key ++ n :: rest)) key') : l.StandsAt d key' :=
    hat.before fun k' x hx _ => hgone k' x hx
  refine ⟨.of_look (.erase d n rest) (.inl hlock), fun key' hat =>
    h.only key' (hbefore hat), by rw [hlock]; exact h.lock,
    fun k' hk' => h.below k' (List.mem_cons_of_mem _ hk'), fun hat m hm hsome => ?_⟩
  obtain ⟨x, hx⟩ := Option.ne_none_iff_exists'.mp hsome
  rcases List.mem_cons.mp (h.rest (hbefore hat) m hm (by rw [hgone _ _ hx]; nofun)) with heq | hmem
  · rw [heq, hlook, if_pos (List.prefix_refl _)] at hx
    cases hx
  · exact hmem

theorem goes_clear {outputs : Nat} (herrand : v.errand = .build spec target force)
    (hstage : v.stage = .clear pending outputs) (h : l.Bounded key host.disk (.clear pending outputs)) :
    l.Goes generator key host.disk (v.step generator host) := by
  cases pending with
  | nil =>
    simp only [Visit.step, hstage, herrand]
    exact ⟨.refl key _, h⟩
  | cons k pending =>
    simp only [Visit.step, hstage, herrand]
    cases hstrike : host.disk.strike k with
    | error fault => exact ⟨.refl key _, trivial⟩
    | ok disk =>
      obtain rfl := strike_eq_ok hstrike
      obtain ⟨hspares, hsweeping⟩ := Sweeping.erase h
      exact ⟨hspares, bounded_clearing hsweeping outputs⟩

theorem goes_generate (hg : generator.KeepsTo l) (hv : v.location = l)
    (herrand : v.errand = .build spec target force)
    (hstage : v.stage = .generate) (h : l.Bounded key host.disk .generate) :
    l.Goes generator key host.disk (v.step generator host) := by
  obtain ⟨honly, hlock, _, hrest⟩ := h
  have hready : l.Ready host.disk := by
    intro key' hat
    obtain rfl := honly key' hat
    exact ⟨hlock, fun n hn => not_not.mp fun hsome => absurd (hrest hat n hn hsome) (by simp)⟩
  have hrespects := hg spec target host hready
  have hcareful := fun hspares : generator.SparesLock l => hspares spec target host key hready
  simp only [Visit.step, hstage, herrand, hv]
  cases hr : generator ⟨spec, target, l.fingerprint, l.folder⟩ host with
  | mk disk outcome =>
    rw [hr] at hrespects hcareful
    dsimp only at hrespects hcareful
    by_cases hmissing : ∀ key', ¬l.StandsAt host.disk key'
    · -- There is no folder to work in, so nothing has changed.
      have hsame : ∀ k, Same host.disk disk k :=
        fun k => hrespects.encloses.same k fun key' hat => absurd hat (hmissing key')
      have hspares : Spares (generator.SparesLock l) key host.disk disk :=
        .of_look ⟨hrespects.encloses.size, fun k _ => hsame k⟩ (.inl (hsame _).look)
      have hmissing' : ∀ key', ¬l.StandsAt disk key' := fun key' hat =>
        hmissing key' (hat.before fun k x hx _ => (hsame k).look ▸ hx)
      cases outcome with
      | ok library => exact ⟨hspares, fun key' hat => absurd hat (hmissing' key')⟩
      | error failure => exact ⟨hspares, trivial⟩
    · obtain ⟨key', hat⟩ : ∃ key', l.StandsAt host.disk key' := by simpa using hmissing
      obtain rfl := honly key' hat
      have hwithin := hrespects.encloses.within hat
      have hspares : Spares (generator.SparesLock l) key' host.disk disk :=
        ⟨hwithin, fun hspares target hlink => absurd hlink (hcareful hspares hat target)⟩
      cases outcome with
      | ok library =>
        exact ⟨hspares, fun _ _ =>
          ⟨⟨host.disk, hat, hready key' hat, hwithin⟩, hrespects.draft key' library hat rfl,
          hrespects.inside key' library hat rfl⟩⟩
      | error failure => exact ⟨hspares, trivial⟩

theorem goes_place {library : Place} {checksum : Digest} (hv : v.location = l)
    (herrand : v.errand = .build spec target force) (hstage : v.stage = .place library checksum) (hends : l.Ends)
    (hname : '/' ∉ l.fingerprint.name.toList) (h : l.Bounded key host.disk (.place library checksum)) :
    l.Goes generator key host.disk (v.step generator host) := by
  have hsingle := Fingerprint.single_publishedName hname checksum
  have hlockName : l.fingerprint.publishedName checksum ≠ lockName := Fingerprint.publishedName_ne (by decide)
  have hdraftName : l.fingerprint.publishedName checksum ≠ Manifest.draftName :=
    Fingerprint.publishedName_ne (by decide)
  have hroute := hends.route_entry hsingle
  simp only [Visit.step, hstage, herrand, hv, Visit.placeLibrary]
  generalize l.fingerprint.publishedName checksum = published at *
  by_cases hsame : Path.same library.text (l.folder.join published).text = true
  · rw [if_pos hsame]
    exact ⟨.refl key _, fun key' hat => ⟨(h key' hat).1, (h key' hat).2.1⟩⟩
  · rw [if_neg hsame, show (l.folder.join published).route = l.folder.route ++ [published] from hroute]
    cases hrename : host.disk.rename library.route (l.folder.route ++ [published]) with
    | error fault => exact ⟨.refl key _, trivial⟩
    | ok disk =>
      obtain ⟨_, _, _, base, last, slash, _, htarget, _⟩ := rename_ok hrename
      obtain ⟨hat, rfl⟩ := standsAt_of_tip hsingle.1.1 htarget
      obtain ⟨hrests, hprivate, hinside⟩ := h base hat
      obtain rfl := hat.unique hrests.stands
      obtain ⟨hwithin, hlook⟩ := Within.rename hinside htarget hrename
      exact ⟨.of_look hwithin (hlook _ (Ne.symm hlockName)), fun _ _ =>
        ⟨hrests.within hwithin, hprivate.within hwithin (hlook _ (Ne.symm hdraftName))⟩⟩

theorem goes_draft (hv : v.location = l) (hstage : v.stage = .draft m) (hends : l.Ends)
    (h : l.Bounded key host.disk (.draft m)) : l.Goes generator key host.disk (v.step generator host) := by
  have hroute : (l.folder.join Manifest.draftName).route = l.folder.route ++ [Manifest.draftName] :=
    hends.route_entry single_draftName
  simp only [Visit.step, hstage, hv, Manifest.writeDraft, hroute]
  cases hwrite : host.disk.write (l.folder.route ++ [Manifest.draftName]) m.text.toUTF8 with
  | error fault => exact ⟨.refl key _, trivial⟩
  | ok disk =>
    have hprivate : ∀ key', l.StandsAt host.disk key' → Private key' host.disk Manifest.draftName := by
      intro key' hat
      obtain ⟨hrests, hprivate⟩ := h key' hat
      obtain rfl := hat.unique hrests.stands
      exact hprivate
    obtain ⟨key', hat, hwithin, hlook⟩ := write_within single_draftName hprivate hwrite
    have hrests := (h key' hat).1
    obtain rfl := hat.unique hrests.stands
    exact ⟨.of_look hwithin (.inl (hlook _ (by decide))), fun _ _ => hrests.within hwithin⟩

theorem goes_publish (hv : v.location = l) (hstage : v.stage = .publish m) (hends : l.Ends)
    (h : l.Bounded key host.disk (.publish m)) : l.Goes generator key host.disk (v.step generator host) := by
  have hdraft : (l.folder.join Manifest.draftName).route = l.folder.route ++ [Manifest.draftName] :=
    hends.route_entry single_draftName
  have hfile : (l.folder.join Manifest.fileName).route = l.folder.route ++ [Manifest.fileName] :=
    hends.route_entry single_fileName
  simp only [Visit.step, hstage, hv, Manifest.publishDraft, hdraft, hfile]
  cases hrename : host.disk.rename (l.folder.route ++ [Manifest.draftName])
    (l.folder.route ++ [Manifest.fileName]) with
  | error fault => exact ⟨.refl key _, trivial⟩
  | ok disk =>
    obtain ⟨_, _, _, base, last, slash, _, htarget, _⟩ := rename_ok hrename
    obtain ⟨hat, rfl⟩ := standsAt_of_tip single_fileName.1.1 htarget
    obtain rfl := hat.unique (h base hat).stands
    have hsource : ∀ base' last' slash', host.disk.tip (l.folder.route ++ [Manifest.draftName]) =
        .ok (.entry base' last' slash') → base <+: base' := by
      intro base' last' slash' htip
      obtain rfl := hat.unique (standsAt_of_tip single_draftName.1.1 htip).1
      exact List.prefix_refl _
    obtain ⟨hwithin, hlook⟩ := Within.rename hsource htarget hrename
    exact ⟨.of_look hwithin (hlook _ (by decide)), trivial⟩

/-- **A step of a build keeps to the location.** -/
theorem bounded_step (hg : generator.KeepsTo l) (hv : v.location = l)
    (herrand : v.errand = .build spec target force)
    (hends : l.Ends) (hname : '/' ∉ l.fingerprint.name.toList) (h : l.Bounded key host.disk v.stage) :
    l.Goes generator key host.disk (v.step generator host) := by
  cases hstage : v.stage with
  | arrive =>
    rw [hstage] at h
    exact absurd h id
  | lock => exact goes_lock hv herrand hstage (hstage ▸ h)
  | recheck =>
    rw [hstage] at h
    simp only [Visit.step, hstage]
    split
    · exact ⟨.refl key _, trivial⟩
    · exact ⟨.refl key _, h⟩
  | unpublish => exact goes_unpublish hv hstage (hstage ▸ h)
  | survey => exact goes_survey hv herrand hstage (hstage ▸ h)
  | clear pending outputs => exact goes_clear herrand hstage (hstage ▸ h)
  | generate => exact goes_generate hg hv herrand hstage (hstage ▸ h)
  | digest library =>
    rw [hstage] at h
    simp only [Visit.step, hstage]
    split
    · exact ⟨.refl key _, h⟩
    · exact ⟨.refl key _, trivial⟩
  | place library checksum => exact goes_place hv herrand hstage hends hname (hstage ▸ h)
  | draft m => exact goes_draft hv hstage hends (hstage ▸ h)
  | publish m => exact goes_publish hv hstage hends (hstage ▸ h)
  | release r =>
    simp only [Visit.step, hstage]
    split <;> exact ⟨.refl key _, trivial⟩
  | done r =>
    simp only [Visit.step, hstage]
    exact ⟨.refl key _, hstage ▸ trivial⟩

/-- A build past the making of its folder. -/
theorem bounded_steps (hg : generator.KeepsTo l) (hv : v.location = l)
    (herrand : v.errand = .build spec target force)
    (hends : l.Ends) (hname : '/' ∉ l.fingerprint.name.toList) (h : l.Bounded key host.disk v.stage) (n : Nat) :
    Spares (generator.SparesLock l) key host.disk (Visit.steps generator n host v).1.disk := by
  have hinvariant := @Visit.steps_induct generator host v (fun host' w => w.location = l ∧
    w.errand = .build spec target force ∧ l.Bounded key host'.disk w.stage ∧
      Spares (generator.SparesLock l) key host.disk host'.disk) ?_
    ⟨hv, herrand, h, .refl key _⟩ n
  · exact hinvariant.2.2.2
  · rintro host' w ⟨hw, hbuild, hbounded, hspares⟩
    obtain ⟨_, hsame, hbuild'⟩ := w.course_of_step generator host' hbuild
    have hgoes := bounded_step hg hw hbuild hends hname hbounded
    exact ⟨hsame.trans hw, hbuild', hgoes.bounded, hspares.trans hgoes.spares⟩

theorem tryLock_missing (hends : l.Ends) (hmissing : ∀ key, ¬l.StandsAt host.disk key) :
    ∃ f, l.tryLock host = (host, .failed f) := by
  unfold tryLock
  rw [lockFile, hends.route_entry single_lockName]
  cases hopen : host.disk.openFile (l.folder.route ++ [lockName]) with
  | error f => exact ⟨f, rfl⟩
  | ok opened =>
    obtain ⟨disk, file⟩ := opened
    obtain ⟨base, _, htip, _⟩ := openFile_leaves single_lockName.1 hopen
    exact absurd (standsAt_of_tip single_lockName.1.1 htip).1 (hmissing base)

end Location

/-- **A build makes folders, and after that it changes nothing but what is below the folder of its
location.** -/
theorem Visit.run_spares {generator : Generator} {host : Host} {v : Visit} {spec : KernelSpec} {target : Target}
    {force : Bool} {reached : Disk} (hreached : (host.disk.makeFolders v.location.folder.route).1 = reached)
    (hg : generator.KeepsTo v.location) (herrand : v.errand = .build spec target force) (hstage : v.stage = .arrive)
    (hends : v.location.Ends) (hname : '/' ∉ v.location.fingerprint.name.toList)
    (hlink : ∀ key, v.location.StandsAt reached key →
      ∀ target, reached.root.look (key ++ [Location.lockName]) ≠ some (.link target)) :
    (v.run generator host).1.disk = reached ∨
      ∃ key, v.location.StandsAt reached key ∧
        Location.Spares (generator.SparesLock v.location) key reached (v.run generator host).1.disk := by
  obtain ⟨n, hrun⟩ : ∃ n, v.run generator host = steps generator (n + 1) host v :=
    ⟨_, run_eq_steps generator host v⟩
  rw [hrun, steps_succ]
  have hcreate : (v.location.create host).1.disk = reached := by
    rw [← hreached, Location.create]
    split <;> next hmake => rw [hmake]
  cases hc : v.location.create host with
  | mk host₁ outcome =>
    rw [hc] at hcreate
    dsimp only at hcreate
    subst hcreate
    cases outcome with
    | error e =>
      have hstep : v.step generator host = (host₁, v.goto (.done (.error (.cache e)))) := by
        simp only [Visit.step, hstage, herrand, hc]
      rw [hstep, steps_done rfl]
      exact .inl rfl
    | ok _ =>
      have hstep : v.step generator host = (host₁, v.goto .lock) := by
        simp only [Visit.step, hstage, herrand, hc]
      rw [hstep]
      by_cases hmissing : ∀ key, ¬v.location.StandsAt host₁.disk key
      · obtain ⟨f, hlock⟩ := Location.tryLock_missing hends hmissing
        refine .inl ?_
        cases n with
        | zero => rfl
        | succ n =>
          have hfails : (v.goto .lock).step generator host₁ =
              (host₁, v.goto (.done (.error (.lock v.location.folder.text f)))) := by
            simp only [Visit.step, goto, herrand, hlock]
          rw [steps_succ, hfails, steps_done rfl]
      · obtain ⟨key, hat⟩ : ∃ key, v.location.StandsAt host₁.disk key := by simpa using hmissing
        exact .inr ⟨key, hat, Location.bounded_steps (v := v.goto .lock) hg rfl herrand hends hname
          ⟨hat, hlink key hat⟩ n⟩

end KernelForge
