import KernelForge.Cache.Store
import KernelForge.Proofs.Cache.Turns

/-!
Many processes at one cache.

A `Crowd` is a host and, for every process, the visits that it has still to make. Whatever happens is a
`Deed`: a process comes with a wish, or makes one step of its visit, or crashes and loses its locks. A run
is any list of deeds, so processes are interleaved step by step and may stop anywhere.

An `Estate` is a family of sites that are apart. `Orderly` is what holds of a crowd that visits an estate,
above all that no two visitors have the lock of one location. Every deed keeps it (`Orderly.act`), so it
holds along every run.
-/
namespace KernelForge

open Disk FileTree

/-- What a process wants of a cache. -/
inductive Wish where
  | ensure (spec : KernelSpec) (target : Target) (fp : Fingerprint)
  | rebuild (spec : KernelSpec) (target : Target) (fp : Fingerprint)
  | remove (fp : Fingerprint)
  | clean

/-- The fingerprint that a wish names. -/
def Wish.fingerprint? : Wish → Option Fingerprint
  | .ensure _ _ fp => some fp
  | .rebuild _ _ fp => some fp
  | .remove fp => some fp
  | .clean => none

namespace Store

/-- A visit that is about to begin. -/
def visit (store : Store) (fp : Fingerprint) (errand : Errand) : Visit :=
  { location := store.location fp, errand, impatient := store.impatient }

theorem host_build {store : Store} {generator : Generator} {spec : KernelSpec} {target : Target} {fp : Fingerprint}
    {force : Bool} {host : Host} : (store.build generator spec target fp force host).1 =
      ((store.visit fp (.build spec target force)).run generator host).1 := by
  unfold Store.build
  rw [show Visit.mk (store.location fp) (.build spec target force) store.impatient none .arrive =
    store.visit fp (.build spec target force) from rfl]
  dsimp only
  generalize (store.visit fp (.build spec target force)).run generator host = result
  split <;> rfl

/-- The visits that fulfil a wish, one after the other. -/
def visits (store : Store) (disk : Disk) : Wish → List Visit
  | .ensure spec target fp => [store.visit fp (.build spec target store.mode.alwaysRebuild)]
  | .rebuild spec target fp => [store.visit fp (.build spec target true)]
  | .remove fp => [store.visit fp .remove]
  | .clean =>
    match store.fingerprints disk with
    | .ok fps => fps.map fun fp => store.visit fp .remove
    | .error _ => []

theorem stage_visits {store : Store} {disk : Disk} {wish : Wish} {v : Visit} (h : v ∈ store.visits disk wish) :
    v.stage = .arrive := by
  cases wish with
  | clean =>
    simp only [visits] at h
    split at h
    · obtain ⟨fp, _, rfl⟩ := List.mem_map.mp h
      rfl
    · cases h
  | _ =>
    rw [List.mem_singleton.mp h]
    rfl

end Store

/-- A host, and the visits that each process has still to make, the current one first. -/
structure Crowd where
  host : Host
  queue : Nat → List Visit

/-- What can happen: a process comes with a wish, makes a step, or crashes. -/
inductive Deed where
  | enter (process : Nat) (store : Store) (wish : Wish)
  | move (process : Nat) (generator : Generator)
  | crash (process : Nat)

/-- Whether a visit is over and went well. -/
def Visit.succeeded (v : Visit) : Bool :=
  match v.stage with
  | .done (.ok _) => true
  | _ => false

namespace Crowd

/-- Nobody has anything to do yet. -/
def start (host : Host) : Crowd := ⟨host, fun _ => []⟩

/-- The visit that a process is at. -/
def visitor (c : Crowd) (i : Nat) : Option Visit := (c.queue i).head?

/-- Another host, and other visits for one process. -/
def put (c : Crowd) (host : Host) (i : Nat) (visits : List Visit) : Crowd where
  host
  queue j := if j = i then visits else c.queue j

/-- The host without the lock that a visitor has. -/
def drop (host : Host) (v : Visit) : Host :=
  match v.holdsLock, v.ticket with
  | true, some ticket => host.unlock ticket
  | _, _ => host

/-- One deed. Only a process with nothing to do comes with a wish, and after a visit that failed the other
visits of the wish are not made. -/
def act (c : Crowd) : Deed → Crowd
  | .enter i store wish =>
    match c.queue i with
    | [] => c.put c.host i (store.visits c.host.disk wish)
    | _ => c
  | .move i generator =>
    match c.queue i with
    | [] => c
    | v :: rest =>
      if v.succeeded && !rest.isEmpty then c.put c.host i rest
      else c.put (v.step generator c.host).1 i ((v.step generator c.host).2 :: rest)
  | .crash i =>
    match c.queue i with
    | [] => c
    | v :: _ => c.put (drop c.host v) i []

/-- Deeds one after the other. -/
def run (c : Crowd) (deeds : List Deed) : Crowd := deeds.foldl act c

@[simp] theorem run_nil (c : Crowd) : c.run [] = c := rfl

@[simp] theorem run_cons (c : Crowd) (deed : Deed) (deeds : List Deed) :
    c.run (deed :: deeds) = (c.act deed).run deeds := rfl

theorem run_append (c : Crowd) (before after : List Deed) :
    c.run (before ++ after) = (c.run before).run after :=
  List.foldl_append

/-- In all states of a run. -/
def Always (c : Crowd) (P : Crowd → Prop) (deeds : List Deed) : Prop :=
  ∀ before, before <+: deeds → P (c.run before)

theorem always_nil {P : Crowd → Prop} {c : Crowd} (h : P c) : c.Always P [] := by
  intro before hbefore
  rw [List.prefix_nil.mp hbefore]
  exact h

theorem always_cons {P : Crowd → Prop} {c : Crowd} {deed : Deed} {deeds : List Deed} (h : P c)
    (hrest : (c.act deed).Always P deeds) : c.Always P (deed :: deeds) := by
  intro before hbefore
  rcases List.prefix_cons_iff.mp hbefore with rfl | ⟨more, rfl, hmore⟩
  · exact h
  · exact hrest more hmore

theorem visitor_put (c : Crowd) (host : Host) (i : Nat) (visits : List Visit) (j : Nat) :
    (c.put host i visits).visitor j = if j = i then visits.head? else c.visitor j := by
  simp only [visitor, put]
  split <;> rfl

theorem disk_drop (host : Host) (v : Visit) : (drop host v).disk = host.disk := by
  unfold drop
  split <;> rfl

theorem issued_drop (host : Host) (v : Visit) : (drop host v).issued = host.issued := by
  unfold drop
  split <;> rfl

theorem runs_drop (host : Host) (v : Visit) : (drop host v).runs = host.runs := by
  unfold drop
  split <;> rfl

theorem mem_locks_drop {host : Host} {v : Visit} {lock : Lock} (h : lock ∈ host.locks)
    (hother : v.holdsLock = true → v.ticket ≠ some lock.ticket) : lock ∈ (drop host v).locks := by
  unfold drop
  split
  · next ticket hholds hmine =>
    have hne : lock.ticket ≠ ticket := by
      rintro rfl
      exact hother hholds hmine
    exact List.mem_filter.mpr ⟨h, by simpa using hne⟩
  · exact h

end Crowd

/-! ### Estates -/

/-- Sites that are apart from each other. -/
structure Estate (ι : Type) where
  site : ι → Site
  apart : ∀ a b, a ≠ b → (site a).Apart (site b)
  distinct : ∀ a b, (site a).location = (site b).location → a = b

variable {ι : Type} {e : Estate ι} {c : Crowd}

namespace Estate

/-- A visit to one of the sites. -/
def Includes (e : Estate ι) (v : Visit) : Prop := ∃ a, v.location = (e.site a).location

/-- A visit to one of the sites, with all that holds of somebody there. -/
def Hosts (e : Estate ι) (host : Host) (v : Visit) : Prop :=
  ∃ a, v.location = (e.site a).location ∧ (e.site a).Admits host v

/-- Deeds that concern the sites only: wishes for them, and steps with a generator that is tidy there. -/
def Allows (e : Estate ι) : Deed → Prop
  | .enter _ store wish => ∀ disk, ∀ v ∈ store.visits disk wish, e.Includes v
  | .move _ generator => ∀ a, generator.Tidy (e.site a).location.folder (e.site a).key
  | .crash _ => True

/-- A host on which a crowd can begin: every site has its ground, and no lock file is a link. -/
structure Ready (e : Estate ι) (host : Host) : Prop where
  numbered : host.disk.Numbered
  bears : ∀ a, (e.site a).ground.Bears host.disk.root
  no_link : ∀ a target, host.disk.root.look ((e.site a).path Location.lockName) ≠ some (.link target)

theorem Ready.turn {host host' : Host} {v v' : Visit} {a : ι} (h : e.Ready host)
    (ht : (e.site a).Turn host v host' v') : e.Ready host' := by
  refine ⟨ht.confined.numbered h.numbered, fun b => ?_, fun b target => ?_⟩
  · by_cases hb : b = a
    · subst hb
      exact (h.bears b).confined_own ht.confined
    · exact (e.apart a b (Ne.symm hb)).bears (h.bears b) ht.confined
  · by_cases hb : b = a
    · subst hb
      exact ht.no_link (h.no_link b) target
    · intro hlink
      rw [show (e.site b).path Location.lockName = (e.site b).key ++ [Location.lockName] from rfl,
        (e.apart a b (Ne.symm hb)).look ht.confined] at hlink
      exact h.no_link b target hlink

end Estate

/-- A crowd at the sites of an estate. -/
structure Orderly (e : Estate ι) (c : Crowd) : Prop where
  ready : e.Ready c.host
  present : ∀ i v, c.visitor i = some v → e.Hosts c.host v
  later : ∀ i, ∀ v ∈ (c.queue i).tail, v.stage = .arrive ∧ e.Includes v
  /-- Nobody has the lock of a location, or the ticket, that somebody else has. -/
  exclusive : ∀ i j v w, c.visitor i = some v → c.visitor j = some w → v.holdsLock = true →
    w.holdsLock = true → v.location = w.location ∨ v.ticket = w.ticket → i = j

namespace Orderly

variable {i : Nat} {visits : List Visit} {v : Visit}

/-- What it takes to go on with another host and other visits of one process. -/
theorem put (h : Orderly e c) {host : Host} (hready : e.Ready host)
    (hown : ∀ v, visits.head? = some v → e.Hosts host v)
    (hlater : ∀ v ∈ visits.tail, v.stage = .arrive ∧ e.Includes v)
    (hothers : ∀ j w, j ≠ i → c.visitor j = some w → e.Hosts host w)
    (hone : ∀ v, visits.head? = some v → v.holdsLock = true → ∀ j w, j ≠ i → c.visitor j = some w →
      w.holdsLock = true → v.location ≠ w.location ∧ v.ticket ≠ w.ticket) :
    Orderly e (c.put host i visits) := by
  refine ⟨hready, fun j v hv => ?_, fun j v hv => ?_, fun j k v w hv hw hholds hheld hsame => ?_⟩
  · rw [Crowd.visitor_put] at hv
    split at hv
    · exact hown v hv
    · next hj => exact hothers j v hj hv
  · simp only [Crowd.put] at hv
    split at hv
    · exact hlater v hv
    · exact h.later j v hv
  · rw [Crowd.visitor_put] at hv hw
    split at hv <;> split at hw
    · next hj hk => rw [hj, hk]
    · next hk =>
      obtain ⟨hlocation, hticket⟩ := hone v hv hholds k w hk hw hheld
      exact absurd hsame (not_or.mpr ⟨hlocation, hticket⟩)
    · next hj _ =>
      obtain ⟨hlocation, hticket⟩ := hone w hw hheld j v hj hv hholds
      exact absurd (hsame.imp Eq.symm Eq.symm) (not_or.mpr ⟨hlocation, hticket⟩)
    · exact h.exclusive j k v w hv hw hholds hheld hsame

theorem begin (h : Orderly e c) (i : Nat) (hvisits : ∀ v ∈ visits, v.stage = .arrive ∧ e.Includes v) :
    Orderly e (c.put c.host i visits) := by
  refine h.put h.ready (fun v hv => ?_) (fun v hv => hvisits v (List.mem_of_mem_tail hv))
    (fun j w _ hw => h.present j w hw) (fun v hv hholds => ?_)
  · obtain ⟨hstage, a, ha⟩ := hvisits v (List.mem_of_head? hv)
    exact ⟨a, ha, Site.admits_without (by simp [Visit.holdsLock, hstage]) (by simp [hstage])⟩
  · obtain ⟨hstage, _⟩ := hvisits v (List.mem_of_head? hv)
    simp [Visit.holdsLock, hstage] at hholds

theorem others_without (h : Orderly e c) {j : Nat} {w : Visit} (hv : c.visitor i = some v)
    (hw : c.visitor j = some w)
    (hj : j ≠ i) (hsame : v.location = w.location ∨ v.ticket = w.ticket) (hholds : v.holdsLock = true) :
    w.holdsLock = false := by
  cases hheld : w.holdsLock with
  | false => rfl
  | true => exact absurd (h.exclusive i j v w hv hw hholds hheld hsame).symm hj

/-- A process makes a turn at a site. -/
theorem turn (h : Orderly e c) {i : Nat} {v v' : Visit} {rest : List Visit} {host : Host} {a : ι}
    (hqueue : c.queue i = v :: rest) (hv : v.location = (e.site a).location)
    (ha : (e.site a).Admits c.host v) (ht : (e.site a).Turn c.host v host v') :
    Orderly e (c.put host i (v' :: rest)) := by
  have hvisitor : c.visitor i = some v := by rw [Crowd.visitor, hqueue]; rfl
  have hlocation : v'.location = (e.site a).location := ht.visit.1.trans hv
  refine h.put (h.ready.turn ht) (fun w hw => ?_) (fun w hw => ?_) (fun j w hj hw => ?_)
    (fun w hw hholds j x hj hx hheld => ?_)
  · cases hw
    exact ⟨a, hlocation, ht.admits ha⟩
  · exact h.later i w (by rw [hqueue]; exact hw)
  · obtain ⟨b, hwb, hb⟩ := h.present j w hw
    by_cases hab : a = b
    · subst hab
      exact ⟨a, hwb, ht.admits_beside hb (h.others_without hvisitor hw hj (.inl (hv.trans hwb.symm)))⟩
    · refine ⟨b, hwb, (e.apart a b hab).admits ht hb (h.ready.bears b) h.ready.numbered
        fun hholds hheld hticket => ?_⟩
      rw [h.others_without hvisitor hw hj (.inr hticket) hholds] at hheld
      cases hheld
  · cases hw
    obtain ⟨b, hxb, hb⟩ := h.present j x hx
    rcases ht.ticket hholds with ⟨hheldBefore, hticket⟩ | ⟨hfree, hticket⟩
    · refine ⟨fun hsame => ?_, fun hsame => ?_⟩
      · rw [h.others_without hvisitor hx hj (.inl (ht.visit.1.symm.trans hsame)) hheldBefore] at hheld
        cases hheld
      · rw [h.others_without hvisitor hx hj (.inr (hticket.symm.trans hsame)) hheldBefore] at hheld
        cases hheld
    · refine ⟨fun hsame => ?_, fun hsame => ?_⟩
      · obtain rfl : a = b := e.distinct a b (hlocation.symm.trans (hsame.trans hxb))
        rw [ht.alone hb hheld hfree] at hholds
        cases hholds
      · obtain ⟨lock, _, hx, hlt, _⟩ := hb.holds hheld
        rw [hticket, hx] at hsame
        exact absurd (Option.some.inj hsame) (Nat.ne_of_gt hlt)

theorem crash (h : Orderly e c) {rest : List Visit} (hqueue : c.queue i = v :: rest) :
    Orderly e (c.put (Crowd.drop c.host v) i []) := by
  have hvisitor : c.visitor i = some v := by rw [Crowd.visitor, hqueue]; rfl
  have hdisk := Crowd.disk_drop c.host v
  have hready : e.Ready (Crowd.drop c.host v) :=
    ⟨hdisk ▸ h.ready.numbered, hdisk ▸ h.ready.bears, hdisk ▸ h.ready.no_link⟩
  refine h.put hready (by simp) (by simp) (fun j w hj hw => ?_) (by simp)
  obtain ⟨b, hwb, hb⟩ := h.present j w hw
  refine ⟨b, hwb, hb.keep h.ready.numbered (.of_nodes (by rw [hdisk]) (by rw [hdisk])) (hready.bears b)
    (fun _ => by rw [hdisk]) (fun lock hlock hheld hticket => Crowd.mem_locks_drop hlock fun hholds hmine => ?_)
    (Nat.le_of_eq (Crowd.issued_drop c.host v).symm)⟩
  rw [h.others_without hvisitor hw hj (.inr (hmine.trans hticket.symm)) hholds] at hheld
  cases hheld

end Orderly

/-! ### Deeds -/

/-- All that a deed can be for a crowd at an estate. -/
inductive Effect (e : Estate ι) (c : Crowd) : Deed → Crowd → Prop
  | idle (deed : Deed) : Effect e c deed c
  | enters (i : Nat) (store : Store) (wish : Wish) (included : ∀ v ∈ store.visits c.host.disk wish, e.Includes v) :
      Effect e c (.enter i store wish) (c.put c.host i (store.visits c.host.disk wish))
  | proceeds (i : Nat) (generator : Generator) (v : Visit) (rest : List Visit) (queue : c.queue i = v :: rest) :
      Effect e c (.move i generator) (c.put c.host i rest)
  | turns (i : Nat) (generator : Generator) (v : Visit) (rest : List Visit) (a : ι) (queue : c.queue i = v :: rest)
      (location : v.location = (e.site a).location) (admits : (e.site a).Admits c.host v)
      (turn : (e.site a).Turn c.host v (v.step generator c.host).1 (v.step generator c.host).2) :
      Effect e c (.move i generator)
        (c.put (v.step generator c.host).1 i ((v.step generator c.host).2 :: rest))
  | crashes (i : Nat) (v : Visit) (rest : List Visit) (queue : c.queue i = v :: rest) :
      Effect e c (.crash i) (c.put (Crowd.drop c.host v) i [])

namespace Orderly

variable {deed : Deed}

theorem effect (h : Orderly e c) (hdeed : e.Allows deed) : Effect e c deed (c.act deed) := by
  cases deed with
  | enter i store wish =>
    simp only [Crowd.act]
    split
    · exact .enters i store wish (hdeed c.host.disk)
    · exact .idle _
  | move i generator =>
    simp only [Crowd.act]
    split
    · exact .idle _
    · next v rest hqueue =>
      split
      · exact .proceeds i generator v rest hqueue
      · obtain ⟨a, hv, ha⟩ := h.present i v (by rw [Crowd.visitor, hqueue]; rfl)
        exact .turns i generator v rest a hqueue hv ha
          (Site.turn_of_step hv (h.ready.bears a) h.ready.numbered (h.ready.no_link a) (hdeed a) ha)
  | crash i =>
    simp only [Crowd.act]
    split
    · exact .idle _
    · next v rest hqueue => exact .crashes i v rest hqueue

theorem after (h : Orderly e c) {c' : Crowd} (hc : Effect e c deed c') : Orderly e c' := by
  cases hc with
  | idle => exact h
  | enters i store wish included =>
    exact h.begin i fun v hv => ⟨Store.stage_visits hv, included v hv⟩
  | proceeds i generator v rest queue =>
    exact h.begin i fun w hw => h.later i w (by rw [queue]; exact hw)
  | turns i generator v rest a queue location admits turn => exact h.turn queue location admits turn
  | crashes i v rest queue => exact h.crash queue

/-- **No deed brings a crowd into disorder.** -/
theorem act (h : Orderly e c) (hdeed : e.Allows deed) : Orderly e (c.act deed) :=
  h.after (h.effect hdeed)

theorem run (h : Orderly e c) {deeds : List Deed} (hdeeds : ∀ deed ∈ deeds, e.Allows deed) :
    Orderly e (c.run deeds) := by
  induction deeds generalizing c with
  | nil => exact h
  | cons deed deeds ih =>
    exact ih (h.act (hdeeds deed List.mem_cons_self)) fun d hd => hdeeds d (List.mem_cons_of_mem _ hd)

theorem start {host : Host} (h : e.Ready host) : Orderly e (.start host) :=
  ⟨h, by simp [Crowd.visitor, Crowd.start], by simp [Crowd.start], by simp [Crowd.visitor, Crowd.start]⟩

end Orderly

end KernelForge
