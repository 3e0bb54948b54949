import KernelForge.Proofs.Cache.Depot

/-!
A location is published once.

Processes that want the same kernel of a cache come to one location, take turns there in any order, and
crash where they like. As long as nothing is published the run is `Open`. Once something is, it is
`Settled`: whoever gets the lock finds what is published and takes it, so nobody compiles or publishes any
more and all leave with the same kernel (`published_once`).
-/
namespace KernelForge

open Disk FileTree

/-- What is worth noting of a run. -/
inductive Event where
  | compile
  | publish (m : Manifest)
deriving DecidableEq

def Event.isPublication : Event → Bool
  | .publish _ => true
  | .compile => false

def Deed.process : Deed → Nat
  | .enter i _ _ => i
  | .move i _ => i
  | .crash i => i

namespace Crowd

/-- What was done, from one crowd to the next, by one process: it ran the generator, or put a manifest in
its place. -/
def event? (c c' : Crowd) (i : Nat) : Option Event :=
  if c'.host.runs ≠ c.host.runs then some .compile
  else match (c.visitor i).map Visit.stage, (c'.visitor i).map Visit.stage with
    | some (.publish m), some (.release (.ok _)) => some (.publish m)
    | _, _ => none

/-- The events of a run in order. -/
def log (c : Crowd) : List Deed → List Event
  | [] => []
  | deed :: deeds => (c.event? (c.act deed) deed.process).toList ++ (c.act deed).log deeds

theorem event?_publish {c c' : Crowd} {i : Nat} {m : Manifest} (h : c.event? c' i = some (.publish m)) :
    ∃ v v' y, c.visitor i = some v ∧ c'.visitor i = some v' ∧ v.stage = .publish m ∧
      v'.stage = .release (.ok y) := by
  unfold event? at h
  split at h
  · cases h
  · split at h
    · next m' y hbefore hafter =>
      obtain ⟨v, hv, hstage⟩ := Option.map_eq_some_iff.mp hbefore
      obtain ⟨v', hv', hstage'⟩ := Option.map_eq_some_iff.mp hafter
      cases h
      exact ⟨v, v', y, hv, hv', hstage, hstage'⟩
    · cases h

end Crowd

/-- Everybody agrees on one published kernel: who looks finds it or nothing, and who was served got it. -/
structure Agrees (l : Location) (p : Published) (c : Crowd) : Prop where
  published : l.published? c.host.disk = none ∨ l.published? c.host.disk = some p
  results : ∀ i v y, c.visitor i = some v → v.result? = some (.ok y) → y = .published p

/-- Deeds of processes that ensure one kernel in release mode, with generators that are tidy in its location. -/
def Site.Ensures (s : Site) : Deed → Prop
  | .enter _ store wish => store.mode = .release ∧
      ∃ spec target fp, wish = .ensure spec target fp ∧ store.location fp = s.location
  | .move _ generator => generator.Tidy s.location.folder s.key
  | .crash _ => True

/-- A site by itself. -/
def Estate.single (s : Site) : Estate Unit :=
  ⟨fun _ => s, fun _ _ h => absurd rfl h, fun _ _ _ => rfl⟩

namespace Site

variable {s : Site} {c c' : Crowd} {deed : Deed} {p : Published} {d : Disk} {v : Visit} {host : Host} {i : Nat}
  {visits rest : List Visit} {deeds : List Deed}

/-- A visitor that takes what is published. -/
def Plain (v : Visit) : Prop := ∃ spec target, v.errand = .build spec target false

/-- Nothing is published, and nobody was served. -/
structure Open (s : Site) (c : Crowd) : Prop where
  unpublished : s.location.published? c.host.disk = none
  unserved : ∀ i v y, c.visitor i = some v → v.stage ≠ .release (.ok y) ∧ v.stage ≠ .done (.ok y)

/-- The stages in which visitors may be when a kernel is published. -/
def Calm (p : Published) : Stage → Prop
  | .arrive | .lock | .recheck => True
  | .release r | .done r => ∀ y, r = .ok y → y = .published p
  | _ => False

/-- A kernel is published, and nobody is about to change that. -/
structure Settled (s : Site) (p : Published) (c : Crowd) : Prop where
  published : s.location.published? c.host.disk = some p
  locked : ∃ file, c.host.disk.root.look (s.path Location.lockName) = some (.file file)
  calm : ∀ i v, c.visitor i = some v → Calm p v.stage

theorem Open.agrees (h : s.Open c) (p : Published) : Agrees s.location p c := by
  refine ⟨.inl h.unpublished, fun i v y hv hr => ?_⟩
  cases hstage : v.stage with
  | done r =>
    simp only [Visit.result?, hstage] at hr
    cases hr
    exact absurd hstage (h.unserved i v y hv).2
  | _ => simp [Visit.result?, hstage] at hr

theorem Settled.agrees (h : s.Settled p c) : Agrees s.location p c := by
  refine ⟨.inr h.published, fun i v y hv hr => ?_⟩
  have hcalm := h.calm i v hv
  cases hstage : v.stage with
  | done r =>
    simp only [Visit.result?, hstage] at hr
    cases hr
    rw [hstage] at hcalm
    exact hcalm y rfl
  | _ => simp [Visit.result?, hstage] at hr

/-! ### Settled runs -/

theorem stands_of_published (hb : s.ground.Bears d.root) (h : s.location.published? d = some p) : s.Stands d := by
  refine ⟨hb, ?_⟩
  rcases hb.at_key with hnone | hfolder
  · rw [published?_absent hb hnone] at h
    cases h
  · exact hfolder

/-- Whoever looks again under the lock takes what is published. -/
theorem step_recheck_found {generator : Generator} (hv : v.location = s.location) (hstage : v.stage = .recheck)
    (hp : s.location.published? host.disk = some p) :
    v.step generator host = (host, v.goto (.release (.ok (.published p)))) := by
  simp only [Visit.step, hstage, hv, hp]

/-- A turn at a settled site changes no file. -/
theorem Settled.turn {p : Published} {v v' : Visit} {host : Host} (h : s.Settled p c)
    (hb : s.ground.Bears c.host.disk.root) (hplain : Plain v) (hcalm : Calm p v.stage)
    (ht : s.Turn c.host v host v')
    (hrecheck : v.stage = .recheck → host = c.host ∧ v'.stage = .release (.ok (.published p))) :
    host.disk = c.host.disk ∧ host.runs = c.host.runs ∧ Calm p v'.stage := by
  obtain ⟨file, hlock⟩ := h.locked
  obtain ⟨spec, target, herrand⟩ := hplain
  have hs := stands_of_published hb h.published
  cases ht with
  | rests => exact ⟨rfl, rfl, hcalm⟩
  | comes disk stage early prepares next =>
    refine ⟨prepares.same hs hlock, rfl, ?_⟩
    obtain ⟨rfl, _⟩ | ⟨r, rfl, hr⟩ := next
    · trivial
    · intro y hy
      rw [herrand] at hr
      cases hr y hy
  | takes disk file stage waiting prepares named free next =>
    refine ⟨prepares.same hs hlock, rfl, ?_⟩
    obtain rfl | ⟨rfl, hforced⟩ := next
    · trivial
    · exact absurd herrand (hforced spec target)
  | acts host v' holds stay acts =>
    cases hstage : v.stage with
    | recheck =>
      obtain ⟨rfl, hstage'⟩ := hrecheck hstage
      refine ⟨rfl, rfl, ?_⟩
      rw [hstage']
      intro y hy
      cases hy
      rfl
    | release r => exact absurd hstage (stay r)
    | arrive | lock | done => simp [Visit.holdsLock, hstage] at holds
    | _ =>
      rw [hstage] at hcalm
      exact hcalm.elim
  | gives r ticket stage =>
    rw [stage] at hcalm
    exact ⟨rfl, rfl, hcalm⟩

theorem Settled.put (h : s.Settled p c) (hdisk : host.disk = c.host.disk)
    (hcalm : ∀ v, visits.head? = some v → Calm p v.stage) : s.Settled p (c.put host i visits) := by
  refine ⟨?_, ?_, fun j v hv => ?_⟩
  · rw [show (c.put host i visits).host.disk = c.host.disk from hdisk]
    exact h.published
  · rw [show (c.put host i visits).host.disk = c.host.disk from hdisk]
    exact h.locked
  · rw [Crowd.visitor_put] at hv
    split at hv
    · exact hcalm v hv
    · exact h.calm j v hv

theorem calm_arrive (h : v.stage = .arrive) : Calm p v.stage := by
  rw [h]
  trivial

/-- **A settled run stays settled, and nobody compiles or publishes.** -/
theorem Settled.act (h : s.Settled p c) (ho : Orderly (.single s) c)
    (hplain : ∀ i v, c.visitor i = some v → Plain v)
    (hc : Effect (.single s) c deed c') : s.Settled p c' ∧ c.event? c' deed.process = none := by
  have hquiet {c' : Crowd} (hruns : c'.host.runs = c.host.runs) : c.event? c' deed.process = none := by
    cases he : c.event? c' deed.process with
    | none => rfl
    | some event =>
      cases event with
      | compile =>
        simp only [Crowd.event?, hruns, ne_eq, not_true_eq_false, if_false] at he
        split at he <;> cases he
      | publish m =>
        obtain ⟨v, _, _, hv, _, hstage, _⟩ := Crowd.event?_publish he
        have hcalm := h.calm _ v hv
        rw [hstage] at hcalm
        exact hcalm.elim
  cases hc with
  | idle => exact ⟨h, hquiet rfl⟩
  | enters i store wish included =>
    exact ⟨h.put rfl fun v hv => calm_arrive (Store.stage_visits (List.mem_of_head? hv)), hquiet rfl⟩
  | proceeds i generator v rest queue =>
    refine ⟨h.put rfl fun w hw => calm_arrive ?_, hquiet rfl⟩
    exact (ho.later i w (by rw [queue]; exact List.mem_of_head? hw)).1
  | turns i generator v rest a queue location admits turn =>
    have hvisitor : c.visitor i = some v := by rw [Crowd.visitor, queue]; rfl
    obtain ⟨hdisk, hruns, hcalm⟩ := h.turn (ho.ready.bears ()) (hplain i v hvisitor) (h.calm i v hvisitor) turn
      fun hstage => by
        rw [step_recheck_found location hstage h.published]
        exact ⟨rfl, rfl⟩
    refine ⟨h.put hdisk fun w hw => ?_, hquiet hruns⟩
    cases hw
    exact hcalm
  | crashes i v rest queue =>
    exact ⟨h.put (Crowd.disk_drop c.host v) (by simp), hquiet (Crowd.runs_drop c.host v)⟩

/-! ### Open runs -/

/-- Making the folder publishes nothing; only the lock file could be a library that was missing. -/
theorem locked_of_published {d' : Disk} (hb : s.ground.Bears d.root) (hprepares : s.Prepares d d')
    (hbefore : s.location.published? d = none) (hafter : s.location.published? d' = some p) :
    ∃ file, d'.root.look (s.path Location.lockName) = some (.file file) := by
  have hs := stands_of_published (hb.confined_own hprepares.confined) hafter
  have hbelow := hprepares.below (n := Manifest.fileName) (by decide) []
  cases hprepares with
  | still disk =>
    rw [disk, hbefore] at hafter
    cases hafter
  | folder vacant raises =>
    have hu : s.Unpublished d' := hbelow.trans (look_none_below (List.prefix_append _ _) vacant)
    rw [published?_unpublished hs hu] at hafter
    cases hafter
  | lock stands free disk =>
    rw [disk, stands.look_newFile free, if_pos rfl]
    exact ⟨_, rfl⟩

theorem Open.put (h : s.Open c) (hp : s.location.published? host.disk = none)
    (hserved : ∀ v y, visits.head? = some v → v.stage ≠ .release (.ok y) ∧ v.stage ≠ .done (.ok y)) :
    s.Open (c.put host i visits) := by
  refine ⟨hp, fun j v y hv => ?_⟩
  rw [Crowd.visitor_put] at hv
  split at hv
  · exact hserved v y hv
  · exact h.unserved j v y hv

/-- Somebody publishes while nobody else has the lock. -/
theorem Open.settles (h : s.Open c) {file : Nat} (hp : s.location.published? host.disk = some p)
    (hlock : host.disk.root.look (s.path Location.lockName) = some (.file file))
    (hcalm : ∀ v, visits.head? = some v → Calm p v.stage)
    (hothers : ∀ j w, j ≠ i → c.visitor j = some w → w.holdsLock = false) : s.Settled p (c.put host i visits) := by
  refine ⟨hp, ⟨file, hlock⟩, fun j v hv => ?_⟩
  rw [Crowd.visitor_put] at hv
  split at hv
  · exact hcalm v hv
  · next hj =>
    rcases stage_without (hothers j v hj hv) with hstage | hstage | ⟨r, hstage⟩ <;> rw [hstage]
    · trivial
    · trivial
    · rintro y rfl
      exact absurd hstage (h.unserved j v y hv).2

/-- Whoever prepares a site leaves it open, or finds that the lock file was all that was missing. -/
theorem Open.prepare (h : s.Open c) (ho : Orderly (.single s) c) (hprepares : s.Prepares c.host.disk host.disk)
    (hearly : v.stage = .lock ∨ v.stage = .recheck ∨ ∃ e, v.stage = .done (.error e)) :
    s.Open (c.put host i (v :: rest)) ∨ ∃ p, s.Settled p (c.put host i (v :: rest)) := by
  cases hp : s.location.published? host.disk with
  | none =>
    refine .inl (h.put hp fun w y hw => ?_)
    cases hw
    obtain hstage | hstage | ⟨e, hstage⟩ := hearly <;> simp [hstage]
  | some p =>
    obtain ⟨file, hlock⟩ := locked_of_published (ho.ready.bears ()) hprepares h.unpublished hp
    refine .inr ⟨p, h.settles hp hlock (fun w hw => ?_) fun j w hj hw => ?_⟩
    · cases hw
      obtain hstage | hstage | ⟨e, hstage⟩ := hearly <;> simp [hstage, Calm]
    · cases hheld : w.holdsLock with
      | false => rfl
      | true =>
        -- Somebody has the lock, so the lock file was there, and nothing has changed.
        obtain ⟨_, _, hw⟩ := ho.present j w hw
        obtain ⟨_, _, _, _, hfile⟩ := hw.holds hheld
        rw [hprepares.same (hw.stands (.inr hheld)) hfile, h.unpublished] at hp
        cases hp

/-- What comes of a step at an open site: it stays open, or it is settled, by the manifest that was
published if one was. -/
def Decides (s : Site) (v : Visit) (c' : Crowd) : Prop :=
  s.Open c' ∨ ∃ p, s.Settled p c' ∧ ∀ m, v.stage = .publish m → p = ⟨s.location.folder, m⟩

theorem Open.acts (h : s.Open c) (ho : Orderly (.single s) c) {v' : Visit} (hvisitor : c.visitor i = some v)
    (hv : v.location = s.location) (hbuild : v.errand ≠ .remove) (ha : s.Admits c.host v)
    (hholds : v.holdsLock = true)
    (hacts : s.Acts c.host host v v') : s.Decides v (c.put host i (v' :: rest)) := by
  have hs := (ha.stands (.inr hholds)).confined hacts.works.confined
  have hput (hp : s.location.published? host.disk = none) (hserved : ∀ y, v'.stage ≠ .release (.ok y)) :
      s.Decides v (c.put host i (v' :: rest)) := by
    refine .inl (h.put hp fun w y hw => ?_)
    cases hw
    refine ⟨hserved y, fun hdone => ?_⟩
    have hheld := hacts.holds
    simp [Visit.holdsLock, hdone] at hheld
  cases hacts.outcome with
  | still disk yields =>
    refine hput (disk ▸ h.unpublished) fun y hy => ?_
    rcases yields y hy with hremove | ⟨p, _, hp, _⟩
    · exact hbuild hremove
    · rw [h.unpublished] at hp
      cases hp
  | gone unpublished yields =>
    exact hput (published?_unpublished hs unpublished) fun y hy => hbuild (yields y hy)
  | published m stage yields publishes =>
    obtain ⟨lock, _, _, _, hlock⟩ := ha.holds hholds
    refine .inr ⟨⟨s.location.folder, m⟩, h.settles (publishes.published? hs) (hacts.works.lock.trans hlock)
      (fun w hw => ?_) (fun j w hj hw => ?_), fun m' hstage => ?_⟩
    · cases hw
      rw [yields]
      intro y hy
      cases hy
      rfl
    · obtain ⟨_, hlocation, _⟩ := ho.present j w hw
      exact ho.others_without hvisitor hw hj (.inl (hv.trans hlocation.symm)) hholds
    · rw [stage] at hstage
      cases hstage
      rfl

theorem Open.turn (h : s.Open c) (ho : Orderly (.single s) c) {host : Host} {i : Nat} {v v' : Visit}
    {rest : List Visit} (hvisitor : c.visitor i = some v) (hv : v.location = s.location) (hplain : Plain v)
    (ha : s.Admits c.host v) (ht : s.Turn c.host v host v') : s.Decides v (c.put host i (v' :: rest)) := by
  obtain ⟨spec, target, herrand⟩ := hplain
  have hbuild : v.errand ≠ .remove := by rw [herrand]; nofun
  have hprepare {host : Host} {v' : Visit} (hprepares : s.Prepares c.host.disk host.disk)
      (hstage : ∀ m, v.stage ≠ .publish m)
      (hearly : v'.stage = .lock ∨ v'.stage = .recheck ∨ ∃ e, v'.stage = .done (.error e)) :
      s.Decides v (c.put host i (v' :: rest)) := by
    rcases h.prepare ho hprepares hearly with hopen | ⟨p, hsettled⟩
    · exact .inl hopen
    · exact .inr ⟨p, hsettled, fun m hm => absurd hm (hstage m)⟩
  cases ht with
  | rests r ended =>
    refine .inl (h.put h.unpublished fun w y hw => ?_)
    cases hw
    exact h.unserved i v y hvisitor
  | comes disk stage early prepares next =>
    refine hprepare prepares (by rcases early with hstage | hstage <;> simp [hstage]) ?_
    obtain ⟨rfl, _⟩ | ⟨r, rfl, hr⟩ := next
    · exact .inl rfl
    · cases r with
      | error e => exact .inr (.inr ⟨e, rfl⟩)
      | ok y => exact absurd (hr y rfl) hbuild
  | takes disk file stage waiting prepares named free next =>
    refine hprepare prepares (by simp [waiting]) ?_
    obtain rfl | ⟨_, hforced⟩ := next
    · exact .inr (.inl rfl)
    · exact absurd herrand (hforced spec target)
  | acts host v' holds stay acts => exact h.acts ho hvisitor hv hbuild ha holds acts
  | gives r ticket stage =>
    refine .inl (h.put h.unpublished fun w y hw => ?_)
    cases hw
    refine ⟨nofun, fun hdone => (h.unserved i v y hvisitor).1 ?_⟩
    cases hdone
    exact stage

/-- **An open run stays open, or it is settled.** -/
theorem Open.act (h : s.Open c) (ho : Orderly (.single s) c) (hplain : ∀ i v, c.visitor i = some v → Plain v)
    (hc : Effect (.single s) c deed c') :
    s.Open c' ∨ ∃ p, s.Settled p c' ∧
      ∀ m, c.event? c' deed.process = some (.publish m) → p = ⟨s.location.folder, m⟩ := by
  have harrive {v : Visit} (hstage : v.stage = .arrive) (y : Yield) :
      v.stage ≠ .release (.ok y) ∧ v.stage ≠ .done (.ok y) := by
    simp [hstage]
  cases hc with
  | idle => exact .inl h
  | enters i store wish included =>
    exact .inl (h.put h.unpublished fun v y hv => harrive (Store.stage_visits (List.mem_of_head? hv)) y)
  | proceeds i generator v rest queue =>
    refine .inl (h.put h.unpublished fun w y hw => harrive ?_ y)
    exact (ho.later i w (by rw [queue]; exact List.mem_of_head? hw)).1
  | turns i generator v rest a queue location admits turn =>
    have hvisitor : c.visitor i = some v := by rw [Crowd.visitor, queue]; rfl
    have hturn : s.Decides v (c.put _ i (_ :: rest)) :=
      h.turn ho hvisitor location (hplain i v hvisitor) admits turn
    rcases hturn with hopen | ⟨p, hsettled, hp⟩
    · exact .inl hopen
    · refine .inr ⟨p, hsettled, fun m hevent => ?_⟩
      obtain ⟨w, _, _, hw, _, hstage, _⟩ := Crowd.event?_publish hevent
      rw [show c.visitor (Deed.move i generator).process = some v from hvisitor] at hw
      cases hw
      exact hp m hstage
  | crashes i v rest queue =>
    refine .inl (h.put ?_ (by simp))
    rw [Crowd.disk_drop]
    exact h.unpublished

/-- Nothing was published in a step after which nobody is served. -/
theorem Open.no_publication (h : s.Open c') (i : Nat) (m : Manifest) : c.event? c' i ≠ some (.publish m) := by
  intro hevent
  obtain ⟨_, v', y, _, hv', _, hstage⟩ := Crowd.event?_publish hevent
  exact (h.unserved i v' y hv').1 hstage

/-! ### Runs -/

theorem Ensures.allows (h : s.Ensures deed) : (Estate.single s).Allows deed := by
  cases deed with
  | enter i store wish =>
    obtain ⟨_, spec, target, fp, rfl, hlocation⟩ := h
    intro disk v hv
    rw [List.mem_singleton.mp hv]
    exact ⟨(), hlocation⟩
  | move i generator => exact fun _ => h
  | crash i => trivial

/-- A crowd of processes that all ensure the kernel of a site. -/
structure Gathered (s : Site) (c : Crowd) : Prop where
  orderly : Orderly (.single s) c
  plain : ∀ i, ∀ v ∈ c.queue i, Plain v

namespace Gathered

theorem visitor (h : s.Gathered c) (i : Nat) (v : Visit) (hv : c.visitor i = some v) : Plain v :=
  h.plain i v (List.mem_of_head? hv)

theorem put (h : s.Gathered c) {host : Host} {i : Nat} {visits : List Visit}
    (hvisits : ∀ v ∈ visits, Plain v) : ∀ j, ∀ v ∈ (c.put host i visits).queue j, Plain v := by
  intro j v hv
  simp only [Crowd.put] at hv
  split at hv
  · exact hvisits v hv
  · exact h.plain j v hv

theorem after (h : s.Gathered c) (hdeed : s.Ensures deed) (hc : Effect (.single s) c deed c') :
    s.Gathered c' := by
  refine ⟨h.orderly.after hc, ?_⟩
  cases hc with
  | idle => exact h.plain
  | enters i store wish included =>
    obtain ⟨hmode, spec, target, fp, rfl, _⟩ := hdeed
    refine h.put fun v hv => ?_
    rw [List.mem_singleton.mp hv]
    exact ⟨spec, target, by rw [hmode]; rfl⟩
  | proceeds i generator v rest queue =>
    exact h.put fun w hw => h.plain i w (by rw [queue]; exact List.mem_cons_of_mem _ hw)
  | turns i generator v rest a queue location admits turn =>
    have hplain : ∀ w ∈ v :: rest, Plain w := fun w hw => h.plain i w (queue ▸ hw)
    refine h.put fun w hw => ?_
    rcases List.mem_cons.mp hw with rfl | hw
    · obtain ⟨spec, target, herrand⟩ := hplain v List.mem_cons_self
      exact ⟨spec, target, turn.visit.2.trans herrand⟩
    · exact hplain w (List.mem_cons_of_mem _ hw)
  | crashes i v rest queue => exact h.put (by simp)

end Gathered

theorem Settled.run (h : s.Settled p c) (hc : s.Gathered c) (hdeeds : ∀ deed ∈ deeds, s.Ensures deed) :
    c.Always (Agrees s.location p) deeds ∧ c.log deeds = [] := by
  induction deeds generalizing c with
  | nil => exact ⟨Crowd.always_nil h.agrees, rfl⟩
  | cons deed deeds ih =>
    have hdeed := hdeeds deed List.mem_cons_self
    have heffect := hc.orderly.effect hdeed.allows
    obtain ⟨hsettled, hevent⟩ := h.act hc.orderly hc.visitor heffect
    obtain ⟨halways, hlog⟩ := ih hsettled (hc.after hdeed heffect) fun d hd => hdeeds d (List.mem_cons_of_mem _ hd)
    exact ⟨Crowd.always_cons h.agrees halways, by simp [Crowd.log, hevent, hlog]⟩

theorem Open.run (h : s.Open c) (hc : s.Gathered c) (hdeeds : ∀ deed ∈ deeds, s.Ensures deed) :
    ∃ p, c.Always (Agrees s.location p) deeds ∧ ∀ before after m,
      c.log deeds = before ++ .publish m :: after → after = [] ∧ p = ⟨s.location.folder, m⟩ := by
  induction deeds generalizing c with
  | nil =>
    let nothing : Manifest := ⟨0, "", s.location.fingerprint, ⟨""⟩, "", .ofBytes .empty, "", "", .float32⟩
    exact ⟨⟨s.location.folder, nothing⟩, Crowd.always_nil (h.agrees _), by simp [Crowd.log]⟩
  | cons deed deeds ih =>
    have hdeed := hdeeds deed List.mem_cons_self
    have hrest : ∀ d ∈ deeds, s.Ensures d := fun d hd => hdeeds d (List.mem_cons_of_mem _ hd)
    have heffect := hc.orderly.effect hdeed.allows
    have hafter := hc.after hdeed heffect
    rcases h.act hc.orderly hc.visitor heffect with hopen | ⟨p, hsettled, hp⟩
    · obtain ⟨p, halways, hlog⟩ := ih hopen hafter hrest
      refine ⟨p, Crowd.always_cons (h.agrees p) halways, fun before after m he => ?_⟩
      rw [Crowd.log] at he
      cases hevent : c.event? (c.act deed) deed.process with
      | none =>
        rw [hevent] at he
        exact hlog before after m he
      | some event =>
        rw [hevent] at he
        cases before with
        | nil =>
          obtain ⟨rfl, _⟩ := List.cons.inj he
          exact absurd hevent (hopen.no_publication _ m)
        | cons first before => exact hlog before after m (List.cons.inj he).2
    · obtain ⟨halways, hlog⟩ := hsettled.run hafter hrest
      refine ⟨p, Crowd.always_cons (h.agrees p) halways, fun before after m he => ?_⟩
      rw [Crowd.log, hlog, List.append_nil] at he
      cases hevent : c.event? (c.act deed) deed.process with
      | none =>
        rw [hevent] at he
        exact absurd he.symm (by simp)
      | some event =>
        rw [hevent] at he
        cases before with
        | nil =>
          obtain ⟨rfl, rfl⟩ := List.cons.inj he
          exact ⟨rfl, hp m hevent⟩
        | cons first before => simp at he

/-- **Whatever the processes do, and wherever they crash, a location that was not published is
published once at most, and nobody compiles after that; all that look, and all that are served, see the
one kernel.** -/
theorem published_once (s : Site) (host : Host) (hready : (Estate.single s).Ready host)
    (hnone : s.location.published? host.disk = none) (deeds : List Deed)
    (hdeeds : ∀ deed ∈ deeds, s.Ensures deed) :
    ∃ p, (Crowd.start host).Always (Agrees s.location p) deeds ∧ ∀ before after m,
      (Crowd.start host).log deeds = before ++ .publish m :: after →
        after = [] ∧ p = ⟨s.location.folder, m⟩ :=
  Open.run ⟨hnone, by simp [Crowd.visitor, Crowd.start]⟩ ⟨.start hready, by simp [Crowd.start]⟩ hdeeds

/-! ### Examples -/

/-- The site of a kernel on an empty disk. -/
def sample : Site := Depot.vacant.site ⟨"kernel"⟩ ⟨by decide, by decide⟩

/-- Two processes come for a kernel. One crashes under the lock, and the other one builds. -/
def race : List Deed :=
  let moves (processes : List Nat) : List Deed := processes.map fun i => .move i scribe
  [.enter 0 Depot.vacantStore (Depot.ask ⟨"kernel"⟩), .enter 1 Depot.vacantStore (Depot.ask ⟨"kernel"⟩)] ++
    moves [0, 1, 0, 1, 0, 0] ++ [.crash 0] ++ moves (List.replicate 11 1)

theorem ready_sample : (Estate.single sample).Ready {} :=
  ⟨Depot.numbered_empty, fun _ => Depot.vacant.bears_site ⟨by decide, by decide⟩ Depot.bears_vacant (.inl rfl),
    fun _ _ => nofun⟩

theorem ensures_race : ∀ deed ∈ race, sample.Ensures deed := by
  intro deed hdeed
  have henter (i : Nat) : sample.Ensures (.enter i Depot.vacantStore (Depot.ask ⟨"kernel"⟩)) :=
    ⟨rfl, _, _, _, rfl, rfl⟩
  have hmove (i : Nat) : sample.Ensures (.move i scribe) := scribe_tidy _ _
  simp only [race, List.mem_append, List.mem_cons, List.mem_map, List.not_mem_nil, or_false] at hdeed
  rcases hdeed with (((rfl | rfl) | ⟨i, _, rfl⟩) | rfl) | ⟨i, _, rfl⟩
  · exact henter 0
  · exact henter 1
  · exact hmove i
  · trivial
  · exact hmove i

/-- In that run a kernel is compiled and published, and both happen once. -/
theorem published_once_race :
    (Estate.single sample).Ready {} ∧ sample.location.published? ({} : Host).disk = none ∧
      (∀ deed ∈ race, sample.Ensures deed) ∧ ((Crowd.start {}).log race).length = 2 ∧
      ∃ p, (Crowd.start {}).Always (Agrees sample.location p) race ∧ ∀ before after m,
        (Crowd.start {}).log race = before ++ .publish m :: after →
          after = [] ∧ p = ⟨sample.location.folder, m⟩ := by
  have hnone : sample.location.published? ({} : Host).disk = none := by decide +kernel
  exact ⟨ready_sample, hnone, ensures_race, by decide +kernel,
    published_once sample {} ready_sample hnone race ensures_race⟩

/-- A generator that leaves a link to the manifest where the draft is going to be written. -/
def redirected : Generator :=
  .below "kernel.so" fun key disk =>
    (disk.newFile (key ++ ["kernel.so"]) { content := "kernel".toUTF8 }).place (key ++ [Manifest.draftName])
      (.link Manifest.fileName)

/-- Two processes come for a kernel, one after the other. -/
def turnByTurn (generator : Generator) : List Deed :=
  .enter 0 Depot.vacantStore (Depot.ask ⟨"kernel"⟩) :: List.replicate 13 (.move 0 generator) ++
    .enter 1 Depot.vacantStore (Depot.ask ⟨"kernel"⟩) :: List.replicate 13 (.move 1 generator)

/-- It is not enough that a generator writes only below the folder, and not the manifest: here both
processes compile and publish. -/
theorem published_twice_through_link :
    ((Crowd.start {}).log (turnByTurn redirected)).map Event.isPublication = [false, true, false, true] := by
  decide +kernel

end Site

end KernelForge
