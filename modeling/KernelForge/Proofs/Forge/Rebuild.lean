import KernelForge.Forge.Job
import KernelForge.Proofs.Cache.Delivery
import KernelForge.Proofs.Loading.Alone

/-!
What a rebuild gives.

Callers of one forge in release mode load and rebuild kernels, interleaved step by step. A rebuild forgets
the kernel that is registered, builds, and installs what it published; but a handle that somebody else has
registered meanwhile stays, whatever it was loaded from. So a caller that rebuilds is given the kernel of
its own build, or one that another call registered after the rebuild had forgotten the old one
(`rebuild_result`). The second happens: a call that loads the kernel between the two steps finds the old one
still published, and the rebuild returns it (`rebuild_returns_old`).
-/
namespace KernelForge

variable {κ : Type}

/-- What is asked of a forge. -/
inductive Order where
  | load (spec : KernelSpec)
  | rebuild (spec : KernelSpec)

def Order.job (forge : Forge κ) : Order → Job κ
  | .load spec => .load forge spec
  | .rebuild spec => .rebuild spec

/-- What is worth noting of a run. -/
inductive Note (κ : Type) where
  | forgot (caller : Nat) (fp : Fingerprint)
  | published (caller : Nat) (p : Published)
  | loaded (caller : Nat) (p : Published) (h : Handle κ)
  | registered (caller : Nat) (h : Handle κ)

/-- A handle is noted when it is made, and when it takes a place in the registry that was free. -/
def Binding.note? (i : Nat) (r : Registry κ) : Binding κ → Binding κ → Option (Note κ)
  | .load p _, .insert h _ => some (.loaded i p h)
  | .insert h _, .unlock _ _ => if r.contains h.fingerprint then none else some (.registered i h)
  | _, _ => none

/-- A publication is noted when the manifest is put in its place. -/
def Visit.note? (i : Nat) (v v' : Visit) : Option (Note κ) :=
  match v.stage, v'.stage with
  | .publish _, .release (.ok (.published p)) => some (.published i p)
  | _, _ => none

namespace Job

def note? (forge : Forge κ) (i : Nat) (r : Registry κ) : Job κ → Job κ → Option (Note κ)
  | .forget spec, .build _ => some (.forgot i (forge.fingerprint spec))
  | .build v, .build v' => v.note? i v'
  | .resolve _ b, .resolve _ b' => b.note? i r b'
  | .install _ b, .install _ b' => b.note? i r b'
  | _, _ => none

def binding? : Job κ → Option (Binding κ)
  | .resolve _ b | .install _ b => some b
  | _ => none

end Job

/-- A workspace, and how far each caller is. -/
structure Crew (κ : Type) where
  workspace : Workspace κ
  job : Nat → Job κ

/-- One step of a caller; the generator and the loader may do at each step what they like. -/
structure Stroke (κ : Type) where
  caller : Nat
  generator : Generator
  loader : Loader κ

namespace Crew

/-- Nobody has done anything yet. -/
def start (forge : Forge κ) (ws : Workspace κ) (orders : Nat → Order) : Crew κ :=
  ⟨ws, fun i => (orders i).job forge⟩

def act (forge : Forge κ) (c : Crew κ) (stroke : Stroke κ) : Crew κ :=
  let next := (c.job stroke.caller).step
    { forge with generator := stroke.generator, loader := stroke.loader } c.workspace
  { workspace := next.1, job := fun j => if j = stroke.caller then next.2 else c.job j }

def run (forge : Forge κ) (c : Crew κ) (strokes : List (Stroke κ)) : Crew κ := strokes.foldl (act forge) c

def note? (forge : Forge κ) (c : Crew κ) (stroke : Stroke κ) : Option (Note κ) :=
  (c.job stroke.caller).note? forge stroke.caller c.workspace.registry ((c.act forge stroke).job stroke.caller)

/-- The notes of a run in order. -/
def log (forge : Forge κ) (c : Crew κ) : List (Stroke κ) → List (Note κ)
  | [] => []
  | stroke :: strokes => (c.note? forge stroke).toList ++ (c.act forge stroke).log forge strokes

end Crew

/-! ### Steps -/

namespace Advance

variable {r r' : Registry κ} {b b' : Binding κ} {q : Fingerprint} {h : Handle κ} {n i : Nat}

/-- A handle that is registered was there before, or has taken a free place now. -/
theorem get?_cases (ha : Advance r b r' b') (hget : r'.get? q = some h) (i : Nat) :
    r.get? q = some h ∨ ∃ n, b = .insert h n ∧ b.note? i r b' = some (.registered i h) := by
  cases ha with
  | asks =>
    obtain ⟨_, _, _, hslot, _⟩ := r.slot_eq _
    rw [hslot] at hget
    exact .inl hget
  | @enters h' n =>
    rw [Registry.get?_insert] at hget
    split at hget
    · next hq =>
      subst hq
      cases hold : r.get? h'.fingerprint with
      | none =>
        simp only [Registry.insert, hold, Option.some.injEq] at hget
        subst hget
        exact .inr ⟨n, rfl, by simp [Binding.note?, Registry.contains, hold]⟩
      | some old =>
        simp only [Registry.insert, hold] at hget
        exact .inl hget
    · exact .inl hget
  | _ => exact .inl hget

/-- Who has a handle that is not registered has just made it. -/
theorem insert_cases (ha : Advance r b r' (.insert h n)) (i : Nat) :
    ∃ p, b = .load p n ∧ b.note? i r (.insert h n) = some (.loaded i p h) := by
  cases ha
  exact ⟨_, rfl, rfl⟩

end Advance

theorem Binding.note?_done (i : Nat) (r : Registry κ) (b : Binding κ)
    (result : Except LoadError (Option (Handle κ))) :
    b.note? i r (.done result) = none := by
  cases b <;> rfl

namespace Job

variable {forge forge' : Forge κ} {ws : Workspace κ} {job : Job κ} {q : Fingerprint} {h : Handle κ} {n : Nat}
  {b : Binding κ}

/-- The jobs of a caller that is binding a kernel, and what its steps lead to. -/
inductive Binds (forge : Forge κ) : (Binding κ → Job κ) → (Binding κ → Job κ) → Prop
  | resolve (spec : KernelSpec) : Binds forge (.resolve spec) (afterResolve forge spec)
  | install (p : Published) : Binds forge (.install p) (afterInstall p)

section

variable {wrap after : Binding κ → Job κ} (hbinds : Binds forge wrap after)

include hbinds

theorem Binds.step_eq (b : Binding κ) : (wrap b).step forge ws =
    ({ ws with registry := (b.step forge.loader forge.store.mode forge.store.root ws.host.disk ws.registry).1 },
      after (b.step forge.loader forge.store.mode forge.store.root ws.host.disk ws.registry).2) := by
  cases hbinds <;> rfl

theorem Binds.binding?_eq (b : Binding κ) : (wrap b).binding? = some b := by
  cases hbinds <;> rfl

theorem Binds.more (hb : ∀ r, b ≠ .done r) : after b = wrap b := by
  cases b with
  | done r => exact absurd rfl (hb r)
  | _ => cases hbinds <;> rfl

theorem Binds.note?_eq (i : Nat) (r : Registry κ) (b b' : Binding κ) :
    (wrap b).note? forge' i r (after b') = b.note? i r b' := by
  cases b' with
  | done result =>
    rw [Binding.note?_done]
    cases hbinds <;> obtain e | _ | h := result <;> rfl
  | _ => cases hbinds <;> rfl

theorem Binds.insert_of_after (hb : (after b).binding? = some (.insert h n)) : b = .insert h n := by
  cases b with
  | done result => cases hbinds <;> obtain e | _ | h := result <;> cases hb
  | _ => cases hbinds <;> exact Option.some.inj hb

/-- A handle that is registered was there before, or its caller registers it now. -/
theorem Binds.get?_cases (forge' : Forge κ) (hmode : forge.store.mode = .release)
    (hget : ((wrap b).step forge ws).1.registry.get? q = some h) (i : Nat) :
    ws.registry.get? q = some h ∨ ∃ n, (wrap b).binding? = some (.insert h n) ∧
      (wrap b).note? forge' i ws.registry ((wrap b).step forge ws).2 = some (.registered i h) := by
  simp only [hbinds.step_eq, hbinds.note?_eq, hmode] at hget ⊢
  refine ((advance_of_step _ _ _ _ b).get?_cases hget i).imp_right ?_
  rintro ⟨n, rfl, hnote⟩
  exact ⟨n, hbinds.binding?_eq _, hnote⟩

/-- Who has a handle that is not registered has just made it. -/
theorem Binds.insert_cases (forge' : Forge κ) (hmode : forge.store.mode = .release)
    (hb : ((wrap b).step forge ws).2.binding? = some (.insert h n)) (i : Nat) :
    ∃ p, (wrap b).binding? = some (.load p n) ∧
      (wrap b).note? forge' i ws.registry ((wrap b).step forge ws).2 = some (.loaded i p h) := by
  have ha := advance_of_step forge.loader forge.store.root ws.host.disk ws.registry b
  simp only [hbinds.step_eq, hbinds.note?_eq, hmode] at hb ⊢
  rw [hbinds.insert_of_after hb] at ha ⊢
  obtain ⟨p, rfl, hnote⟩ := ha.insert_cases i
  exact ⟨p, hbinds.binding?_eq _, hnote⟩

end

theorem binding?_afterBuild (v : Visit) (hb : (afterBuild v : Job κ).binding? = some (.insert h n)) : False := by
  unfold afterBuild at hb
  split at hb <;> cases hb

theorem get?_cases (forge' : Forge κ) (hmode : forge.store.mode = .release)
    (hget : (job.step forge ws).1.registry.get? q = some h) (i : Nat) :
    ws.registry.get? q = some h ∨ ∃ n, job.binding? = some (.insert h n) ∧
      job.note? forge' i ws.registry (job.step forge ws).2 = some (.registered i h) := by
  cases job with
  | resolve spec b => exact (Binds.resolve spec).get?_cases forge' hmode hget i
  | forget spec =>
    simp only [step, Registry.get?_remove] at hget
    split at hget
    · cases hget
    · exact .inl hget
  | build v => exact .inl hget
  | install p b => exact (Binds.install p).get?_cases forge' hmode hget i
  | done r => exact .inl hget

theorem insert_cases (forge' : Forge κ) (hmode : forge.store.mode = .release)
    (hb : (job.step forge ws).2.binding? = some (.insert h n)) (i : Nat) :
    ∃ p, job.binding? = some (.load p n) ∧
      job.note? forge' i ws.registry (job.step forge ws).2 = some (.loaded i p h) := by
  cases job with
  | resolve spec b => exact (Binds.resolve spec).insert_cases forge' hmode hb i
  | forget spec => cases hb
  | build v => exact (binding?_afterBuild _ hb).elim
  | install p b => exact (Binds.install p).insert_cases forge' hmode hb i
  | done r => cases hb

end Job

/-! ### Forced builds -/

/-- What holds in the stages of a build that does not look what is published: it yields only what it has
published. -/
def Stage.Forced (i : Nat) (fp : Fingerprint) (notes : List (Note κ)) : Stage → Prop
  | .recheck => False
  | .draft m | .publish m => m.fingerprint = fp
  | .release r | .done r => ∀ y, r = .ok y → ∃ p, y = .published p ∧ p.fingerprint = fp ∧ .published i p ∈ notes
  | _ => True

variable {i : Nat} {fp : Fingerprint} {notes more : List (Note κ)} {stage : Stage} {v : Visit} {spec : KernelSpec}
  {target : Target}

theorem Stage.Forced.mono (h : stage.Forced i fp notes) : stage.Forced i fp (notes ++ more) := by
  cases stage with
  | release r | done r =>
    intro y hy
    obtain ⟨p, hp, hfp, hnote⟩ := h y hy
    exact ⟨p, hp, hfp, List.mem_append_left _ hnote⟩
  | _ => exact h

theorem Stage.Forced.result {y : Yield} (h : v.stage.Forced i fp notes) (hy : v.result? = some (.ok y)) :
    ∃ p, y = .published p ∧ p.fingerprint = fp ∧ .published i p ∈ notes := by
  unfold Visit.result? at hy
  split at hy
  · next r hstage =>
    rw [hstage] at h
    cases hy
    exact h y rfl
  · cases hy

theorem Stage.forced_clearing (i : Nat) (fp : Fingerprint) (notes : List (Note κ)) (spec : KernelSpec)
    (target : Target) (pending : List (List String)) (outputs : Nat) :
    (Visit.clearing (.build spec target true) pending outputs).Forced i fp notes := by
  cases pending <;> trivial

/-- A forced build keeps to what it publishes itself. -/
theorem Course.forced {l : Location} {stage' : Stage} (h : Course l spec target true stage stage')
    (hforced : stage.Forced i l.fingerprint notes)
    (hnote : ∀ m p, stage = .publish m → stage' = .release (.ok (.published p)) → .published i p ∈ more) :
    stage'.Forced i l.fingerprint (notes ++ more) := by
  cases h with
  | enters plain => cases plain
  | finds | misses => exact hforced.elim
  | surveys | clears => exact Stage.forced_clearing _ _ _ _ _ _ _
  | places => rfl
  | drafts => exact hforced
  | publishes m =>
    intro y hy
    cases hy
    exact ⟨_, rfl, hforced, List.mem_append_right _ (hnote m _ rfl rfl)⟩
  | stops e | refused e | fails stage e =>
    intro y hy
    cases hy
  | leaves r =>
    have hdone : (Stage.done r).Forced i l.fingerprint notes := hforced
    exact hdone.mono
  | rests r => exact hforced.mono
  | _ => trivial

theorem Visit.forced_step (generator : Generator) (host : Host) (herrand : v.errand = .build spec target true)
    (h : v.stage.Forced i v.location.fingerprint notes) :
    (v.step generator host).2.location = v.location ∧ (v.step generator host).2.errand = .build spec target true ∧
      (v.step generator host).2.stage.Forced i v.location.fingerprint
        (notes ++ (v.note? i (v.step generator host).2).toList) := by
  obtain ⟨hcourse, hlocation, herrand'⟩ := v.course_of_step generator host herrand
  refine ⟨hlocation, herrand', hcourse.forced h fun m p hpublish hrelease => ?_⟩
  rw [Visit.note?, hpublish, hrelease]
  exact List.mem_singleton_self _

/-! ### Rebuilds -/

/-- Where the handle that a rebuild gives comes from, with the notes before and after it forgot the old one:
from its own build, or from another call that registered it since. -/
def Served (i : Nat) (before after : List (Note κ)) (h : Handle κ) : Prop :=
  (∃ p, [.published i p, .loaded i p h, .registered i h].Sublist after) ∨
    ∃ j p, j ≠ i ∧ .loaded j p h ∈ before ++ after ∧ .registered j h ∈ after

/-- What holds of a caller that installs what it has published. -/
def Binding.Follows (i : Nat) (p : Published) (before after : List (Note κ)) : Binding κ → Prop
  | .lookup _ | .search _ => False
  | .slot q | .lock q _ | .recheck q _ | .load q _ => q = p
  | .insert h _ => h.fingerprint = p.fingerprint ∧ [.published i p, .loaded i p h].Sublist after
  | .unlock _ r => ∀ h, r = .ok h → Served i before after h
  | .done r => ∀ h, r = .ok (some h) → Served i before after h

/-- What holds of a rebuild from when it forgot the old handle. -/
def Job.Follows (i : Nat) (fp : Fingerprint) (before after : List (Note κ)) : Job κ → Prop
  | .resolve .. | .forget _ => False
  | .build v => v.location.fingerprint = fp ∧ (∃ spec target, v.errand = .build spec target true) ∧
      v.stage.Forced i fp after
  | .install p b => p.fingerprint = fp ∧ .published i p ∈ after ∧ b.Follows i p before after
  | .done r => ∀ h, r = .ok h → Served i before after h

/-- Handles that are not registered yet have been noted. -/
def Crew.Made (notes : List (Note κ)) (c : Crew κ) : Prop :=
  ∀ j h n, (c.job j).binding? = some (.insert h n) → ∃ p, .loaded j p h ∈ notes

/-- What holds of all callers from when one of them forgot the old handle. -/
structure Crew.Since (i : Nat) (fp : Fingerprint) (before after : List (Note κ)) (c : Crew κ) : Prop where
  made : c.Made (before ++ after)
  fresh : ∀ h, c.workspace.registry.get? fp = some h → Served i before after h
  own : (c.job i).Follows i fp before after

section

variable {i : Nat} {fp : Fingerprint} {p : Published} {before after : List (Note κ)} {h : Handle κ} {b : Binding κ}

theorem Served.mono (hs : Served i before after h) (more : List (Note κ)) : Served i before (after ++ more) h := by
  rcases hs with ⟨p, hown⟩ | ⟨j, p, hj, hloaded, hregistered⟩
  · exact .inl ⟨p, hown.trans (List.sublist_append_left _ _)⟩
  · refine .inr ⟨j, p, hj, ?_, List.mem_append_left _ hregistered⟩
    rw [← List.append_assoc]
    exact List.mem_append_left _ hloaded

theorem Binding.Follows.mono (hb : b.Follows i p before after) (more : List (Note κ)) :
    b.Follows i p before (after ++ more) := by
  cases b with
  | insert h n => exact ⟨hb.1, hb.2.trans (List.sublist_append_left _ _)⟩
  | unlock n r => exact fun h hr => (hb h hr).mono more
  | done r => exact fun h hr => (hb h hr).mono more
  | _ => exact hb

theorem Job.Follows.mono {job : Job κ} (hjob : job.Follows i fp before after) (more : List (Note κ)) :
    job.Follows i fp before (after ++ more) := by
  cases job with
  | resolve spec b => exact hjob
  | forget spec => exact hjob
  | build v => exact ⟨hjob.1, hjob.2.1, hjob.2.2.mono⟩
  | install p b => exact ⟨hjob.1, List.mem_append_left _ hjob.2.1, hjob.2.2.mono more⟩
  | done r => exact fun h hr => (hjob h hr).mono more

/-- A caller that installs what it has published goes on with it, or takes what is there since. -/
theorem Binding.Follows.advance {r r' : Registry κ} {b' : Binding κ} (hb : b.Follows i p before after)
    (ha : Advance r b r' b') (hpublished : .published i p ∈ after)
    (hfresh : ∀ h, r'.get? p.fingerprint = some h → Served i before (after ++ (b.note? i r b').toList) h) :
    b'.Follows i p before (after ++ (b.note? i r b').toList) := by
  cases ha with
  | finds => exact hb.elim
  | misses => exact hb.elim
  | reads => exact hb.elim
  | turns => exact hb.elim
  | asks => exact hb
  | waits => exact hb
  | locks => exact hb
  | shares hfound =>
    intro h hh
    cases hh
    cases hb
    exact hfresh _ hfound
  | begins => exact hb
  | fails =>
    intro h hh
    cases hh
  | makes =>
    cases hb
    exact ⟨rfl, (List.singleton_sublist.mpr hpublished).append (List.Sublist.refl _)⟩
  | @enters h n =>
    intro h' hh
    cases hh
    refine hfresh _ ?_
    rw [Registry.get?_insert, if_pos hb.1.symm]
  | @leaves n result =>
    intro h hh
    cases result with
    | error e => cases hh
    | ok h' =>
      cases hh
      exact (hb h rfl).mono _
  | rests => exact fun h hh => (hb h hh).mono _

end

namespace Job

variable {forge forge' : Forge κ} {ws : Workspace κ} {job : Job κ}

theorem note?_build (i : Nat) (r : Registry κ) (v v' : Visit) :
    (Job.build v).note? forge' i r (afterBuild v') = v.note? i v' := by
  unfold afterBuild
  cases hstage : v'.stage with
  | done result =>
    have hnone : (v.note? i v' : Option (Note κ)) = none := by
      unfold Visit.note?
      rw [hstage]
      split <;> trivial
    rw [hnone]
    simp only [Visit.result?, hstage]
    split <;> trivial
  | _ => simp only [Visit.result?, hstage]; rfl

theorem Follows.step {i : Nat} {fp : Fingerprint} {before after : List (Note κ)} (forge' : Forge κ)
    (hmode : forge.store.mode = .release) (hjob : job.Follows i fp before after)
    (hfresh : ∀ h, (job.step forge ws).1.registry.get? fp = some h →
      Served i before (after ++ (job.note? forge' i ws.registry (job.step forge ws).2).toList) h) :
    (job.step forge ws).2.Follows i fp before
      (after ++ (job.note? forge' i ws.registry (job.step forge ws).2).toList) := by
  cases job with
  | resolve spec b => exact hjob.elim
  | forget spec => exact hjob.elim
  | build v =>
    obtain ⟨rfl, ⟨spec, target, herrand⟩, hforced⟩ := hjob
    obtain ⟨hlocation, herrand', hforced'⟩ := v.forced_step forge.generator ws.host herrand hforced
    simp only [Job.step, note?_build]
    generalize (v.step forge.generator ws.host).2 = v' at *
    unfold afterBuild
    split
    · exact ⟨by rw [hlocation], ⟨spec, target, herrand'⟩, hforced'⟩
    · intro h hh
      cases hh
    · next p hresult =>
      obtain ⟨q, hq, hfp, hnote⟩ := hforced'.result hresult
      cases hq
      exact ⟨hfp, hnote, rfl⟩
    · intro h hh
      cases hh
  | install p b =>
    obtain ⟨rfl, hpublished, hb⟩ := hjob
    have hbinds : Binds forge (.install p) (afterInstall p) := .install p
    simp only [Job.step, hmode, hbinds.note?_eq] at hfresh ⊢
    have hnext := hb.advance (advance_of_step forge.loader forge.store.root ws.host.disk ws.registry b)
      hpublished hfresh
    generalize (b.step forge.loader .release forge.store.root ws.host.disk ws.registry).2 = b' at *
    unfold afterInstall
    split
    · intro h hh
      cases hh
      exact hnext _ rfl
    · intro h hh
      cases hh
    · intro h hh
      cases hh
    · exact ⟨rfl, List.mem_append_left _ hpublished, hnext⟩
  | done r => exact fun h hr => (hjob h hr).mono _

end Job

namespace Crew

variable {forge : Forge κ} {c : Crew κ} {i : Nat} {fp : Fingerprint} {before after notes : List (Note κ)}

theorem job_act (forge : Forge κ) (c : Crew κ) (stroke : Stroke κ) (j : Nat) :
    (c.act forge stroke).job j = if j = stroke.caller then
      ((c.job stroke.caller).step { forge with generator := stroke.generator, loader := stroke.loader }
        c.workspace).2
    else c.job j := rfl

theorem job_act_self (forge : Forge κ) (c : Crew κ) (stroke : Stroke κ) :
    (c.act forge stroke).job stroke.caller =
      ((c.job stroke.caller).step { forge with generator := stroke.generator, loader := stroke.loader }
        c.workspace).2 := by
  rw [job_act, if_pos rfl]

theorem Made.act (hmade : c.Made notes) (hmode : forge.store.mode = .release) (stroke : Stroke κ) :
    (c.act forge stroke).Made (notes ++ (c.note? forge stroke).toList) := by
  intro j h n hb
  by_cases hj : j = stroke.caller
  · subst hj
    rw [job_act_self] at hb
    obtain ⟨p, _, hnote⟩ := Job.insert_cases forge (by exact hmode) hb stroke.caller
    refine ⟨p, List.mem_append_right _ ?_⟩
    rw [note?, job_act_self, hnote]
    exact List.mem_singleton_self _
  · rw [job_act, if_neg hj] at hb
    obtain ⟨p, hp⟩ := hmade j h n hb
    exact ⟨p, List.mem_append_left _ hp⟩

/-- One step of anybody keeps what holds since a rebuild forgot the old handle. -/
theorem Since.act (hc : c.Since i fp before after) (hmode : forge.store.mode = .release) (stroke : Stroke κ) :
    (c.act forge stroke).Since i fp before (after ++ (c.note? forge stroke).toList) := by
  have hfresh : ∀ h, (c.act forge stroke).workspace.registry.get? fp = some h →
      Served i before (after ++ (c.note? forge stroke).toList) h := by
    intro h hget
    rcases Job.get?_cases forge (by exact hmode) hget stroke.caller with hold | ⟨n, hinsert, hnote⟩
    · exact (hc.fresh h hold).mono _
    · have hnoted : (c.note? forge stroke).toList = [.registered stroke.caller h] := by
        rw [note?, job_act_self, hnote]
        rfl
      rw [hnoted]
      by_cases hi : stroke.caller = i
      · subst hi
        have hown := hc.own
        cases hjob : c.job stroke.caller with
        | install p b =>
          rw [hjob] at hown hinsert
          cases hinsert
          exact .inl ⟨p, hown.2.2.2.append (List.Sublist.refl _)⟩
        | resolve spec b =>
          rw [hjob] at hown
          exact hown.elim
        | _ =>
          rw [hjob] at hinsert
          cases hinsert
      · obtain ⟨p, hloaded⟩ := hc.made stroke.caller h n hinsert
        refine .inr ⟨stroke.caller, p, hi, ?_, List.mem_append_right _ (List.mem_singleton_self _)⟩
        rw [← List.append_assoc]
        exact List.mem_append_left _ hloaded
  refine ⟨?_, hfresh, ?_⟩
  · rw [← List.append_assoc]
    exact hc.made.act hmode stroke
  · by_cases hi : i = stroke.caller
    · subst hi
      rw [job_act_self]
      rw [note?, job_act_self] at hfresh ⊢
      exact Job.Follows.step forge (by exact hmode) hc.own hfresh
    · rw [job_act, if_neg hi]
      exact hc.own.mono _

theorem since_forget {spec : KernelSpec} {stroke : Stroke κ} (hmade : c.Made notes)
    (hmode : forge.store.mode = .release) (hjob : c.job stroke.caller = .forget spec) :
    (c.act forge stroke).Since stroke.caller (forge.fingerprint spec) notes [] ∧
      c.note? forge stroke = some (.forgot stroke.caller (forge.fingerprint spec)) := by
  have hnote : c.note? forge stroke = some (.forgot stroke.caller (forge.fingerprint spec)) := by
    rw [note?, job_act_self, hjob]
    rfl
  refine ⟨⟨fun j h n hb => ?_, fun h hget => ?_, ?_⟩, hnote⟩
  · obtain ⟨p, hp⟩ := hmade.act hmode stroke j h n hb
    rw [hnote, List.mem_append] at hp
    refine ⟨p, List.mem_append_left _ (hp.resolve_right fun hforgot => ?_)⟩
    cases List.mem_singleton.mp hforgot
  · have hgone : (c.workspace.registry.remove (forge.fingerprint spec)).get? (forge.fingerprint spec) = none := by
      rw [Registry.get?_remove, if_pos rfl]
    simp only [act, hjob, Job.step] at hget
    cases hgone.symm.trans hget
  · rw [job_act_self, hjob]
    exact ⟨rfl, ⟨spec, forge.target, rfl⟩, trivial⟩

theorem Since.run (hc : c.Since i fp before after) (hmode : forge.store.mode = .release)
    (strokes : List (Stroke κ)) :
    (c.run forge strokes).Since i fp before (after ++ c.log forge strokes) := by
  induction strokes generalizing c after with
  | nil =>
    rw [show c.log forge [] = [] from rfl, List.append_nil]
    exact hc
  | cons stroke strokes ih =>
    rw [log, ← List.append_assoc]
    exact ih (hc.act hmode stroke)

/-- A rebuild that is over has forgotten the old handle at some time, and what holds since then holds now. -/
theorem since_of_done {spec : KernelSpec} {strokes : List (Stroke κ)} {result : Except ForgeError (Handle κ)}
    (hmode : forge.store.mode = .release) (hmade : c.Made notes) (hjob : c.job i = .forget spec)
    (hdone : (c.run forge strokes).job i = .done result) :
    ∃ earlier after, c.log forge strokes = earlier ++ .forgot i (forge.fingerprint spec) :: after ∧
      (c.run forge strokes).Since i (forge.fingerprint spec) (notes ++ earlier) after := by
  induction strokes generalizing c notes with
  | nil =>
    rw [show c.run forge [] = c from rfl, hjob] at hdone
    cases hdone
  | cons stroke strokes ih =>
    by_cases hi : stroke.caller = i
    · subst hi
      obtain ⟨hsince, hnote⟩ := since_forget hmade hmode hjob
      refine ⟨[], (c.act forge stroke).log forge strokes, ?_, ?_⟩
      · rw [log, hnote]
        rfl
      · rw [List.append_nil]
        exact hsince.run hmode strokes
    · have hstill : (c.act forge stroke).job i = .forget spec := by rw [job_act, if_neg (Ne.symm hi), hjob]
      obtain ⟨earlier, after, hlog, hsince⟩ := ih (hmade.act hmode stroke) hstill hdone
      refine ⟨(c.note? forge stroke).toList ++ earlier, after, ?_, ?_⟩
      · rw [log, hlog, List.append_assoc]
      · rw [← List.append_assoc]
        exact hsince

theorem made_start (forge : Forge κ) (ws : Workspace κ) (orders : Nat → Order) :
    (start forge ws orders).Made [] := by
  intro j h n hb
  simp only [start] at hb
  cases horder : orders j <;> rw [horder] at hb <;> cases hb

/-- **A rebuild in release mode gives a handle that was registered after it forgot the old one: the one that
was loaded from what its own build published, or one that another call registered.** Callers may load and
rebuild any kernels, whatever is published or registered when they come and in whatever order they move. -/
theorem rebuild_result (forge : Forge κ) (hmode : forge.store.mode = .release) (ws : Workspace κ)
    (orders : Nat → Order) (strokes : List (Stroke κ)) (i : Nat) (spec : KernelSpec) (h : Handle κ)
    (horder : orders i = .rebuild spec)
    (hdone : ((start forge ws orders).run forge strokes).job i = .done (.ok h)) :
    ∃ before after, (start forge ws orders).log forge strokes =
        before ++ .forgot i (forge.fingerprint spec) :: after ∧
      ((∃ p, [.published i p, .loaded i p h, .registered i h].Sublist after) ∨
        ∃ j p, j ≠ i ∧ .loaded j p h ∈ before ++ after ∧ .registered j h ∈ after) := by
  have hjob : (start forge ws orders).job i = .forget spec := by
    simp only [start, horder]
    rfl
  obtain ⟨before, after, hlog, hsince⟩ := since_of_done hmode (made_start forge ws orders) hjob hdone
  have hown := hsince.own
  rw [hdone] at hown
  exact ⟨before, after, hlog, hown h rfl⟩

end Crew

/-! ### One caller after the other -/

namespace Job

variable {forge : Forge κ} {ws : Workspace κ}

/-- So many steps of one caller, with nobody else around. -/
def steps (forge : Forge κ) : Nat → Workspace κ → Job κ → Workspace κ × Job κ
  | 0, ws, job => (ws, job)
  | n + 1, ws, job => steps forge n (job.step forge ws).1 (job.step forge ws).2

theorem steps_done (n : Nat) (ws : Workspace κ) (result : Except ForgeError (Handle κ)) :
    steps forge n ws (.done result) = (ws, .done result) := by
  induction n with
  | zero => rfl
  | succ n ih => exact ih

/-- A caller that looks a kernel up or installs one comes to its end. -/
theorem Binds.steps {wrap after : Binding κ → Job κ} (hbinds : Binds forge wrap after) {n : Nat} {b : Binding κ}
    {r : Registry κ} {result : Except LoadError (Option (Handle κ))} {outcome : Except ForgeError (Handle κ)}
    (hb : ∀ r, b ≠ .done r) (hend : after (.done result) = .done outcome)
    (hsteps : Binding.steps forge.loader forge.store.mode forge.store.root ws.host.disk n ws.registry b =
      (r, .done result)) :
    Job.steps forge n ws (wrap b) = ({ ws with registry := r }, .done outcome) := by
  induction n generalizing ws b with
  | zero => exact absurd (congrArg Prod.snd hsteps) (hb _)
  | succ n ih =>
    change Binding.steps _ _ _ _ n
      (b.step forge.loader forge.store.mode forge.store.root ws.host.disk ws.registry).1
      (b.step forge.loader forge.store.mode forge.store.root ws.host.disk ws.registry).2 = _ at hsteps
    rw [Job.steps, hbinds.step_eq]
    generalize b.step forge.loader forge.store.mode forge.store.root ws.host.disk ws.registry = next at *
    obtain ⟨r₁, b₁⟩ := next
    by_cases hdone : ∃ result, b₁ = .done result
    · obtain ⟨result, rfl⟩ := hdone
      rw [Binding.steps_done] at hsteps
      cases hsteps
      rw [hend]
      exact steps_done n _ _
    · have hgo : ∀ result, b₁ ≠ .done result := fun result he => hdone ⟨result, he⟩
      rw [hbinds.more hgo]
      exact @ih { ws with registry := r₁ } b₁ hgo hsteps

end Job

/-! ### A rebuild that is overtaken -/

namespace Depot

open Disk

/-- A generator that writes another library from its second run on. -/
def revising : Generator := fun request host =>
  Generator.below "kernel.so"
    (fun key disk => disk.newFile (key ++ ["kernel.so"])
      { content := (if host.runs = 0 then "old" else "new").toUTF8 }) request host

/-- A forge with that generator. The code of a handle is the digest of the library that it was loaded from. -/
def revisingForge : Forge Digest where
  store := vacantStore
  target := .cpu
  gpuAvailable := false
  generator := revising
  loader := fun _ p _ => .ok (⟨Metadata.currentAbi, .float32, 1, .outer, none⟩, p.manifest.checksum)

end Depot

namespace Crew

open Depot

/-- The first caller rebuilds the kernel, and all others load it. -/
def orders : Nat → Order
  | 0 => .rebuild plainSpec
  | _ => .load plainSpec

/-- The first caller forgets the handle; the second one builds the kernel and loads it; and then the first
one builds it once more. -/
def race : List (Stroke Digest) :=
  let moves (i n : Nat) : List (Stroke Digest) := List.replicate n ⟨i, revising, revisingForge.loader⟩
  moves 0 1 ++ moves 1 20 ++ moves 0 20

theorem race_old :
    ((((start revisingForge {} orders).run revisingForge race).job 0).result?.map fun r => r.map (·.code)) =
        some (.ok (.ofBytes "old".toUTF8)) ∧
      (((start revisingForge {} orders).log revisingForge race).filterMap fun
        | .published i p => some (i, p.manifest.checksum)
        | _ => none) = [(1, .ofBytes "old".toUTF8), (0, .ofBytes "new".toUTF8)] := by
  decide +kernel

/-- The first caller publishes a new kernel, and returns the handle of the second one. -/
theorem overtaken : ∃ (ws : Workspace Digest) (strokes : List (Stroke Digest)) (h : Handle Digest) (p : Published),
    ((start revisingForge ws orders).run revisingForge strokes).job 0 = .done (.ok h) ∧
      h.code = .ofBytes "old".toUTF8 ∧ .published 0 p ∈ (start revisingForge ws orders).log revisingForge strokes ∧
      p.manifest.checksum = .ofBytes "new".toUTF8 := by
  obtain ⟨hresult, hlog⟩ := race_old
  obtain ⟨e | h, hover, hcode⟩ := Option.map_eq_some_iff.mp hresult
  · cases hcode
  · have hdone : ((start revisingForge {} orders).run revisingForge race).job 0 = .done (.ok h) := by
      generalize ((start revisingForge {} orders).run revisingForge race).job 0 = job at *
      cases job <;> cases hover
      rfl
    obtain ⟨note, hmem, hnote⟩ := List.mem_filterMap.mp (hlog ▸ List.mem_cons_of_mem _ List.mem_cons_self)
    cases note with
    | published i p =>
      obtain ⟨rfl, hnew⟩ := Prod.mk.inj (Option.some.inj hnote)
      exact ⟨{}, race, h, p, hdone, Except.ok.inj hcode, hmem, hnew⟩
    | _ => cases hnote

/-- A rebuild gives the kernel of another call, which the call has registered since. -/
theorem rebuild_result_overtaken : ∃ (ws : Workspace Digest) (strokes : List (Stroke Digest)) (h : Handle Digest),
    ((start revisingForge ws orders).run revisingForge strokes).job 0 = .done (.ok h) ∧
      ∃ before after, (start revisingForge ws orders).log revisingForge strokes =
          before ++ .forgot 0 (revisingForge.fingerprint plainSpec) :: after ∧
        ((∃ p, [.published 0 p, .loaded 0 p h, .registered 0 h].Sublist after) ∨
          ∃ j p, j ≠ 0 ∧ .loaded j p h ∈ before ++ after ∧ .registered j h ∈ after) := by
  obtain ⟨ws, strokes, h, _, hdone, _⟩ := overtaken
  exact ⟨ws, strokes, h, hdone, rebuild_result revisingForge rfl ws orders strokes 0 plainSpec h rfl hdone⟩

/-- **A rebuild can return an old kernel.** What it returns was loaded from one library, and what it has
published is another. -/
theorem rebuild_returns_old : ∃ (ws : Workspace Digest) (strokes : List (Stroke Digest)) (h : Handle Digest)
    (p : Published), ((start revisingForge ws orders).run revisingForge strokes).job 0 = .done (.ok h) ∧
      .published 0 p ∈ (start revisingForge ws orders).log revisingForge strokes ∧
        h.code ≠ p.manifest.checksum := by
  obtain ⟨ws, strokes, h, p, hdone, hold, hpublished, hnew⟩ := overtaken
  refine ⟨ws, strokes, h, p, hdone, hpublished, ?_⟩
  rw [hold, hnew]
  decide +kernel

end Crew

end KernelForge
