import KernelForge.Proofs.Cache.Delivery

/-!
Removing what a location holds.

A removal that nobody comes between takes the lock, removes the manifest, removes the outputs and gives the
lock back, and stops at the first of these that fails. `Location.emptied` says this in one definition, and a
visit for removal comes to the same (`Store.remove_eq`): what its steps do from one stage to the next is
`Store.remove_locked` and the lemmas after it, one for each way to end.
-/
namespace KernelForge

open Disk FileTree

/-! ### One operation after the other -/

/-- Removes what a location holds besides its lock file, and says whether outputs were among it. -/
def Location.emptied (l : Location) (impatient : Bool) (host : Host) : Host × Except BuildError Bool :=
  if host.disk.isFolder l.folder.route then
    match l.tryLock host with
    | (host, .failed fault) => (host, .error (.lock l.folder.text fault))
    | (host, .held) => (host, .error (if impatient then .lockTimeout l.folder.text else .waiting l.folder.text))
    | (host, .taken ticket) =>
      match l.unpublish host with
      | (host, .error e) => (host.unlock ticket, .error (.cache e))
      | (host, .ok ()) =>
        match l.clearOutputs host with
        | (host, .error e) => (host.unlock ticket, .error (.cache e))
        | (host, .ok outputs) => (host.unlock ticket, .ok (0 < outputs))
  else (host, .ok false)

theorem Location.tryLock_again {l : Location} {host host' : Host} (h : l.tryLock host = (host', .held)) :
    l.tryLock host' = (host', .held) := by
  unfold Location.tryLock at h
  split at h
  · cases h
  · next disk file hopen =>
    dsimp only at h
    split at h
    · cases h
    · next hread =>
      split at h
      · next hlocked =>
        cases h
        simp only [Location.tryLock, openFile_again hopen (by decide), hread, hlocked, if_true,
          Bool.false_eq_true, if_false]
      · cases h

namespace Visit

variable {generator : Generator} {host : Host} {v : Visit}

/-- A visit that is over before all steps of a run are made has run like that. -/
theorem run_of_done {n : Nat} {r : Except BuildError Yield} (hdone : (steps generator n host v).2.stage = .done r)
    (hn : n ≤ 5 + (steps generator 5 host v).2.pending + 7) : v.run generator host = steps generator n host v := by
  rw [run_eq_steps]
  obtain ⟨k, hk⟩ := Nat.exists_eq_add_of_le hn
  rw [hk, steps_add generator n k, steps_done hdone]

/-- Removing one path after the other, and giving the lock back. -/
theorem steps_removal {ticket : Nat} (herrand : v.errand = .remove) (hticket : v.ticket = some ticket)
    (pending : List (List String)) (outputs : Nat) :
    steps generator (pending.length + 1) host (v.goto (clearing v.errand pending outputs)) =
      ((v.location.removeAll pending host).1.unlock ticket, v.goto (.done
        (((v.location.removeAll pending host).2.map fun _ => .removed (0 < outputs)).mapError .cache))) := by
  induction pending generalizing host with
  | nil =>
    rw [herrand]
    exact steps_of_step (step_releases host hticket) 0
  | cons key pending ih =>
    rw [Location.removeAll]
    cases hstrike : host.disk.strike key with
    | ok disk =>
      have hstep : (v.goto (clearing v.errand (key :: pending) outputs)).step generator host =
          ({ host with disk }, v.goto (clearing v.errand pending outputs)) := by
        simp only [clearing, Visit.step, goto, hstrike]
      exact (steps_of_step hstep _).trans ih
    | error fault =>
      have hstep : (v.goto (clearing v.errand (key :: pending) outputs)).step generator host =
          (host, v.fail (.io (v.location.outputAt host.disk key).text fault)) := by
        simp only [clearing, Visit.step, goto, hstrike]
        rfl
      rw [List.length_cons, steps_of_step hstep, fail, steps_of_step (step_releases host hticket)]
      exact steps_fixed rfl _

theorem pending_clearing (herrand : v.errand = .remove) (pending : List (List String)) (outputs : Nat) :
    (v.goto (clearing v.errand pending outputs)).pending = pending.length := by
  rw [herrand]
  cases pending <;> rfl

end Visit

namespace Store

variable {store : Store} {fp : Fingerprint} {host : Host}

theorem remove_of_run {host' : Host} {v : Visit} {r : Except BuildError Bool}
    (hrun : (store.visit fp .remove).run idleGenerator host = (host', v)) (houtcome : outcome v = r.map .removed) :
    store.remove fp host = (host', r) := by
  unfold Store.remove
  have hvisit : Visit.mk (store.location fp) .remove store.impatient none .arrive = store.visit fp .remove := rfl
  simp only [hvisit, hrun, houtcome]
  cases r <;> rfl

theorem remove_of_steps {host' : Host} {r : Except BuildError Bool} (n : Nat)
    (hsteps : Prod.map id Visit.stage (Visit.steps idleGenerator n host (store.visit fp .remove)) =
      (host', .done (r.map .removed)))
    (hn : n ≤ 5 + (Visit.steps idleGenerator 5 host (store.visit fp .remove)).2.pending + 7) :
    store.remove fp host = (host', r) := by
  obtain ⟨rfl, hdone⟩ := Prod.mk.inj hsteps
  exact remove_of_run (Visit.run_of_done hdone hn) (by simp only [outcome, Visit.result?, hdone])

section Stages

variable {host₁ : Host} (hfolder : host.disk.isFolder (store.location fp).folder.route = true)
include hfolder

theorem step_arrive :
    (store.visit fp .remove).step idleGenerator host = (host, (store.visit fp .remove).goto .lock) := by
  simp only [Visit.step, visit, hfolder, if_true]

theorem remove_locked {fault : Fault} (h : (store.location fp).tryLock host = (host₁, .failed fault)) :
    store.remove fp host = (host₁, .error (.lock (store.location fp).folder.text fault)) := by
  refine remove_of_steps 2 ?_ (by omega)
  rw [Visit.steps_of_step (step_arrive hfolder)]
  simp only [Visit.steps, Visit.step, visit, Visit.goto, h]
  rfl

/-- Somebody else has the lock, and does not give it back. -/
theorem remove_held (h : (store.location fp).tryLock host = (host₁, .held)) :
    store.remove fp host = (host₁, .error
      (if store.impatient then .lockTimeout (store.location fp).folder.text
        else .waiting (store.location fp).folder.text)) := by
  by_cases himpatient : store.impatient = true
  · refine remove_of_steps 2 ?_ (by omega)
    rw [Visit.steps_of_step (step_arrive hfolder), if_pos himpatient]
    simp only [Visit.steps, Visit.step, visit, Visit.goto, h, himpatient, if_true]
    rfl
  · have hwaits : ∀ host₂, (store.location fp).tryLock host₂ = (host₁, .held) →
        ((store.visit fp .remove).goto .lock).step idleGenerator host₂ =
          (host₁, (store.visit fp .remove).goto .lock) := by
      intro host₂ h₂
      simp only [Visit.step, visit, Visit.goto, h₂, himpatient, Bool.false_eq_true, if_false]
    obtain ⟨n, hrun⟩ := Visit.run_eq_steps_two idleGenerator host (store.visit fp .remove)
    rw [Visit.steps_of_step (step_arrive hfolder), Visit.steps_of_step (hwaits host h)] at hrun
    rw [if_neg himpatient]
    exact remove_of_run (hrun.trans (Visit.steps_fixed (hwaits host₁ (Location.tryLock_again h)) n)) rfl

variable {ticket : Nat} (hlock : (store.location fp).tryLock host = (host₁, .taken ticket))
include hlock

theorem steps_lock (n : Nat) :
    Visit.steps idleGenerator (n + 2) host (store.visit fp .remove) =
      Visit.steps idleGenerator n host₁
        { store.visit fp .remove with ticket := some ticket, stage := .unpublish } := by
  have hstep : ((store.visit fp .remove).goto .lock).step idleGenerator host =
      (host₁, { store.visit fp .remove with ticket := some ticket, stage := .unpublish }) := by
    simp only [Visit.step, visit, Visit.goto, hlock]
  rw [Visit.steps_of_step (step_arrive hfolder), Visit.steps_of_step hstep]

theorem remove_published {host₂ : Host} {e : CacheError}
    (h : (store.location fp).unpublish host₁ = (host₂, .error e)) :
    store.remove fp host = (host₂.unlock ticket, .error (.cache e)) := by
  refine remove_of_steps 4 ?_ (by omega)
  rw [steps_lock hfolder hlock]
  simp only [Visit.steps, Visit.step, visit, Visit.goto, Visit.fail, h]
  rfl

variable {host₂ : Host} (hunpublish : (store.location fp).unpublish host₁ = (host₂, .ok ()))
include hunpublish

theorem remove_unlisted {e : CacheError} (h : (store.location fp).outputs host₂.disk = .error e) :
    store.remove fp host = (host₂.unlock ticket, .error (.cache e)) := by
  refine remove_of_steps 5 ?_ (by omega)
  rw [steps_lock hfolder hlock]
  simp only [Visit.steps, Visit.step, visit, Visit.goto, Visit.fail, hunpublish, h]
  rfl

theorem remove_outputs {keys : List (List String)} (h : (store.location fp).outputs host₂.disk = .ok keys) :
    store.remove fp host =
      (((store.location fp).removeAll (Location.removalPlan keys host₂.disk) host₂).1.unlock ticket,
        (((store.location fp).removeAll (Location.removalPlan keys host₂.disk) host₂).2.map
          fun _ => decide (0 < keys.length)).mapError .cache) := by
  let v : Visit := { store.visit fp .remove with ticket := some ticket }
  generalize hplan : Location.removalPlan keys host₂.disk = plan
  have hfour : ∀ n, Visit.steps idleGenerator (n + 4) host (store.visit fp .remove) =
      Visit.steps idleGenerator n host₂ (v.goto (Visit.clearing v.errand plan keys.length)) := by
    intro n
    rw [steps_lock hfolder hlock]
    simp only [Visit.steps, Visit.step, visit, Visit.goto, hunpublish, h, v, hplan]
  have hsteps : Prod.map id Visit.stage
      (Visit.steps idleGenerator (plan.length + 1 + 4) host (store.visit fp .remove)) =
      (((store.location fp).removeAll plan host₂).1.unlock ticket, .done
        ((((store.location fp).removeAll plan host₂).2.map fun _ => decide (0 < keys.length)).mapError .cache
          |>.map .removed)) := by
    rw [hfour, Visit.steps_removal (v := v) rfl rfl]
    refine Prod.ext rfl (congrArg Stage.done ?_)
    show Except.mapError _ (Except.map _ ((store.location fp).removeAll plan host₂).2) = _
    cases ((store.location fp).removeAll plan host₂).2 <;> rfl
  cases plan with
  | nil => exact remove_of_steps _ hsteps (by simp only [List.length_nil]; omega)
  | cons key pending =>
    cases hstrike : host₂.disk.strike key with
    | ok disk =>
      refine remove_of_steps _ hsteps ?_
      have hstep : (v.goto (Visit.clearing v.errand (key :: pending) keys.length)).step idleGenerator host₂ =
          ({ host₂ with disk }, v.goto (Visit.clearing v.errand pending keys.length)) := by
        simp only [Visit.clearing, Visit.step, Visit.goto, hstrike]
      rw [hfour 1, Visit.steps_of_step hstep]
      show _ ≤ 5 + (v.goto (Visit.clearing v.errand pending keys.length)).pending + 7
      rw [Visit.pending_clearing rfl, List.length_cons]
      omega
    | error fault =>
      -- The first removal has failed, and two steps later all is over.
      have hstep : (v.goto (Visit.clearing v.errand (key :: pending) keys.length)).step idleGenerator host₂ =
          (host₂, v.fail (.io (v.location.outputAt host₂.disk key).text fault)) := by
        simp only [Visit.clearing, Visit.step, Visit.goto, hstrike]
        rfl
      have hrelease := @Visit.step_releases v idleGenerator ticket host₂
        (.error (.cache (.io (v.location.outputAt host₂.disk key).text fault))) rfl
      refine remove_of_steps 6 ?_ (by omega)
      rw [hfour 2, Visit.steps_of_step hstep, Visit.fail, Visit.steps_of_step hrelease]
      simp only [Location.removeAll, hstrike]
      rfl

end Stages

/-- **A removal is one operation after the other**, when nobody else is around. -/
theorem remove_eq (store : Store) (fp : Fingerprint) (host : Host) :
    store.remove fp host = (store.location fp).emptied store.impatient host := by
  unfold Location.emptied
  split
  · next hfolder =>
    match hlock : (store.location fp).tryLock host with
    | (host₁, .failed fault) => exact remove_locked hfolder hlock
    | (host₁, .held) => exact remove_held hfolder hlock
    | (host₁, .taken ticket) =>
      dsimp only
      match hunpublish : (store.location fp).unpublish host₁ with
      | (host₂, .error e) => exact remove_published hfolder hlock hunpublish
      | (host₂, .ok ()) =>
        cases houtputs : (store.location fp).outputs host₂.disk with
        | error e => simp only [Location.clearOutputs, houtputs, remove_unlisted hfolder hlock hunpublish houtputs]
        | ok keys =>
          rw [remove_outputs hfolder hlock hunpublish houtputs]
          simp only [Location.clearOutputs, houtputs]
          cases (store.location fp).removeAll (Location.removalPlan keys host₂.disk) host₂ with
          | mk host₃ outcome => cases outcome <;> rfl
  · next hfolder =>
    refine remove_of_steps 1 ?_ (by omega)
    simp only [Visit.steps, Visit.step, visit, hfolder, Bool.false_eq_true, if_false]
    rfl

section Each

-- Looking at what came of a removal is not to run through its steps.
attribute [local irreducible] Store.remove

theorem removeEach_cons (store : Store) (fp : Fingerprint) (rest : List Fingerprint) (host : Host) :
    store.removeEach (fp :: rest) host =
      match store.remove fp host with
      | (host, .error e) => (host, .error e)
      | (host, .ok any) =>
        match store.removeEach rest host with
        | (host, .error e) => (host, .error e)
        | (host, .ok n) => (host, .ok (if any then n + 1 else n)) :=
  rfl

end Each

end Store

end KernelForge
