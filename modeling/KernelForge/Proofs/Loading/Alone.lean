import KernelForge.Proofs.Loading.Binding

/-!
A caller that has a fingerprint to itself.

Nobody else has its slot then (`Registry.Idle`), so the caller is never held up, and what comes of its call
depends on what is registered and what is published alone: a handle that is there is given in release mode
(`resolve_registered`), where nothing is published there is none (`resolve_unpublished`), and otherwise the
kernel is loaded and registered (`resolve_published`, `install_new`), unless the loader refuses it
(`resolve_refused`). `Registry.Gains` is what has changed after a load that went well, and `Registry.Spends`
after one that did not.
-/
namespace KernelForge

variable {κ : Type}

namespace Registry

variable {r : Registry κ} {fp q : Fingerprint}

theorem get?_remove : (r.remove fp).get? q = if q = fp then none else r.get? q := by
  simp only [Registry.get?, Registry.remove]
  induction r.handles with
  | nil => simp [Registry.lookup]
  | cons e rest ih =>
    obtain ⟨k, h⟩ := e
    by_cases hk : k = fp
    · rw [List.filter_cons_of_neg (by simpa using hk), ih, Registry.lookup_cons]
      split
      · rfl
      · next hq => rw [if_neg fun hkq => hq (hkq.symm.trans hk)]
    · rw [List.filter_cons_of_pos (by simpa using hk), Registry.lookup_cons, Registry.lookup_cons, ih]
      split
      · next hkq => rw [if_neg fun hq => hk (hkq.trans hq)]
      · rfl

theorem slot_of_lookup {n : Nat} (h : lookup fp r.slots = some n) : r.slot fp = (r, n) := by
  unfold slot
  rw [h]

/-- A handle that takes a place, which must be free in release mode. -/
theorem insert_new {mode : BuildMode} {h : Handle κ} (hnew : mode = .release → r.get? h.fingerprint = none) :
    ∃ handles, r.insert mode h = ({ r with handles }, h) ∧
      ∀ q, lookup q handles = if q = h.fingerprint then some h else r.get? q := by
  cases mode with
  | release =>
    refine ⟨(h.fingerprint, h) :: r.handles, ?_, fun q => ?_⟩
    · simp only [insert, hnew rfl]
    · rw [lookup_cons]
      simp only [eq_comm]
      rfl
  | debug =>
    refine ⟨(h.fingerprint, h) :: (r.remove h.fingerprint).handles, rfl, fun q => ?_⟩
    rw [lookup_cons]
    by_cases hq : q = h.fingerprint
    · rw [if_pos hq.symm, if_pos hq]
    · rw [if_neg (Ne.symm hq), if_neg hq]
      exact get?_remove.trans (if_neg hq)

/-- Nobody is binding a fingerprint. -/
def Idle (r : Registry κ) (fp : Fingerprint) : Prop := (r.slot fp).2 ∉ r.locked

theorem idle_of_unlocked (h : r.locked = []) (fp : Fingerprint) : r.Idle fp := by simp [Idle, h]

/-- What has changed once a kernel was loaded and its handle registered. -/
structure Gains (r : Registry κ) (h : Handle κ) (r' : Registry κ) : Prop where
  get? : ∀ q, r'.get? q = if q = h.fingerprint then some h else r.get? q
  slot : r'.slot h.fingerprint = (r', (r.slot h.fingerprint).2)
  locked : r'.locked = r.locked
  loads : r'.loads = r.loads + 1
  made : r'.made = r.made + 1

/-- What has changed once a kernel could not be loaded. -/
structure Spends (r : Registry κ) (fp : Fingerprint) (r' : Registry κ) : Prop where
  handles : r'.handles = r.handles
  slot : r'.slot fp = (r', (r.slot fp).2)
  locked : r'.locked = r.locked
  loads : r'.loads = r.loads + 1

theorem Spends.idle {r' : Registry κ} (h : r.Spends fp r') (hidle : r.Idle fp) : r'.Idle fp := by
  rw [Idle, h.slot, h.locked]
  exact hidle

end Registry

namespace Binding

variable {loader : Loader κ} {mode : BuildMode} {root : Place} {disk : Disk} {r : Registry κ} {p : Published}
  {fp : Fingerprint}

theorem steps_of_step {r' : Registry κ} {b b' : Binding κ} (h : b.step loader mode root disk r = (r', b'))
    (n : Nat) :
    steps loader mode root disk (n + 1) r b = steps loader mode root disk n r' b' := by
  show steps loader mode root disk n (b.step loader mode root disk r).1 (b.step loader mode root disk r).2 = _
  rw [h]

theorem steps_done (n : Nat) (r : Registry κ) (result : Except LoadError (Option (Handle κ))) :
    steps loader mode root disk n r (.done result) = (r, .done result) := by
  induction n with
  | zero => rfl
  | succ n ih => exact ih

/-- A caller with a published kernel takes its slot, finds no handle and comes to load. -/
theorem steps_bind (hidle : r.Idle p.fingerprint) (hnew : mode = .release → r.get? p.fingerprint = none) :
    ∃ slots nextSlot n, r.slot p.fingerprint = ({ r with slots, nextSlot }, n) ∧
      Registry.lookup p.fingerprint slots = some n ∧
      n ∉ r.locked ∧ ∀ m, steps loader mode root disk (m + 3) r (.slot p) =
        steps loader mode root disk m { r with slots, nextSlot, locked := n :: r.locked } (.load p n) := by
  obtain ⟨slots, nextSlot, n, hslot, hn, _⟩ := r.slot_eq p.fingerprint
  rw [Registry.Idle, hslot] at hidle
  have htake : (Binding.slot p).step loader mode root disk r = ({ r with slots, nextSlot }, .lock p n) := by
    unfold Binding.step
    simp only [hslot]
  have hlock : (Binding.lock p n).step loader mode root disk { r with slots, nextSlot } =
      ({ r with slots, nextSlot, locked := n :: r.locked }, .recheck p n) := by
    unfold Binding.step
    simp only [List.contains_iff_mem, hidle, if_false]
  have hlook : (Binding.recheck p n).step loader mode root disk
      { r with slots, nextSlot, locked := n :: r.locked } =
      ({ r with slots, nextSlot, locked := n :: r.locked }, .load p n) := by
    cases mode with
    | debug => rfl
    | release =>
      have hnone : Registry.get? { r with slots, nextSlot, locked := n :: r.locked } p.fingerprint = none :=
        hnew rfl
      unfold Binding.step
      simp only [BuildMode.alwaysRebuild, hnone]
      rfl
  refine ⟨slots, nextSlot, n, hslot, hn, hidle, fun m => ?_⟩
  rw [steps_of_step htake, steps_of_step hlock, steps_of_step hlook]

/-- The last step of a caller gives the slot back. -/
theorem step_unlock {r r₁ : Registry κ} {slot : Nat} (hidle : slot ∉ r.locked)
    (result : Except LoadError (Handle κ)) :
    (Binding.unlock slot result).step loader mode root disk { r₁ with locked := slot :: r.locked } =
      ({ r₁ with locked := r.locked }, .done (result.map some)) := by
  have hothers : (slot :: r.locked).filter (fun k => k ≠ slot) = r.locked := by
    rw [List.filter_cons_of_neg (by simp), List.filter_eq_self]
    intro k hk
    simpa using fun he : k = slot => hidle (he ▸ hk)
  unfold Binding.step
  simp only [hothers]
  cases result <;> rfl

/-- A caller with a published kernel loads it and registers the handle. -/
theorem steps_slot {r : Registry κ} {p : Published} {info : Metadata} {code : κ} (hidle : r.Idle p.fingerprint)
    (hnew : mode = .release → r.get? p.fingerprint = none)
    (hload : loader (r.loads + 1) p disk = .ok (info, code)) :
    ∃ r', steps loader mode root disk 6 r (.slot p) =
        (r', .done (.ok (some ⟨r.made, p.fingerprint, p.location, info, code⟩))) ∧
      r.Gains ⟨r.made, p.fingerprint, p.location, info, code⟩ r' := by
  obtain ⟨slots, nextSlot, n, hslot, hn, hfree, hsteps⟩ := @steps_bind κ loader mode root disk r p hidle hnew
  have hmake : (Binding.load p n).step loader mode root disk { r with slots, nextSlot, locked := n :: r.locked } =
      ({ r with slots, nextSlot, locked := n :: r.locked, loads := r.loads + 1, made := r.made + 1 },
        .insert ⟨r.made, p.fingerprint, p.location, info, code⟩ n) := by
    unfold Binding.step
    simp only [hload]
  obtain ⟨handles, hinsert, hhandles⟩ := @Registry.insert_new κ
    { r with slots, nextSlot, locked := n :: r.locked, loads := r.loads + 1, made := r.made + 1 } mode
    ⟨r.made, p.fingerprint, p.location, info, code⟩ hnew
  have henter : (Binding.insert ⟨r.made, p.fingerprint, p.location, info, code⟩ n).step loader mode root disk
      { r with slots, nextSlot, locked := n :: r.locked, loads := r.loads + 1, made := r.made + 1 } =
      ({ r with slots, nextSlot, locked := n :: r.locked, loads := r.loads + 1, made := r.made + 1, handles },
        .unlock n (.ok ⟨r.made, p.fingerprint, p.location, info, code⟩)) := by
    unfold Binding.step
    simp only [hinsert]
  have hunlock := @step_unlock κ loader mode root disk r
    { r with slots, nextSlot, loads := r.loads + 1, made := r.made + 1, handles } n hfree
    (.ok ⟨r.made, p.fingerprint, p.location, info, code⟩)
  refine ⟨{ r with slots, nextSlot, loads := r.loads + 1, made := r.made + 1, handles }, ?_, hhandles, ?_,
    rfl, rfl, rfl⟩
  · rw [hsteps, steps_of_step hmake, steps_of_step henter, steps_of_step hunlock]
    rfl
  · rw [hslot]
    exact Registry.slot_of_lookup hn

theorem lookup_misses (hget : r.get? fp = none) :
    (Binding.lookup fp).step loader .release root disk r = (r, .search fp) := by
  unfold Binding.step
  simp only [BuildMode.alwaysRebuild, hget]
  rfl

theorem search_finds (hp : (Location.of root fp).published? disk = some p) :
    (Binding.search fp).step loader .release root disk r = (r, .slot p) := by
  unfold Binding.step
  simp only [hp]

/-- A caller that finds a kernel published loads it and registers the handle. -/
theorem steps_lookup {r : Registry κ} {fp : Fingerprint} {p : Published} {info : Metadata} {code : κ}
    (hget : r.get? fp = none) (hp : (Location.of root fp).published? disk = some p) (hidle : r.Idle fp)
    (hload : loader (r.loads + 1) p disk = .ok (info, code)) :
    ∃ r', steps loader .release root disk 8 r (.lookup fp) =
        (r', .done (.ok (some ⟨r.made, p.fingerprint, p.location, info, code⟩))) ∧
      r.Gains ⟨r.made, p.fingerprint, p.location, info, code⟩ r' := by
  obtain rfl : p.fingerprint = fp := Location.fingerprint_published? hp
  obtain ⟨r', hsteps, hgains⟩ := @steps_slot κ loader .release root disk r p info code hidle (fun _ => hget) hload
  refine ⟨r', ?_, hgains⟩
  rw [steps_of_step (lookup_misses hget), steps_of_step (search_finds hp), hsteps]

end Binding

namespace Registry

variable {loader : Loader κ} {mode : BuildMode} {root : Place} {disk : Disk} {r : Registry κ} {fp : Fingerprint}
  {p : Published} {info : Metadata} {code : κ}

theorem resolve_registered {h : Handle κ} (hget : r.get? fp = some h) :
    r.resolve loader .release root disk fp = (r, .ok (some h)) := by
  have hlookup : (Binding.lookup fp).step loader .release root disk r = (r, .done (.ok (some h))) := by
    unfold Binding.step
    simp only [BuildMode.alwaysRebuild, hget]
    rfl
  simp only [resolve, Binding.steps_of_step hlookup, Binding.steps_done, Binding.outcome]

theorem resolve_unpublished (hget : r.get? fp = none) (hp : (Location.of root fp).published? disk = none) :
    r.resolve loader .release root disk fp = (r, .ok none) := by
  have hsearch : (Binding.search fp).step loader .release root disk r = (r, .done (.ok none)) := by
    unfold Binding.step
    simp only [hp]
  simp only [resolve, Binding.steps_of_step (Binding.lookup_misses hget), Binding.steps_of_step hsearch,
    Binding.steps_done, Binding.outcome]

/-- In debug mode a caller never takes what is there. -/
theorem resolve_debug : r.resolve loader .debug root disk fp = (r, .ok none) := by
  have hlookup : (Binding.lookup fp).step loader .debug root disk r = (r, .done (.ok none)) := rfl
  simp only [resolve, Binding.steps_of_step hlookup, Binding.steps_done, Binding.outcome]

theorem resolve_published (hget : r.get? fp = none) (hp : (Location.of root fp).published? disk = some p)
    (hidle : r.Idle fp) (hload : loader (r.loads + 1) p disk = .ok (info, code)) :
    ∃ r', r.resolve loader .release root disk fp =
        (r', .ok (some ⟨r.made, p.fingerprint, p.location, info, code⟩)) ∧
      r.Gains ⟨r.made, p.fingerprint, p.location, info, code⟩ r' := by
  obtain ⟨r', hsteps, hgains⟩ := Binding.steps_lookup hget hp hidle hload
  refine ⟨r', ?_, hgains⟩
  simp only [resolve, hsteps, Binding.outcome]

theorem install_new (hidle : r.Idle p.fingerprint) (hnew : mode = .release → r.get? p.fingerprint = none)
    (hload : loader (r.loads + 1) p disk = .ok (info, code)) :
    ∃ r', r.install loader mode root disk p = (r', .ok ⟨r.made, p.fingerprint, p.location, info, code⟩) ∧
      r.Gains ⟨r.made, p.fingerprint, p.location, info, code⟩ r' := by
  obtain ⟨r', hsteps, hgains⟩ := @Binding.steps_slot κ loader mode root disk r p info code hidle hnew hload
  refine ⟨r', ?_, hgains⟩
  simp only [install, hsteps, Binding.outcome]

end Registry

end KernelForge
