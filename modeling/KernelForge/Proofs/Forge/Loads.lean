import KernelForge.Forge
import KernelForge.Proofs.Cache.Production
import KernelForge.Proofs.Loading.Alone

/-!
The work that a run of loads takes.

A process loads one kernel after the other through one forge. `Receipt` is what a call has cost and what it
gave, and `Forge.serveAll` collects the receipts of a run. Where every build and every load of a library
goes well, a call does one of three things (`Fulfils`): it gives the handle that is registered, it loads
what is published, or it builds. In release mode a kernel is built once if it was not published, loaded
once, and has one handle from then on (`Receipt.Thrifty`); in debug mode every call builds and loads anew,
and the last handle of a kernel stays registered (`Receipt.Lavish`). `Tally.Regular` is what one call keeps
of this (`Regular.serve`), and so a whole run (`loads_work`). There has to be room for the names of the
libraries: where there is none, every call builds, and none gives a handle (`loads_cramped`).
-/
namespace KernelForge

variable {κ : Type}

/-! ### Receipts -/

/-- What one call has cost and what it gave: how often the generator and the loader ran meanwhile, and the
result. -/
structure Receipt (κ : Type) where
  fingerprint : Fingerprint
  runs : Nat
  loads : Nat
  result : Except ForgeError (Handle κ)

namespace Receipt

/-- The receipts for one kernel. -/
def about (fp : Fingerprint) (receipts : List (Receipt κ)) : List (Receipt κ) :=
  receipts.filter fun r => r.fingerprint = fp

/-- What was spent on one kernel. -/
def spent (cost : Receipt κ → Nat) (fp : Fingerprint) (receipts : List (Receipt κ)) : Nat :=
  ((about fp receipts).map cost).sum

/-- The handle that the last call for a kernel gave. -/
def latest? (fp : Fingerprint) (receipts : List (Receipt κ)) : Option (Handle κ) :=
  (about fp receipts).getLast?.bind fun r => r.result.toOption

variable {receipts : List (Receipt κ)} {r : Receipt κ} {fp : Fingerprint}

theorem about_concat (fp : Fingerprint) (receipts : List (Receipt κ)) (r : Receipt κ) :
    about fp (receipts ++ [r]) = if r.fingerprint = fp then about fp receipts ++ [r] else about fp receipts := by
  unfold about
  rw [List.filter_append]
  split
  · next h => rw [List.filter_cons_of_pos (by simpa using h), List.filter_nil]
  · next h => rw [List.filter_cons_of_neg (by simpa using h), List.filter_nil, List.append_nil]

theorem spent_concat (cost : Receipt κ → Nat) (fp : Fingerprint) (receipts : List (Receipt κ)) (r : Receipt κ) :
    spent cost fp (receipts ++ [r]) = spent cost fp receipts + if r.fingerprint = fp then cost r else 0 := by
  unfold spent
  rw [about_concat]
  split
  · rw [List.map_append, List.map_singleton, List.sum_append, List.sum_singleton]
  · rfl

theorem latest?_concat (fp : Fingerprint) (receipts : List (Receipt κ)) (r : Receipt κ) :
    latest? fp (receipts ++ [r]) = if r.fingerprint = fp then r.result.toOption else latest? fp receipts := by
  unfold latest?
  rw [about_concat]
  split
  · rw [List.getLast?_concat, Option.bind_some]
  · rfl

theorem about_eq_nil (h : fp ∉ receipts.map (·.fingerprint)) : about fp receipts = [] := by
  refine List.filter_eq_nil_iff.mpr fun r hr => ?_
  simpa using fun he : r.fingerprint = fp => h (he ▸ List.mem_map_of_mem hr)

theorem spent_eq_zero {cost : Receipt κ → Nat} (h : fp ∉ receipts.map (·.fingerprint)) :
    spent cost fp receipts = 0 := by
  rw [spent, about_eq_nil h]
  rfl

theorem of_latest? {h : Handle κ} (hlatest : latest? fp receipts = some h) :
    ∃ r ∈ receipts, r.fingerprint = fp ∧ r.result = .ok h := by
  obtain ⟨r, hr, hresult⟩ := Option.bind_eq_some_iff.mp hlatest
  obtain ⟨hmem, hfp⟩ := List.mem_filter.mp (List.mem_of_getLast? hr)
  refine ⟨r, hmem, by simpa using hfp, ?_⟩
  cases hok : r.result with
  | error e =>
    rw [hok] at hresult
    cases hresult
  | ok h' =>
    rw [hok] at hresult
    exact congrArg _ (Option.some.inj hresult)

/-- Where every call gave a handle, a kernel that was asked for has a latest one. -/
theorem latest?_ne_none (hserved : ∀ r ∈ receipts, ∃ h, r.result = .ok h)
    (hfp : fp ∈ receipts.map (·.fingerprint)) :
    latest? fp receipts ≠ none := by
  obtain ⟨r, hr, rfl⟩ := List.mem_map.mp hfp
  have hmem : r ∈ about r.fingerprint receipts := List.mem_filter.mpr ⟨hr, by simp⟩
  obtain ⟨last, hlast⟩ := Option.isSome_iff_exists.mp (List.getLast?_isSome.mpr (List.ne_nil_of_mem hmem))
  obtain ⟨h, hok⟩ := hserved last (List.mem_filter.mp (List.mem_of_getLast? hlast)).1
  rw [latest?, hlast, Option.bind_some, hok]
  exact Option.some_ne_none h

/-- Two calls gave the same handle if they were for the same kernel, and else handles of different numbers. -/
def Agree (a b : Receipt κ) : Prop :=
  ∀ h h', a.result = .ok h → b.result = .ok h' →
    (h = h' ↔ a.fingerprint = b.fingerprint) ∧ (h.serial = h'.serial ↔ a.fingerprint = b.fingerprint)

/-- Two calls gave different handles. -/
def Differ (a b : Receipt κ) : Prop :=
  ∀ h h', a.result = .ok h → b.result = .ok h' → h.serial ≠ h'.serial

/-- No work was done twice: the generator ran once for every kernel that was asked for and not published
before, and never for a kernel that was; the loader ran once for every kernel that was asked for; and each
kernel has one handle. -/
structure Thrifty (published : Fingerprint → Prop) (receipts : List (Receipt κ)) : Prop where
  builds : ∀ fp ∈ receipts.map (·.fingerprint), ¬published fp → spent (·.runs) fp receipts = 1
  spares : ∀ fp, published fp → spent (·.runs) fp receipts = 0
  loads : ∀ fp ∈ receipts.map (·.fingerprint), spent (·.loads) fp receipts = 1
  agree : ∀ a ∈ receipts, ∀ b ∈ receipts, a.Agree b

/-- Every call ran the generator once and the loader once, and gave a handle of its own. -/
structure Lavish (receipts : List (Receipt κ)) : Prop where
  builds : ∀ r ∈ receipts, r.runs = 1
  loads : ∀ r ∈ receipts, r.loads = 1
  differ : receipts.Pairwise Differ

namespace Thrifty

variable {published : Fingerprint → Prop}

theorem nil : Thrifty published ([] : List (Receipt κ)) :=
  ⟨by simp, fun _ _ => rfl, by simp, by simp⟩

/-- A call that costs nothing and gives what an earlier one gave. -/
theorem again (h : Thrifty published receipts) {a : Receipt κ} (ha : a ∈ receipts)
    (hfp : a.fingerprint = r.fingerprint) (hresult : a.result = r.result) (hruns : r.runs = 0)
    (hloads : r.loads = 0) :
    Thrifty published (receipts ++ [r]) := by
  have hasked : ∀ fp ∈ (receipts ++ [r]).map (·.fingerprint), fp ∈ receipts.map (·.fingerprint) := by
    intro fp hmem
    rw [List.map_append, List.map_singleton, List.mem_append, List.mem_singleton] at hmem
    rcases hmem with hmem | rfl
    · exact hmem
    · exact hfp ▸ List.mem_map_of_mem ha
  -- The receipt is as good as the earlier one wherever handles are compared.
  have hlike : ∀ b ∈ receipts ++ [r], ∃ b' ∈ receipts, b'.fingerprint = b.fingerprint ∧ b'.result = b.result := by
    intro b hb
    rcases List.mem_append.mp hb with hb | hb
    · exact ⟨b, hb, rfl, rfl⟩
    · rw [List.mem_singleton.mp hb]
      exact ⟨a, ha, hfp, hresult⟩
  refine ⟨fun fp hmem hp => ?_, fun fp hp => ?_, fun fp hmem => ?_, fun b hb c hc => ?_⟩
  · rw [spent_concat, hruns, ite_self, Nat.add_zero, h.builds fp (hasked fp hmem) hp]
  · rw [spent_concat, hruns, ite_self, Nat.add_zero, h.spares fp hp]
  · rw [spent_concat, hloads, ite_self, Nat.add_zero, h.loads fp (hasked fp hmem)]
  · obtain ⟨b', hb', hbfp, hbresult⟩ := hlike b hb
    obtain ⟨c', hc', hcfp, hcresult⟩ := hlike c hc
    have hagree := h.agree b' hb' c' hc'
    rwa [Agree, hbfp, hbresult, hcfp, hcresult] at hagree

theorem first (h : Thrifty published receipts) (hnew : r.fingerprint ∉ receipts.map (·.fingerprint))
    (hbuilt : ¬published r.fingerprint → r.runs = 1) (hfound : published r.fingerprint → r.runs = 0)
    (hloads : r.loads = 1) (hdiffer : ∀ a ∈ receipts, a.Differ r) : Thrifty published (receipts ++ [r]) := by
  have hasked : ∀ fp ∈ (receipts ++ [r]).map (·.fingerprint), fp ∈ receipts.map (·.fingerprint) ∨
      fp = r.fingerprint := by
    simp
  have hne : ∀ fp ∈ receipts.map (·.fingerprint), r.fingerprint ≠ fp := by
    rintro fp hold rfl
    exact hnew hold
  have hother : ∀ a ∈ receipts, r.fingerprint ≠ a.fingerprint := fun a ha => hne _ (List.mem_map_of_mem ha)
  refine ⟨fun fp hmem hp => ?_, fun fp hp => ?_, fun fp hmem => ?_, fun a ha b hb k k' hk hk' => ?_⟩
  · rw [spent_concat]
    rcases hasked fp hmem with hold | rfl
    · rw [h.builds fp hold hp, if_neg (hne fp hold)]
    · rw [spent_eq_zero hnew, if_pos rfl, hbuilt hp]
  · rw [spent_concat, h.spares fp hp]
    split
    · next he => rw [hfound (he ▸ hp)]
    · rfl
  · rw [spent_concat]
    rcases hasked fp hmem with hold | rfl
    · rw [h.loads fp hold, if_neg (hne fp hold)]
    · rw [spent_eq_zero hnew, if_pos rfl, hloads]
  · rcases List.mem_append.mp ha with ha | ha <;> rcases List.mem_append.mp hb with hb | hb
    · exact h.agree a ha b hb k k' hk hk'
    · rw [List.mem_singleton.mp hb] at hk' ⊢
      have hserial := hdiffer a ha k k' hk hk'
      exact ⟨iff_of_false (fun he => hserial (he ▸ rfl)) (hother a ha).symm,
        iff_of_false hserial (hother a ha).symm⟩
    · rw [List.mem_singleton.mp ha] at hk ⊢
      have hserial := (hdiffer b hb k' k hk' hk).symm
      exact ⟨iff_of_false (fun he => hserial (he ▸ rfl)) (hother b hb), iff_of_false hserial (hother b hb)⟩
    · rw [List.mem_singleton.mp ha] at hk ⊢
      rw [List.mem_singleton.mp hb] at hk' ⊢
      have hsame : k = k' := Except.ok.inj (hk.symm.trans hk')
      exact ⟨iff_of_true hsame rfl, iff_of_true (hsame ▸ rfl) rfl⟩

end Thrifty

theorem Lavish.concat (h : Lavish receipts) (hruns : r.runs = 1) (hloads : r.loads = 1)
    (hdiffer : ∀ a ∈ receipts, a.Differ r) : Lavish (receipts ++ [r]) := by
  refine ⟨fun a ha => ?_, fun a ha => ?_,
    List.pairwise_append.mpr ⟨h.differ, List.pairwise_singleton _ _, by simpa using hdiffer⟩⟩
  · rcases List.mem_append.mp ha with ha | ha
    · exact h.builds a ha
    · rw [List.mem_singleton.mp ha, hruns]
  · rcases List.mem_append.mp ha with ha | ha
    · exact h.loads a ha
    · rw [List.mem_singleton.mp ha, hloads]

end Receipt

/-! ### One call -/

/-- What a call did that gave a handle. -/
inductive Fulfils (mode : BuildMode) (published : Fingerprint → Prop) (fp : Fingerprint) (ws ws' : Workspace κ)
    (h : Handle κ) : Prop
  /-- It gave the handle that is registered. -/
  | registered (release : mode = .release) (get : ws.registry.get? fp = some h) (still : ws' = ws)
  /-- It loaded what is published. -/
  | found (release : mode = .release) (get : ws.registry.get? fp = none) (there : published fp)
      (still : ws'.host = ws.host) (gains : ws.registry.Gains h ws'.registry) (serial : h.serial = ws.registry.made)
      (fingerprint : h.fingerprint = fp)
  /-- It built. -/
  | built (needed : mode = .release → ws.registry.get? fp = none ∧ ¬published fp)
      (runs : ws'.host.runs = ws.host.runs + 1) (gains : ws.registry.Gains h ws'.registry)
      (serial : h.serial = ws.registry.made) (fingerprint : h.fingerprint = fp)

/-- Every library that is published can be loaded. -/
def Loader.Succeeds (loader : Loader κ) : Prop :=
  ∀ n p disk, ∃ kernel, loader n p disk = .ok kernel

namespace Forge

variable {forge : Forge κ} {depot : Depot} {used published : Fingerprint → Prop} {spec : KernelSpec}
  {fp : Fingerprint} {ws : Workspace κ}

theorem buildAndInstall_serves (hroot : forge.store.root = depot.root) (hfp : forge.fingerprint spec = fp)
    (hstock : depot.Stocked used published ws.host) (hu : used fp)
    (hg : forge.generator.Provides (depot.site fp (hstock.kernels fp hu))) (hloader : forge.loader.Succeeds)
    (hfree : ws.registry.locked = [])
    (hneeded : forge.store.mode = .release → ws.registry.get? fp = none ∧ ¬published fp) :
    ∃ ws' h, forge.buildAndInstall spec forge.store.mode.alwaysRebuild ws = (ws', .ok h) ∧
      Fulfils forge.store.mode published fp ws ws' h ∧ depot.Stocked used (fun q => published q ∨ q = fp)
        ws'.host := by
  have hplain : forge.store.mode.alwaysRebuild = false → ¬published fp := by
    cases hmode : forge.store.mode with
    | release => exact fun _ => (hneeded hmode).2
    | debug => simp [BuildMode.alwaysRebuild]
  obtain ⟨host, p, hbuild, rfl, hruns, hstock'⟩ := hstock.build hu _ hroot hg spec forge.target _ hplain
  obtain ⟨⟨info, code⟩, hload⟩ := hloader (ws.registry.loads + 1) p host.disk
  obtain ⟨registry, hinstall, hgains⟩ :=
    @Registry.install_new κ forge.loader forge.store.mode forge.store.root host.disk
    ws.registry p info code (Registry.idle_of_unlocked hfree _) (fun hmode => (hneeded hmode).1) hload
  refine ⟨{ host, registry }, ⟨ws.registry.made, p.fingerprint, p.location, info, code⟩, ?_,
    .built hneeded hruns hgains rfl rfl, hstock'⟩
  unfold buildAndInstall
  rw [hfp, hbuild]
  simp only [install, hinstall]

/-- **What a call does where builds and loads go well.** -/
theorem load_serves (hroot : forge.store.root = depot.root) (hfp : forge.fingerprint spec = fp)
    (hstock : depot.Stocked used published ws.host) (hu : used fp)
    (hg : forge.generator.Provides (depot.site fp (hstock.kernels fp hu))) (hloader : forge.loader.Succeeds)
    (hfree : ws.registry.locked = []) (hregistered : ∀ h, ws.registry.get? fp = some h → published fp) :
    ∃ ws' h, forge.load spec ws = (ws', .ok h) ∧ Fulfils forge.store.mode published fp ws ws' h ∧
      depot.Stocked used (fun q => published q ∨ q = fp) ws'.host := by
  -- A call that finds no kernel builds one.
  have hbuilds (hresolve : ws.registry.resolve forge.loader forge.store.mode forge.store.root ws.host.disk fp =
        (ws.registry, .ok none))
      (hneeded : forge.store.mode = .release → ws.registry.get? fp = none ∧ ¬published fp) :
      ∃ ws' h, forge.load spec ws = (ws', .ok h) ∧ Fulfils forge.store.mode published fp ws ws' h ∧
        depot.Stocked used (fun q => published q ∨ q = fp) ws'.host := by
    have hload : forge.load spec ws = forge.buildAndInstall spec forge.store.mode.alwaysRebuild ws := by
      simp only [load, resolve, hfp, hresolve]
    rw [hload]
    exact buildAndInstall_serves hroot hfp hstock hu hg hloader hfree hneeded
  have hstill (hp : published fp) : depot.Stocked used (fun q => published q ∨ q = fp) ws.host := by
    have hsame : (fun q => published q ∨ q = fp) = published :=
      funext fun q => propext (or_iff_left_of_imp fun he => he ▸ hp)
    rwa [hsame]
  cases hmode : forge.store.mode with
  | debug =>
    rw [hmode] at hbuilds
    exact hbuilds Registry.resolve_debug (by simp)
  | release =>
    rw [hmode] at hbuilds
    cases hget : ws.registry.get? fp with
    | some h =>
      refine ⟨ws, h, ?_, .registered rfl hget rfl, hstill (hregistered h hget)⟩
      simp only [load, resolve, hfp, hmode, Registry.resolve_registered hget]
    | none =>
      by_cases hp : published fp
      · obtain ⟨m, hfound⟩ := hstock.published? hu hp
        rw [← hroot] at hfound
        obtain ⟨⟨info, code⟩, hloaded⟩ := hloader (ws.registry.loads + 1) _ ws.host.disk
        obtain ⟨registry, hresolve, hgains⟩ := Registry.resolve_published hget hfound
          (Registry.idle_of_unlocked hfree _) hloaded
        refine ⟨{ ws with registry }, _, ?_,
          .found rfl hget hp rfl hgains rfl (Location.fingerprint_published? hfound), hstill hp⟩
        simp only [load, resolve, hfp, hmode, hresolve]
      · have hnone := hstock.unpublished? hu hp
        rw [← hroot] at hnone
        exact hbuilds (Registry.resolve_unpublished hget hnone) fun _ => ⟨hget, hp⟩

end Forge

/-! ### Runs -/

/-- A process, and the receipts of its calls so far. -/
structure Tally (κ : Type) where
  workspace : Workspace κ
  receipts : List (Receipt κ) := []

namespace Forge

/-- One more call. -/
def serve (forge : Forge κ) (t : Tally κ) (spec : KernelSpec) : Tally κ :=
  let (workspace, result) := forge.load spec t.workspace
  { workspace
    receipts := t.receipts ++
      [{ fingerprint := forge.fingerprint spec
         runs := workspace.host.runs - t.workspace.host.runs
         loads := workspace.registry.loads - t.workspace.registry.loads
         result }] }

/-- A process with nothing loaded asks for one kernel after the other. -/
def serveAll (forge : Forge κ) (specs : List KernelSpec) (host : Host) : Tally κ :=
  specs.foldl forge.serve { workspace := { host } }

end Forge

namespace Tally

/-- What holds between two calls: the kernels that were asked for are published, the last handle of each is
registered, and what was done is what the mode asks for. -/
structure Regular (mode : BuildMode) (depot : Depot) (used published : Fingerprint → Prop) (t : Tally κ) :
    Prop where
  stocked : depot.Stocked used (fun q => published q ∨ q ∈ t.receipts.map (·.fingerprint)) t.workspace.host
  unlocked : t.workspace.registry.locked = []
  latest : ∀ fp, t.workspace.registry.get? fp = Receipt.latest? fp t.receipts
  served : ∀ r ∈ t.receipts, ∃ h, r.result = .ok h ∧ h.serial < t.workspace.registry.made
  thrifty : mode = .release → Receipt.Thrifty published t.receipts
  lavish : mode = .debug → Receipt.Lavish t.receipts

variable {mode : BuildMode} {depot : Depot} {used published : Fingerprint → Prop} {t : Tally κ} {fp : Fingerprint}
  {h : Handle κ}

namespace Regular

theorem start {host : Host} (hstock : depot.Stocked used published host) :
    Regular mode depot used published ({ workspace := { host } } : Tally κ) := by
  refine ⟨?_, rfl, fun _ => rfl, by simp, fun _ => .nil, fun _ => ⟨by simp, by simp, .nil⟩⟩
  simpa using hstock

theorem asked (hreg : Regular mode depot used published t) (hget : t.workspace.registry.get? fp = some h) :
    ∃ r ∈ t.receipts, r.fingerprint = fp ∧ r.result = .ok h :=
  Receipt.of_latest? ((hreg.latest fp).symm.trans hget)

theorem not_asked (hreg : Regular mode depot used published t) (hget : t.workspace.registry.get? fp = none) :
    fp ∉ t.receipts.map (·.fingerprint) := by
  intro hmem
  refine Receipt.latest?_ne_none (fun r hr => ?_) hmem ((hreg.latest fp).symm.trans hget)
  obtain ⟨h, hok, _⟩ := hreg.served r hr
  exact ⟨h, hok⟩

variable {r : Receipt κ} {registry : Registry κ} {forge : Forge κ}

/-- A handle that is made now has a number that no earlier one has. -/
theorem differ (hreg : Regular mode depot used published t) (hr : r.result = .ok h)
    (hserial : h.serial = t.workspace.registry.made) : ∀ a ∈ t.receipts, a.Differ r := by
  intro a ha k k' hk hk'
  obtain ⟨k₀, hk₀, hlt⟩ := hreg.served a ha
  have hold : k₀ = k := Except.ok.inj (hk₀.symm.trans hk)
  have hnew : h = k' := Except.ok.inj (hr.symm.trans hk')
  subst hold hnew
  omega

theorem latest_gains (hreg : Regular mode depot used published t) (hgains : t.workspace.registry.Gains h registry)
    (hr : r.result = .ok h) (hfp : h.fingerprint = r.fingerprint) (q : Fingerprint) :
    registry.get? q = Receipt.latest? q (t.receipts ++ [r]) := by
  rw [hgains.get?, Receipt.latest?_concat, hfp, hr, hreg.latest]
  by_cases hq : q = r.fingerprint
  · rw [if_pos hq, if_pos hq.symm]
    rfl
  · rw [if_neg hq, if_neg (Ne.symm hq)]

theorem served_gains (hreg : Regular mode depot used published t) (hgains : t.workspace.registry.Gains h registry)
    (hr : r.result = .ok h) (hserial : h.serial = t.workspace.registry.made) :
    ∀ a ∈ t.receipts ++ [r], ∃ k, a.result = .ok k ∧ k.serial < registry.made := by
  intro a ha
  rw [hgains.made]
  rcases List.mem_append.mp ha with ha | ha
  · obtain ⟨k, hk, hlt⟩ := hreg.served a ha
    exact ⟨k, hk, Nat.lt_succ_of_lt hlt⟩
  · rw [List.mem_singleton.mp ha]
    exact ⟨h, hr, hserial ▸ Nat.lt_succ_self _⟩

/-- **One call keeps it.** -/
theorem serve (hreg : Regular forge.store.mode depot used published t) (hroot : forge.store.root = depot.root)
    (hloader : forge.loader.Succeeds) {spec : KernelSpec} (hfp : forge.fingerprint spec = fp) (hu : used fp)
    (hg : forge.generator.Provides (depot.site fp (hreg.stocked.kernels fp hu))) :
    Regular forge.store.mode depot used published (forge.serve t spec) := by
  have hregistered : ∀ h, t.workspace.registry.get? fp = some h →
      published fp ∨ fp ∈ t.receipts.map (·.fingerprint) := by
    intro h hget
    obtain ⟨r, hr, rfl, _⟩ := hreg.asked hget
    exact .inr (List.mem_map_of_mem hr)
  obtain ⟨ws, h, hload, hserved, hstock⟩ :=
    Forge.load_serves hroot hfp hreg.stocked hu hg hloader hreg.unlocked hregistered
  unfold Forge.serve
  rw [hload, hfp]
  dsimp only
  generalize hr : Receipt.mk fp (ws.host.runs - t.workspace.host.runs)
    (ws.registry.loads - t.workspace.registry.loads) (.ok h) = r
  have hstocked : depot.Stocked used (fun q => published q ∨ q ∈ (t.receipts ++ [r]).map (·.fingerprint))
      ws.host := by
    have hset : (fun q => published q ∨ q ∈ (t.receipts ++ [r]).map (·.fingerprint)) =
        fun q => (published q ∨ q ∈ t.receipts.map (·.fingerprint)) ∨ q = fp := by
      funext q
      simp [← hr, or_assoc]
    rwa [hset]
  have hresult : r.result = .ok h := by rw [← hr]
  have hprint : r.fingerprint = fp := by rw [← hr]
  cases hserved with
  | registered release get still =>
    subst still
    obtain ⟨a, ha, hafp, haresult⟩ := hreg.asked get
    refine ⟨hstocked, hreg.unlocked, fun q => ?_, fun b hb => ?_, fun _ => ?_, by simp [release]⟩
    · rw [Receipt.latest?_concat, hprint, hresult, hreg.latest]
      split
      · next he =>
        rw [← he, ← hreg.latest, get]
        rfl
      · rfl
    · rcases List.mem_append.mp hb with hb | hb
      · exact hreg.served b hb
      · obtain ⟨k, hk, hlt⟩ := hreg.served a ha
        rw [List.mem_singleton.mp hb]
        exact ⟨k, hresult.trans (haresult.symm.trans hk), hlt⟩
    · exact (hreg.thrifty release).again ha (hafp.trans hprint.symm) (haresult.trans hresult.symm)
        (by simp [← hr]) (by simp [← hr])
  | found release get there still gains serial fingerprint =>
    have hnew := hreg.not_asked get
    have hp : published fp := there.resolve_right hnew
    refine ⟨hstocked, gains.locked.trans hreg.unlocked,
      hreg.latest_gains gains hresult (fingerprint.trans hprint.symm),
      hreg.served_gains gains hresult serial, fun _ => ?_, by simp [release]⟩
    exact (hreg.thrifty release).first (hprint ▸ hnew) (fun hnot => absurd hp (hprint ▸ hnot))
      (fun _ => by simp [← hr, still]) (by simp [← hr, gains.loads]) (hreg.differ hresult serial)
  | built needed runs gains serial fingerprint =>
    have hruns : r.runs = 1 := by simp [← hr, runs]
    have hloads : r.loads = 1 := by simp [← hr, gains.loads]
    refine ⟨hstocked, gains.locked.trans hreg.unlocked,
      hreg.latest_gains gains hresult (fingerprint.trans hprint.symm),
      hreg.served_gains gains hresult serial, fun release => ?_, fun debug => ?_⟩
    · obtain ⟨get, hnot⟩ := needed release
      exact (hreg.thrifty release).first (hprint ▸ hreg.not_asked get) (fun _ => hruns)
        (fun hp => absurd (.inl (hprint ▸ hp)) hnot) hloads (hreg.differ hresult serial)
    · exact (hreg.lavish debug).concat hruns hloads (hreg.differ hresult serial)

/-- A whole run keeps it. -/
theorem serveAll (hreg : Regular forge.store.mode depot used published t) (hroot : forge.store.root = depot.root)
    (hloader : forge.loader.Succeeds)
    (hg : ∀ fp (hu : used fp), forge.generator.Provides (depot.site fp (hreg.stocked.kernels fp hu)))
    (specs : List KernelSpec) (hspecs : ∀ spec ∈ specs, used (forge.fingerprint spec)) :
    Regular forge.store.mode depot used published (specs.foldl forge.serve t) := by
  induction specs generalizing t with
  | nil => exact hreg
  | cons spec specs ih =>
    have hu := hspecs spec List.mem_cons_self
    exact ih (hreg.serve hroot hloader rfl hu (hg _ hu)) hg
      fun other hmem => hspecs other (List.mem_cons_of_mem _ hmem)

end Regular

end Tally

namespace Forge

theorem fingerprints_serve (forge : Forge κ) (t : Tally κ) (spec : KernelSpec) :
    (forge.serve t spec).receipts.map (·.fingerprint) = t.receipts.map (·.fingerprint) ++
      [forge.fingerprint spec] := by
  unfold serve
  rw [List.map_append, List.map_singleton]

theorem fingerprints_serveAll (forge : Forge κ) (specs : List KernelSpec) (t : Tally κ) :
    (specs.foldl forge.serve t).receipts.map (·.fingerprint) =
      t.receipts.map (·.fingerprint) ++ specs.map forge.fingerprint := by
  induction specs generalizing t with
  | nil => rw [List.foldl_nil, List.map_nil, List.append_nil]
  | cons spec specs ih =>
    rw [List.foldl_cons, ih, fingerprints_serve, List.append_assoc, List.map_cons, List.singleton_append]

/-- **The work of a run of loads.** A process with nothing loaded loads any kernels one after the other from
a depot where some of them are published and nothing is at the locations of the others, its generator always
leaves a library, and its loader always succeeds. Then every call gives a handle. In release mode the
generator runs once for each kernel that was not published and never for the others, the loader runs once
for each kernel, and two calls give the same handle if and only if they are for the same kernel. In debug
mode the generator and the loader run once for each call, all handles differ, and each kernel stays
registered by the handle of the last call for it. -/
theorem loads_work (forge : Forge κ) (depot : Depot) (hroot : forge.store.root = depot.root)
    (specs : List KernelSpec) (published : Fingerprint → Prop) (host : Host)
    (hstock : depot.Stocked (fun fp => fp ∈ specs.map forge.fingerprint) published host)
    (hgenerator : ∀ fp (h : fp ∈ specs.map forge.fingerprint),
      forge.generator.Provides (depot.site fp (hstock.kernels fp h)))
    (hloader : forge.loader.Succeeds) :
    (forge.serveAll specs host).receipts.map (·.fingerprint) = specs.map forge.fingerprint ∧
      (∀ r ∈ (forge.serveAll specs host).receipts, ∃ h, r.result = .ok h) ∧
      (forge.store.mode = .release → Receipt.Thrifty published (forge.serveAll specs host).receipts) ∧
      (forge.store.mode = .debug → Receipt.Lavish (forge.serveAll specs host).receipts ∧
        ∀ fp, (forge.serveAll specs host).workspace.registry.get? fp =
          Receipt.latest? fp (forge.serveAll specs host).receipts) := by
  have hreg := (Tally.Regular.start hstock).serveAll hroot hloader hgenerator specs fun spec hmem =>
    List.mem_map_of_mem hmem
  refine ⟨fingerprints_serveAll forge specs _, fun r hr => ?_, hreg.thrifty, fun debug =>
    ⟨hreg.lavish debug, hreg.latest⟩⟩
  obtain ⟨h, hok, _⟩ := hreg.served r hr
  exact ⟨h, hok⟩

/-! ### Names that do not fit -/

section Cramped

variable {forge : Forge κ} {spec : KernelSpec} {ws : Workspace κ} {s : Site}
  (hs : forge.store.location (forge.fingerprint spec) = s.location) (hg : forge.generator.Provides s)
  (hlong : s.Cramped)
include hs hg hlong

/-- A call where no library can be published has run the generator for nothing. -/
theorem load_cramped (hget : ws.registry.get? (forge.fingerprint spec) = none) (h : s.Accessible ws.host)
    (hu : s.Unpublished ws.host.disk) :
    ∃ host e, forge.load spec ws = ({ ws with host }, .error (.build e)) ∧ host.runs = ws.host.runs + 1 ∧
      s.Accessible host ∧ s.Unpublished host.disk := by
  have hfp : s.location.fingerprint = forge.fingerprint spec := by
    rw [← hs]
    rfl
  have hnone : forge.store.published? (forge.fingerprint spec) ws.host.disk = none := by
    rw [Store.published?, hs]
    rcases h.bears.at_key with hkey | hfolder
    · exact Site.published?_absent h.bears hkey
    · exact Site.published?_unpublished ⟨h.bears, hfolder⟩ hu
  have hresolve : forge.resolve (forge.fingerprint spec) ws = (ws, .ok none) := by
    unfold resolve
    cases hmode : forge.store.mode with
    | debug => rw [Registry.resolve_debug]
    | release => rw [Registry.resolve_unpublished hget hnone]
  obtain ⟨host, e, hbuild, hruns, haccess, hfree⟩ :=
    @Store.build_cramped forge.store s forge.generator spec forge.target
    forge.store.mode.alwaysRebuild ws.host (by rw [hfp, hs]) hg h (fun _ => hu) hlong
  rw [hfp] at hbuild
  have hload : forge.load spec ws = forge.buildAndInstall spec forge.store.mode.alwaysRebuild ws := by
    simp only [load, hresolve]
  refine ⟨host, e, ?_, hruns, haccess, hfree⟩
  rw [hload]
  unfold buildAndInstall
  simp only [hbuild]

/-- **Where no library can be published, every call runs the generator, and none gives a handle.** -/
theorem loads_cramped {host : Host} (h : s.Accessible host) (hu : s.Unpublished host.disk) (n : Nat) :
    (forge.serveAll (.replicate n spec) host).receipts.map (fun r => (r.runs, r.loads, r.result.isOk)) =
      .replicate n (1, 0, false) := by
  have hrun : ∀ t : Tally κ, t.workspace.registry.get? (forge.fingerprint spec) = none →
      s.Accessible t.workspace.host → s.Unpublished t.workspace.host.disk →
      ((List.replicate n spec).foldl forge.serve t).receipts.map (fun r => (r.runs, r.loads, r.result.isOk)) =
        t.receipts.map (fun r => (r.runs, r.loads, r.result.isOk)) ++ .replicate n (1, 0, false) := by
    induction n with
    | zero => exact fun t _ _ _ => (List.append_nil _).symm
    | succ n ih =>
      intro t hget h hu
      obtain ⟨host, e, hload, hruns, haccess, hfree⟩ := load_cramped hs hg hlong hget h hu
      have hserve : forge.serve t spec = ⟨{ t.workspace with host },
          t.receipts ++ [⟨forge.fingerprint spec, 1, 0, .error (.build e)⟩]⟩ := by
        simp only [serve, hload, hruns, Nat.add_sub_cancel_left, Nat.sub_self]
      rw [List.replicate_succ, List.foldl_cons, hserve, ih ⟨{ t.workspace with host }, _⟩ hget haccess hfree,
        List.map_append, List.append_assoc]
      rfl
  exact hrun ⟨{ host }, []⟩ rfl h hu

end Cramped

end Forge

namespace Depot

open Disk

/-- Another kernel to build, which differs in its precision. -/
def doubleSpec : KernelSpec := { plainSpec with precision := .float64 }

/-- A forge whose generator always leaves a library. -/
def scribeForge (mode : BuildMode) : Forge Digest where
  store := { vacantStore with mode }
  target := .cpu
  gpuAvailable := false
  generator := scribe
  loader := fun _ p _ => .ok (⟨Metadata.currentAbi, .float32, 1, .outer, none⟩, p.manifest.checksum)

theorem double_ne_plain : Fingerprint.of doubleSpec .cpu ≠ .of plainSpec .cpu := by
  intro he
  have hchars := congrArg (fun fp : Fingerprint => fp.name.toList) he
  simp only [Fingerprint.toList_of, List.append_assoc, List.append_cancel_left_eq, List.cons_append,
    List.cons.injEq, true_and] at hchars
  exact absurd (List.append_inj_left hchars (by decide)) (by decide)

/-- A disk with an empty root. -/
def emptyHost : Host where
  disk := ({} : Disk).newFolder ([] ++ ["cache"]) 0o755

theorem stocked_empty {used : Fingerprint → Prop} (hused : ∀ fp, used fp → ∃ spec, Fingerprint.of spec .cpu = fp) :
    vacant.Stocked used (fun _ => False) emptyHost := by
  have hkernels : ∀ fp, used fp → vacant.kernels fp := by
    intro fp hu
    obtain ⟨spec, rfl⟩ := hused fp hu
    exact kernels_cpu spec
  have hroomy : ∀ fp (hu : used fp), (vacant.site fp (hkernels fp hu)).Roomy := by
    intro fp hu
    obtain ⟨spec, rfl⟩ := hused fp hu
    exact roomy_cpu spec
  have hlook := @look_newFolder {} [] "cache" rfl rfl 0o755
  have hroot : emptyHost.disk.root.look vacant.key = some .folder := (hlook _).trans (if_pos rfl)
  have hbears : vacant.ground.Bears emptyHost.disk.root := bears_root hroot
  have hnone (fp : Fingerprint) : emptyHost.disk.root.look (vacant.folder fp) = none :=
    (hlook _).trans (if_neg (by simp [folder, vacant]))
  exact ⟨hkernels, hbears, ⟨numbered_newFolder numbered_empty rfl rfl _, by simp [emptyHost]⟩, hroomy, fun _ => rfl,
    fun fp _ => .of_none (hnone fp), by simp,
    fun fp hu _ => ⟨hnone fp, create_goes _ hbears hroot rfl (hnone fp) (hroomy fp hu).ample⟩⟩

theorem stocked_built {used : Fingerprint → Prop} (hused : ∀ fp, used fp → ∃ spec, Fingerprint.of spec .cpu = fp)
    (spec : KernelSpec) (hu : used (.of spec .cpu)) :
    ∃ host, vacant.Stocked used (fun q => q = .of spec .cpu) host := by
  have hempty := stocked_empty hused
  obtain ⟨host, _, _, _, _, hstock⟩ :=
    hempty.build hu vacantStore rfl (scribe_provides (hempty.roomy _ hu).ample) spec .cpu true (by simp)
  exact ⟨host, by simpa using hstock⟩

/-- One of two kernels was built before. A process asks for it, for the other one and for it again: in
release mode it builds only the other one, and in debug mode it builds three times. -/
theorem loads_work_warm : ∃ host receipts receipts',
    receipts = ((scribeForge .release).serveAll [plainSpec, doubleSpec, plainSpec] host).receipts ∧
      Receipt.spent (·.runs) (.of plainSpec .cpu) receipts = 0 ∧
      Receipt.spent (·.runs) (.of doubleSpec .cpu) receipts = 1 ∧
      Receipt.spent (·.loads) (.of plainSpec .cpu) receipts = 1 ∧
      Receipt.spent (·.loads) (.of doubleSpec .cpu) receipts = 1 ∧
    receipts' = ((scribeForge .debug).serveAll [plainSpec, doubleSpec, plainSpec] host).receipts ∧
      receipts'.length = 3 ∧ Receipt.Lavish receipts' := by
  have hused (mode : BuildMode) (fp : Fingerprint)
      (h : fp ∈ [plainSpec, doubleSpec, plainSpec].map (scribeForge mode).fingerprint) :
      ∃ spec, Fingerprint.of spec .cpu = fp := by
    obtain ⟨spec, _, hspec⟩ := List.mem_map.mp h
    exact ⟨spec, hspec⟩
  obtain ⟨host, hstock⟩ := stocked_built (hused .release) plainSpec List.mem_cons_self
  obtain ⟨hprints, _, hthrifty, _⟩ := Forge.loads_work (scribeForge .release) vacant rfl _ _ host hstock
    (fun fp h => scribe_provides (hstock.roomy fp h).ample) fun _ _ _ => ⟨_, rfl⟩
  obtain ⟨hprints', _, _, hlavish⟩ := Forge.loads_work (scribeForge .debug) vacant rfl _ _ host hstock
    (fun fp h => scribe_provides (hstock.roomy fp h).ample) fun _ _ _ => ⟨_, rfl⟩
  have hasked (spec : KernelSpec) (hspec : spec ∈ [plainSpec, doubleSpec, plainSpec]) : Fingerprint.of spec .cpu ∈
      ((scribeForge .release).serveAll [plainSpec, doubleSpec, plainSpec] host).receipts.map (·.fingerprint) := by
    rw [hprints]
    exact @List.mem_map_of_mem _ _ _ _ (scribeForge .release).fingerprint hspec
  have hlength := congrArg List.length hprints'
  rw [List.length_map, List.length_map] at hlength
  have hplain := hasked plainSpec (by simp)
  have hdouble := hasked doubleSpec (by simp)
  exact ⟨host, _, _, rfl, (hthrifty rfl).spares _ rfl, (hthrifty rfl).builds _ hdouble double_ne_plain,
    (hthrifty rfl).loads _ hplain, (hthrifty rfl).loads _ hdouble, rfl, hlength, (hlavish rfl).1⟩

/-- A target with a long name. -/
def longTarget : Target := ⟨.ofList (.replicate 190 'b')⟩

theorem toList_long : longTarget.name.toList = .replicate 190 'b' := String.toList_ofList

theorem long_chars : ∀ c ∈ longTarget.name.toList, Target.isNameChar c = true := by
  intro c hc
  rw [toList_long] at hc
  rw [List.eq_of_mem_replicate hc]
  decide

theorem size_long (spec : KernelSpec) : (Fingerprint.of spec longTarget).name.utf8ByteSize = 238 := by
  rw [Fingerprint.size_of spec long_chars, toList_long, List.length_replicate]

theorem kernels_long (spec : KernelSpec) : vacant.kernels (.of spec longTarget) := by
  refine ⟨Fingerprint.single_of spec long_chars, ?_⟩
  rw [tooLong, size_long]
  decide

/-- The location of a kernel for that target. -/
def longSite (spec : KernelSpec) : Site := vacant.site (.of spec longTarget) (kernels_long spec)

theorem ample_long (spec : KernelSpec) : (longSite spec).Ample :=
  fault?_vacant _ (fun h => (Fingerprint.plain_of spec long_chars h).2.1 rfl) (by decide) (by decide)

theorem cramped_long (spec : KernelSpec) : (longSite spec).Cramped := by
  intro checksum hnone
  have hshort := (Site.fault?_eq_none_iff.mp hnone).2
  have hsize : (longSite spec).location.fingerprint.name.utf8ByteSize = 238 := size_long spec
  rw [tooLong, Fingerprint.size_publishedName, hsize] at hshort
  exact absurd hshort (by decide)

/-- A forge for that target in release mode, whose generator always leaves a library. -/
def longForge : Forge Digest := { scribeForge .release with target := longTarget }

/-- **A kernel can be built again with every call.** The target is a legal one, nothing is at the location,
the folder can be made there, the generator provides and the loader succeeds. But there is no room for the
name of the library, so a process that asks twice runs the generator twice and gets no handle. -/
theorem loads_build_again :
    Target.create? longForge.target.name = some longForge.target ∧
      longForge.fingerprint plainSpec = (longSite plainSpec).location.fingerprint ∧
      longForge.generator.Provides (longSite plainSpec) ∧ longForge.loader.Succeeds ∧
      emptyHost.disk.root.look (longSite plainSpec).key = none ∧
      ((longSite plainSpec).location.create emptyHost).2 = .ok () ∧
      (longForge.serveAll [plainSpec, plainSpec] emptyHost).receipts.map
        (fun r => (r.runs, r.loads, r.result.isOk)) = [(1, 0, false), (1, 0, false)] := by
  have hlegal : Target.create? longTarget.name = some longTarget := by
    have hall : longTarget.name.toList.all Target.isNameChar = true := List.all_eq_true.mpr long_chars
    have hne : longTarget.name.toList.isEmpty = false := by
      rw [toList_long, List.replicate_succ, List.isEmpty_cons]
    simp only [Target.create?, hall, hne, Bool.not_false, Bool.and_self, if_true]
  have hlook := @look_newFolder {} [] "cache" rfl rfl 0o755
  have hroot : emptyHost.disk.root.look vacant.key = some .folder := (hlook _).trans (if_pos rfl)
  have hbears : vacant.ground.Bears emptyHost.disk.root := bears_root hroot
  have hnone : emptyHost.disk.root.look (longSite plainSpec).key = none :=
    (hlook _).trans (if_neg (by simp [longSite, site, folder, vacant]))
  have hmade : ((longSite plainSpec).location.create emptyHost).2 = .ok () :=
    create_goes _ hbears hroot rfl hnone (ample_long plainSpec)
  have hbelow (name : String) : emptyHost.disk.root.look ((longSite plainSpec).path name) = none :=
    FileTree.look_none_below (List.prefix_append _ _) hnone
  have haccess : (longSite plainSpec).Accessible emptyHost :=
    ⟨vacant.bears_site _ hbears (.inl hnone), ⟨numbered_newFolder numbered_empty rfl rfl _, by simp [emptyHost]⟩,
      ample_long plainSpec, .inr hmade, .of_none hnone, .inl (hbelow _), by rw [hbelow]; simp⟩
  have hprovides : scribe.Provides (longSite plainSpec) := scribe_provides (ample_long plainSpec)
  have hlocation : longForge.store.location (longForge.fingerprint plainSpec) =
      (longSite plainSpec).location := rfl
  exact ⟨hlegal, rfl, hprovides, fun _ _ _ => ⟨_, rfl⟩, hnone, hmade,
    @Forge.loads_cramped _ longForge plainSpec (longSite plainSpec) hlocation hprovides
      (cramped_long plainSpec) _ haccess (hbelow _) 2⟩

end Depot

end KernelForge
