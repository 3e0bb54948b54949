import KernelForge.Loading.Registry

/-!
A kernel is bound once.

Callers of one registry in release mode move in any order, one step at a time. `Advance` says what a step
can do. Whoever is between locking a slot and unlocking it has the slot alone, and a caller that is about to
load has looked the fingerprint up while it had the slot. So a handle that was made is registered before
anybody else can look, and stays: a fingerprint for which a load went well is never loaded again, and
everybody is given that one handle (`bound_once`).
-/
namespace KernelForge

variable {κ : Type}

namespace Registry

variable {r : Registry κ} {fp q : Fingerprint} {n : Nat} {h : Handle κ}

theorem lookup_cons {β : Type} (fp q : Fingerprint) (b : β) (rest : List (Fingerprint × β)) :
    lookup fp ((q, b) :: rest) = if q = fp then some b else lookup fp rest := rfl

/-- A slot is there or is made, and nothing else changes. -/
theorem slot_eq (r : Registry κ) (fp : Fingerprint) : ∃ slots nextSlot n,
    r.slot fp = ({ r with slots, nextSlot }, n) ∧ lookup fp slots = some n ∧
      ∀ q m, lookup q r.slots = some m → lookup q slots = some m := by
  unfold slot
  split
  · next n hn => exact ⟨r.slots, r.nextSlot, n, rfl, hn, fun _ _ h => h⟩
  · next hnone =>
    refine ⟨_, _, _, rfl, by simp [lookup_cons], fun q m hm => ?_⟩
    have hne : fp ≠ q := by
      rintro rfl
      cases hnone.symm.trans hm
    rw [lookup_cons, if_neg hne, hm]

/-- In release mode the first handle of a fingerprint stays. -/
theorem get?_insert (r : Registry κ) (h : Handle κ) (q : Fingerprint) :
    (r.insert .release h).1.get? q = if q = h.fingerprint then some (r.insert .release h).2 else r.get? q := by
  unfold insert
  cases hold : r.get? h.fingerprint with
  | none =>
    simp only [get?, lookup_cons, eq_comm]
  | some old =>
    simp only
    split
    · next hq => rw [hq, hold]
    · rfl

theorem get?_insert_of_some {old : Handle κ} (hold : r.get? q = some old) :
    (r.insert .release h).1.get? q = some old := by
  rw [get?_insert]
  split
  · next hq =>
    rw [hq] at hold
    simp only [insert, hold]
  · exact hold

theorem slots_insert (r : Registry κ) (h : Handle κ) : (r.insert .release h).1.slots = r.slots := by
  unfold insert
  cases r.get? h.fingerprint <;> rfl

theorem locked_insert (r : Registry κ) (h : Handle κ) : (r.insert .release h).1.locked = r.locked := by
  unfold insert
  cases r.get? h.fingerprint <;> rfl

theorem loads_insert (r : Registry κ) (h : Handle κ) : (r.insert .release h).1.loads = r.loads := by
  unfold insert
  cases r.get? h.fingerprint <;> rfl

end Registry

theorem Location.fingerprint_published? {l : Location} {disk : Disk} {p : Published}
    (h : l.published? disk = some p) : p.fingerprint = l.fingerprint := by
  unfold Location.published? Published.read? at h
  split at h
  · cases h
  · split at h
    · next hcompatible =>
      cases h
      simp only [Manifest.isCompatible, Bool.and_eq_true, decide_eq_true_eq] at hcompatible
      exact hcompatible.1.2
    · cases h

/-! ### Steps -/

/-- What one step of a caller can do in release mode. -/
inductive Advance (r : Registry κ) : Binding κ → Registry κ → Binding κ → Prop
  | finds {fp : Fingerprint} {h : Handle κ} (found : r.get? fp = some h) :
      Advance r (.lookup fp) r (.done (.ok (some h)))
  | misses {fp : Fingerprint} : Advance r (.lookup fp) r (.search fp)
  | reads {fp : Fingerprint} {p : Published} (same : p.fingerprint = fp) : Advance r (.search fp) r (.slot p)
  | turns {fp : Fingerprint} : Advance r (.search fp) r (.done (.ok none))
  | asks {p : Published} :
      Advance r (.slot p) (r.slot p.fingerprint).1 (.lock p (r.slot p.fingerprint).2)
  | waits {p : Published} {n : Nat} : Advance r (.lock p n) r (.lock p n)
  | locks {p : Published} {n : Nat} (free : n ∉ r.locked) :
      Advance r (.lock p n) { r with locked := n :: r.locked } (.recheck p n)
  | shares {p : Published} {n : Nat} {h : Handle κ} (found : r.get? p.fingerprint = some h) :
      Advance r (.recheck p n) r (.unlock n (.ok h))
  | begins {p : Published} {n : Nat} (missing : r.get? p.fingerprint = none) :
    Advance r (.recheck p n) r (.load p n)
  | fails {p : Published} {n : Nat} {e : LoadError} :
      Advance r (.load p n) { r with loads := r.loads + 1 } (.unlock n (.error e))
  | makes {p : Published} {n : Nat} {info : Metadata} {code : κ} :
      Advance r (.load p n) { r with loads := r.loads + 1, made := r.made + 1 }
        (.insert ⟨r.made, p.fingerprint, p.location, info, code⟩ n)
  | enters {h : Handle κ} {n : Nat} :
      Advance r (.insert h n) (r.insert .release h).1 (.unlock n (.ok (r.insert .release h).2))
  | leaves {n : Nat} {result : Except LoadError (Handle κ)} :
      Advance r (.unlock n result) { r with locked := r.locked.filter fun k => k ≠ n } (.done (result.map some))
  | rests {result : Except LoadError (Option (Handle κ))} : Advance r (.done result) r (.done result)

theorem advance_of_step (loader : Loader κ) (root : Place) (disk : Disk) (r : Registry κ) (b : Binding κ) :
    Advance r b (b.step loader .release root disk r).1 (b.step loader .release root disk r).2 := by
  unfold Binding.step
  cases b with
  | lookup fp =>
    simp only [BuildMode.alwaysRebuild, Bool.false_eq_true, if_false]
    split
    · next hfound => exact .finds hfound
    · exact .misses
  | search fp =>
    dsimp only
    split
    · next p hp =>
      have hsame : p.fingerprint = fp := Location.fingerprint_published? hp
      exact .reads hsame
    · exact .turns
  | slot p => exact .asks
  | lock p n =>
    dsimp only
    split
    · exact .waits
    · next hfree => exact .locks (by simpa using hfree)
  | recheck p n =>
    simp only [BuildMode.alwaysRebuild, Bool.false_eq_true, if_false]
    split
    · next hfound => exact .shares hfound
    · next hmissing => exact .begins hmissing
  | load p n =>
    dsimp only
    split
    · exact .fails
    · exact .makes
  | insert h n => exact .enters
  | unlock n result =>
    cases result <;> exact .leaves
  | done result => exact .rests

namespace Binding

/-- The slot that a caller has locked. -/
def held? : Binding κ → Option Nat
  | .recheck _ n | .load _ n | .insert _ n | .unlock n _ => some n
  | _ => none

/-- What a caller for a fingerprint relies on. -/
def Relies (r : Registry κ) (fp : Fingerprint) : Binding κ → Prop
  | .lookup q | .search q => q = fp
  | .slot p => p.fingerprint = fp
  | .lock p n | .recheck p n => p.fingerprint = fp ∧ Registry.lookup fp r.slots = some n
  | .load p n => p.fingerprint = fp ∧ Registry.lookup fp r.slots = some n ∧ r.get? fp = none
  | .insert h n => h.fingerprint = fp ∧ Registry.lookup fp r.slots = some n ∧ r.get? fp = none
  | .unlock _ result => ∀ h, result = .ok h → r.get? fp = some h
  | .done result => ∀ h, result = .ok (some h) → r.get? fp = some h

end Binding

namespace Advance

variable {r r' : Registry κ} {b b' c : Binding κ} {fp q : Fingerprint} {n : Nat} {h : Handle κ}

/-- A handle that is registered stays. -/
theorem get?_some (ha : Advance r b r' b') (hget : r.get? q = some h) : r'.get? q = some h := by
  cases ha with
  | asks =>
    obtain ⟨_, _, _, hslot, _⟩ := r.slot_eq _
    rw [hslot]
    exact hget
  | enters => exact Registry.get?_insert_of_some hget
  | _ => exact hget

/-- Only a caller with a handle for a fingerprint registers one. -/
theorem get?_none (ha : Advance r b r' b') (hget : r.get? q = none)
    (hother : ∀ h n, b = .insert h n → h.fingerprint ≠ q) :
    r'.get? q = none := by
  cases ha with
  | asks =>
    obtain ⟨_, _, _, hslot, _⟩ := r.slot_eq _
    rw [hslot]
    exact hget
  | enters => rw [Registry.get?_insert, if_neg (Ne.symm (hother _ _ rfl)), hget]
  | _ => exact hget

theorem slots (ha : Advance r b r' b') (hn : Registry.lookup q r.slots = some n) :
    Registry.lookup q r'.slots = some n := by
  cases ha with
  | asks =>
    obtain ⟨_, _, _, hslot, _, hkept⟩ := r.slot_eq _
    rw [hslot]
    exact hkept _ _ hn
  | enters => rw [Registry.slots_insert, hn]
  | _ => exact hn

/-- A slot that somebody else has locked stays locked. -/
theorem locked (ha : Advance r b r' b') (hn : n ∈ r.locked) (hother : b.held? ≠ some n) : n ∈ r'.locked := by
  cases ha with
  | asks =>
    obtain ⟨_, _, _, hslot, _⟩ := r.slot_eq _
    rw [hslot]
    exact hn
  | locks => exact List.mem_cons_of_mem _ hn
  | enters => rw [Registry.locked_insert]; exact hn
  | leaves =>
    refine List.mem_filter.mpr ⟨hn, decide_eq_true ?_⟩
    rintro rfl
    exact hother rfl
  | _ => exact hn

/-- A caller has the slot that it had, or one that was free. -/
theorem held (ha : Advance r b r' b') (hn : b'.held? = some n) :
    (b.held? = some n ∧ r'.locked = r.locked) ∨ (n ∉ r.locked ∧ n ∈ r'.locked) := by
  cases ha with
  | locks hfree =>
    cases hn
    exact .inr ⟨hfree, List.mem_cons_self⟩
  | shares => exact .inl ⟨hn, rfl⟩
  | begins => exact .inl ⟨hn, rfl⟩
  | fails => exact .inl ⟨hn, rfl⟩
  | makes => exact .inl ⟨hn, rfl⟩
  | enters => exact .inl ⟨hn, Registry.locked_insert _ _⟩
  | _ => cases hn

/-- After its step a caller has what it then relies on. -/
theorem relies (ha : Advance r b r' b') (hb : b.Relies r fp) : b'.Relies r' fp := by
  cases ha with
  | finds hfound =>
    intro h he
    cases he
    exact hb ▸ hfound
  | misses => exact hb
  | reads hsame => exact hsame.trans hb
  | turns =>
    intro h he
    cases he
  | asks =>
    obtain ⟨_, _, _, hslot, hn, _⟩ := r.slot_eq fp
    rw [show _ = fp from hb, hslot]
    exact ⟨hb, hn⟩
  | waits => exact hb
  | locks => exact hb
  | shares hfound =>
    intro h he
    cases he
    exact hb.1 ▸ hfound
  | begins hmissing => exact ⟨hb.1, hb.2, hb.1 ▸ hmissing⟩
  | fails =>
    intro h he
    cases he
  | makes => exact hb
  | enters =>
    intro h he
    cases he
    rw [Registry.get?_insert, if_pos hb.1.symm]
  | @leaves n result =>
    intro h he
    cases result with
    | error e => cases he
    | ok h' =>
      cases he
      exact hb h rfl
  | rests => exact hb

/-- What somebody else relies on stays, unless both had one slot. -/
theorem relies_beside (ha : Advance r b r' b') (hb : b.Relies r fp) (hc : c.Relies r q)
    (hapart : ∀ n, b.held? = some n → c.held? ≠ some n) : c.Relies r' q := by
  -- Two that are about to load or to register for one fingerprint have one slot.
  have hother : ∀ m, Registry.lookup q r.slots = some m → c.held? = some m →
      ∀ h n, b = .insert h n → h.fingerprint ≠ q := by
    rintro m hm hheld h n rfl rfl
    obtain ⟨rfl, hn, _⟩ := hb
    rw [hm] at hn
    cases hn
    exact hapart m rfl hheld
  cases c with
  | lookup | search | slot => exact hc
  | lock | recheck => exact ⟨hc.1, ha.slots hc.2⟩
  | load p m => exact ⟨hc.1, ha.slots hc.2.1, ha.get?_none hc.2.2 (hother m hc.2.1 rfl)⟩
  | insert h m => exact ⟨hc.1, ha.slots hc.2.1, ha.get?_none hc.2.2 (hother m hc.2.1 rfl)⟩
  | unlock m result => exact fun h he => ha.get?_some (hc h he)
  | done result => exact fun h he => ha.get?_some (hc h he)

/-- A handle is registered by the step of the caller that made it. -/
theorem registers (ha : Advance r (.insert h n) r' b') (hb : (Binding.insert h n).Relies r fp) :
    r'.get? fp = some h := by
  obtain ⟨rfl, _, hmissing⟩ := hb
  cases ha
  rw [Registry.get?_insert, if_pos rfl]
  simp only [Registry.insert, hmissing]

end Advance

/-! ### Callers -/

/-- A call: the fingerprint that it is for, and how far it is. -/
structure Caller (κ : Type) where
  wanted : Fingerprint
  binding : Binding κ

/-- A registry and its callers. -/
structure Desk (κ : Type) where
  registry : Registry κ
  caller : Nat → Option (Caller κ)

/-- What can happen: somebody asks for a fingerprint, somebody brings a published kernel, or a caller makes
a step. The loader may do at each step what it likes, and so may those who write to the disk. -/
inductive Move (κ : Type) where
  | resolve (caller : Nat) (fp : Fingerprint)
  | install (caller : Nat) (p : Published)
  | step (caller : Nat) (loader : Loader κ) (root : Place) (disk : Disk)

def Move.caller : Move κ → Nat
  | .resolve i _ => i
  | .install i _ => i
  | .step i _ _ _ => i

/-- A run of a loader: the fingerprint that it was for, and the handle if it went well. -/
structure Attempt (κ : Type) where
  fingerprint : Fingerprint
  handle? : Option (Handle κ)

namespace Desk

/-- Nobody has called yet. -/
def start (r : Registry κ) : Desk κ := ⟨r, fun _ => none⟩

/-- Another registry, and another stage of one caller. -/
def put (d : Desk κ) (r : Registry κ) (i : Nat) (c : Caller κ) : Desk κ where
  registry := r
  caller j := if j = i then some c else d.caller j

/-- Somebody new calls. -/
def join (d : Desk κ) (i : Nat) (c : Caller κ) : Desk κ :=
  match d.caller i with
  | none => d.put d.registry i c
  | some _ => d

def act (mode : BuildMode) (d : Desk κ) : Move κ → Desk κ
  | .resolve i fp => d.join i ⟨fp, .lookup fp⟩
  | .install i p => d.join i ⟨p.fingerprint, .slot p⟩
  | .step i loader root disk =>
    match d.caller i with
    | none => d
    | some c =>
      d.put (c.binding.step loader mode root disk d.registry).1 i
        { c with binding := (c.binding.step loader mode root disk d.registry).2 }

/-- Moves one after the other. -/
def run (mode : BuildMode) (d : Desk κ) (moves : List (Move κ)) : Desk κ := moves.foldl (act mode) d

/-- The run of a loader, if there was one, from one state to the next. -/
def attempt? (d d' : Desk κ) (i : Nat) : Option (Attempt κ) :=
  match (d.caller i).map Caller.binding, (d'.caller i).map Caller.binding with
  | some (.load p _), some (.insert h _) => some ⟨p.fingerprint, some h⟩
  | some (.load p _), some (.unlock _ _) => some ⟨p.fingerprint, none⟩
  | _, _ => none

/-- The runs of loaders in order. -/
def log (mode : BuildMode) (d : Desk κ) : List (Move κ) → List (Attempt κ)
  | [] => []
  | move :: moves => (d.attempt? (d.act mode move) move.caller).toList ++ (d.act mode move).log mode moves

/-- A call for a fingerprint gave a handle. -/
def Gave (d : Desk κ) (fp : Fingerprint) (h : Handle κ) : Prop :=
  ∃ i c, d.caller i = some c ∧ c.wanted = fp ∧ c.binding = .done (.ok (some h))

/-- What holds of the callers of a registry in release mode. -/
structure Sound (d : Desk κ) : Prop where
  relies : ∀ i c, d.caller i = some c → c.binding.Relies d.registry c.wanted
  locked : ∀ i c n, d.caller i = some c → c.binding.held? = some n → n ∈ d.registry.locked
  /-- Nobody has a slot that somebody else has. -/
  exclusive : ∀ i j c c' n, d.caller i = some c → d.caller j = some c' → c.binding.held? = some n →
    c'.binding.held? = some n → i = j

variable {d : Desk κ} {i : Nat} {c : Caller κ} {fp : Fingerprint} {h : Handle κ} {r : Registry κ} {b : Binding κ}
  {d' : Desk κ} {a : Attempt κ} {move : Move κ}

theorem caller_put (d : Desk κ) (r : Registry κ) (i : Nat) (c : Caller κ) (j : Nat) :
    (d.put r i c).caller j = if j = i then some c else d.caller j := rfl

theorem caller_put_cases {r : Registry κ} {j : Nat} {w : Caller κ} (hw : (d.put r i c).caller j = some w) :
    (j = i ∧ w = c) ∨ (j ≠ i ∧ d.caller j = some w) := by
  rw [caller_put] at hw
  split at hw
  · next hj => exact .inl ⟨hj, (Option.some.inj hw).symm⟩
  · next hj => exact .inr ⟨hj, hw⟩

theorem sound_start (r : Registry κ) : (start r).Sound :=
  ⟨fun _ _ h => (by cases h), fun _ _ _ h => (by cases h), fun _ _ _ _ _ h => (by cases h)⟩

theorem Sound.join (hs : d.Sound) (hc : c.binding.Relies d.registry c.wanted) (hfree : c.binding.held? = none) :
    (d.join i c).Sound := by
  unfold Desk.join
  split
  · refine ⟨fun j w hw => ?_, fun j w n hw hn => ?_, fun j k w x n hw hx hn hm => ?_⟩
    · rcases caller_put_cases hw with ⟨_, rfl⟩ | ⟨_, hw⟩
      · exact hc
      · exact hs.relies j w hw
    · rcases caller_put_cases hw with ⟨_, rfl⟩ | ⟨_, hw⟩
      · cases hfree.symm.trans hn
      · exact hs.locked j w n hw hn
    · rcases caller_put_cases hw with ⟨_, rfl⟩ | ⟨_, hw⟩
      · cases hfree.symm.trans hn
      · rcases caller_put_cases hx with ⟨_, rfl⟩ | ⟨_, hx⟩
        · cases hfree.symm.trans hm
        · exact hs.exclusive j k w x n hw hx hn hm
  · exact hs

/-- One step of a caller keeps what holds of all. -/
theorem Sound.advance (hs : d.Sound) (hc : d.caller i = some c) (ha : Advance d.registry c.binding r b) :
    (d.put r i { c with binding := b }).Sound := by
  have hown := hs.relies i c hc
  have hapart : ∀ j w, j ≠ i → d.caller j = some w → ∀ n, c.binding.held? = some n → w.binding.held? ≠ some n :=
    fun j w hj hw n hn hm => hj (hs.exclusive j i w c n hw hc hm hn)
  -- What the caller has now, nobody else has: it had it before, or it was free.
  have hnew : ∀ j w n, j ≠ i → d.caller j = some w → b.held? = some n → w.binding.held? ≠ some n := by
    intro j w n hj hw hn hm
    rcases ha.held hn with ⟨hheld, _⟩ | ⟨hfree, _⟩
    · exact hapart j w hj hw n hheld hm
    · exact hfree (hs.locked j w n hw hm)
  refine ⟨fun j w hw => ?_, fun j w n hw hn => ?_, fun j k w x n hw hx hn hm => ?_⟩
  · rcases caller_put_cases hw with ⟨_, rfl⟩ | ⟨hj, hw⟩
    · exact ha.relies hown
    · exact ha.relies_beside hown (hs.relies j w hw) (hapart j w hj hw)
  · rcases caller_put_cases hw with ⟨_, rfl⟩ | ⟨hj, hw⟩
    · rcases ha.held hn with ⟨hheld, hlocked⟩ | ⟨_, hlocked⟩
      · exact hlocked ▸ hs.locked i c n hc hheld
      · exact hlocked
    · exact ha.locked (hs.locked j w n hw hn) fun hheld => hapart j w hj hw n hheld hn
  · rcases caller_put_cases hw, caller_put_cases hx with ⟨⟨hj, rfl⟩ | ⟨hj, hw⟩, ⟨hk, rfl⟩ | ⟨hk, hx⟩⟩
    · rw [hj, hk]
    · exact absurd hm (hnew k x n hk hx hn)
    · exact absurd hn (hnew j w n hj hw hm)
    · exact hs.exclusive j k w x n hw hx hn hm

theorem Sound.act (hs : d.Sound) (move : Move κ) : (d.act .release move).Sound := by
  cases move with
  | resolve i fp => exact hs.join rfl rfl
  | install i p => exact hs.join rfl rfl
  | step i loader root disk =>
    simp only [Desk.act]
    split
    · exact hs
    · next c hc => exact hs.advance hc (advance_of_step loader root disk _ _)

/-! ### Handles -/

/-- A handle is registered for a fingerprint, or is about to be. -/
def Bound (d : Desk κ) (fp : Fingerprint) (h : Handle κ) : Prop :=
  d.registry.get? fp = some h ∨ ∃ i c n, d.caller i = some c ∧ c.wanted = fp ∧ c.binding = .insert h n

theorem Bound.join (hb : d.Bound fp h) : (d.join i c).Bound fp h := by
  unfold Desk.join
  split
  · next hfree =>
    rcases hb with hget | ⟨j, w, n, hw, hfp, hstage⟩
    · exact .inl hget
    · refine .inr ⟨j, w, n, ?_, hfp, hstage⟩
      rw [caller_put, if_neg ?_, hw]
      rintro rfl
      rw [hfree] at hw
      cases hw
  · exact hb

/-- A handle that was made goes on to be registered, and stays. -/
theorem Bound.act (hb : d.Bound fp h) (hs : d.Sound) (move : Move κ) : (d.act .release move).Bound fp h := by
  cases move with
  | resolve i fp => exact hb.join
  | install i p => exact hb.join
  | step i loader root disk =>
    simp only [Desk.act]
    split
    · exact hb
    · next c hc =>
      have ha := advance_of_step loader root disk d.registry c.binding
      rcases hb with hget | ⟨j, w, n, hw, rfl, hstage⟩
      · exact .inl (ha.get?_some hget)
      · by_cases hj : j = i
        · subst hj
          rw [hc] at hw
          cases hw
          have hrelies := hs.relies j c hc
          rw [hstage] at ha hrelies ⊢
          exact .inl (ha.registers hrelies)
        · exact .inr ⟨j, w, n, by rw [caller_put, if_neg hj, hw], rfl, hstage⟩

/-- A load is a step of a caller that was about to make one. -/
theorem attempt?_cases (ha : d.attempt? d' i = some a) :
    ∃ c p n, d.caller i = some c ∧ c.binding = .load p n ∧ a.fingerprint = p.fingerprint ∧
      ∀ h, a.handle? = some h → ∃ c' m, d'.caller i = some c' ∧ c'.binding = .insert h m := by
  unfold attempt? at ha
  split at ha
  · next p n h m hbefore hafter =>
    obtain ⟨c, hc, hstage⟩ := Option.map_eq_some_iff.mp hbefore
    obtain ⟨c', hc', hstage'⟩ := Option.map_eq_some_iff.mp hafter
    cases ha
    refine ⟨c, p, n, hc, hstage, rfl, fun h' he => ?_⟩
    cases he
    exact ⟨c', m, hc', hstage'⟩
  · next p n _ _ hbefore hafter =>
    obtain ⟨c, hc, hstage⟩ := Option.map_eq_some_iff.mp hbefore
    cases ha
    exact ⟨c, p, n, hc, hstage, rfl, fun _ he => by cases he⟩
  · cases ha

theorem Bound.no_attempt (hb : d.Bound fp h) (hs : d.Sound) (ha : d.attempt? d' i = some a) :
    a.fingerprint ≠ fp := by
  intro hfp
  obtain ⟨c, p, n, hc, hstage, hp, _⟩ := attempt?_cases ha
  have hrelies := hs.relies i c hc
  rw [hstage] at hrelies
  obtain ⟨hwanted, hslot, hmissing⟩ := hrelies
  rw [← hwanted, ← hp, hfp] at hslot hmissing
  rcases hb with hget | ⟨j, w, m, hw, rfl, hstage'⟩
  · rw [hmissing] at hget
    cases hget
  · -- Who has made a handle has the slot of the fingerprint, and so has who is about to load.
    have hrelies' := hs.relies j w hw
    rw [hstage'] at hrelies'
    obtain rfl : m = n := Option.some.inj (hrelies'.2.1.symm.trans hslot)
    obtain rfl := hs.exclusive i j c w m hc hw (by rw [hstage]; rfl) (by rw [hstage']; rfl)
    rw [hc] at hw
    cases hw
    rw [hstage] at hstage'
    cases hstage'

theorem wanted_act {mode : BuildMode} {c' : Caller κ} (hc : d.caller i = some c)
    (hc' : (d.act mode move).caller i = some c') : c'.wanted = c.wanted := by
  have hjoin : ∀ j w, (d.join j w).caller i = some c' → c'.wanted = c.wanted := by
    intro j w hw
    unfold Desk.join at hw
    split at hw
    · next hfree =>
      rcases caller_put_cases hw with ⟨rfl, _⟩ | ⟨_, hw⟩
      · cases hfree.symm.trans hc
      · cases hc.symm.trans hw
        rfl
    · cases hc.symm.trans hw
      rfl
  cases move with
  | resolve j fp => exact hjoin j _ hc'
  | install j p => exact hjoin j _ hc'
  | step j loader root disk =>
    simp only [Desk.act] at hc'
    split at hc'
    · cases hc.symm.trans hc'
      rfl
    · next w hw =>
      rcases caller_put_cases hc' with ⟨rfl, rfl⟩ | ⟨_, hc'⟩
      · cases hw.symm.trans hc
        rfl
      · cases hc.symm.trans hc'
        rfl

/-- A load that goes well leaves its handle. -/
theorem bound_of_attempt (hs : d.Sound) (ha : d.attempt? (d.act .release move) i = some a)
    (hh : a.handle? = some h) :
    (d.act .release move).Bound a.fingerprint h := by
  obtain ⟨c, p, n, hc, hstage, hp, hmade⟩ := attempt?_cases ha
  obtain ⟨c', m, hc', hstage'⟩ := hmade h hh
  have hrelies := hs.relies i c hc
  rw [hstage] at hrelies
  exact .inr ⟨i, c', m, hc', by rw [wanted_act hc hc', hp, hrelies.1], hstage'⟩

theorem attempt?_self (d : Desk κ) (i : Nat) : d.attempt? d i = none := by
  unfold attempt?
  cases d.caller i with
  | none => rfl
  | some c =>
    simp only [Option.map_some]
    cases c.binding <;> rfl

theorem loads_join (d : Desk κ) (i : Nat) (c : Caller κ) :
    (d.join i c).registry.loads = d.registry.loads + (d.attempt? (d.join i c) i).toList.length := by
  unfold Desk.join
  split
  · next hfree => simp only [attempt?, hfree, put, Option.map_none, Option.toList_none, List.length_nil,
      Nat.add_zero]
  · rw [attempt?_self]
    rfl

/-- Loaders run in the steps that are in the log, and in no others. -/
theorem loads_advance (hc : d.caller i = some c) (ha : Advance d.registry c.binding r b) :
    r.loads = d.registry.loads + (d.attempt? (d.put r i { c with binding := b }) i).toList.length := by
  simp only [attempt?, hc, caller_put, if_true, Option.map_some]
  revert ha
  generalize c.binding = before
  intro ha
  cases ha with
  | asks =>
    obtain ⟨_, _, _, hslot, _⟩ := d.registry.slot_eq _
    rw [hslot]
    rfl
  | enters => rw [Registry.loads_insert]; rfl
  | _ => rfl

theorem loads_act (d : Desk κ) (move : Move κ) :
    (d.act .release move).registry.loads =
      d.registry.loads + (d.attempt? (d.act .release move) move.caller).toList.length := by
  cases move with
  | resolve i fp => exact loads_join d i _
  | install i p => exact loads_join d i _
  | step i loader root disk =>
    simp only [Desk.act, Move.caller]
    split
    · rw [attempt?_self]
      rfl
    · next c hc => exact loads_advance hc (advance_of_step loader root disk _ _)

/-! ### Runs -/

theorem length_le_one {α : Type} {R : α → α → Prop} {xs : List α} (hxs : xs.Pairwise R)
    (hnot : ∀ a ∈ xs, ∀ b ∈ xs, ¬ R a b) : xs.length ≤ 1 := by
  match xs, hxs with
  | [], _ => exact Nat.zero_le 1
  | [_], _ => exact Nat.le_refl 1
  | a :: b :: rest, .cons hab _ => exact absurd (hab b (by simp)) (hnot a (by simp) b (by simp))

theorem log_cons (mode : BuildMode) (d : Desk κ) (move : Move κ) (moves : List (Move κ)) :
    d.log mode (move :: moves) =
      (d.attempt? (d.act mode move) move.caller).toList ++ (d.act mode move).log mode moves := rfl

theorem Sound.run (hs : d.Sound) (moves : List (Move κ)) : (d.run .release moves).Sound := by
  induction moves generalizing d with
  | nil => exact hs
  | cons move moves ih => exact ih (hs.act move)

theorem loads_run (d : Desk κ) (moves : List (Move κ)) :
    (d.run .release moves).registry.loads = d.registry.loads + (d.log .release moves).length := by
  induction moves generalizing d with
  | nil => rfl
  | cons move moves ih =>
    have hrun : d.run .release (move :: moves) = (d.act .release move).run .release moves := rfl
    rw [hrun, ih, log_cons, List.length_append, loads_act, Nat.add_assoc]

/-- A fingerprint that has a handle keeps it and is not loaded again. -/
theorem Bound.run (hb : d.Bound fp h) (hs : d.Sound) (moves : List (Move κ)) :
    (d.run .release moves).Bound fp h ∧ ∀ a ∈ d.log .release moves, a.fingerprint ≠ fp := by
  induction moves generalizing d with
  | nil => exact ⟨hb, fun a ha => by cases ha⟩
  | cons move moves ih =>
    obtain ⟨hbound, hlater⟩ := ih (hb.act hs move) (hs.act move)
    refine ⟨hbound, fun a ha => ?_⟩
    rw [log_cons, List.mem_append, Option.mem_toList] at ha
    rcases ha with hnow | hlog
    · exact hb.no_attempt hs hnow
    · exact hlater a hlog

/-- Nothing is loaded for a fingerprint after a load for it that went well. -/
theorem log_pairwise (hs : d.Sound) (moves : List (Move κ)) :
    (d.log .release moves).Pairwise fun a b => a.handle?.isSome → b.fingerprint ≠ a.fingerprint := by
  induction moves generalizing d with
  | nil => exact .nil
  | cons move moves ih =>
    rw [log_cons]
    cases ha : d.attempt? (d.act .release move) move.caller with
    | none => exact ih (hs.act move)
    | some a =>
      refine .cons (fun b hb hsome => ?_) (ih (hs.act move))
      obtain ⟨h, hh⟩ := Option.isSome_iff_exists.mp hsome
      exact ((bound_of_attempt hs ha hh).run (hs.act move) moves).2 b hb

theorem bound_of_log {moves : List (Move κ)} (hs : d.Sound) (ha : a ∈ d.log .release moves)
    (hh : a.handle? = some h) :
    (d.run .release moves).Bound a.fingerprint h := by
  induction moves generalizing d with
  | nil => cases ha
  | cons move moves ih =>
    rw [log_cons, List.mem_append, Option.mem_toList] at ha
    rcases ha with hnow | hlog
    · exact ((bound_of_attempt hs hnow hh).run (hs.act move) moves).1
    · exact ih (hs.act move) hlog

theorem Sound.gave (hs : d.Sound) (hg : d.Gave fp h) : d.registry.get? fp = some h := by
  obtain ⟨i, c, hc, rfl, hdone⟩ := hg
  have hrelies := hs.relies i c hc
  rw [hdone] at hrelies
  exact hrelies h rfl

/-- What is given for a fingerprint is the handle that was made for it. -/
theorem Bound.gave {h' : Handle κ} (hb : d.Bound fp h) (hs : d.Sound) (hg : d.Gave fp h') : h' = h := by
  have hget := hs.gave hg
  rcases hb with hsame | ⟨i, c, n, hc, rfl, hstage⟩
  · exact Option.some.inj (hget.symm.trans hsame)
  · have hrelies := hs.relies i c hc
    rw [hstage] at hrelies
    rw [hrelies.2.2] at hget
    cases hget

/-- Callers of a registry in release mode, whatever it holds when they come and in whatever order they move:
for each fingerprint one load at most goes well, none is made after it, and all calls that give a handle
give the same, which is the one that was loaded if one was. -/
theorem bound_once (r : Registry κ) (moves : List (Move κ)) (fp : Fingerprint) :
    ((start r).run .release moves).registry.loads = r.loads + ((start r).log .release moves).length ∧
    (((start r).log .release moves).filter fun a => a.fingerprint = fp && a.handle?.isSome).length ≤ 1 ∧
    ((start r).log .release moves).Pairwise (fun a b => a.handle?.isSome → b.fingerprint ≠ a.fingerprint) ∧
    ∀ h, ((start r).run .release moves).Gave fp h →
      (∀ h', ((start r).run .release moves).Gave fp h' → h' = h) ∧
      ∀ a ∈ (start r).log .release moves, a.fingerprint = fp → ∀ h', a.handle? = some h' → h' = h := by
  have hs := sound_start r
  have hend := hs.run moves
  have hlog := log_pairwise hs moves
  refine ⟨loads_run _ moves, ?_, hlog, fun h hg => ⟨fun h' hg' => ?_, fun a ha hfp h' hh => ?_⟩⟩
  · refine length_le_one (hlog.filter _) fun a ha b hb hab => ?_
    simp only [List.mem_filter, Bool.and_eq_true, decide_eq_true_eq] at ha hb
    exact hab ha.2.2 (hb.2.1.trans ha.2.1.symm)
  · exact Option.some.inj ((hend.gave hg').symm.trans (hend.gave hg))
  · subst hfp
    exact ((bound_of_log hs ha hh).gave hend hg).symm

/-- A published kernel to call for. -/
def sample : Published where
  location := .ofPath [] "/cache/x"
  manifest :=
    { formatVersion := Manifest.currentFormat, toolVersion := Manifest.currentTool, fingerprint := ⟨"x"⟩
      target := .cpu, library := "libx.so", checksum := ⟨.replicate 16 0⟩, formula := "", aliases := ""
      precision := .float32 }

/-- A loader that fails the first time. -/
def hesitant : Loader Unit := fun n p _ =>
  if n = 1 then .error (.missingSymbol p.library.text "kernel")
  else .ok (⟨Metadata.currentAbi, .float32, 1, .outer, none⟩, ())

/-- Three callers for one kernel: the first takes the slot and fails, the second waits for it and loads, and
the third shares what the second has registered. -/
def race : List (Move Unit) :=
  [.install 0 sample, .install 1 sample, .install 2 sample] ++
    [0, 1, 2, 0, 1, 0, 0, 0, 1, 1, 2, 1, 1, 1, 2, 2, 2].map fun i => .step i hesitant sample.location {}

theorem bound_once_race :
    ((start {}).log .release race).map (fun a => a.handle?.isSome) = [false, true] ∧
    ∃ h, ((start {}).run .release race).Gave ⟨"x"⟩ h ∧ h.serial = 0 ∧
      ∀ h', ((start {}).run .release race).Gave ⟨"x"⟩ h' → h' = h := by
  have hgave : ((start {}).run .release race).Gave ⟨"x"⟩
      ⟨0, ⟨"x"⟩, sample.location, ⟨Metadata.currentAbi, .float32, 1, .outer, none⟩, ()⟩ := ⟨2, _, rfl, rfl, rfl⟩
  exact ⟨rfl, _, hgave, rfl, ((bound_once {} race ⟨"x"⟩).2.2.2 _ hgave).1⟩

end Desk

end KernelForge
