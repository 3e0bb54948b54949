import Mathlib
import KernelForge.Call.Argument

/-!
Which arguments a call takes, and what extents they give it.

`Fits` says when an argument is right for its variable in a call of given extents. The extents that were
found so far stand for all pairs of extents that they allow, and taking one more argument into account
narrows these to the pairs for which it fits, or fails because it fits for none of them (`step_narrows`). By
induction the whole list is accepted exactly for the extents for which every argument fits
(`collect_narrows`, `ofArguments_exact`).
-/
namespace KernelForge

/-- The name of the argument that an error is about. -/
def CallError.argument? : CallError → Option String
  | rank name _ _ | dimension name _ _ | dataLength name _ _ | shapeOverflow name _ | extent name _ _ _ => some name
  | _ => none

namespace Extents

/-! ### Products -/

variable {b c n dim nx ny : UInt64} {shape : List UInt64} {α : Type} {name : String} {e : CallError} {a : Alias}
  {found : Found} {axis : Axis}

theorem product?_exact {a : UInt64} (h : product? a b = some c) : c.toNat = a.toNat * b.toNat := by
  unfold product? at h
  split at h
  · next hlt =>
    rw [← Option.some.inj h, UInt64.toNat_mul]
    exact Nat.mod_eq_of_lt hlt
  · cases h

theorem product?_of_exact {a : UInt64} (h : c.toNat = a.toNat * b.toNat) : product? a b = some c := by
  have hlt : a.toNat * b.toNat < UInt64.size := h ▸ c.toNat_lt_size
  rw [product?, if_pos hlt, Option.some_inj, ← UInt64.toNat_inj, UInt64.toNat_mul, h]
  exact Nat.mod_eq_of_lt hlt

theorem volume?_exact {acc v : UInt64} (h : volume? acc shape = some v) :
    v.toNat = acc.toNat * (shape.map UInt64.toNat).prod := by
  induction shape generalizing acc with
  | nil =>
    rw [← Option.some.inj h]
    simp
  | cons n rest ih =>
    rw [volume?] at h
    cases hp : product? acc n with
    | none => rw [hp] at h; cases h
    | some acc' =>
      rw [hp] at h
      rw [ih h, product?_exact hp, List.map_cons, List.prod_cons, Nat.mul_assoc]

/-- An argument has as many scalars as its shape has places, counted without bound. -/
def Filled {α : Type} (argument : Argument α) : Prop :=
  argument.length.toNat = (argument.shape.map UInt64.toNat).prod

theorem filled_of_checkLength {argument : Argument α} (h : checkLength name argument = .ok ()) :
    Filled argument := by
  unfold checkLength at h
  cases hv : volume? 1 argument.shape with
  | none => rw [hv] at h; cases h
  | some expected =>
    rw [hv] at h
    by_cases he : expected = argument.length
    · rw [Filled, ← he, volume?_exact hv]
      simp
    · simp [he] at h

theorem checkLength_error {argument : Argument α} (h : checkLength name argument = .error e) :
    e.argument? = some name := by
  unfold checkLength at h
  split at h
  · cases h
    rfl
  · split at h
    · cases h
    · cases h
      rfl

/-! ### One argument -/

/-- The shape of `n` rows. A row of one scalar may leave out its dimension. -/
def IsRows (n dim : UInt64) (shape : List UInt64) : Prop :=
  shape = [n, dim] ∨ dim = 1 ∧ shape = [n]

/-- The shape that the argument of a variable has in a call of some extents. -/
def Shaped (extent : Axis → UInt64) (a : Alias) (shape : List UInt64) : Prop :=
  match a.category with
  | .parameter => shape = [a.dim]
  | .outer => IsRows (extent .outer) a.dim shape
  | .inner => IsRows (extent .inner) a.dim shape

/-- An argument is right for a variable in a call of some extents. -/
def Fits {α : Type} (extent : Axis → UInt64) (a : Alias) (argument : Argument α) : Prop :=
  Filled argument ∧ Shaped extent a argument.shape

theorem IsRows.unique {m : UInt64} (h : IsRows n dim shape) (h' : IsRows m dim shape) : n = m := by
  obtain rfl | ⟨_, rfl⟩ := h <;> obtain h' | ⟨_, h'⟩ := h' <;> cases h' <;> rfl

theorem Shaped.rank {extent : Axis → UInt64} (h : Shaped extent a shape) :
    shape = [a.dim] ∨ ∃ n, IsRows n a.dim shape := by
  unfold Shaped at h
  cases hc : a.category <;> rw [hc] at h
  · exact .inr ⟨_, h⟩
  · exact .inr ⟨_, h⟩
  · exact .inl h

/-- Shapes of at most two dimensions are multiplied without overflow if the product is a length. -/
theorem checkLength_of_fits {extent : Axis → UInt64} {argument : Argument α} (name : String)
    (h : Fits extent a argument) : checkLength name argument = .ok () := by
  obtain ⟨hfilled, hshaped⟩ := h
  have hone (n : UInt64) : product? 1 n = some n := product?_of_exact (by simp)
  have hvolume : volume? 1 argument.shape = some argument.length := by
    unfold Filled at hfilled
    obtain hshape | ⟨n, hshape | ⟨_, hshape⟩⟩ := hshaped.rank
    all_goals rw [hshape] at hfilled ⊢
    · have hlength : argument.length = a.dim := UInt64.toNat_inj.mp (by simpa using hfilled)
      simp [volume?, hone, hlength]
    · have hproduct : product? n a.dim = some argument.length := product?_of_exact (by simpa using hfilled)
      simp [volume?, hone, hproduct]
    · have hlength : argument.length = n := UInt64.toNat_inj.mp (by simpa using hfilled)
      simp [volume?, hone, hlength]
  simp [checkLength, hvolume]

theorem checkParameter_eq_ok_iff : checkParameter name dim shape = .ok () ↔ shape = [dim] := by
  unfold checkParameter
  split
  · next found =>
    by_cases hd : dim = found
    · simp [hd]
    · simp [hd, Ne.symm hd]
  · next hshape => exact ⟨nofun, fun h => absurd h (hshape dim)⟩

theorem checkParameter_error (h : checkParameter name dim shape = .error e) : e.argument? = some name := by
  unfold checkParameter at h
  split at h
  · split at h
    · cases h
    · cases h
      rfl
  · cases h
    rfl

theorem rowCount_eq_ok_iff : rowCount name dim shape = .ok n ↔ IsRows n dim shape := by
  unfold rowCount IsRows
  split
  · next m found =>
    by_cases hd : dim = found
    · simp [hd]
    · simp [hd, Ne.symm hd]
  · next m =>
    by_cases hd : dim = 1 <;> simp [hd]
  · next htwo hone =>
    refine ⟨nofun, fun h => ?_⟩
    obtain h | ⟨_, h⟩ := h
    · exact absurd h (htwo n dim)
    · exact absurd h (hone n)

theorem rowCount_error (h : rowCount name dim shape = .error e) : e.argument? = some name := by
  unfold rowCount at h
  split at h
  · split at h
    · cases h
    · cases h
      rfl
  · split at h
    · cases h
    · cases h
      rfl
  · cases h
    rfl

/-! ### Extents found -/

/-- The number of rows found along an index. -/
def Found.along (found : Found) : Axis → Option UInt64
  | .outer => found.nx
  | .inner => found.ny

/-- The extents are those that were found, along each index where any were. -/
def Found.Allows (found : Found) (extent : Axis → UInt64) : Prop :=
  ∀ axis n, found.along axis = some n → n = extent axis

/-- What may come of taking an argument into account that is right for some extents. Either it is right for
some of those allowed so far, and these are allowed from now on, or it is right for none, and the error
names it. -/
def Narrows (found : Found) (name : String) (right : (Axis → UInt64) → Prop) : Except CallError Found → Prop
  | .ok found' => ∀ extent, found'.Allows extent ↔ found.Allows extent ∧ right extent
  | .error e => e.argument? = some name ∧ ∀ extent, found.Allows extent → ¬right extent

theorem Found.allows_iff {extent : Axis → UInt64} :
    found.Allows extent ↔
      (∀ n, found.nx = some n → n = extent .outer) ∧ ∀ n, found.ny = some n → n = extent .inner := by
  refine ⟨fun h => ⟨h .outer, h .inner⟩, fun h axis => ?_⟩
  cases axis with
  | outer => exact h.1
  | inner => exact h.2

theorem Found.allows_empty (extent : Axis → UInt64) : ({} : Found).Allows extent := by
  intro axis n hn
  cases axis <;> cases hn

theorem merge_narrows (found : Found) (name : String) (axis : Axis) (n : UInt64) :
    Narrows found name (fun extent => n = extent axis) (found.merge name axis n) := by
  cases axis with
  | outer =>
    unfold Found.merge
    cases hx : found.nx with
    | none => simp [Narrows, Found.allows_iff, hx, and_comm]
    | some m =>
      by_cases hm : m = n
      · simp [Narrows, Found.allows_iff, hx, hm, and_comm]
      · simp only [if_neg hm, Narrows, Found.allows_iff, hx]
        exact ⟨rfl, fun extent hallows hn => hm ((hallows.1 m rfl).trans hn.symm)⟩
  | inner =>
    unfold Found.merge
    cases hy : found.ny with
    | none => simp [Narrows, Found.allows_iff, hy]
    | some m =>
      by_cases hm : m = n
      · simp [Narrows, Found.allows_iff, hy, hm]
      · simp only [if_neg hm, Narrows, Found.allows_iff, hy]
        exact ⟨rfl, fun extent hallows hn => hm ((hallows.2 m rfl).trans hn.symm)⟩

/-- Counting the rows of an argument and comparing them with those found narrows the extents to those with
that many rows. -/
theorem rowCount_narrows (found : Found) (name : String) (axis : Axis) (dim : UInt64) (shape : List UInt64) :
    Narrows found name (fun extent => IsRows (extent axis) dim shape)
      (match rowCount name dim shape with
        | .error e => .error e
        | .ok n => found.merge name axis n) := by
  cases hr : rowCount name dim shape with
  | error e =>
    refine ⟨rowCount_error hr, fun extent _ hrows => ?_⟩
    rw [rowCount_eq_ok_iff.mpr hrows] at hr
    cases hr
  | ok n =>
    have hrows : (fun extent : Axis → UInt64 => IsRows (extent axis) dim shape) = fun extent =>
        n = extent axis := by
      have hn := rowCount_eq_ok_iff.mp hr
      exact funext fun extent => propext ⟨fun h => hn.unique h, fun h => h ▸ hn⟩
    rw [hrows]
    exact merge_narrows found name axis n

theorem step_narrows (found : Found) (a : Alias) (argument : Argument α) :
    Narrows found a.name (fun extent => Fits extent a argument) (step found a argument) := by
  unfold step
  cases hl : checkLength a.name argument with
  | error e =>
    refine ⟨checkLength_error hl, fun extent _ hfits => ?_⟩
    rw [checkLength_of_fits a.name hfits] at hl
    cases hl
  | ok _ =>
    simp only [Fits, filled_of_checkLength hl, true_and, Shaped]
    cases a.category with
    | outer => exact rowCount_narrows found a.name .outer a.dim argument.shape
    | inner => exact rowCount_narrows found a.name .inner a.dim argument.shape
    | parameter =>
      cases hp : checkParameter a.name a.dim argument.shape with
      | error e =>
        refine ⟨checkParameter_error hp, fun extent _ hshape => ?_⟩
        rw [checkParameter_eq_ok_iff.mpr hshape] at hp
        cases hp
      | ok _ => exact fun extent => (and_iff_left (checkParameter_eq_ok_iff.mp hp)).symm

/-! ### All arguments -/

theorem Found.allows_getD (found : Found) : found.Allows fun axis => (found.along axis).getD 1 := by
  intro axis n hn
  simp [hn]

/-- What may come of taking a list of arguments into account: the extents for which all of them fit, or the
place of the first one with which they do not. -/
theorem collect_narrows (found : Found) (pairs : List (Alias × Argument α)) :
    match collect found pairs with
    | .ok found' => ∀ extent, found'.Allows extent ↔ found.Allows extent ∧ ∀ p ∈ pairs, Fits extent p.1 p.2
    | .error e => ∃ i p, pairs[i]? = some p ∧ e.argument? = some p.1.name ∧
        (∃ extent, found.Allows extent ∧ ∀ q ∈ pairs.take i, Fits extent q.1 q.2) ∧
        ∀ extent, found.Allows extent → ¬∀ q ∈ pairs.take (i + 1), Fits extent q.1 q.2 := by
  induction pairs generalizing found with
  | nil => simp [collect]
  | cons pair rest ih =>
    obtain ⟨a, argument⟩ := pair
    have hstep := step_narrows found a argument
    rw [collect]
    cases hs : step found a argument with
    | error e =>
      rw [hs] at hstep
      refine ⟨0, (a, argument), rfl, hstep.1, ⟨_, found.allows_getD, by simp⟩, fun extent hallows hfits => ?_⟩
      exact hstep.2 extent hallows (hfits (a, argument) (by simp))
    | ok next =>
      rw [hs] at hstep
      have hrest := ih next
      dsimp only
      cases hc : collect next rest with
      | ok found' =>
        rw [hc] at hrest
        intro extent
        rw [hrest extent, hstep extent, List.forall_mem_cons, and_assoc]
      | error e =>
        rw [hc] at hrest
        obtain ⟨i, p, hp, hname, ⟨extent, hallows, hfits⟩, hnone⟩ := hrest
        refine ⟨i + 1, p, hp, hname, ⟨extent, ((hstep extent).mp hallows).1, ?_⟩, fun extent hallows hfits => ?_⟩
        · rw [List.take_succ_cons, List.forall_mem_cons]
          exact ⟨((hstep extent).mp hallows).2, hfits⟩
        · rw [List.take_succ_cons, List.forall_mem_cons] at hfits
          exact hnone extent ((hstep extent).mpr ⟨hallows, hfits.1⟩) hfits.2

/-- An argument fits or not by the extent along the index of its variable. -/
theorem Fits.congr {extent extent' : Axis → UInt64} {argument : Argument α} (h : Fits extent a argument)
    (hsame : ∀ axis, a.category = axis.category → extent axis = extent' axis) : Fits extent' a argument := by
  obtain ⟨hfilled, hshaped⟩ := h
  refine ⟨hfilled, ?_⟩
  unfold Shaped at hshaped ⊢
  cases hc : a.category with
  | outer =>
    rw [hc] at hshaped
    exact hsame .outer hc ▸ hshaped
  | inner =>
    rw [hc] at hshaped
    exact hsame .inner hc ▸ hshaped
  | parameter =>
    rw [hc] at hshaped
    exact hshaped

theorem Fits.unique {extent extent' : Axis → UInt64} {argument : Argument α} (h : Fits extent a argument)
    (h' : Fits extent' a argument) (haxis : a.category = axis.category) : extent axis = extent' axis := by
  have hshaped := h.2
  have hshaped' := h'.2
  unfold Shaped at hshaped hshaped'
  rw [haxis] at hshaped hshaped'
  cases axis with
  | outer => exact hshaped.unique hshaped'
  | inner => exact hshaped.unique hshaped'

theorem Found.Allows.update {extent : Axis → UInt64} (h : found.Allows extent) (hnone : found.along axis = none)
    (n : UInt64) : found.Allows (Function.update extent axis n) := by
  intro other m hm
  have hne : other ≠ axis := by
    rintro rfl
    rw [hnone] at hm
    cases hm
  rw [Function.update_of_ne hne]
  exact h other m hm

/-- An extent is found along an index exactly if some variable runs along it. -/
theorem along_eq_none_iff {pairs : List (Alias × Argument α)}
    (h : ∀ extent, found.Allows extent ↔ ∀ p ∈ pairs, Fits extent p.1 p.2) (axis : Axis) :
    found.along axis = none ↔ ∀ p ∈ pairs, p.1.category ≠ axis.category := by
  have hnext (n : UInt64) : n ≠ n + 1 := by
    intro he
    have := congrArg (· - n) he
    simp at this
  constructor
  · intro hnone p hp haxis
    have hother := found.allows_getD.update hnone ((found.along axis).getD 1 + 1)
    have hsame := ((h _).mp found.allows_getD p hp).unique ((h _).mp hother p hp) haxis
    rw [Function.update_self] at hsame
    exact hnext _ hsame
  · intro habsent
    rw [Option.eq_none_iff_forall_ne_some]
    intro n hn
    -- Nothing depends on the extent along this index, so another one must be allowed as well.
    have hother : found.Allows (Function.update (fun axis => (found.along axis).getD 1) axis (n + 1)) := by
      refine (h _).mpr fun p hp => ((h _).mp found.allows_getD p hp).congr fun other hc => ?_
      have hne : other ≠ axis := by
        rintro rfl
        exact habsent p hp hc
      rw [Function.update_of_ne hne]
    have hsame := hother axis n hn
    rw [Function.update_self] at hsame
    exact hnext _ hsame

/-- The extents of a call along its indices. -/
def along (nx ny : UInt64) : Axis → UInt64
  | .outer => nx
  | .inner => ny

/-- An argument list is right for a specification in a call of some extents. -/
structure Conforms {α : Type} (spec : KernelSpec) (arguments : List (Argument α)) (extent : Axis → UInt64) :
    Prop where
  count : spec.aliases.length = arguments.length
  fits : ∀ p ∈ spec.aliases.zip arguments, Fits extent p.1 p.2
  absent : ∀ axis, (∀ a ∈ spec.aliases, a.category ≠ axis.category) → extent axis = 1

theorem forall_zip_fst {β : Type} {P : α → Prop} {xs : List α} {ys : List β} (hlength : xs.length = ys.length) :
    (∀ p ∈ xs.zip ys, P p.1) ↔ ∀ x ∈ xs, P x := by
  rw [← List.forall_mem_map, List.map_fst_zip hlength.le]

section

variable {α : Type} {spec : KernelSpec} {arguments : List (Argument α)} {pairs : List (Alias × Argument α)}
  {nx ny : UInt64}

theorem collect_eq_ok {found : Found} (h : collect {} pairs = .ok found) (extent : Axis → UInt64) :
    found.Allows extent ↔ ∀ p ∈ pairs, Fits extent p.1 p.2 := by
  have hnarrows := collect_narrows {} pairs
  rw [h] at hnarrows
  rw [hnarrows extent, and_iff_right (Found.allows_empty extent)]

theorem collect_eq_error {e : CallError} (h : collect {} pairs = .error e) :
    ∃ i p, pairs[i]? = some p ∧ e.argument? = some p.1.name ∧
      (∃ extent, ∀ q ∈ pairs.take i, Fits extent q.1 q.2) ∧
      ∀ extent, ¬∀ q ∈ pairs.take (i + 1), Fits extent q.1 q.2 := by
  have hnarrows := collect_narrows {} pairs
  rw [h] at hnarrows
  obtain ⟨i, p, hp, hname, ⟨extent, _, hfits⟩, hnone⟩ := hnarrows
  exact ⟨i, p, hp, hname, ⟨extent, hfits⟩, fun extent => hnone extent (Found.allows_empty extent)⟩

theorem ofArguments_eq (hcount : spec.aliases.length = arguments.length) :
    ofArguments spec arguments =
      match collect {} (spec.aliases.zip arguments) with
      | .error e => .error e
      | .ok found => .ok (found.nx.getD 1, found.ny.getD 1) := by
  unfold ofArguments
  exact if_neg (not_not.mpr hcount)

theorem conforms_of_ofArguments (h : ofArguments spec arguments = .ok (nx, ny)) :
    Conforms spec arguments (along nx ny) := by
  by_cases hcount : spec.aliases.length = arguments.length
  · rw [ofArguments_eq hcount] at h
    cases hc : collect {} (spec.aliases.zip arguments) with
    | error e => rw [hc] at h; cases h
    | ok found =>
      rw [hc] at h
      have hall := collect_eq_ok hc
      have hextent : along nx ny = fun axis => (found.along axis).getD 1 := by
        cases h
        exact funext fun axis => by cases axis <;> rfl
      rw [hextent]
      refine ⟨hcount, (hall _).mp found.allows_getD, fun axis habsent => ?_⟩
      rw [(along_eq_none_iff hall axis).mpr ((forall_zip_fst hcount).mpr habsent), Option.getD_none]
  · rw [ofArguments, if_pos hcount] at h
    cases h

theorem Conforms.ofArguments (h : Conforms spec arguments (along nx ny)) :
    ofArguments spec arguments = .ok (nx, ny) := by
  rw [ofArguments_eq h.count]
  cases hc : collect {} (spec.aliases.zip arguments) with
  | error e =>
    obtain ⟨i, _, _, _, _, hnone⟩ := collect_eq_error hc
    exact absurd (fun q hq => h.fits q (List.mem_of_mem_take hq)) (hnone _)
  | ok found =>
    have hall := collect_eq_ok hc
    have hextent (axis : Axis) : (found.along axis).getD 1 = along nx ny axis := by
      cases hn : found.along axis with
      | none => exact (h.absent axis ((forall_zip_fst h.count).mp ((along_eq_none_iff hall axis).mp hn))).symm
      | some n => exact (hall _).mpr h.fits axis n hn
    exact congrArg Except.ok (Prod.ext (hextent .outer) (hextent .inner))

/-- **The extents of a call are exact.** They are found exactly for the argument lists that conform to them:
one argument for each variable, as long as its shape says, of the shape that its variable has in a call of
these extents, where an index without variables counts one. Otherwise the count is reported, or the name of
the first argument with which no extents are left: all before it fit some extents together, and with it they
fit none. -/
theorem ofArguments_exact (spec : KernelSpec) (arguments : List (Argument α)) :
    (∀ nx ny, ofArguments spec arguments = .ok (nx, ny) ↔ Conforms spec arguments (along nx ny)) ∧
    (spec.aliases.length ≠ arguments.length →
      ofArguments spec arguments = .error (.argumentCount spec.aliases.length arguments.length)) ∧
    ∀ e, spec.aliases.length = arguments.length → ofArguments spec arguments = .error e →
      ∃ i a argument, spec.aliases[i]? = some a ∧ arguments[i]? = some argument ∧ e.argument? = some a.name ∧
        (∃ extent, ∀ p ∈ (spec.aliases.zip arguments).take i, Fits extent p.1 p.2) ∧
        ∀ extent, ¬∀ p ∈ (spec.aliases.zip arguments).take (i + 1), Fits extent p.1 p.2 := by
  refine ⟨fun nx ny => ⟨conforms_of_ofArguments, Conforms.ofArguments⟩, fun hcount => ?_, fun e hcount h => ?_⟩
  · rw [ofArguments, if_pos hcount]
  · rw [ofArguments_eq hcount] at h
    cases hc : collect {} (spec.aliases.zip arguments) with
    | ok found => rw [hc] at h; cases h
    | error e' =>
      rw [hc] at h
      cases h
      obtain ⟨i, ⟨a, argument⟩, hp, hname, hbefore, hnone⟩ := collect_eq_error hc
      obtain ⟨ha, hargument⟩ := List.getElem?_zip_eq_some.mp hp
      exact ⟨i, a, argument, ha, hargument, hname, hbefore, hnone⟩

end

/-- Two variables along the outer index and a parameter. -/
def outerSpec : KernelSpec :=
  { formula := "x*y", reduction := .sum, axis := .outer, precision := .float32, flags := .empty,
    aliases := [⟨"x", .outer, 0, 1⟩, ⟨"y", .outer, 1, 2⟩, ⟨"p", .parameter, 2, 3⟩] }

/-- Arguments for them: four rows of one scalar, some rows of two, and three scalars. -/
def outerArguments (rows : UInt64) : List (Argument Float) :=
  [⟨#[], 4, [4], .host⟩, ⟨#[], 2 * rows, [rows, 2], .host⟩, ⟨#[], 3, [3], .host⟩]

/-- Four rows on both sides conform, and no index is left for columns; five rows on one side do not, and
that side is named. -/
theorem ofArguments_exact_outer :
    Conforms outerSpec (outerArguments 4) (along 4 1) ∧
      ofArguments outerSpec (outerArguments 5) = .error (.extent "y" .outer 4 5) ∧
      ∃ i a, outerSpec.aliases[i]? = some a ∧ a.name = "y" ∧
        ∀ extent, ¬∀ p ∈ (outerSpec.aliases.zip (outerArguments 5)).take (i + 1), Fits extent p.1 p.2 := by
  refine ⟨((ofArguments_exact outerSpec (outerArguments 4)).1 4 1).mp rfl, rfl, ?_⟩
  obtain ⟨i, a, _, ha, _, hname, _, hnone⟩ :=
    (ofArguments_exact outerSpec (outerArguments 5)).2.2 (.extent "y" .outer 4 5) rfl rfl
  exact ⟨i, a, ha, (Option.some.inj hname).symm, hnone⟩

/-! ### Lengths -/

/-- How many rows the argument of a variable has. -/
def rowsOf (nx ny : UInt64) : Category → Nat
  | .outer => nx.toNat
  | .inner => ny.toNat
  | .parameter => 1

theorem IsRows.volume (h : IsRows n dim shape) : (shape.map UInt64.toNat).prod = n.toNat * dim.toNat := by
  obtain rfl | ⟨rfl, rfl⟩ := h <;> simp

theorem Fits.length {argument : Argument α} (h : Fits (along nx ny) a argument) :
    argument.length.toNat = rowsOf nx ny a.category * a.dim.toNat := by
  obtain ⟨hfilled, hshaped⟩ := h
  unfold Shaped at hshaped
  rw [hfilled]
  cases hc : a.category <;> rw [hc] at hshaped
  · exact hshaped.volume
  · exact hshaped.volume
  · simp [hshaped, rowsOf]

/-- An accepted argument list has one argument for each variable, of exactly the extents of the call. -/
theorem ofArguments_lengths {spec : KernelSpec} {arguments : List (Argument α)}
    (h : ofArguments spec arguments = .ok (nx, ny)) :
    arguments.length = spec.aliases.length ∧
      ∀ p ∈ spec.aliases.zip arguments,
        p.2.length.toNat = rowsOf nx ny p.1.category * p.1.dim.toNat := by
  have hconforms := conforms_of_ofArguments h
  exact ⟨hconforms.count.symm, fun p hp => (hconforms.fits p hp).length⟩

end Extents

end KernelForge
