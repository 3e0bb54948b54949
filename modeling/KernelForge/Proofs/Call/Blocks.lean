import Mathlib
import KernelForge.Call.Ranges

/-!
Which restrictions of a reduction are accepted.

A half of a restriction is well formed if its blocks and the blocks they visit lie inside their extents and
its slices ascend from zero to the number of visited blocks (`WellFormed`). The check of the slices carries
a running bound, so each lemma about it is an induction with that bound free: `lastSlice_eq_ok_iff` says
when the check passes, and `window_unique` that the windows between consecutive slices then hold each place
once. `validate_exact` puts both halves together.
-/
namespace KernelForge.Ranges

/-! ### Intervals -/

/-- A number that is not negative is the same as an unsigned word. -/
theorem toNat_toUInt64 {x : Int64} (h : 0 ≤ x.toInt) : (x.toUInt64.toNat : Int) = x.toInt := by
  rw [Int64.toNat_toUInt64_of_le (Int64.le_iff_toInt_le.mpr h), ← Int64.toNat_toInt, Int.toNat_of_nonneg h]

/-- The interval is in order and lies inside `[0, extent)`. -/
def Within (extent : UInt64) (i : Interval) : Prop :=
  0 ≤ i.1.toInt ∧ i.1.toInt ≤ i.2.toInt ∧ i.2.toInt ≤ extent.toNat

theorem inside_iff {i : Interval} {extent : UInt64} : inside i extent = true ↔ Within extent i := by
  have hend (h : 0 ≤ i.2.toInt) : i.2.toUInt64 ≤ extent ↔ i.2.toInt ≤ extent.toNat := by
    rw [UInt64.le_iff_toNat_le, ← toNat_toUInt64 h, Int.ofNat_le]
  simp only [inside, Within, Bool.and_eq_true, decide_eq_true_eq, and_assoc, Int64.le_iff_toInt_le,
    Int64.toInt_zero]
  refine and_congr_right fun hstart => and_congr_right fun horder => hend (hstart.trans horder)

variable {k j : Nat} {previous s : Int64} {rest : List Int64}

theorem outside?_eq_none_iff {extent : UInt64} {intervals : List Interval} :
    outside? extent k intervals = none ↔ ∀ i ∈ intervals, Within extent i := by
  induction intervals generalizing k with
  | nil => simp [outside?]
  | cons i rest ih =>
    by_cases hi : inside i extent = true
    · simp [outside?, hi, ih, inside_iff.mp hi]
    · simp [outside?, hi, mt inside_iff.mpr hi]

/-! ### Slices -/

theorem last_cons (previous s : Int64) (rest : List Int64) :
    (s :: rest).getLast?.getD previous = rest.getLast?.getD s := by
  rw [List.getLast?_cons, Option.getD_some]

theorem le_last {slices : List Int64} (hup : ∀ s ∈ slices, previous.toInt ≤ s.toInt) :
    previous.toInt ≤ (slices.getLast?.getD previous).toInt := by
  cases hlast : slices.getLast? with
  | none => exact le_refl _
  | some last => exact hup last (List.mem_of_getLast? hlast)

/-- The slices pass from a bound on exactly if they ascend from it. -/
theorem lastSlice_eq_ok_iff {last : Int64} {slices : List Int64} :
    lastSlice previous k slices = .ok last ↔
      (∀ s ∈ slices, previous.toInt ≤ s.toInt) ∧ slices.Pairwise (fun a b => a.toInt ≤ b.toInt) ∧
        slices.getLast?.getD previous = last := by
  induction slices generalizing previous k with
  | nil => simp [lastSlice]
  | cons s rest ih =>
    rw [lastSlice, last_cons]
    by_cases hlt : s < previous
    · have hdown := Int64.lt_iff_toInt_lt.mp hlt
      rw [if_pos hlt]
      refine ⟨nofun, fun h => ?_⟩
      have hup := h.1 s List.mem_cons_self
      omega
    · have hup : previous.toInt ≤ s.toInt := by
        rw [Int64.lt_iff_toInt_lt] at hlt
        omega
      rw [if_neg hlt, ih, List.pairwise_cons]
      constructor
      · rintro ⟨hfirst, hrest, hend⟩
        refine ⟨fun t ht => ?_, ⟨hfirst, hrest⟩, hend⟩
        rcases List.mem_cons.mp ht with rfl | ht
        · exact hup
        · exact hup.trans (hfirst t ht)
      · rintro ⟨_, ⟨hfirst, hrest⟩, hend⟩
        exact ⟨hfirst, hrest, hend⟩

/-- Place `j` lies in window `k` of some slices: past the slice before it, or past `previous`, and before
slice `k`. -/
def InWindow (previous : Int64) (slices : List Int64) (k j : Nat) : Prop :=
  ∃ start stop, (previous :: slices)[k]? = some start ∧ slices[k]? = some stop ∧
    start.toInt ≤ j ∧ j < stop.toInt

theorem inWindow_zero : InWindow previous (s :: rest) 0 j ↔ previous.toInt ≤ j ∧ j < s.toInt := by
  simp [InWindow]

theorem inWindow_succ : InWindow previous (s :: rest) (k + 1) j ↔ InWindow s rest k j := by
  simp [InWindow]

/-- A window that follows a bound lies past it. -/
theorem InWindow.past {slices : List Int64} (h : InWindow previous slices k j)
    (hup : ∀ s ∈ slices, previous.toInt ≤ s.toInt) : previous.toInt ≤ j := by
  obtain ⟨start, stop, hstart, _, hle, _⟩ := h
  rcases List.mem_cons.mp (List.mem_of_getElem? hstart) with rfl | hmem
  · exact hle
  · exact (hup start hmem).trans hle

/-- Every window lies between the bound and the last slice. -/
theorem window_bounds {start stop : Int64} {slices : List Int64} (hup : ∀ s ∈ slices, previous.toInt ≤ s.toInt)
    (hasc : slices.Pairwise fun a b => a.toInt ≤ b.toInt) (hstart : (previous :: slices)[k]? = some start)
    (hstop : slices[k]? = some stop) :
    previous.toInt ≤ start.toInt ∧ start.toInt ≤ stop.toInt ∧
      stop.toInt ≤ (slices.getLast?.getD previous).toInt := by
  induction slices generalizing previous k with
  | nil => cases hstop
  | cons s rest ih =>
    obtain ⟨hfirst, hrest⟩ := List.pairwise_cons.mp hasc
    have hs := hup s List.mem_cons_self
    rw [last_cons]
    cases k with
    | zero =>
      cases hstart
      cases hstop
      exact ⟨le_refl _, hs, le_last hfirst⟩
    | succ k =>
      obtain ⟨hlow, hmid, hhigh⟩ := ih hfirst hrest hstart hstop
      exact ⟨hs.trans hlow, hmid, hhigh⟩

/-- Slices that ascend from a bound cut all places from there to the last slice into windows. -/
theorem window_unique {slices : List Int64} (hup : ∀ s ∈ slices, previous.toInt ≤ s.toInt)
    (hasc : slices.Pairwise fun a b => a.toInt ≤ b.toInt) (hstart : previous.toInt ≤ j)
    (hstop : j < (slices.getLast?.getD previous).toInt) : ∃! k, InWindow previous slices k j := by
  induction slices generalizing previous with
  | nil =>
    rw [List.getLast?_nil, Option.getD_none] at hstop
    omega
  | cons s rest ih =>
    obtain ⟨hfirst, hrest⟩ := List.pairwise_cons.mp hasc
    by_cases hj : j < s.toInt
    · refine ⟨0, inWindow_zero.mpr ⟨hstart, hj⟩, fun k hk => ?_⟩
      cases k with
      | zero => rfl
      | succ k =>
        have hpast := (inWindow_succ.mp hk).past hfirst
        omega
    · rw [last_cons] at hstop
      obtain ⟨k, hk, honly⟩ := ih hfirst hrest (by omega) hstop
      refine ⟨k + 1, inWindow_succ.mpr hk, fun k' hk' => ?_⟩
      cases k' with
      | zero =>
        have hbefore := (inWindow_zero.mp hk').2
        omega
      | succ k' => rw [honly k' (inWindow_succ.mp hk')]

/-- The windows of some slices cut the places from 0 to a count: each lies inside, and each place is in one. -/
structure Partitions (slices : List Int64) (count : Nat) : Prop where
  bounds : ∀ (k : Nat) (start stop : Int64), (0 :: slices)[k]? = some start → slices[k]? = some stop →
    0 ≤ start.toInt ∧ start.toInt ≤ stop.toInt ∧ stop.toInt ≤ count
  owner : ∀ j < count, ∃! k, InWindow 0 slices k j

/-! ### Halves -/

/-- A well-formed half: the blocks along one axis with their slices, and the blocks visited along the other. -/
structure WellFormed (ranges : List Interval) (slices : List Int64) (redranges : List Interval)
    (extent otherExtent : UInt64) : Prop where
  lengths : ranges.length = slices.length
  blocks : ∀ i ∈ ranges, Within extent i
  visited : ∀ i ∈ redranges, Within otherExtent i
  nonneg : ∀ s ∈ slices, 0 ≤ s.toInt
  ascending : slices.Pairwise fun a b => a.toInt ≤ b.toInt
  last : (slices.getLast?.getD 0).toInt = redranges.length

variable {ranges redranges : List Interval} {slices : List Int64} {extent otherExtent : UInt64}

theorem toNat_last (h : ∀ s ∈ slices, 0 ≤ s.toInt) :
    ((slices.getLast?.getD 0).toUInt64.toNat : Int) = (slices.getLast?.getD 0).toInt :=
  have hlast : Int64.toInt 0 ≤ (slices.getLast?.getD 0).toInt := le_last h
  toNat_toUInt64 hlast

theorem validateHalf_eq_ok_iff (axis : Axis) :
    validateHalf axis ranges slices redranges extent otherExtent = .ok () ↔
      WellFormed ranges slices redranges extent otherExtent := by
  constructor
  · fun_cases validateHalf axis ranges slices redranges extent otherExtent with
    | case5 hlengths hblocks hvisited last hslices hlast =>
      intro _
      obtain ⟨hnonneg, hascending, rfl⟩ := lastSlice_eq_ok_iff.mp hslices
      exact ⟨not_not.mp hlengths, outside?_eq_none_iff.mp hblocks, outside?_eq_none_iff.mp hvisited, hnonneg,
        hascending, by rw [← toNat_last hnonneg, hlast]⟩
    | _ => simp
  · intro h
    have hslices : lastSlice 0 0 slices = .ok (slices.getLast?.getD 0) :=
      lastSlice_eq_ok_iff.mpr ⟨h.nonneg, h.ascending, rfl⟩
    have hlast : (slices.getLast?.getD 0).toUInt64.toNat = redranges.length :=
      Int.ofNat_inj.mp ((toNat_last h.nonneg).trans h.last)
    simp [validateHalf, h.lengths, outside?_eq_none_iff.mpr h.blocks, outside?_eq_none_iff.mpr h.visited, hslices,
      hlast]

theorem WellFormed.partitions (h : WellFormed ranges slices redranges extent otherExtent) :
    Partitions slices redranges.length := by
  refine ⟨fun k start stop hstart hstop => ?_, fun j hj => window_unique h.nonneg h.ascending ?_ ?_⟩
  · rw [← h.last]
    exact window_bounds h.nonneg h.ascending hstart hstop
  · exact Int.natCast_nonneg j
  · rw [h.last]
    exact_mod_cast hj

/-- **The check of a restriction is exact.** A restriction passes, for whatever extents, exactly if both of
its halves are well formed; the blocks of the second half lie along the index that the first one visits, and
visit the other. Then the windows between consecutive slices cut the visited blocks of each half: every one
belongs to exactly one block. -/
theorem validate_exact (r : Ranges) (nx ny : UInt64) :
    (r.validate nx ny = .ok () ↔
      WellFormed r.rangesI r.slicesI r.redrangesJ nx ny ∧ WellFormed r.rangesJ r.slicesJ r.redrangesI ny nx) ∧
    (r.validate nx ny = .ok () →
      Partitions r.slicesI r.redrangesJ.length ∧ Partitions r.slicesJ r.redrangesI.length) := by
  have hexact : r.validate nx ny = .ok () ↔
      WellFormed r.rangesI r.slicesI r.redrangesJ nx ny ∧ WellFormed r.rangesJ r.slicesJ r.redrangesI ny nx := by
    rw [← validateHalf_eq_ok_iff .outer, ← validateHalf_eq_ok_iff .inner, validate]
    cases validateHalf .outer r.rangesI r.slicesI r.redrangesJ nx ny <;> simp
  refine ⟨hexact, fun h => ?_⟩
  obtain ⟨houter, hinner⟩ := hexact.mp h
  exact ⟨houter.partitions, hinner.partitions⟩

/-- Three blocks of rows. The second visits nothing, and the third what is left; no column block visits a
row. -/
def threeBlocks : Ranges :=
  { rangesI := [(0, 2), (2, 2), (2, 3)], slicesI := [1, 1, 3],
    redrangesJ := [(0, 9223372036854775807), (4, 4), (1, 2)] }

/-- The three blocks fit into three rows and all columns there can be, and not into two rows. -/
theorem validate_exact_threeBlocks :
    threeBlocks.validate 3 18446744073709551615 = .ok () ∧ Partitions [1, 1, 3] 3 ∧ InWindow 0 [1, 1, 3] 2 1 ∧
      ¬(WellFormed threeBlocks.rangesI threeBlocks.slicesI threeBlocks.redrangesJ 2 18446744073709551615 ∧
        WellFormed threeBlocks.rangesJ threeBlocks.slicesJ threeBlocks.redrangesI 18446744073709551615 2) :=
  ⟨by decide, ((validate_exact threeBlocks 3 18446744073709551615).2 (by decide)).1,
    ⟨1, 3, rfl, rfl, by decide, by decide⟩,
    mt (validate_exact threeBlocks 2 18446744073709551615).1.mpr (by decide)⟩

end KernelForge.Ranges
