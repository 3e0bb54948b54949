import KernelForge.Proofs.Formula.Validity
import Mathlib.Data.List.Duplicate
import Mathlib.Data.List.Perm.Subperm
import Mathlib.Order.Bounds.Basic

/-!
Which lists of variables bind every argument, and what is wrong with the others.

Names are looked at in the order of the list, positions in the order of the sorted list. There the first
position that the next variable has, too, is the smallest one that is bound twice
(`repeatedPosition?_cases`), and the first place where another position stands is the smallest one that is
missing (`missingPosition?_eq_some_iff`). As many distinct positions as there are variables and none missing
are all of them (`canonicalize_exact`).
-/
namespace KernelForge.Alias

/-- Names are distinct, and the positions are the numbers below the number of variables. -/
structure Complete (as : List Alias) : Prop where
  names : (as.map name).Nodup
  positions : ∀ p, (∃ a ∈ as, a.position.toNat = p) ↔ p < as.length

/-- What is wrong with a list that is not complete: the first name that is there before, else the smallest
position that two variables have, else the smallest one below their number that none has. -/
inductive Defective (as : List Alias) : FormulaError → Prop
  | name {before after : List Alias} {a : Alias} (hlist : as = before ++ a :: after)
    (hagain : a.name ∈ before.map name)
      (hfirst : (before.map name).Nodup) : Defective as (.duplicateAlias a.name)
  | position {p : UInt64} (hnames : (as.map name).Nodup)
      (hleast : IsLeast {p | List.Duplicate p (as.map position)} p) : Defective as (.duplicatePosition p)
  | gap {p : UInt64} (hnames : (as.map name).Nodup) (hpositions : (as.map position).Nodup)
      (hleast : IsLeast {p : Nat | p < as.length ∧ ∀ a ∈ as, a.position.toNat ≠ p} p.toNat) :
      Defective as (.missingPosition p)

variable {as : List Alias} {p : Nat}

theorem repeatedName?_eq_some_iff {seen : List String} {found : String} :
    repeatedName? seen as = some found ↔ ∃ before a after, as = before ++ a :: after ∧ a.name = found ∧
      a.name ∈ before.map name ++ seen ∧ (before.map name).Nodup ∧ ∀ b ∈ before, b.name ∉ seen := by
  induction as generalizing seen with
  | nil => simp [repeatedName?]
  | cons b as ih =>
    unfold repeatedName?
    by_cases hb : b.name ∈ seen
    · rw [if_pos hb, Option.some.injEq]
      constructor
      · intro hfound
        exact ⟨[], b, as, rfl, hfound, hb, .nil, List.forall_mem_nil _⟩
      · rintro ⟨before, a, after, hlist, hfound, -, -, hnew⟩
        cases before with
        | nil => rwa [(List.cons.inj hlist).1]
        | cons b' before => exact absurd ((List.cons.inj hlist).1 ▸ hb) (hnew b' List.mem_cons_self)
    · rw [if_neg hb, ih]
      constructor
      · rintro ⟨before, a, after, rfl, hfound, hagain, hdistinct, hnew⟩
        exact ⟨b :: before, a, after, rfl, hfound, by grind, by grind, by grind⟩
      · rintro ⟨before, a, after, hlist, hfound, hagain, hdistinct, hnew⟩
        cases before with
        | nil => exact absurd ((List.cons.inj hlist).1 ▸ hagain) hb
        | cons b' before =>
          obtain ⟨rfl, rfl⟩ := List.cons.inj hlist
          exact ⟨before, a, after, rfl, hfound, by grind, by grind, by grind⟩

/-- In a sorted list the first two neighbors with one position have the smallest one that is bound twice. -/
theorem repeatedPosition?_cases (h : as.Pairwise Before) :
    match repeatedPosition? as with
    | some p => IsLeast {p | List.Duplicate p (as.map position)} p
    | none => as.Pairwise fun a b => a.position < b.position := by
  fun_induction repeatedPosition? as with
  | case1 a b rest heq =>
    refine ⟨.cons_mem (by simp [heq]), fun q hq => ?_⟩
    rcases List.duplicate_cons_iff.mp hq with ⟨rfl, _⟩ | hq
    · exact UInt64.le_refl _
    · obtain ⟨c, hc, rfl⟩ := List.mem_map.mp hq.mem
      exact (List.pairwise_cons.mp h).1 c hc
  | case2 a b rest hne ih =>
    obtain ⟨ha, hrest⟩ := List.pairwise_cons.mp h
    have hbelow : ∀ c ∈ b :: rest, a.position < c.position := by
      have hab := UInt64.lt_of_le_of_ne (ha b List.mem_cons_self) hne
      refine List.forall_mem_cons.mpr ⟨hab, fun c hc => ?_⟩
      exact UInt64.lt_of_lt_of_le hab ((List.pairwise_cons.mp hrest).1 c hc)
    have hset : {q | List.Duplicate q ((a :: b :: rest).map position)} =
        {q | List.Duplicate q ((b :: rest).map position)} := by
      ext q
      rw [Set.mem_ofPred_eq, List.map_cons, List.duplicate_cons_iff, Set.mem_ofPred_eq, or_iff_right]
      rintro ⟨rfl, hmem⟩
      obtain ⟨c, hc, hsame⟩ := List.mem_map.mp hmem
      exact UInt64.ne_of_lt (hbelow c hc) hsame.symm
    specialize ih hrest
    rw [hset]
    split at ih
    · exact ih
    · exact List.pairwise_cons.mpr ⟨hbelow, ih⟩
  | case3 as hshort =>
    match as with
    | [] => exact .nil
    | [a] => exact List.pairwise_singleton _ _
    | a :: b :: rest => exact absurd rfl (hshort a b rest)

/-- In a strictly sorted list the first place where another position stands is the smallest one that is
missing. -/
theorem missingPosition?_eq_some_iff {first : Nat} (h : as.Pairwise fun a b => a.position < b.position)
    (hfirst : ∀ a ∈ as, first ≤ a.position.toNat) :
    missingPosition? first as = some p ↔ p < UInt64.size ∧
      IsLeast {p | first ≤ p ∧ p < first + as.length ∧ ∀ a ∈ as, a.position.toNat ≠ p} p := by
  induction as generalizing first with
  | nil =>
    simp only [missingPosition?, reduceCtorEq, false_iff, List.length_nil]
    rintro ⟨_, ⟨hle, hlt, _⟩, _⟩
    omega
  | cons a as ih =>
    obtain ⟨ha, has⟩ := List.pairwise_cons.mp h
    have hlater : ∀ b ∈ as, a.position.toNat < b.position.toNat := fun b hb => UInt64.lt_iff_toNat_lt.mp (ha b hb)
    have hle : first ≤ a.position.toNat := hfirst a List.mem_cons_self
    unfold missingPosition?
    split
    · next heq =>
      rw [ih has fun b hb => heq ▸ hlater b hb]
      have hset : {p | first + 1 ≤ p ∧ p < first + 1 + as.length ∧ ∀ b ∈ as, b.position.toNat ≠ p} =
          {p | first ≤ p ∧ p < first + (a :: as).length ∧ ∀ b ∈ a :: as, b.position.toNat ≠ p} := by
        ext q
        simp only [Set.mem_ofPred_eq, List.length_cons, List.forall_mem_cons, heq]
        grind
      rw [hset]
    · next hne =>
      have hleast : IsLeast {p | first ≤ p ∧ p < first + (a :: as).length ∧ ∀ b ∈ a :: as,
          b.position.toNat ≠ p} first := by
        refine ⟨⟨Nat.le_refl _, by simp, List.forall_mem_cons.mpr ⟨hne, fun b hb => ?_⟩⟩, fun q hq => hq.1⟩
        have := hlater b hb
        omega
      rw [Option.some.injEq]
      refine ⟨fun hp => ?_, fun hp => hleast.unique hp.2⟩
      exact ⟨hp ▸ Nat.lt_of_le_of_lt hle a.position.toNat_lt_size, hp ▸ hleast⟩

/-- Sorting finds the smallest position that is bound twice. -/
theorem repeatedPosition?_sorted (as : List Alias) :
    (repeatedPosition? (sortByPosition as) = none ↔ (as.map position).Nodup) ∧
      ∀ p, repeatedPosition? (sortByPosition as) = some p ↔ IsLeast {p | List.Duplicate p (as.map position)} p := by
  have hperm := (perm_sortByPosition as).map position
  have hcases := repeatedPosition?_cases (pairwise_sortByPosition as)
  simp only [List.duplicate_iff_two_le_count, hperm.count_eq] at hcases ⊢
  cases hfound : repeatedPosition? (sortByPosition as) with
  | some q =>
    rw [hfound] at hcases
    refine ⟨⟨nofun, fun h => absurd h ?_⟩, fun p => ⟨?_, fun h => ?_⟩⟩
    · exact (List.duplicate_iff_two_le_count.mpr hcases.1).not_nodup
    · rintro ⟨⟩
      exact hcases
    · rw [UInt64.le_antisymm (hcases.2 h.1) (h.2 hcases.1)]
  | none =>
    rw [hfound] at hcases
    have hdistinct := hperm.nodup_iff.mp (List.pairwise_map.mpr (hcases.imp UInt64.ne_of_lt))
    refine ⟨iff_of_true rfl hdistinct, fun p => ⟨nofun, fun h => absurd hdistinct ?_⟩⟩
    exact (List.duplicate_iff_two_le_count.mpr h.1).not_nodup

theorem missingPosition?_sorted (h : repeatedPosition? (sortByPosition as) = none) :
    missingPosition? 0 (sortByPosition as) = some p ↔ p < UInt64.size ∧
      IsLeast {p | p < as.length ∧ ∀ a ∈ as, a.position.toNat ≠ p} p := by
  have hperm := perm_sortByPosition as
  have hcases := repeatedPosition?_cases (pairwise_sortByPosition as)
  rw [h] at hcases
  rw [missingPosition?_eq_some_iff hcases fun _ _ => Nat.zero_le _]
  simp only [Nat.zero_le, true_and, Nat.zero_add, hperm.length_eq, hperm.mem_iff]

theorem canonicalize_eq_error_iff {e : FormulaError} : canonicalize as = .error e ↔ Defective as e := by
  constructor
  · fun_cases canonicalize as with
    | case1 name hname =>
      rintro ⟨⟩
      obtain ⟨before, a, after, hlist, rfl, hagain, hfirst, _⟩ := repeatedName?_eq_some_iff.mp hname
      exact .name hlist (by simpa using hagain) hfirst
    | case2 hname sorted p hposition =>
      rintro ⟨⟩
      exact .position (repeatedName?_eq_none_iff.mp hname).1 ((repeatedPosition?_sorted as).2 p |>.mp hposition)
    | case3 hname sorted hposition p hgap =>
      rintro ⟨⟩
      obtain ⟨hsize, hleast⟩ := (missingPosition?_sorted hposition).mp hgap
      refine .gap (repeatedName?_eq_none_iff.mp hname).1 ((repeatedPosition?_sorted as).1.mp hposition) ?_
      rwa [UInt64.toNat_ofNat_of_lt' hsize]
    | case4 => simp
  · intro h
    cases h with
    | @name before after a hlist hagain hfirst =>
      have hname : repeatedName? [] as = some a.name :=
        repeatedName?_eq_some_iff.mpr ⟨before, a, after, hlist, rfl, by simpa using hagain, hfirst, by simp⟩
      simp only [canonicalize, hname]
    | position hnames hleast =>
      have hname : repeatedName? [] as = none := repeatedName?_eq_none_iff.mpr ⟨hnames, by simp⟩
      simp only [canonicalize, hname, ((repeatedPosition?_sorted as).2 _).mpr hleast]
    | @gap p hnames hpositions hleast =>
      have hname : repeatedName? [] as = none := repeatedName?_eq_none_iff.mpr ⟨hnames, by simp⟩
      have hposition := (repeatedPosition?_sorted as).1.mpr hpositions
      have hgap := (missingPosition?_sorted hposition).mpr ⟨p.toNat_lt_size, hleast⟩
      simp only [canonicalize, hname, hposition, hgap]
      rw [show p.toNat.toUInt64 = p from UInt64.ofNat_toNat]

/-- The positions of a complete list are distinct: there are as many as variables. -/
theorem Complete.nodup_positions (h : Complete as) : (as.map position).Nodup := by
  have hsubset : List.range as.length ⊆ as.map fun a => a.position.toNat := by
    intro p hp
    obtain ⟨a, ha, rfl⟩ := (h.positions p).mpr (List.mem_range.mp hp)
    exact List.mem_map_of_mem ha
  have hperm := (List.Nodup.subperm List.nodup_range hsubset).perm_of_length_le (by simp)
  have hdistinct := hperm.nodup_iff.mp List.nodup_range
  rw [show (fun a : Alias => a.position.toNat) = UInt64.toNat ∘ position from rfl, ← List.map_map] at hdistinct
  exact hdistinct.of_map _

theorem complete_iff : (∃ sorted, canonicalize as = .ok sorted) ↔ Complete as := by
  constructor
  · rintro ⟨sorted, h⟩
    obtain ⟨hnames, hperm, hplace⟩ := canonicalize_eq_ok_iff.mp h
    refine ⟨hnames, fun p => ?_⟩
    have hmem : p ∈ sorted.map (fun a => a.position.toNat) ↔ p < as.length := by
      rw [hplace, List.mem_range'_1, hperm.length_eq]
      omega
    rw [← hmem, (hperm.map _).mem_iff, List.mem_map]
  · intro h
    cases hresult : canonicalize as with
    | ok sorted => exact ⟨sorted, rfl⟩
    | error e =>
      exfalso
      cases canonicalize_eq_error_iff.mp hresult with
      | name hlist hagain =>
        have hnames := h.names
        rw [hlist, List.map_append, List.nodup_append] at hnames
        exact hnames.2.2 _ hagain _ List.mem_cons_self rfl
      | position _ hleast => exact hleast.1.not_nodup h.nodup_positions
      | gap _ _ hleast =>
        obtain ⟨a, ha, hposition⟩ := (h.positions _).mpr hleast.1.1
        exact hleast.1.2 a ha hposition

/-- **Lists of variables are accepted exactly if they are complete**, in the one order in which each
variable stands at its position, and a list in that order is accepted as it is. Any other list is refused
with what is wrong with it. -/
theorem canonicalize_exact (as : List Alias) :
    ((∃ sorted, canonicalize as = .ok sorted) ↔ Complete as) ∧
    (∀ sorted, canonicalize as = .ok sorted → sorted.Perm as ∧
      (∀ (i : Nat) (a : Alias), sorted[i]? = some a → a.position.toNat = i) ∧ canonicalize sorted = .ok sorted) ∧
    ∀ e, canonicalize as = .error e ↔ Defective as e := by
  refine ⟨complete_iff, fun sorted h => ?_, fun e => canonicalize_eq_error_iff⟩
  obtain ⟨hnames, hperm, hplace⟩ := canonicalize_eq_ok_iff.mp h
  refine ⟨hperm, inPlace_iff.mp hplace, canonicalize_eq_ok_iff.mpr ⟨?_, .refl _, hplace⟩⟩
  exact (hperm.map name).nodup_iff.mpr hnames

/-- Two variables are put in order. Of two positions that are bound twice the smaller one is reported. -/
theorem canonicalize_exact_swapped :
    [(⟨"x", .outer, 0, 1⟩ : Alias), ⟨"y", .inner, 1, 1⟩].Perm [⟨"y", .inner, 1, 1⟩, ⟨"x", .outer, 0, 1⟩] ∧
      Complete [⟨"y", .inner, 1, 1⟩, ⟨"x", .outer, 0, 1⟩] ∧
      Defective [⟨"x", .outer, 7, 1⟩, ⟨"y", .inner, 3, 1⟩, ⟨"z", .inner, 7, 1⟩, ⟨"w", .inner, 3, 1⟩]
        (.duplicatePosition 3) := by
  have hok : canonicalize [⟨"y", .inner, 1, 1⟩, ⟨"x", .outer, 0, 1⟩] =
      .ok [⟨"x", .outer, 0, 1⟩, ⟨"y", .inner, 1, 1⟩] := by
    decide +kernel
  exact ⟨((canonicalize_exact _).2.1 _ hok).1, (canonicalize_exact _).1.mp ⟨_, hok⟩,
    ((canonicalize_exact _).2.2 _).mp (by decide +kernel)⟩

end KernelForge.Alias
