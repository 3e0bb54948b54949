import KernelForge.Json.Field
import KernelForge.Proofs.Json.RoundTrip
import KernelForge.Proofs.Text.Numeral
import Mathlib.Data.List.TakeWhile

/-!
Numbers and records that are read back.

A natural number is written without leading zeros, so it is a number of JSON and its own value is read from it
(`natBelow?_nat`). A record whose fields have different names gives each of them back (`record?_ofFields`).
-/
namespace KernelForge

namespace Json

/-! ### Numbers -/

theorem digitRow_digits {cs : List Char} (hne : cs ≠ []) (h : ∀ c ∈ cs, c.isDigit = true) :
    Token.digitRow cs = some [] := by
  have htake : cs.takeWhile Char.isDigit = cs := List.takeWhile_eq_self_iff.mpr h
  have hdrop : cs.dropWhile Char.isDigit = [] := List.dropWhile_eq_nil_iff.mpr h
  simp [Token.digitRow, htake, hdrop, hne]

theorem isNumber_decimal (n : Nat) : Token.isNumber (Text.Numeral.decimal n) = true := by
  by_cases hn : n = 0
  · subst hn
    decide
  · obtain ⟨c, cs, hcs, hc⟩ := Text.Numeral.decimal_start hn
    have hdigits : ∀ x ∈ c :: cs, x.isDigit = true := by
      intro x hx
      exact Text.Numeral.isDigit_decimal (hcs ▸ hx)
    have hminus : c ≠ '-' := by
      rintro rfl
      exact absurd (hdigits '-' List.mem_cons_self) (by decide)
    have hinteger : Token.dropInteger (c :: cs) = some [] := by
      unfold Token.dropInteger
      split
      · next heq => exact absurd (List.cons.inj heq).1 hc
      · exact digitRow_digits (by simp) hdigits
    rw [hcs]
    unfold Token.isNumber
    split
    · next heq => exact absurd (List.cons.inj heq).1 hminus
    · simp [hinteger, Token.dropFraction, Token.dropExponent]

theorem natBelow?_nat {n limit : Nat} (h : n < limit) : natBelow? limit (.nat n) = some n := by
  by_cases hn : n = 0
  · subst hn
    show (if 0 < limit then some 0 else none) = some 0
    rw [if_pos h]
  · obtain ⟨c, cs, hcs, hc⟩ := Text.Numeral.decimal_start hn
    have hdigits := Text.Numeral.digits?_decimal n
    unfold nat
    rw [hcs] at hdigits ⊢
    unfold natBelow?
    split
    · next heq => cases heq; exact absurd rfl hc
    · next heq => cases heq; exact absurd rfl hc
    · next heq => cases heq; simp [hdigits, h]
    · next hno => exact absurd rfl (hno _)

/-! ### Values that are written well -/

theorem spelled_nat (n : Nat) : Spelled (tokens (.nat n)) := by
  intro t ht
  rw [nat, tokens, List.mem_singleton] at ht
  subst ht
  exact isNumber_decimal n

theorem spelled_str (s : String) : Spelled (tokens (.str s)) := by
  intro t ht
  rw [str, tokens, List.mem_singleton] at ht
  subst ht
  trivial

variable {items : List Json} {fields : List (String × Json)}

theorem spelled_laterItems (h : ∀ v ∈ items, Spelled v.tokens) : Spelled (laterItems items) := by
  induction items with
  | nil => nofun
  | cons v items ih =>
    rw [laterItems, spelled_cons, spelled_append]
    exact ⟨trivial, h v List.mem_cons_self, ih fun w hw => h w (List.mem_cons_of_mem _ hw)⟩

theorem spelled_array (h : ∀ v ∈ items, Spelled v.tokens) : Spelled (tokens (.array items)) := by
  rw [tokens, spelled_cons, spelled_append]
  refine ⟨trivial, ?_, spelled_cons.mpr ⟨trivial, nofun⟩⟩
  cases items with
  | nil => nofun
  | cons v items =>
    rw [firstItem, spelled_append]
    exact ⟨h v List.mem_cons_self, spelled_laterItems fun w hw => h w (List.mem_cons_of_mem _ hw)⟩

theorem spelled_memberTokens {m : Option String × Json} (h : Spelled m.2.tokens) :
    Spelled (memberTokens m) := by
  rw [memberTokens, spelled_cons, spelled_cons]
  exact ⟨trivial, trivial, h⟩

theorem spelled_laterMembers {members : List (Option String × Json)}
    (h : ∀ m ∈ members, Spelled m.2.tokens) : Spelled (laterMembers members) := by
  induction members with
  | nil => nofun
  | cons m members ih =>
    rw [laterMembers, spelled_cons, spelled_append]
    exact ⟨trivial, spelled_memberTokens (h m List.mem_cons_self),
      ih fun w hw => h w (List.mem_cons_of_mem _ hw)⟩

theorem spelled_ofFields (h : ∀ f ∈ fields, Spelled f.2.tokens) : Spelled (tokens (.ofFields fields)) := by
  rw [ofFields, tokens, spelled_cons, spelled_append]
  refine ⟨trivial, ?_, spelled_cons.mpr ⟨trivial, nofun⟩⟩
  cases fields with
  | nil => nofun
  | cons f fields =>
    rw [List.map_cons, firstMember, spelled_append]
    refine ⟨spelled_memberTokens (h f List.mem_cons_self), spelled_laterMembers fun m hm => ?_⟩
    obtain ⟨g, hg, rfl⟩ := List.mem_map.mp hm
    exact h g (List.mem_cons_of_mem _ hg)

/-! ### Arrays -/

theorem mapM_map {α β : Type} {write : α → Json} {read? : Json → Option β} {value : α → β}
    (h : ∀ a, read? (write a) = some (value a)) (as : List α) :
    (as.map write).mapM read? = some (as.map value) := by
  induction as with
  | nil => rfl
  | cons a as ih =>
    rw [List.map_cons, List.mapM_cons, h, ih]
    rfl

/-! ### Records -/

/-- Among fields with different names, each name has its own value. -/
theorem only?_field (hnames : (fields.map Prod.fst).Nodup) {f : String × Json} (hf : f ∈ fields) :
    only? (fields.map fun f => (some f.1, f.2)) f.1 = some f.2 := by
  have hfilter : (fields.map fun f => (some f.1, f.2)).filter (fun m => m.1 == some f.1) =
      [(some f.1, f.2)] := by
    induction fields with
    | nil => cases hf
    | cons g fields ih =>
      rw [List.map_cons, List.nodup_cons] at hnames
      rcases List.mem_cons.mp hf with rfl | hmem
      · -- No later field has this name.
        have hrest : (fields.map fun f => (some f.1, f.2)).filter (fun m => m.1 == some f.1) = [] := by
          rw [List.filter_eq_nil_iff]
          intro m hm
          obtain ⟨g, hg, rfl⟩ := List.mem_map.mp hm
          have hne : g.1 ≠ f.1 := fun h => hnames.1 (h ▸ List.mem_map_of_mem hg)
          simpa using hne
        simp [hrest]
      · have hne : g.1 ≠ f.1 := fun h => hnames.1 (h ▸ List.mem_map_of_mem hmem)
        simp [hne, ih hnames.2 hmem]
  rw [only?, hfilter]

theorem record?_ofFields (hnames : (fields.map Prod.fst).Nodup) :
    record? (fields.map Prod.fst) (.ofFields fields) = some (fields.map Prod.snd) := by
  have hall : (fields.map fun f => (some f.1, f.2)).all (fun m => m.1.isSome) = true := by simp
  have hmap : ∀ chosen : List (String × Json), (∀ f ∈ chosen, f ∈ fields) →
      (chosen.map Prod.fst).mapM (only? (fields.map fun f => (some f.1, f.2))) =
        some (chosen.map Prod.snd) := by
    intro chosen hchosen
    induction chosen with
    | nil => rfl
    | cons f rest ih =>
      rw [List.map_cons, List.mapM_cons, only?_field hnames (hchosen f List.mem_cons_self),
        ih fun g hg => hchosen g (List.mem_cons_of_mem _ hg)]
      rfl
  show (if (fields.map fun f => (some f.1, f.2)).all (fun m => m.1.isSome) = true then _ else _) = _
  rw [if_pos hall]
  exact hmap fields fun _ hf => hf

end Json

end KernelForge
