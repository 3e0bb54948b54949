import KernelForge.Proofs.Host.Route
import KernelForge.Proofs.Text.Pieces

/-!
Paths that are continued by names.

A name on its own continues a route by one part and the components of a text by one (`route_join`,
`components_join`). So two continuations of one place have the same text, as far as comparison of paths
goes, only if they are made of the same names (`same_joinNames`).
-/
namespace KernelForge

namespace Path

/-- A name on its own. -/
def Single (name : String) : Prop :=
  Disk.IsName name ∧ '/' ∉ name.toList

instance (name : String) : Decidable (Single name) :=
  inferInstanceAs (Decidable (_ ∧ _))

section Single

variable {name : String} (h : Single name)
include h

theorem Single.chars_ne_nil : name.toList ≠ [] := by
  simpa using h.1.1

theorem Single.isAbsolute : isAbsolute name = false := by
  cases hcs : name.toList with
  | nil => simp [Path.isAbsolute, hcs]
  | cons c cs =>
    have hc : c ≠ '/' := by
      rintro rfl
      exact h.2 (by simp [hcs])
    simp [Path.isAbsolute, hcs, hc]

theorem Single.endsInSlash : endsInSlash name = false := by
  cases hlast : name.toList.getLast? with
  | none => simp [Path.endsInSlash, hlast]
  | some c =>
    have hc : c ≠ '/' := by
      rintro rfl
      exact h.2 (List.mem_of_getLast? hlast)
    simp [Path.endsInSlash, hlast, hc]

theorem Single.pieces : pieces name = [name] := by
  simp [Path.pieces, Text.splitAt_of_not_mem h.2, h.1.1]

theorem Single.parts : parts name = [name] := by
  simp [Path.parts, h.endsInSlash, h.pieces]

theorem Single.resolve (route : List String) : resolve route name = withoutSlash route ++ [name] := by
  simp [Path.resolve, h.isAbsolute, h.1.1, h.parts]

theorem Single.names : names [name] = [name] := by
  simp [Path.names, h.1.1, h.1.2.1]

end Single

/-! ### Texts -/

theorem pieces_append_slash (a b : String) : pieces (a ++ "/" ++ b) = pieces a ++ pieces b := by
  simp [pieces, Text.splitAt_append]

variable {path name : String}

theorem pieces_join (hp : path ≠ "") (h : Single name) : pieces (join path name) = pieces path ++ [name] := by
  unfold join
  rw [h.isAbsolute, if_neg (by simp), if_neg hp]
  split
  · -- The slash at the end of the path divides it from the name.
    next hslash =>
    have hlast : path.toList.getLast? = some '/' := by simpa [endsInSlash] using hslash
    obtain ⟨cs, hcs⟩ := List.getLast?_eq_some_iff.mp hlast
    have hpath : path = String.ofList cs ++ "/" := by
      rw [← String.toList_inj]
      simp [hcs]
    have hempty : pieces path = pieces (String.ofList cs) := by
      have hsplit := pieces_append_slash (String.ofList cs) ""
      rw [String.append_empty] at hsplit
      rw [hpath, hsplit]
      exact List.append_nil _
    rw [hempty, ← h.pieces, ← pieces_append_slash, ← hpath]
  · rw [pieces_append_slash, h.pieces]

theorem isAbsolute_append {a : String} (ha : a ≠ "") (b : String) : isAbsolute (a ++ b) = isAbsolute a := by
  have hne : a.toList ≠ [] := by simpa using ha
  cases hcs : a.toList with
  | nil => exact absurd hcs hne
  | cons c cs => simp [isAbsolute, hcs]

theorem isAbsolute_join (hp : path ≠ "") (h : Single name) : isAbsolute (join path name) = isAbsolute path := by
  unfold join
  rw [h.isAbsolute, if_neg (by simp), if_neg hp]
  split
  · exact isAbsolute_append hp name
  · rw [String.append_assoc]
    exact isAbsolute_append hp _

theorem join_ne_empty (h : Single name) : join path name ≠ "" := by
  intro he
  have hcs := congrArg String.toList he
  unfold join at hcs
  rw [h.isAbsolute] at hcs
  split at hcs
  · exact h.chars_ne_nil (by simpa using hcs)
  · split at hcs
    · exact h.chars_ne_nil (by simpa using hcs)
    · split at hcs
      · exact h.chars_ne_nil (by simp at hcs; simp [hcs])
      · simp at hcs

theorem names_append (a b : List String) : names (a ++ b) = names a ++ names b :=
  List.filter_append ..

theorem components_join (hp : path ≠ "") (h : Single name) :
    components (join path name) = components path ++ [name] := by
  unfold components
  rw [pieces_join hp h, isAbsolute_join hp h]
  cases pieces path with
  | nil =>
    show (if (decide (name = ".") && !isAbsolute path) = true then _ else names [name]) = [name]
    rw [if_neg (by simp [h.1.2.1]), h.names]
  | cons first rest =>
    have hnames : names (rest ++ [name]) = names rest ++ [name] := by rw [names_append, h.names]
    have hall : names (first :: (rest ++ [name])) = names (first :: rest) ++ [name] := by
      rw [← List.cons_append, names_append, h.names]
    show (if (decide (first = ".") && !isAbsolute path) = true then "." :: names (rest ++ [name])
      else names (first :: (rest ++ [name]))) = _
    rw [hnames, hall]
    show _ = (if (decide (first = ".") && !isAbsolute path) = true then "." :: names rest
      else names (first :: rest)) ++ [name]
    split <;> rfl

end Path

namespace Place

/-- Continues a place by names, one below the other. -/
def joinNames (place : Place) (names : List String) : Place :=
  names.foldl Place.join place

theorem route_join (place : Place) {name : String} (h : Path.Single name) :
    (place.join name).route = Path.withoutSlash place.route ++ [name] :=
  h.resolve place.route

variable {place : Place} {names : List String}

theorem route_joinNames (hends : place.route.getLast? ≠ some "") (h : ∀ n ∈ names, Path.Single n) :
    (place.joinNames names).route = place.route ++ names := by
  induction names generalizing place with
  | nil => simp [joinNames]
  | cons n names ih =>
    have hn := h n List.mem_cons_self
    have hroute := route_join place hn
    rw [Disk.withoutSlash_of_last hends] at hroute
    have hends' : (place.join n).route.getLast? ≠ some "" := by
      rw [hroute, List.getLast?_concat]
      simpa using hn.1.1
    show ((place.join n).joinNames names).route = _
    rw [ih hends' fun m hm => h m (List.mem_cons_of_mem _ hm), hroute, List.append_assoc]
    rfl

theorem components_joinNames (hp : place.text ≠ "") (h : ∀ n ∈ names, Path.Single n) :
    Path.components (place.joinNames names).text = Path.components place.text ++ names := by
  induction names generalizing place with
  | nil => simp [joinNames]
  | cons n names ih =>
    have hn := h n List.mem_cons_self
    show Path.components ((place.join n).joinNames names).text = _
    rw [ih (Path.join_ne_empty hn) fun m hm => h m (List.mem_cons_of_mem _ hm)]
    show Path.components (Path.join place.text n) ++ names = _
    rw [Path.components_join hp hn, List.append_assoc]
    rfl

/-- Continuations of one place that count as the same path are made of the same names. -/
theorem same_joinNames (hp : place.text ≠ "") {names' : List String} (h : ∀ n ∈ names, Path.Single n)
    (h' : ∀ n ∈ names', Path.Single n)
    (hsame : Path.same (place.joinNames names).text (place.joinNames names').text = true) : names = names' := by
  simp only [Path.same, Bool.and_eq_true, beq_iff_eq] at hsame
  rw [components_joinNames hp h, components_joinNames hp h'] at hsame
  exact List.append_cancel_left hsame.2

end Place

end KernelForge
