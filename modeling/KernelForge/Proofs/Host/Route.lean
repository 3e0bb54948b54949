import KernelForge.Host.FileSystem
import KernelForge.Proofs.Host.Tree

/-!
Where routes lead.

`Leads` says part by part how a route is followed, with the number of links it may still pass before and
after. It is what `follow` computes (`follow_eq_ok_iff`). A route that leads somewhere still leads there
when the tree grows (`Leads.mono`), and what a route does is what its pieces do in turn (`Leads.append`,
`Leads.split`).
-/
namespace KernelForge.Disk

open FileTree

/-- A part of a route that names something. -/
def IsName (part : String) : Prop :=
  part ≠ "" ∧ part ≠ "." ∧ part ≠ ".."

instance (part : String) : Decidable (IsName part) :=
  inferInstanceAs (Decidable (_ ∧ _ ∧ _))

theorem IsName.not_dot {part : String} (h : IsName part) : ¬(part = "" ∨ part = ".") :=
  not_or.mpr ⟨h.1, h.2.1⟩

/-- A route leads from one path to another, and of the links it may pass so many are left. -/
inductive Leads (t : FileTree) : (links : Nat) → (here route : List String) → (left : Nat) →
    (there : List String) → Prop
  | here {links : Nat} {here : List String} : Leads t links here [] links here
  | stay {links left : Nat} {here there rest : List String} {part : String}
      (folder : t.look here = some .folder) (dot : part = "" ∨ part = ".")
      (next : Leads t links here rest left there) : Leads t links here (part :: rest) left there
  | up {links left : Nat} {here there rest : List String}
      (folder : t.look here = some .folder)
      (next : Leads t links here.dropLast rest left there) : Leads t links here (".." :: rest) left there
  | down {links left : Nat} {here there rest : List String} {part : String} {x : Spot}
      (folder : t.look here = some .folder) (name : IsName part) (short : tooLong part = false)
      (found : t.look (here ++ [part]) = some x) (solid : ∀ target, x ≠ .link target)
      (next : Leads t links (here ++ [part]) rest left there) : Leads t links here (part :: rest) left there
  | turn {links left : Nat} {here there rest : List String} {part target : String}
      (folder : t.look here = some .folder) (name : IsName part) (short : tooLong part = false)
      (found : t.look (here ++ [part]) = some (.link target))
      (next : Leads t links (if Path.isAbsolute target then [] else here) (Path.parts target ++ rest)
        left there) :
      Leads t (links + 1) here (part :: rest) left there

/-! ### Following -/

section Stretch

variable {t : FileTree} {here rest : List String} {part : String}

theorem stretch_stay (hf : t.look here = some .folder) (hp : part = "" ∨ part = ".") :
    stretch t here (part :: rest) = stretch t here rest := by
  obtain ⟨id, entries, hget⟩ := look_eq_folder_iff.mp hf
  rw [stretch, hget]
  simp [hp]

theorem stretch_up (hf : t.look here = some .folder) :
    stretch t here (".." :: rest) = stretch t here.dropLast rest := by
  obtain ⟨id, entries, hget⟩ := look_eq_folder_iff.mp hf
  rw [stretch, hget]
  simp

theorem stretch_name (hf : t.look here = some .folder) (hn : IsName part) :
    stretch t here (part :: rest) =
      if tooLong part then .error .nameTooLong
      else match t.look (here ++ [part]) with
        | some (.link target) => .ok (.turned here target rest)
        | some _ => stretch t (here ++ [part]) rest
        | none => .error .notFound := by
  obtain ⟨id, entries, hget⟩ := look_eq_folder_iff.mp hf
  obtain ⟨h1, h2, h3⟩ := hn
  rw [stretch, hget]
  simp only [h1, h2, h3, decide_false, Bool.or_self, Bool.false_eq_true, if_false, find?_of_get? hget, look]
  cases t.get? (here ++ [part]) with
  | none => rfl
  | some found => cases found <;> rfl

theorem stretch_down {x : Spot} (hf : t.look here = some .folder) (hn : IsName part) (hl : tooLong part = false)
    (hx : t.look (here ++ [part]) = some x) (hsolid : ∀ target, x ≠ .link target) :
    stretch t here (part :: rest) = stretch t (here ++ [part]) rest := by
  rw [stretch_name hf hn, hl, hx]
  cases x with
  | link target => exact absurd rfl (hsolid target)
  | file id => rfl
  | folder => rfl

theorem stretch_nonfolder (hf : t.look here ≠ some .folder) (s : Stretch) :
    stretch t here (part :: rest) ≠ .ok s := by
  intro h
  rw [stretch] at h
  cases hget : t.get? here with
  | none => simp [hget] at h
  | some found =>
    cases found with
    | file id => simp [hget] at h
    | link target => simp [hget] at h
    | folder id entries => exact hf (look_eq_folder_iff.mpr ⟨id, entries, hget⟩)

end Stretch

theorem part_cases (part : String) : (part = "" ∨ part = ".") ∨ part = ".." ∨ IsName part := by
  unfold IsName
  by_cases h1 : part = ""
  · exact .inl (.inl h1)
  · by_cases h2 : part = "."
    · exact .inl (.inr h2)
    · by_cases h3 : part = ".."
      · exact .inr (.inl h3)
      · exact .inr (.inr ⟨h1, h2, h3⟩)

/-- What a stretch of a route without links is followed by. -/
def Stretch.Continues (t : FileTree) (links left : Nat) (there : List String) : Stretch → Prop
  | .arrived key => left = links ∧ there = key
  | .turned here target rest => ∃ fewer, links = fewer + 1 ∧
      Leads t fewer (if Path.isAbsolute target then [] else here) (Path.parts target ++ rest) left there

variable {t : FileTree} {links left : Nat} {here route there key : List String}

theorem leads_of_stretch {s : Stretch} (h : stretch t here route = .ok s) (hs : s.Continues t links left there) :
    Leads t links here route left there := by
  induction route generalizing here with
  | nil =>
    cases h
    obtain ⟨rfl, rfl⟩ := hs
    exact .here
  | cons part rest ih =>
    by_cases hf : t.look here = some .folder
    · rcases part_cases part with hdot | rfl | hname
      · rw [stretch_stay hf hdot] at h
        exact .stay hf hdot (ih h)
      · rw [stretch_up hf] at h
        exact .up hf (ih h)
      · rw [stretch_name hf hname] at h
        cases hl : tooLong part with
        | true => simp [hl] at h
        | false =>
          simp only [hl, Bool.false_eq_true, if_false] at h
          cases hx : t.look (here ++ [part]) with
          | none => simp [hx] at h
          | some x =>
            cases x with
            | link target =>
              rw [hx] at h
              cases h
              obtain ⟨fewer, rfl, hnext⟩ := hs
              exact .turn hf hname hl hx hnext
            | _ =>
              rw [hx] at h
              exact .down hf hname hl hx nofun (ih h)
    · exact absurd h (stretch_nonfolder hf s)

theorem leads_of_follow (h : follow t links here route = .ok key) : ∃ left, Leads t links here route left key := by
  fun_induction follow t links here route with
  | case1 => cases h
  | case2 links here route key' hs =>
    cases h
    exact ⟨links, leads_of_stretch hs ⟨rfl, rfl⟩⟩
  | case3 => cases h
  | case4 here route here' target rest hs links ih =>
    obtain ⟨left, hnext⟩ := ih h
    exact ⟨left, leads_of_stretch hs ⟨links, rfl, hnext⟩⟩

theorem follow_congr {here' route' : List String} (links : Nat)
    (h : stretch t here route = stretch t here' route') :
    follow t links here route = follow t links here' route' := by
  rw [follow, follow, h]

theorem Leads.follow (h : Leads t links here route left there) : follow t links here route = .ok there := by
  induction h with
  | here => rw [Disk.follow, stretch]
  | stay hf hdot _ ih => rw [follow_congr _ (stretch_stay hf hdot), ih]
  | up hf _ ih => rw [follow_congr _ (stretch_up hf), ih]
  | down hf hname hl hx hsolid _ ih => rw [follow_congr _ (stretch_down hf hname hl hx hsolid), ih]
  | turn hf hname hl hx _ ih =>
    rw [Disk.follow, stretch_name hf hname, hl, hx]
    exact ih

/-- **A route is followed to a path exactly when it leads there.** -/
theorem follow_eq_ok_iff : follow t links here route = .ok key ↔ ∃ left, Leads t links here route left key :=
  ⟨leads_of_follow, fun ⟨_, h⟩ => h.follow⟩

/-! ### Looking -/

section Looking

variable {d : Disk} {route key : List String}

theorem locate_eq_ok_iff : d.locate route = .ok key ↔
    flaw? route = none ∧ ∃ left, Leads d.root linkLimit [] route left key := by
  rw [locate, ← follow_eq_ok_iff]
  cases flaw? route <;> simp

/-- What a route shows is what stands where it leads. -/
theorem walk_eq_ok_iff {found : FileTree} : d.walk route = .ok found ↔ flaw? route = none ∧
    ∃ left k, Leads d.root linkLimit [] route left k ∧ d.get? k = some found := by
  constructor
  · intro h
    unfold walk at h
    split at h
    · cases h
    · next k hlocate =>
      obtain ⟨hflaw, left, hleads⟩ := locate_eq_ok_iff.mp hlocate
      split at h
      · next hget => exact ⟨hflaw, left, k, hleads, hget.trans (congrArg some (Except.ok.inj h))⟩
      · cases h
  · rintro ⟨hflaw, left, k, hleads, hget⟩
    rw [walk, locate_eq_ok_iff.mpr ⟨hflaw, left, hleads⟩]
    simp only [hget]

theorem isFolder_iff : d.isFolder route = true ↔ flaw? route = none ∧
    ∃ left k, Leads d.root linkLimit [] route left k ∧ d.root.look k = some .folder := by
  constructor
  · intro h
    unfold isFolder at h
    split at h
    · next id entries hwalk =>
      obtain ⟨hflaw, left, k, hleads, hget⟩ := walk_eq_ok_iff.mp hwalk
      exact ⟨hflaw, left, k, hleads, look_eq_folder_iff.mpr ⟨id, entries, hget⟩⟩
    · cases h
  · rintro ⟨hflaw, left, k, hleads, hfolder⟩
    obtain ⟨id, entries, hget⟩ := look_eq_folder_iff.mp hfolder
    rw [isFolder, walk_eq_ok_iff.mpr ⟨hflaw, left, k, hleads, hget⟩]

theorem fileAt_eq_ok_iff {id : Nat} : d.fileAt route = .ok id ↔ flaw? route = none ∧
    ∃ left k, Leads d.root linkLimit [] route left k ∧ d.root.look k = some (.file id) := by
  simp only [look_eq_file_iff]
  refine Iff.trans ?_ walk_eq_ok_iff
  unfold fileAt
  split
  · next hwalk => simp [hwalk]
  · next hother hwalk => simpa [hwalk] using hother id
  · next hwalk => simp [hwalk]

theorem isFile_iff : d.isFile route = true ↔ ∃ id, d.fileAt route = .ok id ∧ (d.node id).kind = .regular := by
  unfold isFile fileAt
  cases d.walk route with
  | error f => simp
  | ok found => cases found <;> simp

end Looking

/-! ### Larger trees and longer routes -/

namespace Leads

variable {t : FileTree} {links left : Nat} {here there route : List String} {left' : Nat} {there' a b : List String}

theorem mono {t' : FileTree} (ht : Extends t t') (h : Leads t links here route left there) :
    Leads t' links here route left there := by
  induction h with
  | here => exact .here
  | stay hf hdot _ ih => exact .stay (ht _ _ hf) hdot ih
  | up hf _ ih => exact .up (ht _ _ hf) ih
  | down hf hname hl hx hsolid _ ih => exact .down (ht _ _ hf) hname hl (ht _ _ hx) hsolid ih
  | turn hf hname hl hx _ ih => exact .turn (ht _ _ hf) hname hl (ht _ _ hx) ih

theorem append {more : List String} (h : Leads t links here route left there)
    (hmore : Leads t left there more left' there') : Leads t links here (route ++ more) left' there' := by
  induction h with
  | here => exact hmore
  | stay hf hdot _ ih => exact .stay hf hdot (ih hmore)
  | up hf _ ih => exact .up hf (ih hmore)
  | down hf hname hl hx hsolid _ ih => exact .down hf hname hl hx hsolid (ih hmore)
  | turn hf hname hl hx _ ih =>
    have hnext := ih hmore
    rw [List.append_assoc] at hnext
    exact .turn hf hname hl hx hnext

theorem split (h : Leads t links here (a ++ b) left there) :
    ∃ left' there', Leads t links here a left' there' ∧ Leads t left' there' b left there := by
  generalize hr : a ++ b = r at h
  induction h generalizing a with
  | here =>
    obtain ⟨rfl, rfl⟩ := List.append_eq_nil_iff.mp hr
    exact ⟨_, _, .here, .here⟩
  | stay hf hdot hnext ih =>
    rcases List.append_eq_cons_iff.mp hr with ⟨rfl, rfl⟩ | ⟨ps, rfl, rfl⟩
    · exact ⟨_, _, .here, .stay hf hdot hnext⟩
    · obtain ⟨left', there', h1, h2⟩ := ih rfl
      exact ⟨left', there', .stay hf hdot h1, h2⟩
  | up hf hnext ih =>
    rcases List.append_eq_cons_iff.mp hr with ⟨rfl, rfl⟩ | ⟨ps, rfl, rfl⟩
    · exact ⟨_, _, .here, .up hf hnext⟩
    · obtain ⟨left', there', h1, h2⟩ := ih rfl
      exact ⟨left', there', .up hf h1, h2⟩
  | down hf hname hl hx hsolid hnext ih =>
    rcases List.append_eq_cons_iff.mp hr with ⟨rfl, rfl⟩ | ⟨ps, rfl, rfl⟩
    · exact ⟨_, _, .here, .down hf hname hl hx hsolid hnext⟩
    · obtain ⟨left', there', h1, h2⟩ := ih rfl
      exact ⟨left', there', .down hf hname hl hx hsolid h1, h2⟩
  | @turn links left here there rest part target hf hname hl hx hnext ih =>
    rcases List.append_eq_cons_iff.mp hr with ⟨rfl, rfl⟩ | ⟨ps, rfl, rfl⟩
    · exact ⟨_, _, .here, .turn hf hname hl hx hnext⟩
    · obtain ⟨left', there', h1, h2⟩ := ih (a := Path.parts target ++ ps) (List.append_assoc _ _ _)
      exact ⟨left', there', .turn hf hname hl hx h1, h2⟩

section Next

variable {part : String} {more : List String}

/-- Only from a folder does a route go on. -/
theorem folder (h : Leads t links here (part :: more) left there) : t.look here = some .folder := by
  cases h <;> assumption

theorem after_dot (hdot : part = "" ∨ part = ".") (h : Leads t links here (part :: more) left there) :
    Leads t links here more left there := by
  cases h with
  | stay _ _ hnext => exact hnext
  | up => exact absurd hdot (by decide)
  | down _ hname | turn _ hname => exact absurd hdot hname.not_dot

/-- How a route goes on after a name. -/
theorem after_name (hn : IsName part) (h : Leads t links here (part :: more) left there) :
    tooLong part = false ∧ ∃ x, t.look (here ++ [part]) = some x ∧
      (((∀ target, x ≠ .link target) ∧ Leads t links (here ++ [part]) more left there) ∨
        ∃ target fewer, x = .link target ∧ links = fewer + 1 ∧
          Leads t fewer (if Path.isAbsolute target then [] else here) (Path.parts target ++ more) left there) := by
  cases h with
  | stay _ hdot _ => exact absurd hdot hn.not_dot
  | up => exact absurd hn (by decide)
  | down _ _ hl hx hsolid hnext => exact ⟨hl, _, hx, .inl ⟨hsolid, hnext⟩⟩
  | turn _ _ hl hx hnext => exact ⟨hl, _, hx, .inr ⟨_, _, rfl, rfl, hnext⟩⟩

theorem found (hn : IsName part) (h : Leads t links here (part :: more) left there) :
    ∃ x, t.look (here ++ [part]) = some x := by
  obtain ⟨_, x, hx, _⟩ := h.after_name hn
  exact ⟨x, hx⟩

theorem last {x : Spot} (hn : IsName part) (hx : t.look (here ++ [part]) = some x)
    (hsolid : ∀ target, x ≠ .link target)
    (h : Leads t links here [part] left there) : there = here ++ [part] := by
  obtain ⟨_, y, hy, ⟨_, hnext⟩ | ⟨target, _, rfl, _⟩⟩ := h.after_name hn
  · cases hnext
    rfl
  · exact absurd (Option.some.inj (hx.symm.trans hy)) (hsolid target)

end Next

theorem unique (h : Leads t links here route left there) (h' : Leads t links here route left' there') :
    left = left' ∧ there = there' := by
  induction h with
  | here => cases h'; exact ⟨rfl, rfl⟩
  | stay hf hdot hnext ih => exact ih (h'.after_dot hdot)
  | up hf hnext ih =>
    cases h' with
    | stay _ hdot _ => exact absurd hdot (by decide)
    | up _ hnext' => exact ih hnext'
    | down _ hname | turn _ hname => exact absurd hname (by decide)
  | down hf hname hl hx hsolid hnext ih =>
    obtain ⟨_, y, hy, ⟨_, hnext'⟩ | ⟨target, _, rfl, _⟩⟩ := h'.after_name hname
    · exact ih hnext'
    · exact absurd (Option.some.inj (hx.symm.trans hy)) (hsolid target)
  | turn hf hname hl hx hnext ih =>
    obtain ⟨_, y, hy, ⟨hsolid, _⟩ | ⟨target, _, rfl, hlinks, hnext'⟩⟩ := h'.after_name hname
    · exact absurd (Option.some.inj (hy.symm.trans hx)) (hsolid _)
    · cases hx.symm.trans hy
      cases hlinks
      exact ih hnext'

/-- What a route does after a piece of it that leads somewhere. -/
theorem rest (ha : Leads t links here a left' there') (h : Leads t links here (a ++ b) left there) :
    Leads t left' there' b left there := by
  obtain ⟨left'', there'', ha', hb⟩ := h.split
  obtain ⟨rfl, rfl⟩ := ha.unique ha'
  exact hb

/-- Dots that stay and a slash at the end can be left out of a route that leads somewhere. -/
theorem names (h : Leads t links here route left there) :
    Leads t links here (Path.names route) left there := by
  induction route generalizing links here with
  | nil => exact h
  | cons part more ih =>
    by_cases hdot : part = "" ∨ part = "."
    · have hnames : Path.names (part :: more) = Path.names more := by
        rcases hdot with rfl | rfl <;> simp [Path.names]
      rw [hnames]
      exact ih (h.after_dot hdot)
    · obtain ⟨left', there', hpart, hmore⟩ := Leads.split (a := [part]) h
      have hnames : Path.names (part :: more) = [part] ++ Path.names more := by
        rw [not_or] at hdot
        simp [Path.names, hdot]
      rw [hnames]
      exact hpart.append (ih hmore)

/-- Names that stand below each other are a route. -/
theorem ofNames {ns : List String} {x : Spot} (hns : ∀ n ∈ ns, IsName n ∧ tooLong n = false)
    (hx : t.look (here ++ ns) = some x) (hsolid : ∀ target, x ≠ .link target) :
    Leads t links here ns links (here ++ ns) := by
  induction ns generalizing here with
  | nil => simpa using Leads.here
  | cons n rest ih =>
    have hcons : here ++ n :: rest = (here ++ [n]) ++ rest := by simp
    have hn := hns n (List.mem_cons_self)
    have hnext : Leads t links (here ++ [n]) rest links (here ++ [n] ++ rest) :=
      ih (fun m hm => hns m (List.mem_cons_of_mem _ hm)) (hcons ▸ hx)
    rw [hcons]
    cases rest with
    | nil => exact .down (look_folder_of_below hx) hn.1 hn.2 (by simpa using hx) hsolid hnext
    | cons m more =>
      have hfolder : t.look (here ++ [n]) = some .folder := look_folder_of_below (hcons ▸ hx)
      exact .down (look_folder_of_below hx) hn.1 hn.2 hfolder nofun hnext

end Leads

/-! ### The ends of routes -/

theorem flaw?_cases {f : Fault} (h : flaw? route = some f) : f = .embeddedNul ∨ f = .nameTooLong := by
  unfold flaw? at h
  split at h
  · exact .inl (Option.some.inj h).symm
  · split at h
    · exact .inr (Option.some.inj h).symm
    · cases h

theorem withoutSlash_of_last (h : route.getLast? ≠ some "") : Path.withoutSlash route = route :=
  if_neg h

theorem withoutSlash_append (h : route.getLast? = some "") : Path.withoutSlash route ++ [""] = route := by
  obtain ⟨init, rfl⟩ := List.getLast?_eq_some_iff.mp h
  rw [Path.withoutSlash, if_pos h, List.dropLast_concat]

theorem Leads.withoutSlash (h : Leads t links here route left there) :
    Leads t links here (Path.withoutSlash route) left there := by
  by_cases hslash : route.getLast? = some ""
  · rw [← withoutSlash_append hslash] at h
    obtain ⟨_, _, hfirst, hlast⟩ := h.split
    obtain ⟨rfl, rfl⟩ := hlast.unique (.stay hlast.folder (.inl rfl) .here)
    exact hfirst
  · rwa [withoutSlash_of_last hslash]

section Tip

variable {d : Disk} {init base : List String} {last : String}

/-- The end of a route is decided by where the parts before the last one lead. -/
theorem tip_concat (hlast : last ≠ "") :
    d.tip (init ++ [last]) =
      match flaw? (init ++ [last]), follow d.root linkLimit [] init with
      | some f, _ => .error f
      | none, .error f => .error f
      | none, .ok base =>
        match d.root.look base with
        | none => .error .notFound
        | some .folder =>
          if last = "." || last = ".." then .ok .dots
          else if tooLong last then .error .nameTooLong
          else .ok (.entry base last false)
        | some _ => .error .notFolder := by
  have hroute : Path.withoutSlash (init ++ [last]) = init ++ [last] :=
    withoutSlash_of_last (by simpa using hlast)
  unfold tip
  cases flaw? (init ++ [last]) with
  | some f => rfl
  | none =>
    simp only [hroute, List.getLast?_concat, List.dropLast_concat, Nat.lt_irrefl, decide_false]
    cases follow d.root linkLimit [] init with
    | error f => rfl
    | ok base =>
      simp only [Disk.get?, look]
      cases d.root.get? base with
      | none => rfl
      | some found => cases found <;> rfl

theorem tip_append (hlast : last ≠ "") (hfollow : follow d.root linkLimit [] init = .ok base)
    (hfolder : d.root.look base = some .folder) :
    d.tip (init ++ [last]) =
      match flaw? (init ++ [last]) with
      | some f => .error f
      | none =>
        if last = "." || last = ".." then .ok .dots
        else if tooLong last then .error .nameTooLong
        else .ok (.entry base last false) := by
  rw [tip_concat hlast, hfollow]
  cases flaw? (init ++ [last]) with
  | some f => rfl
  | none => simp only [hfolder]

/-- Where a route ends in an entry, it leads to the folder of the entry before its last part. -/
theorem tip_entry {route : List String} {slash : Bool} (hends : route.getLast? ≠ some "")
    (h : d.tip route = .ok (.entry base last slash)) :
    ∃ init, route = init ++ [last] ∧ follow d.root linkLimit [] init = .ok base ∧
      d.root.look base = some .folder ∧ IsName last ∧ tooLong last = false ∧ slash = false := by
  rcases List.eq_nil_or_concat route with rfl | ⟨init, last', rfl⟩
  · unfold tip at h
    cases hflaw : flaw? [] <;> simp [hflaw, Path.withoutSlash] at h
  · rw [List.concat_eq_append] at h hends ⊢
    have hlast : last' ≠ "" := by simpa using hends
    rw [tip_concat hlast] at h
    split at h
    · cases h
    · cases h
    · next hfollow =>
      split at h
      · cases h
      · next hfolder =>
        split at h
        · cases h
        · next hdots =>
          split at h
          · cases h
          · next hshort =>
            cases h
            have hdots' : last ≠ "." ∧ last ≠ ".." := by simpa using hdots
            exact ⟨init, rfl, hfollow, hfolder, ⟨hlast, hdots'⟩, by simpa using hshort, rfl⟩
      · cases h

end Tip

end KernelForge.Disk
