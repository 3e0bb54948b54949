import KernelForge.Proofs.Host.Entries

/-!
Changes that stay below a path.

`Within` says that nothing has changed but what is below a path: what stands elsewhere stands there still,
and files with a name elsewhere hold what they held. Operations on names below the path keep to that: moving
(`Within.rename`), and writing if the file that is written has no other name (`Within.write`). A route that
leads to the path leads there whatever is below, if it could not pass anything there (`Leads.within`).
Folders are made where the route of the new folder leads, or one of the routes above it
(`makeFolders_made`).
-/
namespace KernelForge.Disk

open FileTree

/-! ### Elsewhere -/

/-- A path is not below another one; it may be the same. -/
def Outside (key k : List String) : Prop := ∀ n rest, k ≠ key ++ n :: rest

namespace Outside

variable {key k : List String}

/-- What is above something elsewhere is elsewhere. -/
theorem above {k' : List String} (h : Outside key k) (hk : k' <+: k) : Outside key k' := by
  obtain ⟨more, rfl⟩ := hk
  rintro n rest rfl
  exact h n (rest ++ more) (by simp)

theorem self (key : List String) : Outside key key := by
  intro n rest h
  simp at h

/-- What is in a folder at a path or below it is not elsewhere. -/
theorem not_below {base : List String} {name : String} (h : Outside key k) (hbase : key <+: base) :
    ¬base ++ [name] <+: k := by
  rintro ⟨more, rfl⟩
  obtain ⟨rest, rfl⟩ := hbase
  cases rest with
  | nil => exact h name more (by simp)
  | cons n rest => exact h n (rest ++ [name] ++ more) (by simp)

/-- Only from the path itself does a name lead below it. -/
theorem concat (h : Outside key k) (name : String) : k = key ∨ Outside key (k ++ [name]) := by
  by_cases hkey : k = key
  · exact .inl hkey
  · refine .inr fun n rest hk => ?_
    rcases List.eq_nil_or_concat rest with rfl | ⟨init, last, rfl⟩
    · exact hkey (List.append_inj' hk rfl).1
    · rw [List.concat_eq_append, ← List.cons_append, ← List.append_assoc] at hk
      exact h n init (List.append_inj' hk rfl).1

end Outside

/-- What stands at a path is what stood there, and a file holds what it held. -/
structure Same (d d' : Disk) (k : List String) : Prop where
  look : d'.root.look k = d.root.look k
  node : ∀ id, d.root.look k = some (.file id) → id < d.nodes.size → d'.node id = d.node id

theorem Same.refl (d : Disk) (k : List String) : Same d d k := ⟨rfl, fun _ _ _ => rfl⟩

variable {d d' : Disk} {k key route : List String} {name : String}

theorem Same.trans {d'' : Disk} (h : Same d d' k) (hsize : d.nodes.size ≤ d'.nodes.size) (h' : Same d' d'' k) :
    Same d d'' k := by
  refine ⟨h'.look.trans h.look, fun id hid hlt => ?_⟩
  rw [h'.node id (h.look.trans hid) (Nat.lt_of_lt_of_le hlt hsize), h.node id hid hlt]

theorem Keeps.same (h : Keeps d d') (hlook : d'.root.look k = d.root.look k) : Same d d' k :=
  ⟨hlook, fun id _ hid => h.node id hid⟩

/-- Nothing has changed but what is below a path. -/
structure Within (key : List String) (d d' : Disk) : Prop where
  size : d.nodes.size ≤ d'.nodes.size
  same : ∀ k, Outside key k → Same d d' k

namespace Within

variable {key : List String} {d d' d'' : Disk}

theorem refl (key : List String) (d : Disk) : Within key d d := ⟨Nat.le_refl _, fun k _ => .refl d k⟩

theorem trans (h : Within key d d') (h' : Within key d' d'') : Within key d d'' :=
  ⟨Nat.le_trans h.size h'.size, fun k hk => (h.same k hk).trans h.size (h'.same k hk)⟩

theorem look (h : Within key d d') {k : List String} (hk : Outside key k) : d'.root.look k = d.root.look k :=
  (h.same k hk).look

/-- Where files hold what they held, only the names matter. -/
theorem of_keeps (h : Keeps d d') (hlook : ∀ k, Outside key k → d'.root.look k = d.root.look k) : Within key d d' :=
  ⟨h.size, fun k hk => h.same (hlook k hk)⟩

theorem erase (d : Disk) (n : String) (rest : List String) : Within key d (d.erase (key ++ n :: rest)) := by
  refine .of_keeps (.of_nodes rfl rfl) fun k hk => ?_
  rw [look_erase_disk (by simp), if_neg]
  rintro ⟨more, rfl⟩
  exact hk n (rest ++ more) (by simp)

theorem newFile {name : String} (hfolder : d.root.look key = some .folder)
    (hnone : d.root.look (key ++ [name]) = none) (n : Node) : Within key d (d.newFile (key ++ [name]) n) := by
  refine .of_keeps (keeps_newFile d _ n) fun k hk => ?_
  rw [look_newFile hfolder hnone, if_neg (hk name [])]

end Within

/-! ### Moving -/

section Move

variable {key : List String} {d d' : Disk} {source target : List String} {name : String}

theorem keeps_move (h : d.move source target = .ok d') : Keeps d d' := by
  rcases move_cases h with rfl | ⟨moved, rfl, _⟩
  · exact .refl d'
  · exact .of_nodes rfl rfl

/-- A move changes nothing but what was moved, and what is where it was moved to. -/
theorem look_move {base : List String} (hfolder : d.root.look base = some .folder)
    (h : d.move source (base ++ [name]) = .ok d') {k : List String} (hk : ¬base ++ [name] <+: k) :
    d'.root.look k = d.root.look k ∨ (source <+: k ∧ d'.root.look k = none) := by
  rcases move_cases h with rfl | ⟨moved, rfl, hapart⟩
  · exact .inl rfl
  · have hsource : source ≠ [] := by
      rintro rfl
      exact hapart List.nil_prefix
    have herased : (d.erase source).root.look base = some .folder := by
      rw [look_erase_disk hsource, if_neg fun hp => hapart (hp.trans (List.prefix_append _ _)), hfolder]
    have hlook : ((d.erase source).place (base ++ [name]) moved).root.look k = (d.erase source).root.look k :=
      (look_put herased name moved k).trans (if_neg hk)
    rw [hlook, look_erase_disk hsource]
    split
    · next hp => exact .inr ⟨hp, rfl⟩
    · exact .inl rfl

/-- Something below a path that is given a name in the folder there. Every other name is there still, or is
the one that was given up. -/
theorem Within.rename {slash : Bool}
    (hsource : ∀ base last slash, d.tip source = .ok (.entry base last slash) → key <+: base)
    (htarget : d.tip target = .ok (.entry key name slash)) (h : d.rename source target = .ok d') :
    Within key d d' ∧ ∀ n, n ≠ name →
      d'.root.look (key ++ [n]) = d.root.look (key ++ [n]) ∨ d'.root.look (key ++ [n]) = none := by
  obtain ⟨base, last, _, _, _, _, htip, htip', hmove⟩ := rename_ok h
  cases htarget.symm.trans htip'
  have hfolder := (tip_eq_entry htarget).1
  refine ⟨.of_keeps (keeps_move hmove) fun k hk => ?_, fun n hn => ?_⟩
  · rcases look_move hfolder hmove (hk.not_below (List.prefix_refl key)) with hsame | ⟨hp, _⟩
    · exact hsame
    · exact absurd hp (hk.not_below (hsource _ _ _ htip))
  · have hapart : ¬key ++ [name] <+: key ++ [n] := by
      rw [List.prefix_append_right_inj]
      simpa using Ne.symm hn
    exact (look_move hfolder hmove hapart).imp_right And.right

end Move

/-! ### Writing -/

/-- An entry of the folder at a path that can be written without a change elsewhere: it is no link, and no
file that has a name elsewhere. -/
structure Private (key : List String) (d : Disk) (name : String) : Prop where
  link : ∀ target, d.root.look (key ++ [name]) ≠ some (.link target)
  own : ∀ id k, d.root.look (key ++ [name]) = some (.file id) → Outside key k → d.root.look k ≠ some (.file id)

theorem Private.missing (h : d.root.look (key ++ [name]) = none) : Private key d name := by
  refine ⟨by rw [h]; nofun, fun id k hid => ?_⟩
  rw [h] at hid
  cases hid

/-- An entry stays private as long as it is the same, and is when it is gone. -/
theorem Private.within (h : Private key d name) (hwithin : Within key d d')
    (hlook : d'.root.look (key ++ [name]) = d.root.look (key ++ [name]) ∨ d'.root.look (key ++ [name]) = none) :
    Private key d' name := by
  rcases hlook with hsame | hnone
  · refine ⟨by rw [hsame]; exact h.link, fun id k hid hk => ?_⟩
    rw [hwithin.look hk]
    exact h.own id k (hsame ▸ hid) hk
  · exact .missing hnone

/-- Writing such an entry changes it, or makes it, and nothing else. -/
theorem Within.write {content : ByteArray} (hn : Path.Single name)
    (hfollow : follow d.root linkLimit [] route = .ok key) (hfolder : d.root.look key = some .folder)
    (hprivate : Private key d name) (h : d.write (route ++ [name]) content = .ok d') :
    Within key d d' ∧ ∀ n, n ≠ name → d'.root.look (key ++ [n]) = d.root.look (key ++ [n]) := by
  have hopen := openFile_in hn hfollow hfolder hprivate.link 0o644
  unfold Disk.write at h
  cases hfault : entryFault? route name with
  | some f =>
    rw [hopen, hfault] at h
    cases h
  | none =>
    cases hlook : d.root.look (key ++ [name]) with
    | none =>
      rw [hopen, hfault, hlook] at h
      dsimp only at h
      cases hwrite : d.opens .write key with
      | false =>
        rw [hwrite] at h
        cases h
      | true =>
      rw [hwrite] at h
      cases h
      have hnew := Within.newFile hfolder hlook { mode := 0o644 }
      refine ⟨⟨by simp, fun k hk => ⟨hnew.look hk, fun id hid hlt => ?_⟩⟩, fun n hne => ?_⟩
      · rw [node_setContent_ne _ (Nat.ne_of_lt hlt), (hnew.same k hk).node id hid hlt]
      · rw [root_setContent, look_newFile hfolder hlook, if_neg (by simpa using hne)]
    | some x =>
      rw [hopen, hfault, hlook] at h
      cases x with
      | folder => cases h
      | link target => cases h
      | file id =>
        dsimp only at h
        cases hwrite : d.allows .write id with
        | false =>
          rw [hwrite] at h
          cases h
        | true =>
        rw [hwrite] at h
        cases h
        refine ⟨⟨by simp, fun k hk => ⟨rfl, fun other hother _ => ?_⟩⟩, fun n _ => rfl⟩
        refine node_setContent_ne d ?_ content
        rintro rfl
        exact hprivate.own _ k hlook hk hother

/-! ### Routes -/

/-- A route to a path where only files are below leads there whatever is below. -/
theorem Leads.within {t t' : FileTree} {here : List String} {links left : Nat}
    (hsame : ∀ k, Outside key k → t'.look k = t.look k)
    (hfiles : ∀ n x, t.look (key ++ [n]) = some x → ∃ id, x = .file id) (h : Leads t links here route left key)
    (hhere : Outside key here) : Leads t' links here route left key := by
  generalize hthere : key = there at h
  induction h with
  | here => exact .here
  | stay hf hdot _ ih => exact .stay ((hsame _ hhere).trans hf) hdot (ih hhere hthere)
  | up hf _ ih =>
    exact .up ((hsame _ hhere).trans hf) (ih (hhere.above (List.dropLast_prefix _)) hthere)
  | @down links left here there rest part x hf hname hl hx hsolid hnext ih =>
    rcases hhere.concat part with rfl | hpart
    · -- The route has come to a file, so it ends there, and not at the path.
      obtain ⟨id, rfl⟩ := hfiles _ _ hx
      cases rest with
      | nil =>
        cases hnext
        simp at hthere
      | cons p ps =>
        have hfolder := hnext.folder
        rw [hx] at hfolder
        cases hfolder
    · exact .down ((hsame _ hhere).trans hf) hname hl ((hsame _ hpart).trans hx) hsolid (ih hpart hthere)
  | @turn links left here there rest part target hf hname hl hx hnext ih =>
    rcases hhere.concat part with rfl | hpart
    · obtain ⟨id, hid⟩ := hfiles _ _ hx
      cases hid
    · refine .turn ((hsame _ hhere).trans hf) hname hl ((hsame _ hpart).trans hx) (ih ?_ hthere)
      split
      · exact hhere.above List.nil_prefix
      · exact hhere

/-! ### New folders -/

section Folders

variable {d d' : Disk} {route : List String} {k : List String}

theorem Widens.extends (h : Widens d d') : Extends d.root d'.root := by
  intro k x hx
  rcases h.look k with hsame | ⟨hnone, _⟩
  · rw [hsame, hx]
  · rw [hnone] at hx
    cases hx

theorem makeFolder_made (hends : route.getLast? ≠ some "") (h : d.makeFolder route = .ok d')
    (hk : d'.root.look k ≠ d.root.look k) : d'.locate route = .ok k := by
  have hgrows := (makeFolder_widens h).extends
  obtain ⟨base, last, slash, htip, hmissing, rfl⟩ := makeFolder_ok h
  have hflaw := flaw_of_tip htip
  obtain ⟨init, rfl, hfollow, hfolder, hname, hshort, _⟩ := tip_entry hends htip
  obtain ⟨left, hinit⟩ := follow_eq_ok_iff.mp hfollow
  have hlook := look_newFolder hfolder hmissing 0o755
  rw [hlook] at hk
  split at hk
  · next hkey =>
    subst hkey
    refine locate_eq_ok_iff.mpr ⟨hflaw, left, (hinit.mono hgrows).append ?_⟩
    exact .down (hgrows _ _ hfolder) hname hshort ((hlook _).trans (if_pos rfl)) nofun .here
  · exact absurd rfl hk

theorem locate_extends {key : List String} (hgrows : Extends d.root d'.root) (h : d.locate route = .ok key) :
    d'.locate route = .ok key := by
  obtain ⟨hflaw, left, hleads⟩ := locate_eq_ok_iff.mp h
  exact locate_eq_ok_iff.mpr ⟨hflaw, left, hleads.mono hgrows⟩

/-- **Folders are made only where the route of the new folder leads, or a route above it.** -/
theorem makeFolders_made (hends : route.getLast? ≠ some "")
    (hk : (d.makeFolders route).1.root.look k ≠ d.root.look k) :
    ∃ r ∈ route :: Path.ancestors route, (d.makeFolders route).1.locate r = .ok k := by
  have hmade : (d.makeFolders route).1.root.look k = d.root.look k ∨
      ∃ r ∈ route :: Path.ancestors route, (d.makeFolders route).1.locate r = .ok k := by
    refine @ensureFolder_induct route d (fun d' => d'.root.look k = d.root.look k ∨
      ∃ r ∈ route :: Path.ancestors route, d'.locate r = .ok k) _ (fun r hr d' d'' h hmake => ?_) (.inl rfl)
    have hr' : r.getLast? ≠ some "" := by
      rcases List.mem_cons.mp hr with rfl | hr
      · exact hends
      · exact ends_ancestors r hr
    rcases h with hsame | ⟨r', hr', hlocate⟩
    · by_cases hnew : d''.root.look k = d'.root.look k
      · exact .inl (hnew.trans hsame)
      · exact .inr ⟨r, hr, makeFolder_made hr' hmake hnew⟩
    · exact .inr ⟨r', hr', locate_extends (makeFolder_widens hmake).extends hlocate⟩
  exact hmade.resolve_left hk

end Folders

end KernelForge.Disk
