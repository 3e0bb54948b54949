import KernelForge.Proofs.Cache.Crowd
import KernelForge.Proofs.Digest.Reading

/-!
The root of a cache as a place for many sites.

A `Depot` is a root with the ground on which its route leads to its folder, and the fingerprints in use
there. Each of them has its site (`Depot.site`), and these are apart (`Depot.estate`), so that whole runs at
the cache are runs at an estate. The fingerprints that cleaning finds below the root are among those in use
(`Depot.kernels_of_listed`).
-/
namespace KernelForge

open Disk FileTree

/-! ### Names of fingerprints -/

namespace Fingerprint

theorem afterBrand?_eq {cs rest : List Char} (h : afterBrand? cs = some rest) :
    cs = "genred_".toList ++ rest := by
  unfold afterBrand? at h
  split at h
  · cases h
    rfl
  · cases h

theorem single_of_isRecognized {name : String} (h : isRecognized name.toList = true) : Path.Single name := by
  unfold isRecognized at h
  cases hcut : (afterBrand? name.toList).bind (cutLast '_') with
  | none => simp [hcut] at h
  | some parts =>
    obtain ⟨head, digest⟩ := parts
    obtain ⟨rest, hbrand, hlast⟩ := Option.bind_eq_some_iff.mp hcut
    obtain ⟨⟨a, b⟩, hat, he⟩ := Option.map_eq_some_iff.mp hlast
    cases he
    have hrest : rest = b.reverse ++ '_' :: a.reverse := by
      rw [← List.reverse_reverse rest, Text.cutAt_eq hat]
      simp
    have hname : name.toList = "genred_".toList ++ (b.reverse ++ '_' :: a.reverse) :=
      hrest ▸ afterBrand?_eq hbrand
    simp only [hcut, Bool.and_eq_true] at h
    obtain ⟨⟨hhex, _⟩, hchars⟩ := h
    have hdigest : '/' ∉ a.reverse := by
      obtain ⟨digest, hread⟩ := Option.isSome_iff_exists.mp hhex
      have hshown := (Digest.ofHex?_eq_some hread).2.2
      rw [String.toList_ofList] at hshown
      exact fun hmem => digest.not_mem_toHexChars (by decide) (hshown ▸ List.mem_map_of_mem hmem)
    have hhead : '/' ∉ b.reverse := fun hmem =>
      absurd (List.all_eq_true.mp hchars '/' hmem) (by decide)
    refine ⟨⟨?_, ?_, ?_⟩, ?_⟩
    · rintro rfl
      simp at hname
    · rintro rfl
      simp at hname
    · rintro rfl
      simp at hname
    · rw [hname]
      simp only [List.mem_append, List.mem_cons, not_or]
      exact ⟨by decide, hhead, by decide, hdigest⟩

end Fingerprint

/-! ### Depots -/

/-- The root of a cache, where on a disk it is, and the fingerprints in use: all that cleaning recognizes,
and any others whose names can be names of folders. -/
structure Depot where
  root : Place
  key : List String
  ground : Ground key
  leads : ∃ left, Leads ground.tree linkLimit [] (Path.withoutSlash root.route) left key
  kernels : Fingerprint → Prop
  single : ∀ fp, kernels fp → Path.Single fp.name
  short : ∀ fp, kernels fp → tooLong fp.name = false
  recognized : ∀ fp, Fingerprint.isRecognized fp.name.toList = true → tooLong fp.name = false → kernels fp

namespace Depot

variable (depot : Depot) {t : FileTree} {fp fp' : Fingerprint}

/-- The path of a location. -/
def folder (fp : Fingerprint) : List String := depot.key ++ [fp.name]

theorem ground_folder (fp : Fingerprint) : depot.ground.tree.look (depot.folder fp) = none :=
  depot.ground.empty _ (List.prefix_append _ _) (by simp [folder])

theorem clear_folder (fp : Fingerprint) (hb : depot.ground.Bears t)
    (h : t.look (depot.folder fp) = none ∨ t.look (depot.folder fp) = some .folder) :
    t.Clear (depot.folder fp) := by
  intro k hk
  rcases List.prefix_concat_iff.mp hk with rfl | hk
  · exact h
  · exact hb.clear k hk

theorem clear_ground (fp : Fingerprint) : depot.ground.tree.Clear (depot.folder fp) :=
  depot.clear_folder fp ⟨fun _ hk => .inr (Ground.folder_above hk), fun _ _ hx => .inl hx⟩
    (.inl (depot.ground_folder fp))

/-- The site of a fingerprint. -/
def site (fp : Fingerprint) (h : depot.kernels fp) : Site where
  location := .of depot.root fp
  key := depot.folder fp
  ground := .under depot.ground.tree _ (depot.clear_ground fp)
  leads := by
    obtain ⟨left, hleads⟩ := depot.leads
    refine ⟨left, ?_⟩
    rw [show (Location.of depot.root fp).folder.route = Path.withoutSlash depot.root.route ++ [fp.name] from
      Place.route_join _ (depot.single fp h)]
    have hgrown := hleads.mono (extends_bare (depot.clear_ground fp) (depot.ground_folder fp))
    refine hgrown.append (.ofNames (x := .folder) ?_ ?_ nofun)
    · simpa using ⟨(depot.single fp h).1, depot.short fp h⟩
    · exact (look_bare (depot.clear_ground fp) _).trans (if_pos (List.prefix_refl _))
  ends := by
    rw [show (Location.of depot.root fp).folder.route = Path.withoutSlash depot.root.route ++ [fp.name] from
      Place.route_join _ (depot.single fp h), List.getLast?_concat]
    simpa using (depot.single fp h).1.1
  text := Path.join_ne_empty (depot.single fp h)
  name := (depot.single fp h).2

theorem folder_side {k : List String} (h : depot.folder fp <+: k) (h' : depot.folder fp' <+: k) : fp = fp' := by
  cases fp
  cases fp'
  exact congrArg _ (name_unique h h')

theorem apart (h : depot.kernels fp) (h' : depot.kernels fp') (hne : fp ≠ fp') :
    (depot.site fp h).Apart (depot.site fp' h') := by
  refine ⟨fun hp => hne ?_, fun hp => hne ?_, fun n rest => ?_⟩
  · exact depot.folder_side hp (List.prefix_refl _)
  · exact depot.folder_side (List.prefix_refl _) hp
  · have hbelow : depot.folder fp <+: depot.folder fp ++ n :: rest := List.prefix_append _ _
    refine (look_bare (depot.clear_ground fp') _).trans ?_
    rw [if_neg, if_neg]
    · exact depot.ground.empty _ (by simp [site, folder]) (by simp [site, folder])
    · intro hp
      exact hne (depot.folder_side hbelow hp)
    · intro hp
      exact hne (depot.folder_side (hbelow.trans hp) (List.prefix_refl _))

/-- The sites of all fingerprints in use. -/
def estate : Estate { fp // depot.kernels fp } where
  site fp := depot.site fp.1 fp.2
  apart a b hne := depot.apart a.2 b.2 fun he => hne (Subtype.ext he)
  distinct _ _ h := Subtype.ext (congrArg Location.fingerprint h)

theorem bears_site (h : depot.kernels fp) (hb : depot.ground.Bears t)
    (hfolder : t.look (depot.folder fp) = none ∨ t.look (depot.folder fp) = some .folder) :
    (depot.site fp h).ground.Bears t := by
  refine Ground.bears_under (depot.clear_ground fp) (depot.clear_folder fp hb hfolder) fun k x hk hx => ?_
  rcases hb.has k x hx with hthere | ⟨_, hway⟩
  · exact hthere
  · exact absurd (hway.trans (List.prefix_append _ _)) hk

/-! ### Wishes at a depot -/

end Depot

theorem Disk.short_of_isFolder {d : Disk} {route : List String} {name : String} (hn : IsName name)
    (h : d.isFolder (route ++ [name]) = true) : tooLong name = false := by
  obtain ⟨_, left, k, hleads, _⟩ := isFolder_iff.mp h
  obtain ⟨_, _, _, hlast⟩ := hleads.split
  exact (hlast.after_name hn).1

namespace Depot

variable {depot : Depot}

/-- **The fingerprints that cleaning finds are in use.** -/
theorem kernels_of_listed {store : Store} {disk : Disk} {fps : List Fingerprint}
    (h : store.fingerprints disk = .ok fps) : ∀ fp ∈ fps, depot.kernels fp := by
  unfold Store.fingerprints at h
  split at h
  · cases h
    nofun
  · split at h
    · next names hlist =>
      cases h
      intro fp hfp
      obtain ⟨name, hname, hof⟩ := List.mem_filterMap.mp hfp
      unfold Fingerprint.ofDirectory? at hof
      split at hof
      · next hrecognized =>
        cases hof
        have hsingle := Fingerprint.single_of_isRecognized hrecognized
        have hfolder : disk.isFolder (store.root.join name).route = true :=
          (List.mem_filter.mp hname).2
        rw [Place.route_join _ hsingle] at hfolder
        exact depot.recognized ⟨name⟩ hrecognized (short_of_isFolder hsingle.1 hfolder)
      · cases hof
    · cases h
      nofun
    · cases h

/-- Deeds at the depot: wishes for fingerprints in use, and steps with a generator that is tidy in their
locations. -/
def Serves (depot : Depot) : Deed → Prop
  | .enter _ store wish => store.root = depot.root ∧ ∀ fp, wish.fingerprint? = some fp → depot.kernels fp
  | .move _ generator =>
    ∀ fp, depot.kernels fp → generator.Tidy (Location.of depot.root fp).folder (depot.folder fp)
  | .crash _ => True

theorem Serves.allows {deed : Deed} (h : depot.Serves deed) : depot.estate.Allows deed := by
  cases deed with
  | enter i store wish =>
    obtain ⟨hroot, hwish⟩ := h
    have hincludes {fp : Fingerprint} {errand : Errand} (hfp : depot.kernels fp) :
        depot.estate.Includes (store.visit fp errand) :=
      ⟨⟨fp, hfp⟩, by rw [Store.visit, Store.location, hroot]; rfl⟩
    intro disk v hv
    cases wish with
    | clean =>
      simp only [Store.visits] at hv
      split at hv
      · next fps hfps =>
        obtain ⟨fp, hmem, rfl⟩ := List.mem_map.mp hv
        exact hincludes (kernels_of_listed hfps fp hmem)
      · cases hv
    | _ =>
      rw [List.mem_singleton.mp hv]
      exact hincludes (hwish _ rfl)
  | move i generator => exact fun a => h a.1 a.2
  | crash i => trivial

/-! ### An empty disk -/

theorem clear_empty (id : Nat) (key : List String) : FileTree.Clear (.folder id []) key := by
  intro k _
  cases k with
  | nil => exact .inr rfl
  | cons n rest => exact .inl rfl

/-- A depot for all fingerprints that can be names of folders, on a disk with nothing on it. -/
def vacant : Depot where
  root := .ofPath [] "/cache"
  key := ["cache"]
  ground := .under (.folder 0 []) ["cache"] (clear_empty 0 _)
  leads := follow_eq_ok_iff.mp (by decide +kernel)
  kernels fp := Path.Single fp.name ∧ tooLong fp.name = false
  single _ h := h.1
  short _ h := h.2
  recognized _ h hshort := ⟨Fingerprint.single_of_isRecognized h, hshort⟩

/-- A cache at that depot, whose processes wait for locks. -/
def vacantStore : Store := ⟨vacant.root, .release, false⟩

/-- A kernel to ask for. -/
def ask (fp : Fingerprint) : Wish :=
  .ensure
    { formula := "x", reduction := .sum, axis := .outer, aliases := [], precision := .float32, flags := .empty }
    .cpu fp

theorem bears_vacant : vacant.ground.Bears ({} : Host).disk.root :=
  Ground.bears_under (clear_empty 0 _) (clear_empty 0 _) fun _ _ _ hx => hx

theorem numbered_empty : ({} : Host).disk.Numbered := by
  intro key id hfile
  cases key <;> cases hfile

end Depot

end KernelForge
