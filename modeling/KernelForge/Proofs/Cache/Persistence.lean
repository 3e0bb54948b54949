import KernelForge.Proofs.Cache.Delivery

/-!
Manifests that are saved and loaded again.

A manifest is written to a draft, and the draft takes the place of the manifest that was there. Both can be
done in any folder that may be changed, where the name of the draft is free or that of a regular file, and
no folder has the name of the manifest (`writeDraft_leaves`, `publishDraft_replaces`). What is loaded then
is the manifest that was saved, whatever is in its texts (`save_lossless`).
-/
namespace KernelForge

open Disk FileTree

namespace Site

variable {s : Site} {d : Disk}

/-- The draft can be written. The folder may be changed, and the draft is not there, or it is what somebody
has left and may be read and written. -/
structure Draftable (s : Site) (d : Disk) : Prop where
  folder : d.opens .write s.key = true
  draft : s.Undrafted d ∨ ∃ id, d.root.look (s.path Manifest.draftName) = some (.file id) ∧
    (d.node id).kind = .regular ∧ ∀ right, d.allows right id = true

theorem writeDraft_leaves (h : s.Stands d) (hd : d.Numbered) (hf : s.fault? Manifest.draftName = none)
    (hdraft : s.Draftable d) (m : Manifest) :
    ∃ d' id, m.writeDraft s.location.folder d = .ok d' ∧ s.Stands d' ∧
      d'.root.look (s.path Manifest.draftName) = some (.file id) ∧ d'.content id = m.text.toUTF8 ∧
      d'.allows .read id = true ∧ d'.opens .write s.key = true ∧
      d'.root.look (s.path Manifest.fileName) = d.root.look (s.path Manifest.fileName) := by
  obtain ⟨hopens, hfree | ⟨id, hfile, hregular, hallows⟩⟩ := hdraft
  · obtain ⟨d', hwrite⟩ := writeDraft_goes h hf hopens hfree m
    obtain ⟨hworks, hup, _, hlook, hread, hcontent⟩ := writeDraft_writes h hd hfree hwrite
    have hs' := h.confined hworks.confined
    refine ⟨d', d.nodes.size, hwrite, hs', (hlook _).trans (if_pos rfl), hcontent, hread,
      hup _ _ hs'.folder fun _ => hopens, ?_⟩
    exact (hlook _).trans (if_neg (by simp [path, Manifest.fileName, Manifest.draftName]))
  · have hopen := h.openFile_entry single_draftName (by simp [hfile]) 0o644
    rw [hf, hfile] at hopen
    dsimp only at hopen
    rw [if_pos (hallows .write)] at hopen
    refine ⟨d.setContent id m.text.toUTF8, id, ?_, ⟨h.bears, h.folder⟩, hfile, ?_,
      (allows_setContent _ _ _).trans (hallows .read), opens_setContent id _ hopens, rfl⟩
    · unfold Manifest.writeDraft Disk.write
      simp only [route_draftName, hopen]
    · rw [Disk.content, node_setContent_regular d (hd _ _ hfile) hregular]

end Site

namespace Manifest

theorem ofText?_text (m : Manifest) : ofText? m.text = some m := by
  have hbytes := ofBytes?_text m
  rwa [ofBytes?, fromUTF8?_toUTF8, Option.bind_some] at hbytes

/-- **A manifest that is saved in a folder is what is loaded from it.** Its text is read as the manifest
that it was written for, and saving and loading go well wherever the names of its files fit and are not
taken by something else, and the user may change the folder. -/
theorem save_lossless (m : Manifest) : ofText? m.text = some m ∧
    ∀ (s : Site) (d : Disk), s.Stands d → d.Numbered → s.fault? draftName = none → s.Draftable d →
      d.root.look (s.path fileName) ≠ some .folder →
      ∃ d', m.save s.location.folder d = (d', .ok ()) ∧ load? s.location.folder d' = some m := by
  refine ⟨ofText?_text m, fun s d h hd hf hdraft hmanifest => ?_⟩
  have hfile : s.fault? fileName = none := Site.fault?_none_of_le hf (by decide) (by decide)
  obtain ⟨left, id, hwrite, hstands, hdrafted, hcontent, hread, hopens, hsame⟩ :=
    Site.writeDraft_leaves h hd hf hdraft m
  obtain ⟨d', hpublish, hplaced, _⟩ := Site.publishDraft_replaces hstands hfile hopens (Site.passable_single.mpr hf)
    hdrafted (hsame ▸ hmanifest)
  refine ⟨d', ?_, ?_⟩
  · unfold save
    simp only [hwrite, hpublish]
  · rw [Site.load?_file (hstands.confined hplaced.works.confined) hplaced.passable hplaced.moved.arrived
      (hplaced.works.keeps.allows hread), Disk.content, Disk.node, hplaced.moved.nodes]
    exact (congrArg ofBytes? hcontent).trans (ofBytes?_text m)

/-- A manifest of another version, with texts in which everything has to be written in another way. -/
def quoted : Manifest where
  formatVersion := 4294967295
  toolVersion := ""
  fingerprint := ⟨"\"k\\"⟩
  target := ⟨"π"⟩
  library := "../a b/\u0000\u001f\u007f"
  checksum := ⟨Vector.replicate 16 255⟩
  formula := "\n\t/😀"
  aliases := " "
  precision := .float64

end Manifest

namespace Depot

/-- Leftovers at a location, and among them the draft of a manifest. -/
def interrupted : Disk := littered.newFile (["cache", "k"] ++ ["artifact.json.tmp"]) {}

/-- That manifest is saved where a file that is none was, and a draft. -/
theorem save_lossless_interrupted :
    Manifest.load? litteredSite.location.folder interrupted = none ∧
      ∃ d', Manifest.quoted.save litteredSite.location.folder interrupted = (d', .ok ()) ∧
        Manifest.load? litteredSite.location.folder d' = some Manifest.quoted := by
  have hstands : litteredSite.Stands interrupted := ⟨vacant.bears_site _ (bears_root rfl) (.inr rfl), rfl⟩
  have hnumbered : interrupted.Numbered := numbered_newFile numbered_littered rfl rfl _
  exact ⟨rfl, (Manifest.save_lossless Manifest.quoted).2 litteredSite interrupted hstands hnumbered
    accessible_littered.ample ⟨rfl, .inr ⟨_, rfl, rfl, fun right => by cases right <;> rfl⟩⟩
    (by decide +kernel)⟩

end Depot

end KernelForge
