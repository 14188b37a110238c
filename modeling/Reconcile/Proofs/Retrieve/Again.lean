import Reconcile.Proofs.Retrieve.Overlay
import Reconcile.Proofs.Walk.LinkFree

/-!
# Walking again after copies

After copies of kept files from one root to the other one, a walk below the other root yields what
it did, and a walk below the first one yields the copied files too: the directories that were made
on the way are kept with the files in them, and their paths are shorter.  Neither walk meets a fault
that it did not meet before.  A file that was not copied over is what it was.
-/

namespace Reconcile

/-- A path above one that is short enough is short enough. -/
lemma Path.tooLong_above {p : Path} {ms ns : List Name} (hpre : ms <+: ns)
    (hshort : (p.descend ns).tooLong = false) : (p.descend ms).tooLong = false := by
  obtain ⟨rest, rfl⟩ := hpre
  have hlen := length_le_descend (p.descend ms) rest
  rw [descend_append] at hshort
  simp only [tooLong, decide_eq_false_iff_not, Nat.not_le] at hshort ⊢
  omega

namespace Retrieve
namespace Overlay

open FileSystem Walk

variable {fs fs' : FileSystem} {config : Config} {p q : Path} {loc loc' : Location}
  {ns : List Name} {done : List (List Name)} (hroots : Roots fs p q loc loc')
  (h : Overlay fs fs' loc loc' done)

include hroots h

/-- A file that was not copied over is what it was. -/
lemma shape_of_file {content : Bytes} (hns : ns ∉ done)
    (hfile : fs.shape (loc ++ ns) = some (.file content)) :
    fs'.shape (loc ++ ns) = some (.file content) := by
  rw [h.shape_elsewhere, hfile]
  intro ks hks hpre
  have hne : ns ≠ ks := by
    rintro rfl
    exact hns hks
  exact (shape_of_not_clash hroots.directory (h.clear ks hks)).2 ns hpre hne content hfile

omit hroots in
/-- Where a file stands now, it was copied there or stood there before. -/
lemma mem_or_shape_of_file {content : Bytes}
    (hfile : fs'.shape (loc ++ ns) = some (.file content)) :
    ns ∈ done ∨ fs.shape (loc ++ ns) = some (.file content) := by
  by_cases hway : ∃ ks ∈ done, ns <+: ks
  · obtain ⟨ks, hks, hpre⟩ := hway
    by_cases heq : ns = ks
    · exact Or.inl (heq ▸ hks)
    · rw [h.directories ks hks ns hpre heq] at hfile
      cases hfile
  · rw [h.shape_elsewhere fun ks hks hpre => hway ⟨ks, hks, hpre⟩] at hfile
    exact Or.inr hfile

/-! ## The other tree -/

lemma faultFree_there (hfault : FaultFree fs config q) : FaultFree fs' config q := by
  have hroots' := h.roots hroots
  have hshort := (faultFree_iff_of_linkFree hroots.linkFree hroots.located'
    hroots.directory').1 hfault
  refine (faultFree_iff_of_linkFree hroots'.linkFree hroots'.located' hroots'.directory').2 ?_
  intro ns hdir
  rw [h.shape_there hroots] at hdir
  exact hshort ns hdir

lemma mem_yielded_there (hfault : FaultFree fs config q) {path : Path} :
    path ∈ yielded fs' config q ↔ path ∈ yielded fs config q := by
  have hroots' := h.roots hroots
  rw [mem_yielded_iff_of_linkFree hroots.linkFree hroots.located' hroots.directory' hfault,
    mem_yielded_iff_of_linkFree hroots'.linkFree hroots'.located' hroots'.directory'
      (h.faultFree_there hroots hfault)]
  simp only [h.shape_there hroots]

/-! ## The tree that was copied to -/

/-- The directories that were made have shorter paths than the files in them. -/
lemma faultFree_here (hfault : FaultFree fs config p)
    (hshort : ∀ ns ∈ done, (p.descend ns).tooLong = false) : FaultFree fs' config p := by
  have hroots' := h.roots hroots
  have hdirs := (faultFree_iff_of_linkFree hroots.linkFree hroots.located hroots.directory).1 hfault
  refine (faultFree_iff_of_linkFree hroots'.linkFree hroots'.located hroots'.directory).2 ?_
  intro ns hdir hkeeps
  by_cases hway : ∃ ks ∈ done, ns <+: ks
  · obtain ⟨ks, hks, hpre⟩ := hway
    -- A directory that was made, or was on the way before, is above a copied file.
    exact fun ms _ hms => Path.tooLong_above (hms.trans hpre) (hshort ks hks)
  · rw [h.shape_elsewhere fun ks hks hpre => hway ⟨ks, hks, hpre⟩] at hdir
    exact hdirs ns hdir hkeeps

/-- The copied files are found in addition to those that were there. -/
lemma mem_yielded_here (hfault : FaultFree fs config p)
    (hshort : ∀ ns ∈ done, (p.descend ns).tooLong = false)
    (hkept : ∀ ns ∈ done, ns ≠ [] ∧ config.ignore.Keeps ns) {path : Path} :
    path ∈ yielded fs' config p ↔
      path ∈ yielded fs config p ∨ ∃ ns ∈ done, path = Path.ofNames ns := by
  have hroots' := h.roots hroots
  rw [mem_yielded_iff_of_linkFree hroots.linkFree hroots.located hroots.directory hfault,
    mem_yielded_iff_of_linkFree hroots'.linkFree hroots'.located hroots'.directory
      (h.faultFree_here hroots hfault hshort)]
  constructor
  · rintro ⟨ns, content, hne, rfl, hkeeps, hfile⟩
    rcases h.mem_or_shape_of_file hfile with hdone | hfile
    · exact Or.inr ⟨ns, hdone, rfl⟩
    · exact Or.inl ⟨ns, content, hne, rfl, hkeeps, hfile⟩
  · rintro (⟨ns, content, hne, rfl, hkeeps, hfile⟩ | ⟨ns, hdone, rfl⟩)
    · by_cases hdone : ns ∈ done
      · obtain ⟨content', hfile'⟩ := h.files ns hdone
        exact ⟨ns, content', hne, rfl, hkeeps, (h.copied ns hdone).trans hfile'⟩
      · exact ⟨ns, content, hne, rfl, hkeeps, h.shape_of_file hroots hdone hfile⟩
    · obtain ⟨content, hfile⟩ := h.files ns hdone
      obtain ⟨hne, hkeeps⟩ := hkept ns hdone
      exact ⟨ns, content, hne, rfl, hkeeps, (h.copied ns hdone).trans hfile⟩

end Overlay
end Retrieve
end Reconcile
