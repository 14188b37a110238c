import Reconcile.Proofs.Walk.Unfollowed

/-!
# Walks of trees without links

Where there is no link at all, a walk depends on the shape of the tree only, whether it follows
links or not: it yields the kept files, and its faults are the kept directories whose paths are too
long.
-/

namespace Reconcile
namespace Walk

variable {fs : FileSystem} {config : Config} {root : Path} {loc : Location} {ns : List Name}

/-- The walk in a tree without links, and what it yields. -/
lemma exists_walk_of_linkFree (config : Config) (hfree : fs.LinkFree)
    (hloc : fs.locate root = .ok loc) (hdir : fs.shape loc = some (.directory .nil)) :
    ∃ w v, w = ⟨fs, config, root⟩ ∧ Visit.Sound w v ∧ v.names = [] ∧ v.here.loc = loc ∧
      w.Stays ∧ walk fs config root = .ok (w.itemsOf v) := by
  obtain ⟨inner, hinner⟩ := Listing.shape_eq_directory_iff.1 hdir
  exact ⟨_, _, rfl, sound_rootVisit hloc hinner, rfl, rfl, fun _ => hfree,
    walk_eq_ok_iff.2 ⟨loc, inner, hloc, hinner, rfl⟩⟩

/-- A walk in a tree without links meets no fault if the paths of its directories are short. -/
theorem faultFree_iff_of_linkFree (hfree : fs.LinkFree) (hloc : fs.locate root = .ok loc)
    (hdir : fs.shape loc = some (.directory .nil)) :
    FaultFree fs config root ↔ ∀ ns, fs.shape (loc ++ ns) = some (.directory .nil) →
      config.ignore.Keeps ns → Short root ns := by
  obtain ⟨w, v, hw, hsound, hnil, rfl, hstays, hwalk⟩ :=
    exists_walk_of_linkFree config hfree hloc hdir
  have hiff := fault_notMem_iff_of_stays hstays hsound hnil
  subst hw
  rw [faultFree_iff_of_walk hwalk, hiff]
  constructor
  · intro h ns hshape hkeeps
    obtain ⟨inner, hinner⟩ := Listing.shape_eq_directory_iff.1 hshape
    exact h ns inner hinner hkeeps
  · intro h ns inner hinner hkeeps
    exact h ns (Listing.shape_eq_directory_iff.2 ⟨inner, hinner⟩) hkeeps

/-- A walk in a tree without links yields the kept files. -/
theorem mem_yielded_iff_of_linkFree (hfree : fs.LinkFree) (hloc : fs.locate root = .ok loc)
    (hdir : fs.shape loc = some (.directory .nil)) (hfault : FaultFree fs config root) {p : Path} :
    p ∈ yielded fs config root ↔ ∃ ns content, ns ≠ [] ∧ p = Path.ofNames ns ∧
      config.ignore.Keeps ns ∧ fs.shape (loc ++ ns) = some (.file content) := by
  have hshort := (faultFree_iff_of_linkFree hfree hloc hdir).1 hfault
  obtain ⟨w, v, hw, hsound, hnil, rfl, hstays, hwalk⟩ :=
    exists_walk_of_linkFree config hfree hloc hdir
  rw [yielded_of_walk hwalk, mem_filesOf, file_mem_iff_of_stays hstays hsound hnil]
  subst hw
  constructor
  · rintro ⟨ns, n, node, rfl, hnode, hdirectory, -, hkeeps, -⟩
    cases node with
    | file content =>
      exact ⟨ns ++ [n], content, by simp, rfl, hkeeps, Listing.shape_eq_file_iff.2 hnode⟩
    | directory inner => simp [Node.isDirectory] at hdirectory
    | link target => exact absurd hnode (hfree _ target)
  · rintro ⟨ns, content, hne, rfl, hkeeps, hfile⟩
    obtain ⟨ms, n, rfl⟩ : ∃ ms n, ns = ms ++ [n] :=
      ⟨_, _, (List.dropLast_concat_getLast hne).symm⟩
    have hparent := FileSystem.shape_parent hfile
    exact ⟨ms, n, .file content, rfl, Listing.shape_eq_file_iff.1 hfile, rfl,
      by simp [Node.isLink], hkeeps,
      hshort ms hparent (hkeeps.above (List.prefix_append _ _))⟩

end Walk
end Reconcile
