import Reconcile.Proofs.FileSystem.Grow
import Reconcile.Proofs.Path.Onward

/-!
# Locations that can be spelled out

In a tree without links, a path without `..` can only be located where its names say
(`FileSystem.locate_eq_spelled`), whatever else is in the tree.  While the tree grows, such a path
comes to be located at what is new, but at nothing that was there before
(`FileSystem.Extends.locate_back`).
-/

namespace Reconcile
namespace FileSystem

variable {fs fs' : FileSystem} {p q : Path} {loc loc' : Location} {k : Nat} {steps : List Step}

/-- Where the names of a path lead from its start. -/
def spelled (fs : FileSystem) (p : Path) : Location := startOf p fs.current ++ p.names

lemma spelled_congr (h : fs'.current = fs.current) (p : Path) : fs'.spelled p = fs.spelled p := by
  rw [spelled, spelled, h]

/-- The components at the beginning of a path spell the beginning of its location. -/
theorem spelled_isPrefix (fs : FileSystem) (hq : q.bytes ≠ [])
    (h : q.components <+: p.components) : fs.spelled q <+: fs.spelled p := by
  obtain ⟨rest, hrest⟩ := h
  have hhead : q.components.head? = p.components.head? := by
    obtain ⟨c, cs, hc⟩ := List.exists_cons_of_ne_nil (Path.components_ne_nil hq)
    rw [← hrest, hc]
    rfl
  have habsolute : q.isAbsolute = p.isAbsolute :=
    Bool.eq_iff_iff.2 (by rw [Path.isAbsolute_iff, Path.isAbsolute_iff, hhead])
  refine ⟨rest.filterMap Component.name?, ?_⟩
  rw [spelled, spelled, startOf, startOf, habsolute, List.append_assoc, Path.names, Path.names,
    ← List.filterMap_append, hrest]

/-! ## Without links -/

/-- Steps that do not go up lead along their names. -/
lemma Leads.eq_append_names (hfree : fs.LinkFree) (hup : .up ∉ steps)
    (h : Leads fs.top k loc steps loc') : loc' = loc ++ steps.filterMap Step.name? := by
  induction h with
  | stop loc => exact (List.append_nil loc).symm
  | stay hstep _ _ ih =>
    rw [ih fun hmem => hup (List.mem_cons_of_mem _ hmem)]
    rcases hstep with rfl | rfl <;> rfl
  | up => exact absurd List.mem_cons_self hup
  | enter _ _ _ _ ih =>
    rw [ih fun hmem => hup (List.mem_cons_of_mem _ hmem), List.append_assoc]
    rfl
  | jump hdir hfind => exact absurd (Listing.lookup_concat.2 ⟨_, hdir, hfind⟩) (hfree _ _)

/-- **Where there is no link, a path without `..` is located where it is spelled.** -/
theorem locate_eq_spelled (hfree : fs.LinkFree) (hp : p.Onward) (h : fs.locate p = .ok loc) :
    loc = fs.spelled p := by
  obtain ⟨-, -, -, k, -, hleads⟩ := locate_eq_ok_iff.1 h
  rw [hleads.eq_append_names hfree hp.up_notMem_steps, Path.names_steps]
  rfl

/-- Steps that do not go up start above their end. -/
lemma Leads.isPrefix (hfree : fs.LinkFree) (hup : .up ∉ steps) (h : Leads fs.top k loc steps loc') :
    loc <+: loc' :=
  ⟨_, (h.eq_append_names hfree hup).symm⟩

/-! ## Back to the tree that has grown -/

/-- Above a node there is a node. -/
lemma exists_node_of_isPrefix {node : Node} (h : fs.node? loc' = some node) (hpre : loc <+: loc') :
    ∃ node, fs.node? loc = some node := by
  by_cases heq : loc = loc'
  · exact ⟨node, heq ▸ h⟩
  · rw [node?, ← List.nil_append loc'] at h
    obtain ⟨inner, hinner⟩ := Listing.lookup_above h hpre heq
    exact ⟨_, hinner⟩

namespace Extends

/-- What is a directory now was one before, if it was there. -/
lemma directory_back (h : fs.Extends fs') {node : Node} (hnode : fs.node? loc = some node)
    (hdir : fs'.shape loc = some (.directory .nil)) :
    ∃ inner, fs.node? loc = some (.directory inner) := by
  cases node with
  | directory inner => exact ⟨inner, hnode⟩
  | file content =>
    obtain ⟨content', hfile⟩ := h.files loc content (Listing.shape_eq_file_iff.2 hnode)
    rw [hdir] at hfile
    cases hfile
  | link target =>
    have hlink := (h.links loc target).2 (Listing.shape_eq_link_iff.2 hnode)
    rw [hdir] at hlink
    cases hlink

/-- Steps that do not go up led before to what they lead to now, if it was there: all that is passed
on the way is above it. -/
lemma leads_back (h : fs.Extends fs') (hfree : fs.LinkFree) (hup : .up ∉ steps) {node : Node}
    (hnode : fs.node? loc' = some node) (hleads : Leads fs'.top k loc steps loc') :
    Leads fs.top k loc steps loc' := by
  have hfree' := h.linkFree hfree
  induction hleads with
  | stop loc => exact .stop loc
  | stay hstep hdir hrest ih =>
    have hup' := fun hmem => hup (List.mem_cons_of_mem _ hmem)
    obtain ⟨node₀, hnode₀⟩ := exists_node_of_isPrefix hnode (hrest.isPrefix hfree' hup')
    obtain ⟨inner, hinner⟩ := h.directory_back hnode₀ (Listing.shape_eq_directory_iff.2 ⟨_, hdir⟩)
    exact .stay hstep hinner (ih hup' hnode)
  | up => exact absurd List.mem_cons_self hup
  | enter hdir hfind hlink hrest ih =>
    have hup' := fun hmem => hup (List.mem_cons_of_mem _ hmem)
    obtain ⟨node₀, hnode₀⟩ := exists_node_of_isPrefix hnode (hrest.isPrefix hfree' hup')
    obtain ⟨inner, hinner, hfind₀⟩ := Listing.lookup_concat.1 hnode₀
    exact .enter hinner hfind₀ (hfree.isLink_eq_false hnode₀) (ih hup' hnode)
  | jump hdir hfind => exact absurd (Listing.lookup_concat.2 ⟨_, hdir, hfind⟩) (hfree' _ _)

/-- A path is located where it was spelled before. -/
lemma locate_eq_spelled (h : fs.Extends fs') (hfree : fs.LinkFree) (hp : p.Onward)
    (hlocate : fs'.locate p = .ok loc) : loc = fs.spelled p := by
  rw [← spelled_congr h.current]
  exact FileSystem.locate_eq_spelled (h.linkFree hfree) hp hlocate

/-- A path that is located at something that was there before was located there before. -/
theorem locate_back (h : fs.Extends fs') (hfree : fs.LinkFree) (hp : p.Onward)
    {node : Node} (hnode : fs.node? loc = some node) (hlocate : fs'.locate p = .ok loc) :
    fs.locate p = .ok loc := by
  obtain ⟨hnul, hne, hshort, k, hk, hleads⟩ := locate_eq_ok_iff.1 hlocate
  rw [h.current] at hleads
  exact locate_eq_ok_iff.2
    ⟨hnul, hne, hshort, k, hk, h.leads_back hfree hp.up_notMem_steps hnode hleads⟩

end Extends

end FileSystem
end Reconcile
