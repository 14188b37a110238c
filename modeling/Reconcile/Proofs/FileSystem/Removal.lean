import Reconcile.Proofs.FileSystem.Enter

/-!
# What is taken away

An entry is removed with everything below it, and nothing else is different afterwards
(`FileSystem.shape_without`).  What a path leads to then it led to before
(`FileSystem.enters_of_without`); so a path whose last name has been removed leads nowhere, whatever
links are on the way (`FileSystem.existsAt_without`).
-/

namespace Reconcile

namespace Listing

variable {top : Listing} {loc parent : Location} {n : Name}

/-- What is removed from the directory at `parent` is gone, and nothing else. -/
theorem shape_removeAt (hdistinct : top.Distinct)
    (hparent : top.shape parent = some (.directory .nil)) (loc : Location) :
    (top.removeAt parent n).shape loc = if parent ++ [n] <+: loc then none else top.shape loc := by
  induction parent generalizing top loc with
  | nil =>
    show (top.erase n).shape loc = _
    cases loc with
    | nil => simp
    | cons m rest =>
      by_cases hm : n = m
      · subst hm
        have hpre : [] ++ [n] <+: n :: rest := by simp
        rw [shape, lookup_cons, find?_erase_self hdistinct, if_pos hpre]
        rfl
      · have hpre : ¬ [] ++ [n] <+: m :: rest := by simp [hm]
        rw [shape_cons_congr (find?_erase_ne top hm), if_neg hpre]
  | cons k parent ih =>
    obtain ⟨outer, houter, hparent⟩ := exists_directory_of_shape_cons hparent
    have hset : top.removeAt (k :: parent) n =
        top.set k (.directory (outer.removeAt parent n)) := by
      simp [removeAt, modifyAt, houter]
    have hfind := find?_set top k k (.directory (outer.removeAt parent n))
    rw [if_pos rfl] at hfind
    rw [hset]
    cases loc with
    | nil => simp
    | cons m rest =>
      by_cases hm : k = m
      · subst hm
        rw [shape_cons_directory hfind, shape_cons_directory houter,
          ih (distinct_of_find? hdistinct houter) hparent]
        simp [List.cons_prefix_cons]
      · have hother : (top.set k (.directory (outer.removeAt parent n))).find? m =
            top.find? m := by simp [find?_set, hm]
        have hpre : ¬ k :: parent ++ [n] <+: m :: rest := by simp [List.cons_prefix_cons, hm]
        rw [shape_cons_congr hother, if_neg hpre]

end Listing

namespace FileSystem

variable {fs fs' : FileSystem} {p : Path} {n : Name} {loc mid : Location}

/-- An entry is removed with everything below it. -/
theorem shape_without (hdir : fs.shape mid = some (.directory .nil)) (n : Name) (loc : Location) :
    (fs.without (mid ++ [n])).shape loc =
      if mid ++ [n] <+: loc then none else fs.shape loc := by
  rw [without]
  simp only [List.getLast?_concat, List.dropLast_concat]
  exact Listing.shape_removeAt fs.distinct hdir loc

lemma without_current (fs : FileSystem) (loc : Location) :
    (fs.without loc).current = fs.current := by
  rw [without]
  split <;> rfl

/-- Nothing stands anywhere that did not stand there before. -/
lemma shape_of_without {node : Node} (hdir : fs.shape mid = some (.directory .nil))
    (h : (fs.without (mid ++ [n])).shape loc = some node) :
    ¬ mid ++ [n] <+: loc ∧ fs.shape loc = some node := by
  rw [shape_without hdir] at h
  split at h
  · cases h
  · rename_i hpre
    exact ⟨hpre, h⟩

/-- Where entries are looked up now they were looked up before. -/
theorem enters_of_without (hdir : fs.shape mid = some (.directory .nil))
    (h : (fs.without (mid ++ [n])).Enters p loc) : fs.Enters p loc := by
  obtain ⟨k, hk, hleads⟩ := h
  have hgrows : (fs.without (mid ++ [n])).Grows fs := {
    current := (without_current fs (mid ++ [n])).symm
    directories := fun loc hloc => (shape_of_without hdir hloc).2
    files := fun loc content hloc => ⟨content, (shape_of_without hdir hloc).2⟩ }
  refine ⟨k, hk, ?_⟩
  rw [← without_current fs (mid ++ [n])]
  exact hgrows.leads (fun loc target hloc => (shape_of_without hdir hloc).2) hleads

/-- A path whose last name has been removed leads nowhere. -/
theorem existsAt_without (hp : fs.Enters p mid) (hdir : fs.shape mid = some (.directory .nil)) :
    (fs.without (mid ++ [n])).existsAt (p.child n) = false := by
  rw [← Bool.not_eq_true]
  intro hexists
  obtain ⟨loc, hlocate⟩ := existsAt_iff.1 hexists
  obtain ⟨mid', node, hmid', hnode, -⟩ := exists_enters_of_child (enters_of_locate hlocate)
  obtain rfl := (enters_of_without hdir hmid').unique hp
  have hshape := shape_without hdir n (mid' ++ [n])
  rw [if_pos (List.prefix_refl _), shape, Listing.shape, Option.map_eq_none_iff] at hshape
  rw [node?, hshape] at hnode
  cases hnode

end FileSystem
end Reconcile
