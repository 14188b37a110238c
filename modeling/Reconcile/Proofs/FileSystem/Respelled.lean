import Reconcile.Proofs.FileSystem.Place
import Reconcile.Proofs.Path.Respelled

/-!
# Where two spellings of a path lead

A piece that is `.` stays in the directory that has been reached, so it can be left out, and it can
be put in wherever there is a directory (`FileSystem.Leads.filter_here_iff`).  Hence paths with the
same components are located at the same directory (`FileSystem.locate_congr`), and the entries below
them at the same places, whatever stands there (`FileSystem.locate_descend_congr`), unless the text
of one is too long and that of the other is not.
-/

namespace Reconcile
namespace FileSystem

variable {fs : FileSystem} {p q : Path} {loc loc' : Location} {ns : List Name} {top inner : Listing}
  {k : Nat} {steps : List Step}

/-! ## Steps that stay -/

namespace Leads

/-- What leads to a directory starts in one. -/
lemma exists_directory_start (h : Leads top k loc steps loc')
    (hdir : top.lookup loc' = some (.directory inner)) :
    ∃ inner, top.lookup loc = some (.directory inner) := by
  cases steps with
  | nil =>
    cases h
    exact ⟨inner, hdir⟩
  | cons step rest => exact h.exists_directory

/-- Steps that stay can be left out. -/
lemma filter_here (h : Leads top k loc steps loc') :
    Leads top k loc (steps.filter fun step => step ≠ .here) loc' := by
  -- By induction on the steps: behind a link, those of its target are not to be touched.
  induction steps generalizing k loc with
  | nil => exact h
  | cons step rest ih =>
    have hcut : Leads top k loc ([step] ++ rest) loc' := h
    obtain ⟨mid, k₁, k₂, rfl, hstep, hrest⟩ := hcut.split
    by_cases hhere : step = .here
    · subst hhere
      cases hstep with
      | stay _ _ hstop =>
        cases hstop
        simpa using ih hrest
    · simpa [hhere] using hstep.append (ih hrest)

/-- Where steps lead to a directory, steps that stay can be put in. -/
lemma of_filter_here (hdir : top.lookup loc' = some (.directory inner))
    (h : Leads top k loc (steps.filter fun step => step ≠ .here) loc') :
    Leads top k loc steps loc' := by
  induction steps generalizing k loc with
  | nil => exact h
  | cons step rest ih =>
    by_cases hhere : step = .here
    · subst hhere
      have hrest : Leads top k loc rest loc' := ih (by simpa using h)
      obtain ⟨inner', hinner'⟩ := hrest.exists_directory_start hdir
      exact .stay (Or.inl rfl) hinner' hrest
    · have hcut : Leads top k loc ([step] ++ rest.filter fun step => step ≠ .here) loc' := by
        simpa [hhere] using h
      obtain ⟨mid, k₁, k₂, rfl, hstep, hrest⟩ := hcut.split
      exact hstep.append (ih hrest)

theorem filter_here_iff (hdir : top.lookup loc' = some (.directory inner)) :
    Leads top k loc (steps.filter fun step => step ≠ .here) loc' ↔ Leads top k loc steps loc' :=
  ⟨of_filter_here hdir, filter_here⟩

/-- Two spellings of a path lead to the same directory. -/
lemma openSteps_congr (h : p.components = q.components)
    (hdir : top.lookup loc' = some (.directory inner)) :
    Leads top k loc p.openSteps loc' ↔ Leads top k loc q.openSteps loc' := by
  have hmoves : ∀ p : Path, Leads top k loc p.openSteps loc' ↔ Leads top k loc p.moves loc' := by
    intro p
    rw [← Path.filter_openSteps]
    exact (filter_here_iff hdir).symm
  rw [hmoves, hmoves, Path.moves, Path.moves, h]

end Leads

/-! ## Paths and entries -/

lemma startOf_congr (h : p.components = q.components) (current : Location) :
    startOf p current = startOf q current := by
  rw [startOf, startOf, Path.isAbsolute_congr h]

/-- A path is located at a directory if its spelling is not too long and its components lead
there. -/
theorem locate_congr (h : p.components = q.components) (hlong : p.tooLong = q.tooLong)
    (hdir : fs.node? loc = some (.directory inner)) :
    fs.locate p = .ok loc ↔ fs.locate q = .ok loc := by
  have hdirection : ∀ {p q : Path}, p.components = q.components → p.tooLong = q.tooLong →
      fs.locate p = .ok loc → fs.locate q = .ok loc := by
    intro p q h hlong hlocate
    obtain ⟨hnul, hne, hshort, k, hk, hleads⟩ := locate_eq_ok_iff.1 hlocate
    refine locate_eq_ok_iff.2 ⟨?_, ?_, hlong ▸ hshort, k, hk, ?_⟩
    · rwa [Path.nul_notMem_iff, ← h, ← Path.nul_notMem_iff]
    · rwa [ne_eq, Path.bytes_eq_nil_iff, ← h, ← Path.bytes_eq_nil_iff]
    · rw [← startOf_congr h]
      exact Leads.steps_of_openSteps hdir ((Leads.openSteps_congr h hdir).1 hleads.openSteps)
  exact ⟨hdirection h hlong, hdirection h.symm hlong.symm⟩

/-- The entries below two spellings of one path are located at the same places. -/
theorem locate_descend_congr (h : p.components = q.components) (hns : ns ≠ [])
    (hlong : (p.descend ns).tooLong = (q.descend ns).tooLong) :
    fs.locate (p.descend ns) = .ok loc ↔ fs.locate (q.descend ns) = .ok loc := by
  have hdirection : ∀ {p q : Path}, p.components = q.components →
      (p.descend ns).tooLong = (q.descend ns).tooLong →
      fs.locate (p.descend ns) = .ok loc → fs.locate (q.descend ns) = .ok loc := by
    intro p q h hlong hlocate
    have hbelow := Path.components_descend_congr h ns
    obtain ⟨hnul, hne, hshort, k, hk, hleads⟩ := locate_eq_ok_iff.1 hlocate
    refine locate_eq_ok_iff.2 ⟨?_, ?_, hlong ▸ hshort, k, hk, ?_⟩
    · rwa [Path.nul_notMem_iff, ← hbelow, ← Path.nul_notMem_iff]
    · rwa [ne_eq, Path.bytes_eq_nil_iff, ← hbelow, ← Path.bytes_eq_nil_iff]
    · rw [Path.steps_descend p hns] at hleads
      rw [← startOf_congr hbelow, Path.steps_descend q hns]
      -- The names are entered from a directory, at which both spellings arrive.
      obtain ⟨mid, k₁, k₂, rfl, hroot, hnames⟩ := hleads.split
      obtain ⟨n, rest, rfl⟩ := List.exists_cons_of_ne_nil hns
      obtain ⟨inner, hdir⟩ := hnames.exists_directory
      exact ((Leads.openSteps_congr h hdir).1 hroot).append hnames
  exact ⟨hdirection h hlong, hdirection h.symm hlong.symm⟩

/-- What is below two spellings of one path exists below both or below neither. -/
lemma existsAt_descend_congr (h : p.components = q.components) (hns : ns ≠ [])
    (hlong : (p.descend ns).tooLong = (q.descend ns).tooLong) :
    fs.existsAt (p.descend ns) = fs.existsAt (q.descend ns) := by
  rw [Bool.eq_iff_iff, existsAt_iff, existsAt_iff]
  exact exists_congr fun loc => locate_descend_congr h hns hlong

end FileSystem
end Reconcile
