import Reconcile.Proofs.Retrieve.Copy

/-!
# Many copies

Copies from one root to another, along lists of names, lay the files of the one tree over the other
one: `Retrieve.Overlay` says what stands where after some of them.  The files of a tree do not clash
with each other, and what a copy changes is not in the tree it comes from.  So what is in the way of
a copy is what was in the way of it before all of them, each copy keeps the invariant up, and a list
of copies succeeds exactly when nothing is in the way of any (`Retrieve.exists_runCopies`,
`Retrieve.exists_runCopies_error`).
-/

namespace Reconcile
namespace Retrieve

open FileSystem

/-- Two roots in a tree without links, neither of them in the other. -/
structure Roots (fs : FileSystem) (p q : Path) (loc loc' : Location) : Prop where
  linkFree : fs.LinkFree
  located : fs.locate p = .ok loc
  located' : fs.locate q = .ok loc'
  directory : fs.shape loc = some (.directory .nil)
  directory' : fs.shape loc' = some (.directory .nil)
  apart : ¬ loc <+: loc'
  apart' : ¬ loc' <+: loc

/-- What is in the way of a copy: an entry that clashes, or a path that is too long. -/
def Blocked (fs : FileSystem) (p q : Path) (loc : Location) (ns : List Name) : Prop :=
  fs.Clash loc ns ∨ (p.descend ns).tooLong = true ∨ (q.descend ns).tooLong = true

/-- The tree after copies from below `loc'` to below `loc` along the names `done`. -/
structure Overlay (fs fs' : FileSystem) (loc loc' : Location) (done : List (List Name)) :
    Prop where
  files : ∀ ns ∈ done, ∃ content, fs.shape (loc' ++ ns) = some (.file content)
  clear : ∀ ns ∈ done, ¬ fs.Clash loc ns
  current : fs'.current = fs.current
  copied : ∀ ns ∈ done, fs'.shape (loc ++ ns) = fs.shape (loc' ++ ns)
  directories : ∀ ns ∈ done, ∀ ms, ms <+: ns → ms ≠ ns →
    fs'.shape (loc ++ ms) = some (.directory .nil)
  rest : ∀ loc₀, (∀ ns ∈ done, ∀ ms, ms <+: ns → loc₀ ≠ loc ++ ms) →
    fs'.shape loc₀ = fs.shape loc₀

variable {fs fs' fs'' : FileSystem} {p q : Path} {loc loc' : Location} {ms ns : List Name}
  {done : List (List Name)}

namespace Roots

/-- Nothing below the one root is below the other. -/
lemma ne (h : Roots fs p q loc loc') (ms ns : List Name) : loc' ++ ms ≠ loc ++ ns := by
  intro heq
  rcases List.prefix_or_prefix_of_prefix (List.prefix_append loc ns)
    (heq ▸ List.prefix_append loc' ms) with hpre | hpre
  · exact h.apart hpre
  · exact h.apart' hpre

lemma not_below (h : Roots fs p q loc loc') (ns : List Name) : ¬ loc <+: loc' ++ ns := by
  rintro ⟨ms, heq⟩
  exact h.ne ns ms heq.symm

end Roots

/-- No file is in a directory that is another one. -/
lemma ne_of_files {content content' : Bytes} (hms : fs.shape (loc ++ ms) = some (.file content))
    (hns : fs.shape (loc ++ ns) = some (.file content')) (hpre : ms <+: ns) : ms = ns := by
  by_contra hne
  rw [shape_above hns hpre hne] at hms
  cases hms

namespace Overlay

lemma start (fs : FileSystem) (loc loc' : Location) : Overlay fs fs loc loc' [] where
  files := by simp
  clear := by simp
  current := rfl
  copied := by simp
  directories := by simp
  rest _ _ := rfl

variable (h : Overlay fs fs' loc loc' done)

include h

/-- Nothing below the other root has changed. -/
lemma shape_there (hroots : Roots fs p q loc loc') (ns : List Name) :
    fs'.shape (loc' ++ ns) = fs.shape (loc' ++ ns) :=
  h.rest _ fun _ _ ms _ => hroots.ne ns ms

/-- What stands at a location stood there before, or is a copied file where no directory stood, or
a directory on the way to one where no file stood. -/
lemma shape_cases (hdir : fs.shape loc = some (.directory .nil)) (loc₀ : Location) :
    fs'.shape loc₀ = fs.shape loc₀ ∨
      ((∃ content, fs'.shape loc₀ = some (.file content)) ∧
          fs.shape loc₀ ≠ some (.directory .nil)) ∨
        (fs'.shape loc₀ = some (.directory .nil) ∧
          ∀ content, fs.shape loc₀ ≠ some (.file content)) := by
  by_cases hway : ∃ ns ∈ done, ∃ ms, ms <+: ns ∧ loc₀ = loc ++ ms
  · obtain ⟨ns, hns, ms, hms, rfl⟩ := hway
    obtain ⟨hroom, hclear⟩ := shape_of_not_clash hdir (h.clear ns hns)
    by_cases heq : ms = ns
    · subst heq
      obtain ⟨content, hfile⟩ := h.files ms hns
      exact Or.inr (Or.inl ⟨⟨content, (h.copied ms hns).trans hfile⟩, hroom⟩)
    · exact Or.inr (Or.inr ⟨h.directories ns hns ms hms heq, hclear ms hms heq⟩)
  · exact Or.inl (h.rest loc₀ fun ns hns ms hms heq => hway ⟨ns, hns, ms, hms, heq⟩)

/-- The copies only add to the tree, though they may change files. -/
lemma grows (hdir : fs.shape loc = some (.directory .nil)) : fs.Grows fs' where
  current := h.current
  directories loc₀ hloc₀ := by
    rcases h.shape_cases hdir loc₀ with hsame | ⟨-, hroom⟩ | ⟨hdir', -⟩
    · rw [hsame, hloc₀]
    · exact absurd hloc₀ hroom
    · exact hdir'
  files loc₀ content hloc₀ := by
    rcases h.shape_cases hdir loc₀ with hsame | ⟨hfile, -⟩ | ⟨-, hclear⟩
    · exact ⟨content, hsame.trans hloc₀⟩
    · exact hfile
    · exact absurd hloc₀ (hclear content)

lemma linkFree (hdir : fs.shape loc = some (.directory .nil)) (hfree : fs.LinkFree) :
    fs'.LinkFree := by
  refine linkFree_of_shape fun loc₀ target hlink => ?_
  rcases h.shape_cases hdir loc₀ with hsame | ⟨⟨content, hfile⟩, -⟩ | ⟨hdir', -⟩
  · exact hfree.shape_ne_link loc₀ target (hsame.symm.trans hlink)
  · rw [hfile] at hlink
    cases hlink
  · rw [hdir'] at hlink
    cases hlink

/-- The roots are still where they were. -/
lemma roots (hroots : Roots fs p q loc loc') : Roots fs' p q loc loc' where
  linkFree := h.linkFree hroots.directory hroots.linkFree
  located := (h.grows hroots.directory).locate hroots.linkFree hroots.located
  located' := (h.grows hroots.directory).locate hroots.linkFree hroots.located'
  directory := (h.grows hroots.directory).directories loc hroots.directory
  directory' := (h.grows hroots.directory).directories loc' hroots.directory'
  apart := hroots.apart
  apart' := hroots.apart'

/-- Names that lead to no copied file, and are not on the way to one, stand for what they did. -/
lemma shape_elsewhere (hms : ∀ ns ∈ done, ¬ ms <+: ns) :
    fs'.shape (loc ++ ms) = fs.shape (loc ++ ms) :=
  h.rest _ fun ns hns _ hpre heq => hms ns hns (List.append_cancel_left heq ▸ hpre)

/-- What clashes with a copy clashed with it from the start. -/
theorem clash_iff (hdir : fs.shape loc = some (.directory .nil)) {content : Bytes}
    (hfile : fs.shape (loc' ++ ns) = some (.file content)) :
    fs'.Clash loc ns ↔ fs.Clash loc ns := by
  constructor
  · rintro (⟨inner, hinner⟩ | ⟨ms, content', hms, hpre, hne, hfile'⟩)
    · have hdir' := Listing.shape_eq_directory_iff.2 ⟨inner, hinner⟩
      by_cases hway : ∃ ks ∈ done, ns <+: ks
      · -- The copies make directories of the other tree, but there it has a file.
        obtain ⟨ks, hks, hpre⟩ := hway
        obtain ⟨content', hfile'⟩ := h.files ks hks
        obtain rfl := ne_of_files hfile hfile' hpre
        rw [← shape, h.copied ns hks, hfile] at hdir'
        cases hdir'
      · rw [← shape, h.shape_elsewhere fun ks hks hpre => hway ⟨ks, hks, hpre⟩] at hdir'
        exact Or.inl (Listing.shape_eq_directory_iff.1 hdir')
    · have hfile'' := Listing.shape_eq_file_iff.2 hfile'
      by_cases hway : ∃ ks ∈ done, ms <+: ks
      · -- The copies make files of the other tree, but there it has a directory.
        obtain ⟨ks, hks, hpre'⟩ := hway
        by_cases heq : ms = ks
        · obtain ⟨content'', hcopied⟩ := h.files ks hks
          exact absurd (ne_of_files (heq ▸ hcopied) hfile hpre) hne
        · rw [← shape, h.directories ks hks ms hpre' heq] at hfile''
          cases hfile''
      · rw [← shape, h.shape_elsewhere fun ks hks hks' => hway ⟨ks, hks, hks'⟩] at hfile''
        exact Or.inr ⟨ms, content', hms, hpre, hne, Listing.shape_eq_file_iff.1 hfile''⟩
  · have hgrows := h.grows hdir
    rintro (⟨inner, hinner⟩ | ⟨ms, content', hms, hpre, hne, hfile'⟩)
    · have hdir' := hgrows.directories _ (Listing.shape_eq_directory_iff.2 ⟨inner, hinner⟩)
      exact Or.inl (Listing.shape_eq_directory_iff.1 hdir')
    · obtain ⟨content'', hfile''⟩ := hgrows.files _ _ (Listing.shape_eq_file_iff.2 hfile')
      exact Or.inr ⟨ms, content'', hms, hpre, hne, Listing.shape_eq_file_iff.1 hfile''⟩

/-- One more copy. -/
theorem concat {content : Bytes} (hfile : fs.shape (loc' ++ ns) = some (.file content))
    (hclear : ¬ fs.Clash loc ns) (hcopied : Copied fs' fs'' loc ns content) :
    Overlay fs fs'' loc loc' (done ++ [ns]) where
  files ks hks := by
    rcases List.mem_append.1 hks with hks | hks
    · exact h.files ks hks
    · rw [List.mem_singleton.1 hks]
      exact ⟨content, hfile⟩
  clear ks hks := by
    rcases List.mem_append.1 hks with hks | hks
    · exact h.clear ks hks
    · rw [List.mem_singleton.1 hks]
      exact hclear
  current := hcopied.current.trans h.current
  copied ks hks := by
    by_cases heq : ks = ns
    · rw [heq, hcopied.file, hfile]
    · have hks : ks ∈ done := by simpa [heq] using hks
      obtain ⟨content', hfile'⟩ := h.files ks hks
      rw [hcopied.rest, h.copied ks hks]
      intro ms hms hmeq
      -- Of the other tree's files none is on the way to another.
      obtain rfl := List.append_cancel_left hmeq
      exact heq (ne_of_files hfile' hfile hms)
  directories ks hks ms hms hne := by
    -- What is on the way to the new file too is a directory; the rest of the way is as it was.
    by_cases hpre : ms <+: ns
    · refine hcopied.directories ms hpre ?_
      rintro rfl
      rcases List.mem_append.1 hks with hks | hks
      · obtain ⟨content', hfile'⟩ := h.files ks hks
        exact hne (ne_of_files hfile hfile' hms)
      · exact hne (List.mem_singleton.1 hks).symm
    · have hks : ks ∈ done := by
        rcases List.mem_append.1 hks with hks | hks
        · exact hks
        · exact absurd (List.mem_singleton.1 hks ▸ hms) hpre
      rw [hcopied.rest, h.directories ks hks ms hms hne]
      intro ms' hms' heq
      exact hpre (List.append_cancel_left heq ▸ hms')
  rest loc₀ hloc₀ := by
    rw [hcopied.rest loc₀ (hloc₀ ns (by simp))]
    exact h.rest loc₀ fun ks hks => hloc₀ ks (List.mem_append_left _ hks)

end Overlay

/-! ## A list of copies -/

section Copies

variable (hroots : Roots fs p q loc loc') (h : Overlay fs fs' loc loc' done)

include hroots h

/-- With nothing in its way, the next copy succeeds. -/
lemma Overlay.exists_run {content : Bytes} (hns : ns ≠ [])
    (hfile : fs.shape (loc' ++ ns) = some (.file content)) (hblocked : ¬ Blocked fs p q loc ns) :
    ∃ fs'', (Copy.along p q ns).run.on fs' = (.ok (), fs'') ∧
      Overlay fs fs'' loc loc' (done ++ [ns]) := by
  rw [Blocked, not_or, not_or, Bool.not_eq_true, Bool.not_eq_true] at hblocked
  obtain ⟨hclear, hdest, hsource⟩ := hblocked
  have hroots' := h.roots hroots
  obtain ⟨fs'', hrun, hcopied⟩ := Copy.exists_run hroots'.located hroots'.directory
    hroots'.linkFree hroots'.located' ((h.shape_there hroots ns).trans hfile) hns
    (hroots.not_below ns) (fun hclash => hclear ((h.clash_iff hroots.directory hfile).1 hclash))
    hdest hsource
  exact ⟨fs'', hrun, h.concat hfile hclear hcopied⟩

/-- With something in its way, it fails. -/
lemma Overlay.exists_run_error {content : Bytes} (hns : ns ≠ [])
    (hfile : fs.shape (loc' ++ ns) = some (.file content)) (hblocked : Blocked fs p q loc ns) :
    ∃ e fs'', (Copy.along p q ns).run.on fs' = (.error e, fs'') := by
  cases hdest : (p.descend ns).tooLong with
  | true => exact Copy.exists_run_error_of_tooLong (Or.inr hdest)
  | false =>
    rcases hblocked with hclash | hlong | hlong
    · have hroots' := h.roots hroots
      exact Copy.exists_run_error_of_clash hroots'.located hroots'.directory hroots'.linkFree
        (fun m hm => fits_of_shape hfile m (List.mem_append_right loc' hm)) hns
        ((h.clash_iff hroots.directory hfile).2 hclash) hdest
    · rw [hdest] at hlong
      cases hlong
    · exact Copy.exists_run_error_of_tooLong (Or.inl hlong)

variable {plan : List (List Name)}
  (hplan : ∀ ns ∈ plan, ns ≠ [] ∧ ∃ content, fs.shape (loc' ++ ns) = some (.file content))

include hplan

/-- **Copies succeed** with nothing in the way of any of them. -/
theorem exists_runCopies (hblocked : ∀ ns ∈ plan, ¬ Blocked fs p q loc ns) :
    ∃ written fs'', (runCopies (plan.map (Copy.along p q))).on fs' = (.ok written, fs'') ∧
      Overlay fs fs'' loc loc' (done ++ plan) := by
  -- By induction on the plan; each copy keeps the overlay up, with one more list of names done.
  induction plan generalizing fs' done with
  | nil =>
    rw [List.append_nil]
    exact ⟨[], fs', rfl, h⟩
  | cons ns plan ih =>
    obtain ⟨hns, content, hfile⟩ := hplan ns (List.mem_cons_self ..)
    obtain ⟨fs₁, hrun, hoverlay⟩ :=
      h.exists_run hroots hns hfile (hblocked ns (List.mem_cons_self ..))
    obtain ⟨written, fs'', hrest, hoverlay'⟩ := ih hoverlay
      (fun ks hks => hplan ks (List.mem_cons_of_mem _ hks))
      (fun ks hks => hblocked ks (List.mem_cons_of_mem _ hks))
    refine ⟨(Copy.along p q ns).dest :: written, fs'', ?_, by rwa [List.append_cons]⟩
    rw [List.map_cons, runCopies, Effect.on_bind_ok hrun, Effect.on_bind_ok hrest]
    exact Effect.on_pure _ _

/-- **Copies fail** with something in the way of one of them. -/
theorem exists_runCopies_error (hblocked : ∃ ns ∈ plan, Blocked fs p q loc ns) :
    ∃ e fs'', (runCopies (plan.map (Copy.along p q))).on fs' = (.error e, fs'') := by
  induction plan generalizing fs' done with
  | nil => simp at hblocked
  | cons ns plan ih =>
    obtain ⟨hns, content, hfile⟩ := hplan ns (List.mem_cons_self ..)
    rw [List.map_cons, runCopies]
    by_cases hfirst : Blocked fs p q loc ns
    · obtain ⟨e, fs₁, hrun⟩ := h.exists_run_error hroots hns hfile hfirst
      exact ⟨e, fs₁, Effect.on_bind_error hrun⟩
    · obtain ⟨fs₁, hrun, hoverlay⟩ := h.exists_run hroots hns hfile hfirst
      obtain ⟨e, fs'', hrest⟩ := ih hoverlay
        (fun ks hks => hplan ks (List.mem_cons_of_mem _ hks)) (by simpa [hfirst] using hblocked)
      exact ⟨e, fs'', by rw [Effect.on_bind_ok hrun]; exact Effect.on_bind_error hrest⟩

end Copies

end Retrieve
end Reconcile
