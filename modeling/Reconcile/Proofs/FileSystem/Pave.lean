import Reconcile.Proofs.FileSystem.Make

/-!
# Making directories

Making a directory with all those above it paves the way along the names that lead there: they all
stand for directories afterwards, and nothing else has changed (`FileSystem.Paved`).  Without links
this succeeds if no file is in the way (`FileSystem.exists_ensureDirectories`).
-/

namespace Reconcile

namespace FileSystem

variable {fs fs' : FileSystem} {p : Path} {loc : Location} {ms ns : List Name} {n : Name}

/-! ## The way along the names -/

/-- The same tree, but with directories from `loc` along all the names. -/
structure Paved (fs fs' : FileSystem) (loc : Location) (ns : List Name) : Prop where
  current : fs'.current = fs.current
  directories : ∀ ms, ms <+: ns → fs'.shape (loc ++ ms) = some (.directory .nil)
  rest : ∀ loc', (∀ ms, ms <+: ns → loc' ≠ loc ++ ms) → fs'.shape loc' = fs.shape loc'

namespace Paved

lemma of_directory (hdir : fs.shape (loc ++ ns) = some (.directory .nil)) :
    Paved fs fs loc ns where
  current := rfl
  directories ms hms := by
    by_cases heq : ms = ns
    · rw [heq]
      exact hdir
    · exact shape_above hdir hms heq
  rest _ _ := rfl

/-- One more directory at the end of the way. -/
lemma concat (h : Paved fs fs' loc ns) (hnone : fs'.shape (loc ++ (ns ++ [n])) = none)
    (fits : n.Fits) : Paved fs (fs'.withDirectory (loc ++ ns) n fits) loc (ns ++ [n]) := by
  have hend := h.directories ns (List.prefix_refl ns)
  rw [← List.append_assoc] at hnone
  have hshape := shape_withDirectory fits hend hnone
  rw [List.append_assoc] at hshape
  refine ⟨h.current, fun ms hms => ?_, fun loc' hloc' => ?_⟩
  · rw [hshape]
    split
    · rfl
    · rename_i hne
      rcases List.prefix_concat_iff.1 hms with rfl | hms
      · exact absurd rfl hne
      · exact h.directories ms hms
  · rw [hshape, if_neg (hloc' _ (List.prefix_refl _))]
    exact h.rest loc' fun ms hms => hloc' ms (hms.trans (List.prefix_append _ _))

lemma shape_cases (h : Paved fs fs' loc ns) (loc' : Location) :
    fs'.shape loc' = some (.directory .nil) ∨ fs'.shape loc' = fs.shape loc' := by
  by_cases hway : ∃ ms, ms <+: ns ∧ loc' = loc ++ ms
  · obtain ⟨ms, hms, rfl⟩ := hway
    exact Or.inl (h.directories ms hms)
  · exact Or.inr (h.rest loc' fun ms hms heq => hway ⟨ms, hms, heq⟩)

/-- If no file is on the way, the tree has grown. -/
lemma grows (h : Paved fs fs' loc ns)
    (hclear : ∀ ms, ms <+: ns → ∀ content, fs.shape (loc ++ ms) ≠ some (.file content)) :
    fs.Grows fs' where
  current := h.current
  directories loc' hdir := by
    rcases h.shape_cases loc' with hdir' | hsame
    · exact hdir'
    · rw [hsame, hdir]
  files loc' content hfile := by
    refine ⟨content, ?_⟩
    rw [h.rest loc']
    · exact hfile
    · rintro ms hms rfl
      exact hclear ms hms content hfile

lemma linkFree (h : Paved fs fs' loc ns) (hfree : fs.LinkFree) : fs'.LinkFree := by
  refine linkFree_of_shape fun loc' target hlink => ?_
  rcases h.shape_cases loc' with hdir | hsame
  · rw [hdir] at hlink
    cases hlink
  · rw [hsame] at hlink
    exact hfree.shape_ne_link loc' target hlink

/-- What stands behind the end of the way has not changed. -/
lemma shape_concat (h : Paved fs fs' loc ns) (n : Name) :
    fs'.shape (loc ++ (ns ++ [n])) = fs.shape (loc ++ (ns ++ [n])) := by
  refine h.rest _ fun ms hms heq => ?_
  exact ne_concat_of_isPrefix hms n (List.append_cancel_left heq).symm

lemma trans {fs'' : FileSystem} (h : Paved fs fs' loc ns) (h' : Paved fs' fs'' loc (ns ++ [n])) :
    Paved fs fs'' loc (ns ++ [n]) where
  current := h'.current.trans h.current
  directories := h'.directories
  rest loc' hloc' := by
    rw [h'.rest loc' hloc']
    exact h.rest loc' fun ms hms => hloc' ms (hms.trans (List.prefix_append _ _))

end Paved

/-! ## Making the way -/

/-- Where names do not lead to anything, either a name is missing behind directories, or a file is
in the way. -/
lemma LinkFree.exists_gap (hfree : fs.LinkFree) (hloc : fs.shape loc = some (.directory .nil))
    (hnone : fs.shape (loc ++ ns) = none) :
    (∃ front n rest, ns = front ++ n :: rest ∧
        fs.shape (loc ++ front) = some (.directory .nil) ∧
        fs.shape (loc ++ (front ++ [n])) = none) ∨
      ∃ front rest content, ns = front ++ rest ∧ rest ≠ [] ∧
        fs.shape (loc ++ front) = some (.file content) := by
  induction ns using List.reverseRecOn with
  | nil =>
    rw [List.append_nil, hloc] at hnone
    cases hnone
  | append_singleton ns n ih =>
    -- The names are shortened until they lead to something.
    rcases hfree.shape_cases (loc ++ ns) with hnone' | hdir | ⟨content, hfile⟩
    · rcases ih hnone' with
        ⟨front, m, rest, rfl, hdir, hm⟩ | ⟨front, rest, content, rfl, hrest, hfile⟩
      · exact Or.inl ⟨front, m, rest ++ [n], by simp, hdir, hm⟩
      · exact Or.inr ⟨front, rest ++ [n], content, by simp, by simp, hfile⟩
    · exact Or.inl ⟨ns, n, [], rfl, hdir, hnone⟩
    · exact Or.inr ⟨ns, [n], content, rfl, by simp, hfile⟩

section Make

variable (hp : fs.locate p = .ok loc) (hloc : fs.shape loc = some (.directory .nil))

include hp hloc

/-- One directory is made in another one, if its name is free. -/
lemma makeDirectory_free (hfits : ∀ m ∈ ns ++ [n], m.Fits)
    (hshort : (p.descend (ns ++ [n])).tooLong = false)
    (hdir : fs.shape (loc ++ ns) = some (.directory .nil))
    (hnone : fs.shape (loc ++ (ns ++ [n])) = none) :
    ∃ fits, makeDirectory (p.descend (ns ++ [n])) fs =
      .ok ((), fs.withDirectory (loc ++ ns) n fits) := by
  refine ⟨hfits n (by simp), ?_⟩
  rw [makeDirectory, place_descend_free hp hloc hfits hshort hdir hnone]

/-- A directory is not made again. -/
lemma makeDirectory_taken {node : Node} (hshort : (p.descend (ns ++ [n])).tooLong = false)
    (hnode : fs.shape (loc ++ (ns ++ [n])) = some node) (hlink : node.isLink = false) :
    makeDirectory (p.descend (ns ++ [n])) fs = .error .alreadyExists := by
  rw [makeDirectory, place_descend_taken hp hloc hshort hnode hlink]

/-- The last directory on the way is made, or is there. -/
lemma exists_ensureDirectory (hfree : fs.LinkFree) (hfits : ∀ m ∈ ns ++ [n], m.Fits)
    (hshort : (p.descend (ns ++ [n])).tooLong = false)
    (hdir : fs.shape (loc ++ ns) = some (.directory .nil))
    (hclear : ∀ content, fs.shape (loc ++ (ns ++ [n])) ≠ some (.file content)) :
    ∃ fs', (ensureDirectory (p.descend (ns ++ [n]))).on fs = (.ok (), fs') ∧
      Paved fs fs' loc (ns ++ [n]) := by
  rcases hfree.shape_cases (loc ++ (ns ++ [n])) with hnone | hdir' | ⟨content, hfile⟩
  · obtain ⟨fits, hmake⟩ := makeDirectory_free hp hloc hfits hshort hdir hnone
    refine ⟨_, ?_, (Paved.of_directory hdir).concat hnone fits⟩
    show ensureDirectory _ fs = _
    rw [ensureDirectory, hmake]
  · refine ⟨fs, ?_, .of_directory hdir'⟩
    show ensureDirectory _ fs = _
    rw [ensureDirectory, makeDirectory_taken hp hloc hshort hdir' rfl]
    simp [isDirectoryAt_descend hp hloc hshort hdir']
  · exact absurd hfile (hclear content)

/-- A directory is not made before the one that it is to be in. -/
lemma makeDirectory_notFound (hfree : fs.LinkFree) (hfits : ∀ m ∈ ns ++ [n], m.Fits)
    (hshort : (p.descend (ns ++ [n])).tooLong = false)
    (hclear : ∀ ms, ms <+: ns → ∀ content, fs.shape (loc ++ ms) ≠ some (.file content))
    (hnone : fs.shape (loc ++ ns) = none) :
    makeDirectory (p.descend (ns ++ [n])) fs = .error .notFound := by
  rcases hfree.exists_gap hloc hnone with
    ⟨front, m, rest, rfl, hdir, hgap⟩ | ⟨front, rest, content, rfl, -, hfile⟩
  · rw [List.append_assoc, List.cons_append] at hfits hshort ⊢
    rw [makeDirectory, place_descend_notFound hp hloc hfits hshort hdir hgap (by simp)]
  · exact absurd hfile (hclear front (List.prefix_append _ _) content)

/-- In a directory it is made, or there is something already. -/
lemma makeDirectory_ne_notFound (hfree : fs.LinkFree) (hfits : ∀ m ∈ ns ++ [n], m.Fits)
    (hshort : (p.descend (ns ++ [n])).tooLong = false)
    (hdir : fs.shape (loc ++ ns) = some (.directory .nil)) :
    makeDirectory (p.descend (ns ++ [n])) fs ≠ .error .notFound := by
  rcases hfree.shape_cases (loc ++ (ns ++ [n])) with hnone | hdir' | ⟨content, hfile⟩
  · obtain ⟨fits, hmake⟩ := makeDirectory_free hp hloc hfits hshort hdir hnone
    simp [hmake]
  · simp [makeDirectory_taken hp hloc hshort hdir' rfl]
  · simp [makeDirectory_taken hp hloc hshort hfile rfl]

/-- With no file in the way, all directories along the names are made. -/
theorem exists_ensureDirectories (hfree : fs.LinkFree) (hns : ns ≠ []) (hfits : ∀ m ∈ ns, m.Fits)
    (hshort : (p.descend ns).tooLong = false)
    (hclear : ∀ ms, ms <+: ns → ∀ content, fs.shape (loc ++ ms) ≠ some (.file content))
    {count : Nat} (hcount : ns.length ≤ count + 1) :
    ∃ fs', (ensureDirectories (Path.ancestors.go count (p.descend ns))).on fs = (.ok (), fs') ∧
      Paved fs fs' loc ns := by
  induction ns using List.reverseRecOn generalizing count with
  | nil => exact absurd rfl hns
  | append_singleton ns n ih =>
    have hne := locate_ne_nil hp
    have hne' := Path.descend_ne_nil hne (ns ++ [n])
    have hparent := Path.parent?_descend_ne_none hne hns
    rw [List.length_append, List.length_singleton, Nat.add_le_add_iff_right] at hcount
    obtain ⟨above, hgo, habove⟩ := Path.ancestors_go_descend hne n hcount
    have hclear' : ∀ ms, ms <+: ns → ∀ content, fs.shape (loc ++ ms) ≠ some (.file content) :=
      fun ms hms => hclear ms (hms.trans (List.prefix_append _ _))
    rw [hgo]
    rcases hfree.shape_cases (loc ++ ns) with hnone | hdir | ⟨content, hfile⟩
    · -- The directory above is missing, so the way to it is made first; then it has grown.
      have hns' : ns ≠ [] := ne_nil_of_shape_ne hloc hnone (by simp)
      obtain ⟨count', hcount', rfl⟩ := habove hns'
      have hmake := makeDirectory_notFound hp hloc hfree hfits hshort hclear' hnone
      obtain ⟨fs₁, hensure₁, hpaved₁⟩ := ih hns' (fun m hm => hfits m (List.mem_append_left _ hm))
        (Path.tooLong_of_child (Path.descend_concat p ns n ▸ hshort)) hclear' hcount'
      have hgrows := hpaved₁.grows hclear'
      obtain ⟨fs₂, hensure₂, hpaved₂⟩ := exists_ensureDirectory (hgrows.locate hfree hp)
        (hgrows.directories loc hloc) (hpaved₁.linkFree hfree) hfits hshort
        (hpaved₁.directories ns (List.prefix_refl ns)) fun content => by
          rw [hpaved₁.shape_concat,
            shape_below_of_none hnone ⟨[n], List.append_assoc loc ns [n]⟩]
          simp
      refine ⟨fs₂, ?_, hpaved₁.trans hpaved₂⟩
      rw [on_ensureDirectories_notFound hne' hparent hmake, Effect.on_bind_ok hensure₁, hensure₂]
    · obtain ⟨fs', hensure, hpaved⟩ := exists_ensureDirectory hp hloc hfree hfits hshort hdir
        (hclear _ (List.prefix_refl _))
      refine ⟨fs', ?_, hpaved⟩
      rw [on_ensureDirectories hne' hparent
        (makeDirectory_ne_notFound hp hloc hfree hfits hshort hdir), hensure]
    · exact absurd hfile (hclear' ns (List.prefix_refl ns) content)

end Make

end FileSystem
end Reconcile
