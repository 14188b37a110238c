import Reconcile.Proofs.FileSystem.Grow
import Reconcile.Proofs.FileSystem.Outcome

/-!
# What is made under a path

A file that is opened for writing is the only location that changes, and there was a file or
nothing before (`FileSystem.Stored`).  Where directories are made there was nothing, and each of
them is reached by one of the paths that were asked for (`FileSystem.Deepens`).  Both say all that
an operation does, through links and whether or not it gets to its end: a failure in the middle of
`FileSystem.makeDirectories` leaves the directories that were made until then.
-/

namespace Reconcile
namespace FileSystem

variable {fs fs₁ fs' : FileSystem} {p : Path} {paths above : List Path} {loc loc' : Location}
  {content old : Bytes}

/-! ## Files -/

/-- The file at one location, which may be new, holds `content`; nothing else is different. -/
structure Stored (fs fs' : FileSystem) (loc : Location) (content : Bytes) : Prop where
  current : fs'.current = fs.current
  room : fs.shape loc = none ∨ ∃ old, fs.shape loc = some (.file old)
  shape : ∀ loc', fs'.shape loc' = if loc' = loc then some (.file content) else fs.shape loc'

namespace Stored

lemma file (h : Stored fs fs' loc content) : fs'.shape loc = some (.file content) := by
  rw [h.shape, if_pos rfl]

lemma other (h : Stored fs fs' loc content) (hne : loc' ≠ loc) :
    fs'.shape loc' = fs.shape loc' := by
  rw [h.shape, if_neg hne]

lemma trans {content' : Bytes} (h : Stored fs fs₁ loc content) (h' : Stored fs₁ fs' loc content') :
    Stored fs fs' loc content' where
  current := h'.current.trans h.current
  room := h.room
  shape loc' := by
    rw [h'.shape, h.shape]
    split <;> rfl

lemma extended (h : Stored fs fs' loc content) : fs.Extends fs' where
  current := h.current
  directories loc' hdir := by
    have hne : loc' ≠ loc := by
      rintro rfl
      rcases h.room with hnone | ⟨old, hfile⟩ <;> simp_all
    rw [h.other hne, hdir]
  files loc' old hfile := by
    rw [h.shape]
    split
    · exact ⟨content, rfl⟩
    · exact ⟨old, hfile⟩
  links loc' target := by
    by_cases heq : loc' = loc
    · subst heq
      rw [h.file]
      rcases h.room with hnone | ⟨old, hfile⟩ <;> simp_all
    · rw [h.other heq]

end Stored

/-- Storing in a file changes that file. -/
lemma stored_storeAt (hfile : fs.shape loc = some (.file old)) (content : Bytes) :
    Stored fs (fs.storeAt loc content) loc content where
  current := storeAt_current fs loc content
  room := Or.inr ⟨old, hfile⟩
  shape := shape_storeAt hfile content

/-- A file that is opened for writing is empty, and its path is located there. -/
theorem stored_of_create (h : create p fs = .ok (loc, fs')) :
    Stored fs fs' loc [] ∧ fs'.locate p = .ok loc := by
  rw [create] at h
  cases hplace : fs.place .create p with
  | error fault => simp [hplace] at h
  | ok place =>
    have hstored : Stored fs fs' loc [] ∧ place.loc = loc := by
      cases place with
      | free parent n fits =>
        simp only [hplace, Except.ok.injEq, Prod.mk.injEq] at h
        obtain ⟨rfl, rfl⟩ := h
        obtain ⟨hdir, hnone⟩ := shape_of_place_free hplace
        exact ⟨⟨rfl, Or.inl hnone, shape_withFile fits [] hdir (by simp [hnone])⟩, rfl⟩
      | taken loc₀ =>
        simp only [hplace] at h
        split at h
        · rename_i old hnode
          cases h
          exact ⟨stored_storeAt (Listing.shape_eq_file_iff.2 hnode) [], rfl⟩
        · cases h
    obtain ⟨hstored, rfl⟩ := hstored
    have hfile := Listing.shape_eq_file_iff.1 hstored.file
    exact ⟨hstored, hstored.extended.locate_of_place hfile rfl (by simp) hplace⟩

/-- A file that can be located can be opened for writing. -/
theorem create_of_locate (hp : fs.locate p = .ok loc) (hfile : fs.shape loc = some (.file old)) :
    create p fs = .ok (loc, fs.storeAt loc []) := by
  have hnode := Listing.shape_eq_file_iff.1 hfile
  obtain ⟨hnul, hne, hshort, k, hk, hleads⟩ := locate_eq_ok_iff.1 hp
  have hplace : fs.place .create p = .ok (.taken loc) := by
    rw [place, if_neg hnul, if_neg hne, hshort]
    exact follow_of_leads rfl (by simp [hnode]) fs.named hleads hk
  rw [create, hplace]
  simp [node?, hnode]

/-! ## Directories -/

/-- The same tree with more directories, each of them reached by one of the paths. -/
structure Deepens (fs fs' : FileSystem) (paths : List Path) : Prop where
  current : fs'.current = fs.current
  shape : ∀ loc, fs'.shape loc = fs.shape loc ∨
    fs.shape loc = none ∧ fs'.shape loc = some (.directory .nil) ∧
      ∃ p ∈ paths, fs'.locate p = .ok loc

namespace Deepens

lemma refl (fs : FileSystem) (paths : List Path) : fs.Deepens fs paths where
  current := rfl
  shape _ := Or.inl rfl

/-- What stood somewhere still stands there. -/
lemma kept (h : fs.Deepens fs' paths) {node : Node} (hnode : fs.shape loc = some node) :
    fs'.shape loc = some node := by
  rcases h.shape loc with hsame | ⟨hnone, -⟩
  · rw [hsame, hnode]
  · rw [hnone] at hnode
    cases hnode

lemma extended (h : fs.Deepens fs' paths) : fs.Extends fs' where
  current := h.current
  directories _ hdir := h.kept hdir
  files _ content hfile := ⟨content, h.kept hfile⟩
  links loc target := by
    rcases h.shape loc with hsame | ⟨hnone, hdir, -⟩
    · rw [hsame]
    · simp [hnone, hdir]

lemma mono (h : fs.Deepens fs' paths) (hsub : paths ⊆ above) : fs.Deepens fs' above where
  current := h.current
  shape loc := by
    rcases h.shape loc with hsame | ⟨hnone, hdir, p, hp, hlocate⟩
    · exact Or.inl hsame
    · exact Or.inr ⟨hnone, hdir, p, hsub hp, hlocate⟩

lemma trans (h : fs.Deepens fs₁ paths) (h' : fs₁.Deepens fs' paths) : fs.Deepens fs' paths where
  current := h'.current.trans h.current
  shape loc := by
    rcases h'.shape loc with hsame | ⟨hnone, hdir, hp⟩
    · rw [hsame]
      rcases h.shape loc with hsame₁ | ⟨hnone, hdir, p, hp, hlocate⟩
      · exact Or.inl hsame₁
      · exact Or.inr ⟨hnone, hdir, p, hp, h'.extended.locate hlocate⟩
    · rcases h.shape loc with hsame₁ | ⟨-, hdir₁, -⟩
      · exact Or.inr ⟨hsame₁ ▸ hnone, hdir, hp⟩
      · rw [hnone] at hdir₁
        cases hdir₁

end Deepens

/-- A directory that is made is the only thing that is new, and its path is located there. -/
theorem deepens_of_makeDirectory (h : makeDirectory p fs = .ok ((), fs')) :
    fs.Deepens fs' [p] ∧ fs'.isDirectoryAt p = true := by
  rw [makeDirectory] at h
  cases hplace : fs.place .make p with
  | error fault => simp [hplace] at h
  | ok place =>
    cases place with
    | taken loc => simp [hplace] at h
    | free parent n fits =>
      simp only [hplace, Except.ok.injEq, Prod.mk.injEq, true_and] at h
      subst h
      obtain ⟨hparent, hnone⟩ := shape_of_place_free hplace
      have hshape := shape_withDirectory fits hparent hnone
      have hnew := hshape (parent ++ [n])
      rw [if_pos rfl] at hnew
      -- That the tree has grown is seen before it is known where the path is located.
      have hextends : fs.Extends (fs.withDirectory parent n fits) := by
        refine ⟨⟨rfl, fun loc hdir => ?_, fun loc content hfile => ⟨content, ?_⟩⟩,
          fun loc target => ?_⟩
        all_goals rw [hshape]; split <;> simp_all
      obtain ⟨inner, hinner⟩ := Listing.shape_eq_directory_iff.1 hnew
      have hnode : (fs.withDirectory parent n fits).node? (Place.free parent n fits).loc =
          some (.directory inner) := hinner
      have hlocate := hextends.locate_of_place hnode rfl (fun _ => rfl) hplace
      refine ⟨⟨rfl, fun loc => ?_⟩, isDirectoryAt_of_shape hlocate hnew⟩
      rw [hshape]
      split
      · rename_i heq
        subst heq
        exact Or.inr ⟨hnone, rfl, p, List.mem_singleton_self p, hlocate⟩
      · exact Or.inl rfl

/-- Making sure of a directory makes it, finds it there, or fails. -/
lemma ensureDirectory_cases {outcome : Except Fault Unit}
    (h : (ensureDirectory p).on fs = (outcome, fs')) :
    makeDirectory p fs = .ok ((), fs') ∨
      fs' = fs ∧ (outcome = .ok () → fs.isDirectoryAt p = true) := by
  have hon : (ensureDirectory p).on fs = ensureDirectory p fs := rfl
  rw [hon, ensureDirectory] at h
  split at h
  · rename_i hmake
    cases h
    exact Or.inl hmake
  · split at h
    · rename_i hdir
      cases h
      exact Or.inr ⟨rfl, fun _ => hdir⟩
    · cases h
      exact Or.inr ⟨rfl, nofun⟩

/-- Making sure of a directory makes that one at most, and fails if it is not there then. -/
lemma deepens_of_ensureDirectory {outcome : Except Fault Unit}
    (h : (ensureDirectory p).on fs = (outcome, fs')) :
    fs.Deepens fs' [p] ∧ (outcome = .ok () → fs'.isDirectoryAt p = true) := by
  rcases ensureDirectory_cases h with hmake | ⟨rfl, hdir⟩
  · obtain ⟨hdeepens, hdir⟩ := deepens_of_makeDirectory hmake
    exact ⟨hdeepens, fun _ => hdir⟩
  · exact ⟨.refl fs' [p], hdir⟩

/-- The root and the empty path are not made. -/
lemma on_ensureDirectories_top (hparent : p.parent? = none) :
    (ensureDirectories (p :: above)).on fs = (.ok (), fs) := by
  show ensureDirectories (p :: above) fs = _
  simp [ensureDirectories, hparent]

/-- Unless something above is missing, only the first directory of the list is made. -/
lemma on_ensureDirectories {above : List Path} (hp : p.bytes ≠ []) (hparent : p.parent? ≠ none)
    (hmake : makeDirectory p fs ≠ .error .notFound) :
    (ensureDirectories (p :: above)).on fs = (ensureDirectory p).on fs := by
  show ensureDirectories (p :: above) fs = ensureDirectory p fs
  rw [ensureDirectories, ensureDirectory]
  simp only [Path.components_ne_nil hp, hparent, decide_false, Option.isNone_iff_eq_none,
    Bool.false_or, if_false]
  split
  · rename_i hok
    rw [hok]
  · rename_i hnotFound
    exact absurd hnotFound hmake
  · rename_i hfault
    rw [hfault]

/-- If something above is missing, it is made first. -/
lemma on_ensureDirectories_notFound {above : List Path} (hp : p.bytes ≠ [])
    (hparent : p.parent? ≠ none) (hmake : makeDirectory p fs = .error .notFound) :
    (ensureDirectories (p :: above)).on fs =
      Effect.on (do ensureDirectories above; ensureDirectory p) fs := by
  show ensureDirectories (p :: above) fs = _
  simp only [ensureDirectories, hmake]
  simp [Path.components_ne_nil hp, hparent]

/-- The directories above the first one are made before it, as far as that is necessary. -/
lemma ensureDirectories_cons_cases (hparent : p.parent? ≠ none) {outcome : Except Fault Unit}
    (h : (ensureDirectories (p :: above)).on fs = (outcome, fs')) :
    (∃ fault, outcome = .error fault ∧ (ensureDirectories above).on fs = (.error fault, fs')) ∨
      ∃ fs₁, (fs₁ = fs ∨ (ensureDirectories above).on fs = (.ok (), fs₁)) ∧
        (ensureDirectory p).on fs₁ = (outcome, fs') := by
  have hp : p.bytes ≠ [] := fun hnil => hparent (by rw [Path.eq_of_bytes (q := ⟨[]⟩) hnil]; rfl)
  by_cases hmake : makeDirectory p fs = .error .notFound
  · rw [on_ensureDirectories_notFound hp hparent hmake] at h
    rcases habove : (ensureDirectories above).on fs with ⟨fault | _, fs₁⟩
    · rw [Effect.on_bind_error habove] at h
      cases h
      exact Or.inl ⟨fault, rfl, rfl⟩
    · rw [Effect.on_bind_ok habove] at h
      exact Or.inr ⟨fs₁, Or.inr rfl, h⟩
  · rw [on_ensureDirectories hp hparent hmake] at h
    exact Or.inr ⟨fs, Or.inl rfl, h⟩

/-- Whether it gets to its end or not, making directories makes directories of the list only. -/
theorem deepens_of_ensureDirectories {outcome : Except Fault Unit}
    (h : (ensureDirectories paths).on fs = (outcome, fs')) : fs.Deepens fs' paths := by
  induction paths generalizing fs fs' outcome with
  | nil =>
    cases h
    exact .refl fs []
  | cons p above ih =>
    by_cases hparent : p.parent? = none
    · rw [on_ensureDirectories_top hparent] at h
      cases h
      exact .refl fs _
    · rcases ensureDirectories_cons_cases hparent h with ⟨fault, -, habove⟩ | ⟨fs₁, habove, hp⟩
      · exact (ih habove).mono (List.subset_cons_self p above)
      · have hlast := (deepens_of_ensureDirectory hp).1.mono
          (List.cons_subset.2 ⟨List.mem_cons_self, List.nil_subset (p :: above)⟩)
        rcases habove with rfl | habove
        · exact hlast
        · exact ((ih habove).mono (List.subset_cons_self p above)).trans hlast

/-- A directory that was made with all those above it is there, if there was one to be made. -/
theorem isDirectoryAt_of_makeDirectories (hparent : p.parent? ≠ none)
    (h : (makeDirectories p).on fs = (.ok (), fs')) : fs'.isDirectoryAt p = true := by
  obtain ⟨above, habove⟩ := Path.ancestors_go_cons p.components.length p
  rw [makeDirectories, Path.ancestors, habove] at h
  rcases ensureDirectories_cons_cases hparent h with ⟨fault, herror, -⟩ | ⟨fs₁, -, hp⟩
  · cases herror
  · exact (deepens_of_ensureDirectory hp).2 rfl

end FileSystem
end Reconcile
