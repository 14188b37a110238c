import Reconcile.Proofs.Retrieve.Plan
import Reconcile.Proofs.Retrieve.Run

/-!
# Files that nobody was asked about

A walk that follows no link passes over links to directories, so a remote file counts as missing
even if its path leads through such a link to a file of the local tree or of any other one.  Copies
do go through the link.  This is the only way in which a retrieve changes a file that was there
without being told to: it leaves alone every file but those of accepted conflicts and those that a
missing path reaches behind a link (`Retrieve.retrieve_keeps_unasked`).  What is behind a link is
not safe, and may even be the file that is copied (`Retrieve.retrieve_empties_linked`).
-/

namespace Reconcile
namespace Retrieve

open FileSystem Walk

/-- On the way along the names from `loc` there is a link. -/
def BehindLink (fs : FileSystem) (loc : Location) (ns : List Name) : Prop :=
  ∃ ms target, ms ≠ [] ∧ ms <+: ns ∧ ms ≠ ns ∧ fs.node? (loc ++ ms) = some (.link target)

variable {fs fs' : FileSystem} {config : Config} {p q path : Path} {loc loc₀ : Location}
  {content : Bytes} {results : DiffResults} {entries : List ConflictEntry} {ns : List Name}

lemma keeps_standard (ns : List Name) : Config.standard.ignore.Keeps ns :=
  fun _ _ _ => Ignore.nothing_covers _

/-- Names that lead to a file of the tree before it grew are not missing, unless they lead behind a
link. -/
lemma mem_yielded_of_not_behindLink (hextends : fs.Extends fs') (hp : fs.locate p = .ok loc)
    (hfree : FaultFree fs .standard p) (hns : ns ≠ []) (hlink : ¬ BehindLink fs loc ns)
    (hlocate : fs'.locate (p.descend ns) = .ok loc₀)
    (hfile : fs.node? loc₀ = some (.file content)) :
    Path.ofNames ns ∈ yielded fs .standard p := by
  obtain ⟨-, -, -, k, -, hleads⟩ := locate_eq_ok_iff.1 hlocate
  obtain ⟨k', hleads'⟩ := leads_of_descend (hextends.locate hp) hns hleads
  have hyield : ∀ {node}, fs.node? (loc ++ ns) = some node → node.isDirectory = false →
      (node.isLink = true → fs.isDirectoryAt (p.descend ns) = false) →
      Path.ofNames ns ∈ yielded fs .standard p := fun hnode hdirectory hdir =>
    mem_yielded_of_unfollowed rfl hfree hp hns hnode hdirectory hdir (keeps_standard ns)
  rcases hleads'.names_cases fun ms target hne hpre hms htarget => hlink ⟨ms, target, hne, hpre,
      hms, Listing.shape_eq_link_iff.1 ((hextends.links _ _).1
        (Listing.shape_eq_link_iff.2 htarget))⟩ with rfl | ⟨target, htarget⟩
  · exact hyield hfile rfl (by simp [Node.isLink])
  · -- A link at the end is yielded as well, as it does not lead to a directory.
    have hnode := Listing.shape_eq_link_iff.1 ((hextends.links _ _).1
      (Listing.shape_eq_link_iff.2 htarget))
    refine hyield hnode rfl fun _ => ?_
    rw [← Bool.not_eq_true, isDirectoryAt_iff]
    rintro ⟨loc', inner, hlocate', hdir⟩
    obtain rfl := Except.ok.inj ((hextends.locate hlocate').symm.trans hlocate)
    rw [hfile] at hdir
    cases hdir

/-- A missing path that reaches a file leads behind a link. -/
theorem behindLink_of_missing (hextends : fs.Extends fs')
    (hdiff : (diffDirectories fs .standard p q).2 = .ok results)
    (hmissing : path ∈ results.missingLocal.toList)
    (hlocate : fs'.locate (p.join path) = .ok loc₀)
    (hfile : fs.node? loc₀ = some (.file content)) :
    ∃ loc ns, fs.locate p = .ok loc ∧ path = Path.ofNames ns ∧ BehindLink fs loc ns := by
  obtain ⟨hdir, -, hfree, -⟩ := (exists_diffDirectories_iff fs .standard p q).1 ⟨results, hdiff⟩
  obtain ⟨hr, hl⟩ := ((exact_of_diffDirectories hdiff).missingLocal path).1 hmissing
  obtain ⟨loc, inner, hp, hinner⟩ := isDirectoryAt_iff.1 hdir
  obtain ⟨ns, hns, rfl⟩ := ofNames_of_mem_yielded hr
  refine ⟨loc, ns, hp, rfl, ?_⟩
  by_contra hlink
  rw [Path.join_ofNames p hns] at hlocate
  exact hl (mem_yielded_of_not_behindLink hextends hp hfree hns hlink hlocate hfile)

/-- An accepted path was compared, so it is located where it was. -/
lemma locate_of_accepted (hextends : fs.Extends fs')
    (hdiff : (diffDirectories fs .standard p q).2 = .ok results)
    (hdecided : Conflict.Decided results entries) {e : ConflictEntry} (he : e ∈ entries)
    (hlocate : fs'.locate e.localPath = .ok loc₀) : fs.locate e.localPath = .ok loc₀ := by
  have hexact := exact_of_diffDirectories hdiff
  obtain ⟨-, -, x, -, hx, -⟩ :=
    (hexact.different _).1 (hdecided.mem_different_iff.2 ⟨e, he, rfl⟩)
  have hpath : e.localPath = p.join e.relativePath := by
    rw [(hdecided.spec.2 e he).2.1, hexact.localRoot]
  rw [← hpath] at hx
  obtain ⟨loc', hloc', -⟩ := read_eq_ok_iff.1 hx
  rw [hloc', ← hextends.locate hloc', hlocate]

/-- A file that is different after a retrieve is that of an accepted path, or that of a missing one
behind a link. -/
lemma kept_or_reached {outcome : Except ConflictError (List Path)}
    (hdiff : (diffDirectories fs .standard p q).2 = .ok results)
    (hdecided : Conflict.Decided results entries)
    (hretrieve : (retrieve results entries).on fs = (outcome, fs'))
    (hfile : fs.node? loc₀ = some (.file content)) :
    fs'.node? loc₀ = some (.file content) ∨
      (∃ e ∈ entries, e.disposition = .acceptRemote ∧ fs.locate e.localPath = .ok loc₀) ∨
      ∃ loc ns, fs.locate p = .ok loc ∧ Path.ofNames ns ∈ results.missingLocal.toList ∧
        BehindLink fs loc ns ∧ fs'.locate (p.join (Path.ofNames ns)) = .ok loc₀ := by
  have hexact := exact_of_diffDirectories hdiff
  rcases hcopies : (runCopies (missingCopies results ++ acceptedCopies entries)).on fs with
    ⟨outcome', fs₁⟩
  rw [retrieve, runIfResolved, hdecided.checkAllResolved, Effect.on_blame, hcopies] at hretrieve
  obtain ⟨-, rfl⟩ := Prod.mk.inj hretrieve
  have haltered := altered_of_runCopies hcopies
  have hshape := Listing.shape_eq_file_iff.2 hfile
  rcases haltered.shape loc₀ with hsame | ⟨hnone, -⟩ | ⟨-, c, hc, hlocate⟩
  · rw [shape, shape, hshape] at hsame
    exact Or.inl (Listing.shape_eq_file_iff.1 hsame)
  · rw [shape, hshape] at hnone
    cases hnone
  · rcases List.mem_append.1 hc with hmissing | haccepted
    · obtain ⟨path, hpath, rfl⟩ := List.mem_map.1 hmissing
      have hdest : fs₁.locate (p.join path) = .ok loc₀ := by
        rw [← hexact.localRoot]
        exact hlocate
      obtain ⟨loc, ns, hp, rfl, hlink⟩ :=
        behindLink_of_missing haltered.extended hdiff hpath hdest hfile
      exact Or.inr (Or.inr ⟨loc, ns, hp, hpath, hlink, hdest⟩)
    · obtain ⟨e, he, rfl⟩ := List.mem_map.1 haccepted
      obtain ⟨he, hdisposition⟩ := List.mem_filter.1 he
      exact Or.inr (Or.inl ⟨e, he, by simpa using hdisposition,
        locate_of_accepted haltered.extended hdiff hdecided he hlocate⟩)

/-- **A retrieve keeps every file but the accepted ones and those behind links**, whether it
succeeds or fails; and no missing path reaches a file unless it leads behind a link. -/
theorem retrieve_keeps_unasked {outcome : Except ConflictError (List Path)}
    (hdiff : (diffDirectories fs .standard p q).2 = .ok results)
    (hdecided : Conflict.Decided results entries)
    (hretrieve : (retrieve results entries).on fs = (outcome, fs')) :
    (∀ loc₀ content, fs.node? loc₀ = some (.file content) →
      fs'.node? loc₀ = some (.file content) ∨
        (∃ e ∈ entries, e.disposition = .acceptRemote ∧ fs.locate e.localPath = .ok loc₀) ∨
        ∃ loc ns, fs.locate p = .ok loc ∧ Path.ofNames ns ∈ results.missingLocal.toList ∧
          BehindLink fs loc ns ∧ fs'.locate (p.join (Path.ofNames ns)) = .ok loc₀) ∧
    ∀ path ∈ results.missingLocal.toList, ∀ loc₀ content, fs.locate (p.join path) = .ok loc₀ →
      fs.node? loc₀ = some (.file content) →
      ∃ loc ns, fs.locate p = .ok loc ∧ path = Path.ofNames ns ∧ BehindLink fs loc ns :=
  ⟨fun _ _ hfile => kept_or_reached hdiff hdecided hretrieve hfile,
    fun _ hmissing _ _ hlocate hfile =>
      behindLink_of_missing (.refl fs) hdiff hmissing hlocate hfile⟩

/-- A directory `h` with a link `j` to `k/j`, and a directory `k` with a directory `j` with a file
`i` in it. -/
def linked : FileSystem where
  top := .directory ⟨[104], by decide⟩
      (.link ⟨[106], by decide⟩ ⟨[46, 46, 47, 107, 47, 106]⟩ .nil)
    (.directory ⟨[107], by decide⟩
      (.directory ⟨[106], by decide⟩ (.file ⟨[105], by decide⟩ [49] .nil) .nil) .nil)
  distinct := by decide
  current := []

/-- What a comparison of `h` with `k` finds: behind the link nothing is listed. -/
def unlisted : DiffResults where
  different := ∅
  missingLocal := (∅ : PathSet).insert ⟨[106, 47, 105]⟩
  localRoot := ⟨[104]⟩
  remoteRoot := ⟨[107]⟩
  scannedLocal := 0
  scannedRemote := 1

lemma diffDirectories_linked :
    (diffDirectories linked .standard ⟨[104]⟩ ⟨[107]⟩).2 = .ok unlisted := by cbv

/-- The copy of `k/j/i` to `h/j/i` succeeds, and empties the file. -/
theorem retrieve_empties_linked :
    (diffDirectories linked .standard ⟨[104]⟩ ⟨[107]⟩).2 = .ok unlisted ∧
      Conflict.Decided unlisted [] ∧
      linked.node? [⟨[107], by decide⟩, ⟨[106], by decide⟩, ⟨[105], by decide⟩] =
        some (.file [49]) ∧
      ((retrieve unlisted []).on linked).1 = .ok [⟨[104, 47, 106, 47, 105]⟩] ∧
      ((retrieve unlisted []).on linked).2.node?
        [⟨[107], by decide⟩, ⟨[106], by decide⟩, ⟨[105], by decide⟩] = some (.file []) :=
  ⟨diffDirectories_linked, .nil, rfl, rfl, rfl⟩

/-- The file `k/j/i` is one that a missing path reaches behind a link. -/
theorem retrieve_keeps_unasked_linked :
    linked.node? [⟨[107], by decide⟩, ⟨[106], by decide⟩, ⟨[105], by decide⟩] =
        some (.file [49]) ∧
      ∃ loc ns, linked.locate ⟨[104]⟩ = .ok loc ∧
        Path.ofNames ns ∈ unlisted.missingLocal.toList ∧ BehindLink linked loc ns ∧
        ((retrieve unlisted []).on linked).2.locate (Path.join ⟨[104]⟩ (Path.ofNames ns)) =
          .ok [⟨[107], by decide⟩, ⟨[106], by decide⟩, ⟨[105], by decide⟩] := by
  have hdecided : Conflict.Decided unlisted [] := .nil
  refine ⟨rfl, ?_⟩
  rcases (retrieve_keeps_unasked diffDirectories_linked hdecided (Prod.ext rfl rfl)).1
    [⟨[107], by decide⟩, ⟨[106], by decide⟩, ⟨[105], by decide⟩] [49] rfl with
    hsame | ⟨e, he, -⟩ | hbehind
  · cases hsame
  · cases he
  · exact hbehind

end Retrieve
end Reconcile
