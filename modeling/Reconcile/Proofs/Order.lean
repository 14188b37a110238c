import Reconcile.Proofs.Diff.MissingRemote
import Reconcile.Proofs.Manifest.Names
import Reconcile.Proofs.Walk.Parallel

/-!
# The order of entries does not matter

A walk takes the entries of a directory as they come, or in the order of their names.  What it does
at one of them depends on what it came through but not on what came before, so it yields the same
files in any order and has a fault in any order or in none, though perhaps another one comes first.
A comparison, a listing, the search for what is missing remotely and the manifest of a tree are
all determined by which files are yielded.  So they succeed in any order or in none, with the same
answer (`sameAnswers_of_reordered`).
-/

namespace Reconcile

open Walk (yielded FaultFree)

/-- The same rules for a walk, which may be sorted or not. -/
structure Config.Alike (config config' : Config) : Prop where
  ignore : config.ignore = config'.ignore
  followLinks : config.followLinks = config'.followLinks

lemma Config.Alike.symm {config config' : Config} (h : config.Alike config') :
    config'.Alike config :=
  ⟨h.ignore.symm, h.followLinks.symm⟩

variable {fs fs' : FileSystem} {config config' : Config} {root localRoot remoteRoot p : Path}
  {results : DiffResults}

section Alike

variable (h : fs.Alike fs') (hconfig : config.Alike config')

include h hconfig

/-! ## Walks -/

namespace Walk

lemma narrows_of_alike (root : Path) :
    (⟨fs, config, root⟩ : Walk).Narrows ⟨fs', config', root⟩ where
  alike := h
  root := rfl
  followLinks := hconfig.followLinks
  covers p hcovers := by
    rw [hconfig.ignore]
    exact hcovers

lemma mem_yielded_of_alike (hp : p ∈ yielded fs config root) : p ∈ yielded fs' config' root := by
  obtain ⟨ns, -, rfl⟩ := ofNames_of_mem_yielded hp
  exact ((narrows_of_alike h hconfig root).mem_yielded_iff.1 hp).1

/-- The same files are yielded. -/
theorem mem_yielded_iff_of_alike : p ∈ yielded fs config root ↔ p ∈ yielded fs' config' root :=
  ⟨mem_yielded_of_alike h hconfig, mem_yielded_of_alike h.symm hconfig.symm⟩

/-- There is a fault in both orders or in none. -/
theorem faultFree_iff_of_alike : FaultFree fs config root ↔ FaultFree fs' config' root :=
  ⟨(narrows_of_alike h.symm hconfig.symm root).faultFree,
    (narrows_of_alike h hconfig root).faultFree⟩

lemma toFinset_yielded_of_alike (root : Path) :
    (yielded fs config root).toFinset = (yielded fs' config' root).toFinset := by
  ext p
  simp only [List.mem_toFinset, mem_yielded_iff_of_alike h hconfig]

end Walk

/-! ## What depends on the files only -/

lemma listFiles_eq_ok_iff_of_alike {files : PathSet} :
    listFiles fs config root = .ok files ↔ listFiles fs' config' root = .ok files := by
  simp only [Walk.listFiles_eq_ok_iff, Walk.mem_yielded_iff_of_alike h hconfig,
    Walk.faultFree_iff_of_alike h hconfig]

lemma findMissingRemote_eq_ok_iff_of_alike {found : PathSet} :
    findMissingRemote fs config results = .ok found ↔
      findMissingRemote fs' config' results = .ok found := by
  simp only [findMissingRemote_eq_ok_iff, Walk.mem_yielded_iff_of_alike h hconfig,
    Walk.faultFree_iff_of_alike h hconfig, h.isFileAt_eq]

omit hconfig in
/-- A file belongs to the same component. -/
lemma Registry.classify_eq_of_alike (r : Registry) (p : Path) :
    r.classify fs p = r.classify fs' p := by
  simp only [classify, roleOf, h.existsAt_eq]

lemma Manifest.ofTree_eq_ok_iff_of_alike {r : Registry} {m : Manifest} :
    ofTree r fs config root = .ok m ↔ ofTree r fs' config' root = .ok m := by
  simp only [ofTree_eq_ok_iff, Walk.mem_yielded_iff_of_alike h hconfig,
    Walk.faultFree_iff_of_alike h hconfig, r.classify_eq_of_alike h]

/-! ## Comparisons -/

/-- The same is to be found. -/
lemma Diff.Exact.of_alike (hexact : Exact fs config localRoot remoteRoot results) :
    Exact fs' config' localRoot remoteRoot results where
  different p := by
    simp only [hexact.different, Walk.mem_yielded_iff_of_alike h hconfig, h.read_iff]
  missingLocal p := by
    simp only [hexact.missingLocal, Walk.mem_yielded_iff_of_alike h hconfig]
  disjoint := hexact.disjoint
  same p hp := by
    rw [hexact.same p ((Walk.mem_yielded_iff_of_alike h hconfig).2 hp)]
    simp only [Walk.mem_yielded_iff_of_alike h hconfig, h.read_iff]
  scannedRemote := by
    rw [hexact.scannedRemote, Walk.toFinset_yielded_of_alike h hconfig]
  scannedLocal := by
    rw [hexact.scannedLocal, Walk.toFinset_yielded_of_alike h hconfig,
      Walk.toFinset_yielded_of_alike h hconfig remoteRoot]
  localRoot := hexact.localRoot
  remoteRoot := hexact.remoteRoot

lemma exists_diffDirectories_iff_of_alike :
    (∃ results, (diffDirectories fs config localRoot remoteRoot).2 = .ok results) ↔
      ∃ results, (diffDirectories fs' config' localRoot remoteRoot).2 = .ok results := by
  simp only [exists_diffDirectories_iff, Walk.mem_yielded_iff_of_alike h hconfig,
    Walk.faultFree_iff_of_alike h hconfig, h.isDirectoryAt_eq, h.read_iff]

lemma diffDirectories_of_alike
    (hdiff : (diffDirectories fs config localRoot remoteRoot).2 = .ok results) :
    (diffDirectories fs' config' localRoot remoteRoot).2 = .ok results := by
  obtain ⟨results', hdiff'⟩ := (exists_diffDirectories_iff_of_alike h hconfig).1 ⟨results, hdiff⟩
  have hexact := (exact_of_diffDirectories hdiff).of_alike h hconfig
  rw [hexact.unique (exact_of_diffDirectories hdiff')]
  exact hdiff'

end Alike

/-- Whatever succeeds in one tree with one configuration succeeds in the other tree with the other
configuration, and the answers are the same. -/
structure SameAnswers (fs fs' : FileSystem) (config config' : Config) : Prop where
  diffDirectories : ∀ localRoot remoteRoot results,
    (diffDirectories fs config localRoot remoteRoot).2 = .ok results ↔
      (diffDirectories fs' config' localRoot remoteRoot).2 = .ok results
  listFiles : ∀ root files,
    listFiles fs config root = .ok files ↔ listFiles fs' config' root = .ok files
  findMissingRemote : ∀ results found,
    findMissingRemote fs config results = .ok found ↔
      findMissingRemote fs' config' results = .ok found
  manifest : ∀ registry root manifest,
    Manifest.ofTree registry fs config root = .ok manifest ↔
      Manifest.ofTree registry fs' config' root = .ok manifest

/-- **The order of entries does not matter.**  In whatever order each directory hands out its
entries, and whether they are sorted or not, the answers are the same. -/
theorem sameAnswers_of_reordered (h : fs.Reordered fs') (ignore : Ignore) (follow : Bool)
    (sort sort' : Bool) : SameAnswers fs fs' ⟨ignore, sort, follow⟩ ⟨ignore, sort', follow⟩ := by
  have halike := h.alike
  have hconfig : Config.Alike ⟨ignore, sort, follow⟩ ⟨ignore, sort', follow⟩ := ⟨rfl, rfl⟩
  exact {
    diffDirectories := fun _ _ _ =>
      ⟨diffDirectories_of_alike halike hconfig,
        diffDirectories_of_alike halike.symm hconfig.symm⟩
    listFiles := fun _ _ => listFiles_eq_ok_iff_of_alike halike hconfig
    findMissingRemote := fun _ _ => findMissingRemote_eq_ok_iff_of_alike halike hconfig
    manifest := fun _ _ _ => Manifest.ofTree_eq_ok_iff_of_alike halike hconfig }

/-- A directory `dd` with files `ad` and `bd`, a link `kd` to it and a file `fd`. -/
def shelf : Listing :=
  .directory ⟨[100, 100], by decide⟩
    (.file ⟨[97, 100], by decide⟩ [1] (.file ⟨[98, 100], by decide⟩ [2] .nil))
    (.link ⟨[107, 100], by decide⟩ ⟨[100, 100]⟩ (.file ⟨[102, 100], by decide⟩ [3] .nil))

/-- The same in another order. -/
def untidyShelf : Listing :=
  .file ⟨[102, 100], by decide⟩ [3]
    (.link ⟨[107, 100], by decide⟩ ⟨[100, 100]⟩
      (.directory ⟨[100, 100], by decide⟩
        (.file ⟨[98, 100], by decide⟩ [2] (.file ⟨[97, 100], by decide⟩ [1] .nil)) .nil))

/-- Another directory `rd` with a file `nd` and a different file `fd`, beside the directory `ld`. -/
def stacked (inner : Listing) : Listing :=
  .directory ⟨[108, 100], by decide⟩ inner
    (.directory ⟨[114, 100], by decide⟩
      (.file ⟨[102, 100], by decide⟩ [3, 3] (.file ⟨[110, 100], by decide⟩ [4] .nil)) .nil)

/-- A tree with entries in order. -/
def tidy : FileSystem where
  top := stacked shelf
  distinct := by decide
  current := []

/-- The same tree with the entries of two directories in another order. -/
def untidy : FileSystem where
  top := stacked untidyShelf
  distinct := by decide
  current := []

lemma reordered_untidy : tidy.Reordered untidy where
  top := by
    have hshelf : shelf.Reordered untidyShelf := by
      refine .trans (.directory _ (.swap _ _ (.file [1]) (.file [2]) .nil) (.refl _)) ?_
      exact .of_perm (List.reverse_perm _).symm
    exact .directory _ hshelf (.refl _)
  current := rfl

/-- What a comparison of `ld` with `rd` finds, if links are followed. -/
def foundTidy : DiffResults where
  different := .ofList [⟨[102, 100]⟩]
  missingLocal := .ofList [⟨[110, 100]⟩]
  localRoot := ⟨[108, 100]⟩
  remoteRoot := ⟨[114, 100]⟩
  scannedLocal := 4
  scannedRemote := 2

/-- What a sorted walk finds in the one tree an unsorted one finds in the other. -/
theorem sameAnswers_of_reordered_untidy :
    tidy.Reordered untidy ∧
      (diffDirectories untidy ⟨.nothing, false, true⟩ ⟨[108, 100]⟩ ⟨[114, 100]⟩).2 =
        .ok foundTidy := by
  have htidy : (diffDirectories tidy ⟨.nothing, true, true⟩ ⟨[108, 100]⟩ ⟨[114, 100]⟩).2 =
      .ok foundTidy := by cbv
  have hsame := sameAnswers_of_reordered reordered_untidy .nothing true true false
  exact ⟨reordered_untidy, (hsame.diffDirectories _ _ _).1 htidy⟩

end Reconcile
