import Reconcile.Proofs.Diff.Exact
import Reconcile.Proofs.Path.Onward
import Reconcile.Proofs.Walk.Parallel

/-!
# Ignoring commutes with comparing

A walk does not look into an ignored directory, and a test may be passed by a directory but by none
of the files in it.  So a file is left out if it is ignored or anything above it is, and a walk
yields the others of the files that a walk without ignore rules yields (`Walk.mem_yielded_ignored`).
A comparison with ignore rules then finds what one without them finds, as far as it is kept
(`diffDirectories_ignored`).
-/

namespace Reconcile

/-- The path is kept, with every path above it. -/
def Ignore.KeepsPath (ignore : Ignore) (p : Path) : Prop := ignore.Keeps p.names

instance (ignore : Ignore) (p : Path) : Decidable (ignore.KeepsPath p) :=
  inferInstanceAs (Decidable (ignore.Keeps p.names))

/-- The same without ignore rules. -/
def Config.keepingAll (config : Config) : Config := { config with ignore := .nothing }

variable {fs : FileSystem} {config : Config} {root localRoot remoteRoot : Path}

open Walk (yielded FaultFree)

namespace Walk

lemma narrows_keepingAll (fs : FileSystem) (config : Config) (root : Path) :
    (⟨fs, config, root⟩ : Walk).Narrows ⟨fs, config.keepingAll, root⟩ where
  alike := .refl fs
  root := rfl
  followLinks := rfl
  covers p hcovers := by
    rw [Config.keepingAll, Ignore.nothing_covers] at hcovers
    cases hcovers

/-- A walk yields the kept ones of all files. -/
theorem mem_yielded_ignored (fs : FileSystem) (config : Config) (root : Path) {p : Path} :
    p ∈ yielded fs config root ↔
      p ∈ yielded fs config.keepingAll root ∧ config.ignore.KeepsPath p := by
  constructor
  · intro hp
    obtain ⟨ns, -, rfl⟩ := ofNames_of_mem_yielded hp
    rw [Ignore.KeepsPath, Path.names_ofNames]
    exact (narrows_keepingAll fs config root).mem_yielded_iff.1 hp
  · rintro ⟨hp, hkeeps⟩
    obtain ⟨ns, -, rfl⟩ := ofNames_of_mem_yielded hp
    rw [Ignore.KeepsPath, Path.names_ofNames] at hkeeps
    exact (narrows_keepingAll fs config root).mem_yielded_iff.2 ⟨hp, hkeeps⟩

/-- Of the files of a tree without ignore rules, the kept ones are yielded. -/
lemma toFinset_yielded_ignored {files : PathSet}
    (hfiles : listFiles fs config.keepingAll root = .ok files) :
    (yielded fs config root).toFinset =
      (files.toList.filter fun p => config.ignore.KeepsPath p).toFinset := by
  obtain ⟨-, -, hmem⟩ := listFiles_eq_ok_iff.1 hfiles
  ext p
  simp only [List.mem_toFinset, List.mem_filter, decide_eq_true_eq, hmem]
  exact mem_yielded_ignored fs config root

end Walk

/-- A comparison with ignore rules goes through if it does without them. -/
lemma exists_diffDirectories_ignored
    (h : ∃ all, (diffDirectories fs config.keepingAll localRoot remoteRoot).2 = .ok all) :
    ∃ results, (diffDirectories fs config localRoot remoteRoot).2 = .ok results := by
  obtain ⟨hlocal, hremote, hfreeLocal, hfreeRemote, hread⟩ :=
    (exists_diffDirectories_iff ..).1 h
  refine (exists_diffDirectories_iff ..).2 ⟨hlocal, hremote,
    (Walk.narrows_keepingAll fs config localRoot).faultFree hfreeLocal,
    (Walk.narrows_keepingAll fs config remoteRoot).faultFree hfreeRemote, ?_⟩
  intro p hl hr
  exact hread p ((Walk.mem_yielded_ignored ..).1 hl).1 ((Walk.mem_yielded_ignored ..).1 hr).1

namespace Diff

/-- What is found of `all` that a comparison without ignore rules finds, if those of the files
`localFiles` and `remoteFiles` are left out that are not kept. -/
structure Kept (keep : Path → Prop) [DecidablePred keep] (localFiles remoteFiles : PathSet)
    (all results : DiffResults) : Prop where
  different : results.different.toList = all.different.toList.filter fun p => keep p
  missingLocal : results.missingLocal.toList = all.missingLocal.toList.filter fun p => keep p
  scannedRemote : results.scannedRemote = (remoteFiles.toList.filter fun p => keep p).length
  scannedLocal : results.scannedLocal =
    (localFiles.toList.filter fun p => p ∉ remoteFiles.toList ∧ keep p).length

section

variable {all results : DiffResults} {localFiles remoteFiles : PathSet}

lemma Exact.kept (hall : Exact fs config.keepingAll localRoot remoteRoot all)
    (hresults : Exact fs config localRoot remoteRoot results)
    (hlocal : listFiles fs config.keepingAll localRoot = .ok localFiles)
    (hremote : listFiles fs config.keepingAll remoteRoot = .ok remoteFiles) :
    Kept config.ignore.KeepsPath localFiles remoteFiles all results where
  different := by
    refine SortedList.eq_of_mem_iff results.different.increasing
      (all.different.increasing.filter _) fun p => ?_
    rw [List.mem_filter, decide_eq_true_eq, hresults.different, hall.different,
      Walk.mem_yielded_ignored fs config localRoot, Walk.mem_yielded_ignored fs config remoteRoot]
    tauto
  missingLocal := by
    refine SortedList.eq_of_mem_iff results.missingLocal.increasing
      (all.missingLocal.increasing.filter _) fun p => ?_
    rw [List.mem_filter, decide_eq_true_eq, hresults.missingLocal, hall.missingLocal,
      Walk.mem_yielded_ignored fs config localRoot, Walk.mem_yielded_ignored fs config remoteRoot]
    tauto
  scannedRemote := by
    rw [hresults.scannedRemote, Walk.toFinset_yielded_ignored hremote,
      PathSet.length_filter_eq_card]
  scannedLocal := by
    rw [hresults.scannedLocal, Walk.toFinset_yielded_ignored hlocal,
      Walk.toFinset_yielded_ignored hremote, PathSet.length_filter_eq_card]
    congr 1
    ext p
    simp only [Finset.mem_sdiff, List.mem_toFinset, List.mem_filter, decide_eq_true_eq]
    tauto

end

end Diff

/-- **Ignoring commutes with comparing.**  If two trees can be compared without ignore rules they
can be compared with any, and what is found are the kept ones of the files that are found without.
If the rules are paths only, a path is kept if it is not ignored itself. -/
theorem diffDirectories_ignored {all : DiffResults}
    (hall : (diffDirectories fs config.keepingAll localRoot remoteRoot).2 = .ok all) :
    ∃ localFiles remoteFiles results,
      listFiles fs config.keepingAll localRoot = .ok localFiles ∧
      listFiles fs config.keepingAll remoteRoot = .ok remoteFiles ∧
      (diffDirectories fs config localRoot remoteRoot).2 = .ok results ∧
      Diff.Kept config.ignore.KeepsPath localFiles remoteFiles all results ∧
      (config.ignore.tests = [] → ∀ ns, ns ≠ [] →
        (config.ignore.KeepsPath (Path.ofNames ns) ↔
          config.ignore.covers (Path.ofNames ns) = false)) := by
  obtain ⟨localFiles, remoteFiles, hlocal, hremote⟩ := exists_listFiles_of_diffDirectories hall
  obtain ⟨results, hresults⟩ := exists_diffDirectories_ignored ⟨all, hall⟩
  have hkept := (exact_of_diffDirectories hall).kept (exact_of_diffDirectories hresults)
    hlocal hremote
  refine ⟨localFiles, remoteFiles, results, hlocal, hremote, hresults, hkept, ?_⟩
  intro htests ns hne
  rw [Ignore.KeepsPath, Path.names_ofNames]
  exact Ignore.keeps_iff_of_tests_nil htests hne

namespace Diff

/-- Directories `la` and `ra`, each with a directory `da` and a link `ka` to it.  The files `da/fa`
and `ma` of both are different, `da/oa` is only below `la`, and `na` is only below `ra`. -/
def mirrored : FileSystem where
  top := .directory ⟨[108, 97], by decide⟩
    (.directory ⟨[100, 97], by decide⟩
      (.file ⟨[102, 97], by decide⟩ [1] (.file ⟨[111, 97], by decide⟩ [2] .nil))
      (.link ⟨[107, 97], by decide⟩ ⟨[100, 97]⟩ (.file ⟨[109, 97], by decide⟩ [3] .nil)))
    (.directory ⟨[114, 97], by decide⟩
      (.directory ⟨[100, 97], by decide⟩ (.file ⟨[102, 97], by decide⟩ [1, 1] .nil)
        (.link ⟨[107, 97], by decide⟩ ⟨[100, 97]⟩
          (.file ⟨[109, 97], by decide⟩ [3, 3] (.file ⟨[110, 97], by decide⟩ [4] .nil)))) .nil)
  distinct := by decide
  current := []

/-- Leave out `ma` by its path, and `da` by a test that no file in it passes. -/
def partly : Config := ⟨⟨[⟨[109, 97]⟩], [fun text => text == "da"]⟩, true, true⟩

/-- What is found below `la` and `ra` without ignore rules. -/
def foundAll : DiffResults where
  different := .ofList [⟨[100, 97, 47, 102, 97]⟩, ⟨[107, 97, 47, 102, 97]⟩, ⟨[109, 97]⟩]
  missingLocal := .ofList [⟨[110, 97]⟩]
  localRoot := ⟨[108, 97]⟩
  remoteRoot := ⟨[114, 97]⟩
  scannedLocal := 2
  scannedRemote := 4

/-- Of the different files only `ka/fa` is kept, and of the other remote ones `na`. -/
theorem diffDirectories_ignored_mirrored :
    ∃ results, (diffDirectories mirrored partly ⟨[108, 97]⟩ ⟨[114, 97]⟩).2 = .ok results ∧
      results.different.toList = [⟨[107, 97, 47, 102, 97]⟩] ∧
      results.missingLocal.toList = [⟨[110, 97]⟩] := by
  have hall : (diffDirectories mirrored partly.keepingAll ⟨[108, 97]⟩ ⟨[114, 97]⟩).2 =
      .ok foundAll := by cbv
  obtain ⟨localFiles, remoteFiles, results, -, -, hresults, hkept, -⟩ :=
    diffDirectories_ignored hall
  refine ⟨results, hresults, ?_, ?_⟩
  · rw [hkept.different]
    decide
  · rw [hkept.missingLocal]
    decide

end Diff
end Reconcile
