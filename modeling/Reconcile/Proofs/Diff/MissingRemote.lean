import Reconcile.Proofs.Diff.Exact
import Reconcile.Proofs.Walk.Followed
import Reconcile.Proofs.Walk.LinkFree

/-!
# Files that are missing remotely

What is missing remotely is not found by the walk of the remote tree: the local tree is walked once
more, and at the place of each of its files the remote tree is asked for a regular file, through all
links and whether it is ignored or not.  So a file may be there although the remote walk did not
yield it.  If links are followed, or there are none, this cannot be: what a walk without faults does
not yield is ignored or is no regular file (`Walk.mem_yielded_of_isFileAt`), and what is
asked for is not ignored.  Then the files of both trees fall into four categories
(`findMissingRemote_exact`).
-/

namespace Reconcile

open Walk (yielded FaultFree Item filesOf)

variable {fs : FileSystem} {config : Config} {root localRoot remoteRoot : Path}
  {results : DiffResults} {found : PathSet} {p : Path}

/-! ## What is collected -/

lemma Diff.collectMissing_eq_ok_iff {isPresent : Path → Bool} {s : PathSet} {items : List Item} :
    collectMissing isPresent s items = .ok found ↔
      (∀ f, .fault f ∉ items) ∧
        found = ((filesOf items).filter fun p => !isPresent p).foldl SortedList.insert s := by
  rw [List.foldl_filter]
  refine Walk.Gathers.eq_ok_iff ⟨fun _ => rfl, fun s p items => ?_, fun _ f _ => ⟨.walk f, rfl⟩⟩
  rw [collectMissing]
  cases isPresent p <;> rfl

/-- The local files are found at whose place in the remote tree there is no regular file. -/
theorem findMissingRemote_eq_ok_iff :
    findMissingRemote fs config results = .ok found ↔
      FaultFree fs config results.localRoot ∧ PathSet.Plain found ∧
        ∀ p, p ∈ found.toList ↔
          p ∈ yielded fs config results.localRoot ∧
            fs.isFileAt (results.remoteRoot.join p) = false := by
  rw [findMissingRemote]
  cases hwalk : walk fs config results.localRoot with
  | error e => simp [FaultFree, hwalk]
  | ok items =>
    have hplain : ∀ p ∈ (filesOf items).filter
        fun p => !fs.isFileAt (results.remoteRoot.join p), p.Plain := by
      intro p hp
      rw [← Walk.yielded_of_walk hwalk] at hp
      exact Walk.plain_of_mem_yielded (List.mem_filter.1 hp).1
    simp only [Diff.collectMissing_eq_ok_iff, Walk.faultFree_iff_of_walk hwalk,
      Walk.eq_foldl_insert_iff hplain, Walk.yielded_of_walk hwalk, List.mem_filter,
      Bool.not_eq_true']

/-- The local tree can be walked once more if it could be compared. -/
lemma exists_findMissingRemote
    (hdiff : (diffDirectories fs config localRoot remoteRoot).2 = .ok results) :
    ∃ found, findMissingRemote fs config results = .ok found := by
  have hexact := exact_of_diffDirectories hdiff
  obtain ⟨-, -, hfree, -, -⟩ := (exists_diffDirectories_iff ..).1 ⟨results, hdiff⟩
  rw [← hexact.localRoot] at hfree
  have hplain : ∀ p ∈ (yielded fs config results.localRoot).filter
      fun p => !fs.isFileAt (results.remoteRoot.join p), p.Plain :=
    fun p hp => Walk.plain_of_mem_yielded (List.mem_filter.1 hp).1
  obtain ⟨hset, hmem⟩ := (Walk.eq_foldl_insert_iff hplain).1 rfl
  refine ⟨_, findMissingRemote_eq_ok_iff.2 ⟨hfree, hset, fun p => ?_⟩⟩
  rw [hmem, List.mem_filter, Bool.not_eq_true']

/-! ## Trees in which every file can be walked to -/

/-- Every link is followed, or there is none. -/
def Config.SeesAll (config : Config) (fs : FileSystem) : Prop :=
  config.followLinks = true ∨ fs.LinkFree

/-- If no link is passed over, a walk yields every kept name at which there is a regular file. -/
theorem Walk.mem_yielded_of_isFileAt (hsees : config.SeesAll fs) (hfree : FaultFree fs config root)
    {ns : List Name} (hne : ns ≠ []) (hkeeps : config.ignore.Keeps ns)
    (hfile : fs.isFileAt (root.join (Path.ofNames ns)) = true) :
    Path.ofNames ns ∈ yielded fs config root := by
  obtain ⟨content, hread⟩ := FileSystem.isFileAt_iff.1 hfile
  obtain ⟨loc', hlocate, hnode⟩ := FileSystem.read_eq_ok_iff.1 hread
  rw [Path.join_ofNames root hne] at hlocate
  obtain ⟨items, hwalk, hnone⟩ := hfree
  obtain ⟨loc, inner, hloc, hinner, hitems⟩ := walk_eq_ok_iff.1 hwalk
  rcases hsees with hfollow | hlinkFree
  · have hresolves := FileSystem.resolves_of_stat (FileSystem.stat_of_locate hlocate hnode)
    rw [yielded_of_walk hwalk, mem_filesOf]
    subst hitems
    exact (file_mem_iff_of_followed hfollow (sound_rootVisit hloc hinner) rfl hnone).2
      ⟨ns, hne, rfl, hkeeps, .file content, hresolves, rfl⟩
  · -- Without links, names lead to where they stand.
    obtain ⟨-, -, -, j, -, hleads⟩ := FileSystem.locate_eq_ok_iff.1 hlocate
    obtain ⟨k, hleads⟩ := FileSystem.leads_of_descend hloc hne hleads
    have hstands : loc' = loc ++ ns := by
      refine (hleads.names_cases fun ms target _ _ _ => hlinkFree _ target).resolve_right ?_
      rintro ⟨target, hlink⟩
      exact hlinkFree _ target hlink
    subst hstands
    exact (mem_yielded_iff_of_linkFree hlinkFree hloc
      (Listing.shape_eq_directory_iff.2 ⟨inner, hinner⟩) ⟨items, hwalk, hnone⟩).2
        ⟨ns, content, hne, rfl, hkeeps, Listing.shape_eq_file_iff.2 hnode⟩

/-! ## The third category -/

namespace Diff

/-- What a file of two trees can be. -/
inductive Category where
  | same
  | different
  | missingLocal
  | missingRemote
deriving DecidableEq, Repr

/-- The file falls into the category, when `found` is missing remotely. -/
def Category.Holds (fs : FileSystem) (results : DiffResults) (found : PathSet) (p : Path) :
    Category → Prop
  | .same => ∃ x, fs.read (results.localRoot.join p) = .ok x ∧
      fs.read (results.remoteRoot.join p) = .ok x
  | .different => p ∈ results.different.toList
  | .missingLocal => p ∈ results.missingLocal.toList
  | .missingRemote => p ∈ found.toList

/-- If no link is passed over, a walk yields what another walk yields if it is there. -/
lemma mem_yielded_of_kept (hsees : config.SeesAll fs) (hfree : FaultFree fs config root)
    {root' : Path} (hp : p ∈ yielded fs config root')
    (hfile : fs.isFileAt (root.join p) = true) : p ∈ yielded fs config root := by
  obtain ⟨ns, hne, rfl⟩ := Walk.ofNames_of_mem_yielded hp
  exact Walk.mem_yielded_of_isFileAt hsees hfree hne (Walk.keeps_of_mem_yielded hp) hfile

section Compared

variable (hdiff : (diffDirectories fs config localRoot remoteRoot).2 = .ok results)
  (hfound : findMissingRemote fs config results = .ok found)

include hdiff

/-- The remote file is a regular file if the local one is compared with it. -/
lemma isFileAt_of_mem (hl : p ∈ yielded fs config localRoot)
    (hr : p ∈ yielded fs config remoteRoot) : fs.isFileAt (remoteRoot.join p) = true := by
  obtain ⟨-, -, -, -, hread⟩ := (exists_diffDirectories_iff ..).1 ⟨results, hdiff⟩
  exact FileSystem.isFileAt_iff.2 (hread p hl hr).2

include hfound

/-- A local file that is missing remotely is not one that was compared. -/
lemma notMem_yielded_of_mem (hp : p ∈ found.toList) :
    p ∈ yielded fs config localRoot ∧ p ∉ yielded fs config remoteRoot := by
  have hexact := exact_of_diffDirectories hdiff
  obtain ⟨-, -, hmem⟩ := findMissingRemote_eq_ok_iff.1 hfound
  rw [hexact.localRoot, hexact.remoteRoot] at hmem
  obtain ⟨hl, habsent⟩ := (hmem p).1 hp
  refine ⟨hl, fun hr => ?_⟩
  rw [isFileAt_of_mem hdiff hl hr] at habsent
  cases habsent

variable (hsees : config.SeesAll fs)

include hsees

/-- If no link is passed over, what is missing remotely are the local files that are not remote. -/
theorem mem_missingRemote_iff :
    p ∈ found.toList ↔ p ∈ yielded fs config localRoot ∧ p ∉ yielded fs config remoteRoot := by
  constructor
  · intro hp
    exact notMem_yielded_of_mem hdiff hfound hp
  · rintro ⟨hl, hr⟩
    have hexact := exact_of_diffDirectories hdiff
    obtain ⟨-, -, -, hfree, -⟩ := (exists_diffDirectories_iff ..).1 ⟨results, hdiff⟩
    obtain ⟨-, -, hmem⟩ := findMissingRemote_eq_ok_iff.1 hfound
    rw [hexact.localRoot, hexact.remoteRoot] at hmem
    have habsent : fs.isFileAt (remoteRoot.join p) = false := by
      rw [← Bool.not_eq_true]
      intro hfile
      exact hr (mem_yielded_of_kept hsees hfree hl hfile)
    exact (hmem p).2 ⟨hl, habsent⟩

/-- If no link is passed over, the categories say in which trees a file is. -/
lemma holds_iff (hp : p ∈ yielded fs config localRoot ∨ p ∈ yielded fs config remoteRoot)
    (c : Category) :
    c.Holds fs results found p ↔
      match c with
      | .same => p ∈ yielded fs config localRoot ∧ p ∈ yielded fs config remoteRoot ∧
          p ∉ results.different.toList
      | .different => p ∈ results.different.toList
      | .missingLocal => p ∉ yielded fs config localRoot
      | .missingRemote => p ∉ yielded fs config remoteRoot := by
  have hexact := exact_of_diffDirectories hdiff
  obtain ⟨-, -, hfreeLocal, hfreeRemote, -⟩ := (exists_diffDirectories_iff ..).1 ⟨results, hdiff⟩
  cases c with
  | same =>
    simp only [Category.Holds, hexact.localRoot, hexact.remoteRoot]
    constructor
    · rintro ⟨x, hx, hy⟩
      -- What can be read on both sides is yielded on both sides, if it is on one.
      have hl : p ∈ yielded fs config localRoot := by
        refine hp.elim id fun hr => ?_
        exact mem_yielded_of_kept hsees hfreeLocal hr (FileSystem.isFileAt_iff.2 ⟨x, hx⟩)
      have hr : p ∈ yielded fs config remoteRoot := by
        refine hp.elim (fun hl => ?_) id
        exact mem_yielded_of_kept hsees hfreeRemote hl (FileSystem.isFileAt_iff.2 ⟨x, hy⟩)
      exact ⟨hl, hr, ((hexact.same p hr).2 ⟨hl, x, hx, hy⟩).1⟩
    · rintro ⟨hl, hr, hdifferent⟩
      have hmissing : p ∉ results.missingLocal.toList :=
        fun hmissing => ((hexact.missingLocal p).1 hmissing).2 hl
      exact ((hexact.same p hr).1 ⟨hdifferent, hmissing⟩).2
  | different => rfl
  | missingLocal =>
    simp only [Category.Holds, hexact.missingLocal]
    exact ⟨fun h => h.2, fun hl => ⟨hp.resolve_left hl, hl⟩⟩
  | missingRemote =>
    simp only [Category.Holds, mem_missingRemote_iff hdiff hfound hsees]
    exact ⟨fun h => h.2, fun hr => ⟨hp.resolve_right hr, hr⟩⟩

/-- If no link is passed over, every file of either tree falls into just one category. -/
theorem existsUnique_category
    (hp : p ∈ yielded fs config localRoot ∨ p ∈ yielded fs config remoteRoot) :
    ∃! c : Category, c.Holds fs results found p := by
  have hiff := holds_iff hdiff hfound hsees hp
  have hboth : p ∈ results.different.toList →
      p ∈ yielded fs config localRoot ∧ p ∈ yielded fs config remoteRoot := by
    intro hdifferent
    obtain ⟨hl, hr, -⟩ := ((exact_of_diffDirectories hdiff).different p).1 hdifferent
    exact ⟨hl, hr⟩
  by_cases hl : p ∈ yielded fs config localRoot
  · by_cases hr : p ∈ yielded fs config remoteRoot
    · by_cases hdifferent : p ∈ results.different.toList
      · refine ⟨.different, (hiff _).2 hdifferent, fun c hc => ?_⟩
        cases c <;> simp_all
      · refine ⟨.same, (hiff _).2 ⟨hl, hr, hdifferent⟩, fun c hc => ?_⟩
        cases c <;> simp_all
    · refine ⟨.missingRemote, (hiff _).2 hr, fun c hc => ?_⟩
      cases c <;> simp_all
  · refine ⟨.missingLocal, (hiff _).2 hl, fun c hc => ?_⟩
    cases c <;> simp_all

end Compared

/-- What is to be found missing remotely if no link is passed over. -/
structure Divided (fs : FileSystem) (results : DiffResults) (localFiles remoteFiles : PathSet)
    (found : PathSet) : Prop where
  missingRemote : found.toList = localFiles.toList.filter fun p => p ∉ remoteFiles.toList
  scannedLocal : found.size = results.scannedLocal
  /-- Each file of either tree falls into just one category. -/
  category : ∀ p, p ∈ localFiles.toList ∨ p ∈ remoteFiles.toList →
    ∃! c : Category, c.Holds fs results found p

end Diff

/-- **The third category.**  After a comparison the local files that are missing remotely can be
found; they are neither different nor missing locally.  If no link is passed over they are the
local files that are not remote, as many as were counted, and every file of either tree is just one
of: the same, different, missing locally, missing remotely. -/
theorem findMissingRemote_exact
    (hdiff : (diffDirectories fs config localRoot remoteRoot).2 = .ok results) :
    ∃ localFiles remoteFiles found, listFiles fs config localRoot = .ok localFiles ∧
      listFiles fs config remoteRoot = .ok remoteFiles ∧
      findMissingRemote fs config results = .ok found ∧
      (∀ p ∈ found.toList, p ∈ localFiles.toList ∧ p ∉ results.different.toList ∧
        p ∉ results.missingLocal.toList) ∧
      (config.followLinks = true ∨ fs.LinkFree →
        Diff.Divided fs results localFiles remoteFiles found) := by
  have hexact := exact_of_diffDirectories hdiff
  obtain ⟨localFiles, remoteFiles, hlocal, hremote⟩ := exists_listFiles_of_diffDirectories hdiff
  obtain ⟨found, hfound⟩ := exists_findMissingRemote hdiff
  obtain ⟨-, -, hmemLocal⟩ := Walk.listFiles_eq_ok_iff.1 hlocal
  obtain ⟨-, -, hmemRemote⟩ := Walk.listFiles_eq_ok_iff.1 hremote
  refine ⟨localFiles, remoteFiles, found, hlocal, hremote, hfound, fun p hp => ?_,
    fun hsees => ?_⟩
  · obtain ⟨hl, hr⟩ := Diff.notMem_yielded_of_mem hdiff hfound hp
    refine ⟨(hmemLocal p).2 hl, fun hdifferent => ?_, fun hmissing => ?_⟩
    · exact hr ((hexact.different p).1 hdifferent).2.1
    · exact hr ((hexact.missingLocal p).1 hmissing).1
  · have hmem : ∀ p, p ∈ found.toList ↔
        p ∈ yielded fs config localRoot ∧ p ∉ yielded fs config remoteRoot :=
      fun p => Diff.mem_missingRemote_iff hdiff hfound hsees
    refine ⟨?_, ?_, fun p hp => ?_⟩
    · refine SortedList.eq_of_mem_iff found.increasing (localFiles.increasing.filter _) fun p => ?_
      rw [hmem, List.mem_filter, decide_eq_true_eq, hmemLocal, hmemRemote]
    · rw [hexact.scannedLocal, PathSet.size_eq_card]
      congr 1
      ext p
      simp only [List.mem_toFinset, Finset.mem_sdiff, hmem]
    · rw [hmemLocal, hmemRemote] at hp
      exact Diff.existsUnique_category hdiff hfound hsees hp

namespace Diff

/-- Directories `lb` and `rb` with different files `fb`.  Below `lb` there is a directory `db` with
a file `ob`, and a link `kb` to it; below `rb` there is a file `nb`. -/
def uneven : FileSystem where
  top := .directory ⟨[108, 98], by decide⟩
    (.directory ⟨[100, 98], by decide⟩ (.file ⟨[111, 98], by decide⟩ [1] .nil)
      (.link ⟨[107, 98], by decide⟩ ⟨[100, 98]⟩ (.file ⟨[102, 98], by decide⟩ [2] .nil)))
    (.directory ⟨[114, 98], by decide⟩
      (.file ⟨[102, 98], by decide⟩ [2, 2] (.file ⟨[110, 98], by decide⟩ [3] .nil)) .nil)
  distinct := by decide
  current := []

/-- What a comparison of `lb` with `rb` finds, if links are followed. -/
def foundUneven : DiffResults where
  different := .ofList [⟨[102, 98]⟩]
  missingLocal := .ofList [⟨[110, 98]⟩]
  localRoot := ⟨[108, 98]⟩
  remoteRoot := ⟨[114, 98]⟩
  scannedLocal := 2
  scannedRemote := 2

/-- Two files are missing remotely, and each file is in one category. -/
theorem findMissingRemote_exact_uneven :
    ∃ localFiles found, listFiles uneven ⟨.nothing, true, true⟩ ⟨[108, 98]⟩ = .ok localFiles ∧
      findMissingRemote uneven ⟨.nothing, true, true⟩ foundUneven = .ok found ∧ found.size = 2 ∧
      ∀ p ∈ localFiles.toList, ∃! c : Category, c.Holds uneven foundUneven found p := by
  have hdiff : (diffDirectories uneven ⟨.nothing, true, true⟩ ⟨[108, 98]⟩ ⟨[114, 98]⟩).2 =
      .ok foundUneven := by cbv
  obtain ⟨localFiles, remoteFiles, found, hlocal, -, hfound, -, hdivided⟩ :=
    findMissingRemote_exact hdiff
  obtain ⟨-, hsize, hcategory⟩ := hdivided (Or.inl rfl)
  exact ⟨localFiles, found, hlocal, hfound, hsize, fun p hp => hcategory p (Or.inl hp)⟩

example : findMissingRemote uneven ⟨.nothing, true, true⟩ foundUneven =
    .ok (.ofList [⟨[100, 98, 47, 111, 98]⟩, ⟨[107, 98, 47, 111, 98]⟩]) := by cbv

end Diff
end Reconcile
