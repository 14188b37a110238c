import Reconcile.Diff.Basic
import Reconcile.Proofs.Diff.Compare
import Reconcile.Proofs.Walk.Yield

/-!
# What a comparison finds

The scan of the remote walk keeps a tally.  After the paths `done`, it has dropped those from the
unmatched local files, and has sorted those that are local by their comparison and put the others
among the missing ones (`Diff.Scanned`).  As no path is yielded twice, each item keeps this up
(`Diff.Scanned.enter`), so it holds when all items have been scanned, and the scan gets there unless
an item is a fault or a comparison fails (`Diff.exists_scanRemote_iff`).  For the two roots
this says exactly when `diffDirectories` succeeds, and what it finds (`diffDirectories_exact`).
-/

namespace Reconcile
namespace Diff

open Walk (Item filesOf)

/-- What the tally knows after the paths `done`, when `files` are local. -/
structure Scanned (differs : Path → Except DiffError Bool) (files done : List Path) (t : Tally) :
    Prop where
  plain : PathSet.Plain t.unmatched ∧ PathSet.Plain t.different ∧ PathSet.Plain t.missingLocal
  unmatched : ∀ q, q ∈ t.unmatched.toList ↔ q ∈ files ∧ q ∉ done
  different : ∀ q, q ∈ t.different.toList ↔ q ∈ done ∧ q ∈ files ∧ differs q = .ok true
  missingLocal : ∀ q, q ∈ t.missingLocal.toList ↔ q ∈ done ∧ q ∉ files
  scanned : t.scanned = done.length
  compared : ∀ q ∈ done, q ∈ files → ∃ differ, differs q = .ok differ

variable {differs : Path → Except DiffError Bool} {files done : List Path} {t t' : Tally} {p : Path}

namespace Scanned

lemma start {s : PathSet} (hs : PathSet.Plain s) (hfiles : ∀ q, q ∈ s.toList ↔ q ∈ files) :
    Scanned differs files [] ⟨s, ∅, ∅, 0⟩ where
  plain := ⟨hs, PathSet.plain_empty, PathSet.plain_empty⟩
  unmatched q := by simp [hfiles]
  different q := by simp
  missingLocal q := by simp
  scanned := rfl
  compared q hq := by simp at hq

lemma contains_iff (h : Scanned differs files done t) (hp : p.Plain) (hnew : p ∉ done) :
    t.unmatched.contains p.key = true ↔ p ∈ files := by
  rw [PathSet.contains_key h.plain.1 hp, h.unmatched]
  exact and_iff_left hnew

/-- A path that is not local is missing. -/
lemma enter_missing (h : Scanned differs files done t) (hp : p.Plain) (hnew : p ∉ done)
    (hfile : p ∉ files) :
    ∃ t', t.enter differs p = .ok t' ∧ Scanned differs files (done ++ [p]) t' := by
  have hcontains := mt (h.contains_iff hp hnew).1 hfile
  obtain ⟨hunmatched, hdifferent, hmissing⟩ := h.plain
  refine ⟨{ t with missingLocal := t.missingLocal.insert p, scanned := t.scanned + 1 }, ?_, ?_⟩
  · rw [Tally.enter, if_neg hcontains]
  · exact {
      plain := ⟨hunmatched, hdifferent, hmissing.insert hp⟩
      unmatched := fun q => by
        rw [h.unmatched]
        simp only [List.mem_append, List.mem_singleton]
        grind
      different := fun q => by
        rw [h.different]
        simp only [List.mem_append, List.mem_singleton]
        grind
      missingLocal := fun q => by
        rw [PathSet.mem_insert hmissing hp, h.missingLocal]
        simp only [List.mem_append, List.mem_singleton]
        grind
      scanned := by
        rw [List.length_append, ← h.scanned]
        rfl
      compared := fun q hq hfile' => by
        rcases List.mem_append.1 hq with hq | hq
        · exact h.compared q hq hfile'
        · rw [List.mem_singleton.1 hq] at hfile'
          exact absurd hfile' hfile }

/-- A local path is dropped from the unmatched ones, and is different if its comparison says so. -/
lemma enter_matched (h : Scanned differs files done t) (hp : p.Plain) (hnew : p ∉ done)
    (hfile : p ∈ files) {differ : Bool} (hdiffers : differs p = .ok differ) :
    ∃ t', t.enter differs p = .ok t' ∧ Scanned differs files (done ++ [p]) t' := by
  have hcontains := (h.contains_iff hp hnew).2 hfile
  obtain ⟨hunmatched, hdifferent, hmissing⟩ := h.plain
  refine ⟨{ t with
    unmatched := t.unmatched.erase p.key
    different := if differ then t.different.insert p else t.different
    scanned := t.scanned + 1 }, ?_, ?_⟩
  · rw [Tally.enter, if_pos hcontains, hdiffers]
  · exact {
      plain := by
        refine ⟨hunmatched.erase p.key, ?_, hmissing⟩
        show PathSet.Plain (if differ then t.different.insert p else t.different)
        split
        · exact hdifferent.insert hp
        · exact hdifferent
      unmatched := fun q => by
        rw [PathSet.mem_erase hunmatched hp, h.unmatched]
        simp only [List.mem_append, List.mem_singleton]
        grind
      different := fun q => by
        cases differ with
        | true =>
          rw [if_pos rfl, PathSet.mem_insert hdifferent hp, h.different]
          simp only [List.mem_append, List.mem_singleton]
          grind
        | false =>
          rw [if_neg (by simp), h.different]
          simp only [List.mem_append, List.mem_singleton]
          grind
      missingLocal := fun q => by
        rw [h.missingLocal]
        simp only [List.mem_append, List.mem_singleton]
        grind
      scanned := by
        rw [List.length_append, ← h.scanned]
        rfl
      compared := fun q hq hfile' => by
        rcases List.mem_append.1 hq with hq | hq
        · exact h.compared q hq hfile'
        · rw [List.mem_singleton.1 hq]
          exact ⟨differ, hdiffers⟩ }

/-- A path can be entered unless it is local and its comparison fails. -/
theorem exists_enter_iff (h : Scanned differs files done t) (hp : p.Plain) (hnew : p ∉ done) :
    (∃ t', t.enter differs p = .ok t') ↔ (p ∈ files → ∃ differ, differs p = .ok differ) := by
  constructor
  · rintro ⟨t', henter⟩ hfile
    rw [Tally.enter, if_pos ((h.contains_iff hp hnew).2 hfile)] at henter
    cases hdiffers : differs p with
    | error e => simp [hdiffers] at henter
    | ok differ => exact ⟨differ, rfl⟩
  · intro hcompared
    by_cases hfile : p ∈ files
    · obtain ⟨differ, hdiffers⟩ := hcompared hfile
      obtain ⟨t', henter, -⟩ := h.enter_matched hp hnew hfile hdiffers
      exact ⟨t', henter⟩
    · obtain ⟨t', henter, -⟩ := h.enter_missing hp hnew hfile
      exact ⟨t', henter⟩

/-- Each path that is entered adds to what the tally knows. -/
theorem enter (h : Scanned differs files done t) (hp : p.Plain) (hnew : p ∉ done)
    (henter : t.enter differs p = .ok t') : Scanned differs files (done ++ [p]) t' := by
  by_cases hfile : p ∈ files
  · obtain ⟨differ, hdiffers⟩ := (h.exists_enter_iff hp hnew).1 ⟨t', henter⟩ hfile
    obtain ⟨t'', henter', hscanned⟩ := h.enter_matched hp hnew hfile hdiffers
    rw [Except.ok.inj (henter.symm.trans henter')]
    exact hscanned
  · obtain ⟨t'', henter', hscanned⟩ := h.enter_missing hp hnew hfile
    rw [Except.ok.inj (henter.symm.trans henter')]
    exact hscanned

end Scanned

/-! ## The whole scan -/

lemma scanRemote_cons_file {items : List Item} :
    (scanRemote differs t (.file p :: items)).2 = .ok t' ↔
      ∃ t₁, t.enter differs p = .ok t₁ ∧ (scanRemote differs t₁ items).2 = .ok t' := by
  rw [scanRemote]
  cases t.enter differs p with
  | error e => simp
  | ok t₁ => simp

variable {items : List Item}

/-- The tally in the end knows all files that the items give. -/
theorem Scanned.scan (h : Scanned differs files done t)
    (hplain : ∀ p ∈ filesOf items, p.Plain) (hnodup : (done ++ filesOf items).Nodup)
    (hscan : (scanRemote differs t items).2 = .ok t') :
    (∀ f, .fault f ∉ items) ∧ Scanned differs files (done ++ filesOf items) t' := by
  induction items generalizing done t with
  | nil =>
    rw [scanRemote, Except.ok.injEq] at hscan
    rw [← hscan, show filesOf [] = [] from rfl, List.append_nil]
    exact ⟨by simp, h⟩
  | cons item items ih =>
    cases item with
    | fault f => simp [scanRemote] at hscan
    | file p =>
      rw [Walk.filesOf_file] at hplain hnodup ⊢
      obtain ⟨t₁, henter, hscan⟩ := scanRemote_cons_file.1 hscan
      -- Only a path that is new can be told from the unmatched local files.
      have hnew : p ∉ done := by
        intro hmem
        exact (List.nodup_append.1 hnodup).2.2 p hmem p (List.mem_cons_self ..) rfl
      have hstep := h.enter (hplain p (List.mem_cons_self ..)) hnew henter
      rw [List.append_cons] at hnodup ⊢
      obtain ⟨hnone, hscanned⟩ :=
        ih hstep (fun q hq => hplain q (List.mem_cons_of_mem _ hq)) hnodup hscan
      exact ⟨by simpa using hnone, hscanned⟩

/-- The scan gets through unless an item is a fault or a comparison fails. -/
theorem exists_scanRemote_iff (h : Scanned differs files done t)
    (hplain : ∀ p ∈ filesOf items, p.Plain) (hnodup : (done ++ filesOf items).Nodup) :
    (∃ t', (scanRemote differs t items).2 = .ok t') ↔
      (∀ f, .fault f ∉ items) ∧
        ∀ p ∈ filesOf items, p ∈ files → ∃ differ, differs p = .ok differ := by
  constructor
  · rintro ⟨t', hscan⟩
    obtain ⟨hnone, hscanned⟩ := h.scan hplain hnodup hscan
    exact ⟨hnone, fun p hp => hscanned.compared p (List.mem_append_right _ hp)⟩
  · rintro ⟨hnone, hcompared⟩
    induction items generalizing done t with
    | nil => exact ⟨t, rfl⟩
    | cons item items ih =>
      cases item with
      | fault f => exact absurd (List.mem_cons_self ..) (hnone f)
      | file p =>
        rw [Walk.filesOf_file] at hplain hnodup hcompared
        have hp := hplain p (List.mem_cons_self ..)
        have hnew : p ∉ done := by
          intro hmem
          exact (List.nodup_append.1 hnodup).2.2 p hmem p (List.mem_cons_self ..) rfl
        obtain ⟨t₁, henter⟩ :=
          (h.exists_enter_iff hp hnew).2 (hcompared p (List.mem_cons_self ..))
        rw [List.append_cons] at hnodup
        obtain ⟨t', hscan⟩ := ih (h.enter hp hnew henter)
          (fun q hq => hplain q (List.mem_cons_of_mem _ hq)) hnodup
          (fun f hf => hnone f (List.mem_cons_of_mem _ hf))
          (fun q hq => hcompared q (List.mem_cons_of_mem _ hq))
        exact ⟨t', scanRemote_cons_file.2 ⟨t₁, henter, hscan⟩⟩

end Diff

/-! ## Two roots -/

section Roots

open Walk (yielded FaultFree)

variable {fs : FileSystem} {config : Config} {localRoot remoteRoot : Path} {results : DiffResults}

/-- A comparison goes from both roots through the listing of one tree to the scan of the other. -/
lemma diffDirectories_eq_ok_iff :
    (diffDirectories fs config localRoot remoteRoot).2 = .ok results ↔
      fs.isDirectoryAt localRoot = true ∧ fs.isDirectoryAt remoteRoot = true ∧
        ∃ files items t, listFiles fs config localRoot = .ok files ∧
          walk fs config remoteRoot = .ok items ∧
          (Diff.scanRemote (fun p => contentsDiffer fs (localRoot.join p) (remoteRoot.join p))
            ⟨files, ∅, ∅, 0⟩ items).2 = .ok t ∧
          results = ⟨t.different, t.missingLocal, localRoot, remoteRoot, t.unmatched.size,
            t.scanned⟩ := by
  rw [← checkRoot_eq_ok_iff, ← checkRoot_eq_ok_iff, diffDirectories]
  cases checkRoot fs localRoot with
  | error e => simp
  | ok u =>
    cases checkRoot fs remoteRoot with
    | error e => simp
    | ok u' =>
      cases listFiles fs config localRoot with
      | error e => simp
      | ok files =>
        cases walk fs config remoteRoot with
        | error e => simp
        | ok items =>
          simp only [Except.ok.injEq, exists_and_left, exists_eq_left', true_and]
          cases (Diff.scanRemote
            (fun p => contentsDiffer fs (localRoot.join p) (remoteRoot.join p))
            ⟨files, ∅, ∅, 0⟩ items).2 with
          | error e => simp [Except.map]
          | ok t => simp [Except.map, eq_comm]

namespace Diff

/-- What a comparison of two trees is to find. -/
structure Exact (fs : FileSystem) (config : Config) (localRoot remoteRoot : Path)
    (results : DiffResults) : Prop where
  different : ∀ p, p ∈ results.different.toList ↔
    p ∈ yielded fs config localRoot ∧ p ∈ yielded fs config remoteRoot ∧
      ∃ x y, fs.read (localRoot.join p) = .ok x ∧ fs.read (remoteRoot.join p) = .ok y ∧ x ≠ y
  missingLocal : ∀ p, p ∈ results.missingLocal.toList ↔
    p ∈ yielded fs config remoteRoot ∧ p ∉ yielded fs config localRoot
  disjoint : ∀ p, p ∈ results.different.toList → p ∉ results.missingLocal.toList
  /-- Every remote file that is in neither set is the same as its local counterpart. -/
  same : ∀ p ∈ yielded fs config remoteRoot,
    (p ∉ results.different.toList ∧ p ∉ results.missingLocal.toList ↔
      p ∈ yielded fs config localRoot ∧
        ∃ x, fs.read (localRoot.join p) = .ok x ∧ fs.read (remoteRoot.join p) = .ok x)
  scannedRemote : results.scannedRemote = (yielded fs config remoteRoot).toFinset.card
  scannedLocal : results.scannedLocal =
    ((yielded fs config localRoot).toFinset \ (yielded fs config remoteRoot).toFinset).card
  localRoot : results.localRoot = localRoot
  remoteRoot : results.remoteRoot = remoteRoot

end Diff

/-- The files of both trees are compared byte for byte. -/
lemma contentsDiffer_of_mem_yielded {p : Path} (hl : p ∈ yielded fs config localRoot)
    (hr : p ∈ yielded fs config remoteRoot) {differ : Bool} :
    contentsDiffer fs (localRoot.join p) (remoteRoot.join p) = .ok differ ↔
      ∃ x y, fs.read (localRoot.join p) = .ok x ∧ fs.read (remoteRoot.join p) = .ok y ∧
        differ = decide (x ≠ y) :=
  contentsDiffer_eq_ok_iff (Walk.isDirectoryAt_of_mem_yielded hl)
    (Walk.isDirectoryAt_of_mem_yielded hr)

/-- What the tally knows in the end is what is to be found. -/
lemma Diff.Scanned.exact {t : Tally}
    (h : Scanned (fun p => contentsDiffer fs (localRoot.join p) (remoteRoot.join p))
      (yielded fs config localRoot) (yielded fs config remoteRoot) t) :
    Exact fs config localRoot remoteRoot
      ⟨t.different, t.missingLocal, localRoot, remoteRoot, t.unmatched.size, t.scanned⟩ where
  different p := by
    rw [h.different]
    constructor
    · rintro ⟨hr, hl, hdiffer⟩
      obtain ⟨x, y, hx, hy, hne⟩ := (contentsDiffer_of_mem_yielded hl hr).1 hdiffer
      exact ⟨hl, hr, x, y, hx, hy, by simpa using hne⟩
    · rintro ⟨hl, hr, x, y, hx, hy, hne⟩
      exact ⟨hr, hl, (contentsDiffer_of_mem_yielded hl hr).2 ⟨x, y, hx, hy, by simpa using hne⟩⟩
  missingLocal p := h.missingLocal p
  disjoint p hdifferent hmissing :=
    ((h.missingLocal p).1 hmissing).2 ((h.different p).1 hdifferent).2.1
  same p hr := by
    rw [h.different, h.missingLocal]
    constructor
    · rintro ⟨hdifferent, hmissing⟩
      have hl : p ∈ yielded fs config localRoot := by
        by_contra hl
        exact hmissing ⟨hr, hl⟩
      obtain ⟨differ, hdiffer⟩ := h.compared p hr hl
      obtain ⟨x, y, hx, hy, rfl⟩ := (contentsDiffer_of_mem_yielded hl hr).1 hdiffer
      by_cases heq : x = y
      · exact ⟨hl, x, hx, heq ▸ hy⟩
      · rw [decide_eq_true heq] at hdiffer
        exact absurd ⟨hr, hl, hdiffer⟩ hdifferent
    · rintro ⟨hl, x, hx, hy⟩
      refine ⟨?_, fun hmissing => hmissing.2 hl⟩
      rintro ⟨-, -, hdiffer⟩
      rw [contentsDiffer_of_read hx hy] at hdiffer
      simp at hdiffer
  scannedRemote := by
    rw [List.toFinset_card_of_nodup (Walk.nodup_yielded fs config remoteRoot)]
    exact h.scanned
  scannedLocal := by
    have hfiles : t.unmatched.toList.toFinset =
        (yielded fs config localRoot).toFinset \ (yielded fs config remoteRoot).toFinset := by
      ext p
      simp [h.unmatched]
    rw [PathSet.size_eq_card, hfiles]
  localRoot := rfl
  remoteRoot := rfl

/-- Only one thing is to be found. -/
theorem Diff.Exact.unique {results' : DiffResults}
    (h : Exact fs config localRoot remoteRoot results)
    (h' : Exact fs config localRoot remoteRoot results') : results = results' := by
  have hdifferent : results.different = results'.different :=
    SortedList.ext_of_mem_iff fun p => (h.different p).trans (h'.different p).symm
  have hmissing : results.missingLocal = results'.missingLocal :=
    SortedList.ext_of_mem_iff fun p => (h.missingLocal p).trans (h'.missingLocal p).symm
  have hlocal : results.localRoot = results'.localRoot := h.localRoot.trans h'.localRoot.symm
  have hremote : results.remoteRoot = results'.remoteRoot := h.remoteRoot.trans h'.remoteRoot.symm
  have hcountLocal := h.scannedLocal.trans h'.scannedLocal.symm
  have hcountRemote := h.scannedRemote.trans h'.scannedRemote.symm
  cases results
  cases results'
  simp only at hdifferent hmissing hlocal hremote hcountLocal hcountRemote
  rw [hdifferent, hmissing, hlocal, hremote, hcountLocal, hcountRemote]

/-- The scan begins with the local files. -/
lemma scanned_of_listFiles {files : PathSet} (hfiles : listFiles fs config localRoot = .ok files) :
    Diff.Scanned (fun p => contentsDiffer fs (localRoot.join p) (remoteRoot.join p))
      (yielded fs config localRoot) [] ⟨files, ∅, ∅, 0⟩ := by
  obtain ⟨-, hset, hmem⟩ := Walk.listFiles_eq_ok_iff.1 hfiles
  exact .start hset hmem

/-- When a comparison succeeds. -/
theorem exists_diffDirectories_iff (fs : FileSystem) (config : Config)
    (localRoot remoteRoot : Path) :
    (∃ results, (diffDirectories fs config localRoot remoteRoot).2 = .ok results) ↔
      fs.isDirectoryAt localRoot = true ∧ fs.isDirectoryAt remoteRoot = true ∧
        FaultFree fs config localRoot ∧ FaultFree fs config remoteRoot ∧
        ∀ p ∈ yielded fs config localRoot, p ∈ yielded fs config remoteRoot →
          (∃ x, fs.read (localRoot.join p) = .ok x) ∧
            ∃ y, fs.read (remoteRoot.join p) = .ok y := by
  have hplain : ∀ p ∈ yielded fs config remoteRoot, p.Plain := fun p => Walk.plain_of_mem_yielded
  have hnodup := Walk.nodup_yielded fs config remoteRoot
  constructor
  · rintro ⟨results, hresults⟩
    obtain ⟨hlocal, hremote, files, items, t, hfiles, hwalk, hscan, -⟩ :=
      diffDirectories_eq_ok_iff.1 hresults
    rw [Walk.yielded_of_walk hwalk] at hplain hnodup ⊢
    obtain ⟨hnone, hcompared⟩ :=
      (Diff.exists_scanRemote_iff (scanned_of_listFiles hfiles) hplain hnodup).1 ⟨t, hscan⟩
    refine ⟨hlocal, hremote, (Walk.listFiles_eq_ok_iff.1 hfiles).1, ⟨items, hwalk, hnone⟩,
      fun p hl hr => ?_⟩
    obtain ⟨differ, hdiffer⟩ := hcompared p hr hl
    rw [← Walk.yielded_of_walk hwalk] at hr
    obtain ⟨x, y, hx, hy, -⟩ := (contentsDiffer_of_mem_yielded hl hr).1 hdiffer
    exact ⟨⟨x, hx⟩, y, hy⟩
  · rintro ⟨hlocal, hremote, hfree, ⟨items, hwalk, hnone⟩, hread⟩
    obtain ⟨files, hfiles⟩ := Walk.exists_listFiles_of_faultFree hfree
    rw [Walk.yielded_of_walk hwalk] at hplain hnodup
    obtain ⟨t, hscan⟩ :=
      (Diff.exists_scanRemote_iff (scanned_of_listFiles hfiles) hplain hnodup).2
        ⟨hnone, fun p hr hl => by
          rw [← Walk.yielded_of_walk hwalk] at hr
          obtain ⟨⟨x, hx⟩, y, hy⟩ := hread p hl hr
          exact ⟨_, contentsDiffer_of_read hx hy⟩⟩
    exact ⟨_, diffDirectories_eq_ok_iff.2
      ⟨hlocal, hremote, files, items, t, hfiles, hwalk, hscan, rfl⟩⟩

/-- What a comparison finds when it succeeds. -/
theorem exact_of_diffDirectories
    (h : (diffDirectories fs config localRoot remoteRoot).2 = .ok results) :
    Diff.Exact fs config localRoot remoteRoot results := by
  have hplain : ∀ p ∈ yielded fs config remoteRoot, p.Plain := fun p => Walk.plain_of_mem_yielded
  have hnodup := Walk.nodup_yielded fs config remoteRoot
  obtain ⟨-, -, files, items, t, hfiles, hwalk, hscan, rfl⟩ := diffDirectories_eq_ok_iff.1 h
  rw [Walk.yielded_of_walk hwalk] at hplain hnodup
  have hscanned := ((scanned_of_listFiles hfiles).scan hplain hnodup hscan).2
  rw [List.nil_append, ← Walk.yielded_of_walk hwalk] at hscanned
  exact hscanned.exact

/-- The files of both trees can be listed if the trees can be compared. -/
lemma exists_listFiles_of_diffDirectories
    (h : (diffDirectories fs config localRoot remoteRoot).2 = .ok results) :
    ∃ localFiles remoteFiles, listFiles fs config localRoot = .ok localFiles ∧
      listFiles fs config remoteRoot = .ok remoteFiles := by
  obtain ⟨-, -, hfreeLocal, hfreeRemote, -⟩ := (exists_diffDirectories_iff ..).1 ⟨results, h⟩
  obtain ⟨localFiles, hlocal⟩ := Walk.exists_listFiles_of_faultFree hfreeLocal
  obtain ⟨remoteFiles, hremote⟩ := Walk.exists_listFiles_of_faultFree hfreeRemote
  exact ⟨localFiles, remoteFiles, hlocal, hremote⟩

/-- **A comparison is exact.**  It succeeds if both roots are directories, neither walk meets a
fault, and the files that are in both trees can be read in both; then every remote file that is
local too is different or the same, the others are missing, and the files are counted. -/
theorem diffDirectories_exact (fs : FileSystem) (config : Config) (localRoot remoteRoot : Path) :
    ((∃ results, (diffDirectories fs config localRoot remoteRoot).2 = .ok results) ↔
      fs.isDirectoryAt localRoot = true ∧ fs.isDirectoryAt remoteRoot = true ∧
        FaultFree fs config localRoot ∧ FaultFree fs config remoteRoot ∧
        ∀ p ∈ yielded fs config localRoot, p ∈ yielded fs config remoteRoot →
          (∃ x, fs.read (localRoot.join p) = .ok x) ∧
            ∃ y, fs.read (remoteRoot.join p) = .ok y) ∧
      ∀ results, (diffDirectories fs config localRoot remoteRoot).2 = .ok results →
        Diff.Exact fs config localRoot remoteRoot results :=
  ⟨exists_diffDirectories_iff fs config localRoot remoteRoot,
    fun _ h => exact_of_diffDirectories h⟩

end Roots
end Reconcile
