import Reconcile.Proofs.Diff.Exact

/-!
# The progress of a comparison

A comparison reports how many local files there are, and then on each remote file before it is
compared.  The scan of the remote walk reports on the files in front of the item where it ends, and
numbers them (`Diff.exists_scanEnds`).  So the reports tell how far a comparison has come, and on
every way in which it can end they fit what it answers (`diffDirectories_reported`).
-/

namespace Reconcile

open Walk (Item filesOf filesOf_append filesOf_map_file yielded)

namespace Diff

/-- The reports on remote files that are met in this order behind `start` others. -/
def checking (start : Nat) (ps : List Path) : List Progress :=
  (ps.zipIdx (start + 1)).map fun e => .checkingRemote e.1 e.2

@[simp] lemma checking_nil (start : Nat) : checking start [] = [] := rfl

@[simp] lemma checking_cons (start : Nat) (p : Path) (ps : List Path) :
    checking start (p :: ps) = .checkingRemote p (start + 1) :: checking (start + 1) ps := rfl

variable {differs : Path → Except DiffError Bool} {files done ps : List Path} {t t' : Tally}
  {p : Path} {items rest : List Item} {e : DiffError}

/-! ## The scan -/

/-- How a scan ends that has reported on the files `ps` and not come to the items `rest`. -/
inductive ScanEnds (differs : Path → Except DiffError Bool) (t : Tally) :
    List Path → List Item → Except DiffError Tally → Prop where
  | finished {ps : List Path} {t' : Tally} :
      (scanRemote differs t (ps.map .file)).2 = .ok t' → ScanEnds differs t ps [] (.ok t')
  /-- The next item is a fault. -/
  | fault {ps : List Path} {t' : Tally} {f : WalkFault} {rest : List Item} :
      (scanRemote differs t (ps.map .file)).2 = .ok t' →
      ScanEnds differs t ps (.fault f :: rest) (.error (.walk f))
  /-- The last file has been reported, but cannot be entered. -/
  | stuck {ps : List Path} {t' : Tally} {p : Path} {e : DiffError} {rest : List Item} :
      (scanRemote differs t (ps.map .file)).2 = .ok t' → t'.enter differs p = .error e →
      ScanEnds differs t (ps ++ [p]) rest (.error e)

/-- A file that is entered is counted. -/
lemma scanned_of_enter (h : t.enter differs p = .ok t') : t'.scanned = t.scanned + 1 := by
  rw [Tally.enter] at h
  split at h
  · split at h
    · cases h
    · rw [← Except.ok.inj h]
  · rw [← Except.ok.inj h]

/-- A scan that goes on behind a file ends as it does from there. -/
lemma ScanEnds.cons {outcome : Except DiffError Tally} (henter : t.enter differs p = .ok t')
    (h : ScanEnds differs t' ps rest outcome) : ScanEnds differs t (p :: ps) rest outcome := by
  have hfirst : ∀ {qs : List Path} {t₁ : Tally},
      (scanRemote differs t' (qs.map .file)).2 = .ok t₁ →
        (scanRemote differs t ((p :: qs).map .file)).2 = .ok t₁ := by
    intro qs t₁ hqs
    rw [List.map_cons]
    exact scanRemote_cons_file.2 ⟨t', henter, hqs⟩
  cases h with
  | finished hscan => exact .finished (hfirst hscan)
  | fault hscan => exact .fault (hfirst hscan)
  | stuck hscan hstuck => exact .stuck (hfirst hscan) hstuck

/-- **A scan reports on the files that it has met.**  They stand at the beginning of the items, and
what the scan answers depends on the item behind them or on the last of them. -/
theorem exists_scanEnds (differs : Path → Except DiffError Bool) (t : Tally) (items : List Item) :
    ∃ ps rest, items = ps.map .file ++ rest ∧
      (scanRemote differs t items).1 = checking t.scanned ps ∧
      ScanEnds differs t ps rest (scanRemote differs t items).2 := by
  induction items generalizing t with
  | nil => exact ⟨[], [], rfl, rfl, .finished rfl⟩
  | cons item items ih =>
    cases item with
    | fault f => exact ⟨[], .fault f :: items, rfl, rfl, .fault rfl⟩
    | file p =>
      cases henter : t.enter differs p with
      | error e =>
        have hscan : scanRemote differs t (.file p :: items) =
            ([.checkingRemote p (t.scanned + 1)], .error e) := by
          rw [scanRemote, henter]
        have hstart : (scanRemote differs t (([] : List Path).map .file)).2 = .ok t := rfl
        refine ⟨[p], items, rfl, by rw [hscan]; rfl, ?_⟩
        rw [hscan]
        exact .stuck hstart henter
      | ok t' =>
        obtain ⟨ps, rest, rfl, hreports, hends⟩ := ih t'
        have hscan : scanRemote differs t (.file p :: (ps.map .file ++ rest)) =
            (.checkingRemote p (t.scanned + 1) ::
                (scanRemote differs t' (ps.map .file ++ rest)).1,
              (scanRemote differs t' (ps.map .file ++ rest)).2) := by
          rw [scanRemote, henter]
        refine ⟨p :: ps, rest, rfl, ?_, ?_⟩
        · rw [hscan, hreports, scanned_of_enter henter, checking_cons]
        · rw [hscan]
          exact hends.cons henter

/-- What cannot be entered is a local file that cannot be compared. -/
lemma Scanned.of_enter_error (h : Scanned differs files done t) (hp : p.Plain) (hnew : p ∉ done)
    (henter : t.enter differs p = .error e) : p ∈ files ∧ differs p = .error e := by
  by_cases hfile : p ∈ files
  · rw [Tally.enter, if_pos ((h.contains_iff hp hnew).2 hfile)] at henter
    cases hdiffers : differs p with
    | error e' =>
      rw [hdiffers] at henter
      exact ⟨hfile, by rw [Except.error.inj henter]⟩
    | ok differ =>
      rw [hdiffers] at henter
      cases henter
  · obtain ⟨t', henter', -⟩ := h.enter_missing hp hnew hfile
    rw [henter'] at henter
    cases henter

end Diff

/-! ## Two roots -/

section Roots

variable {fs : FileSystem} {config : Config} {localRoot remoteRoot a b : Path} {files : PathSet}
  {ps : List Path} {rest : List Item}

/-- A comparison of two files fails where one of them cannot be read. -/
lemma of_contentsDiffer_error {e : DiffError} (h : contentsDiffer fs a b = .error e) :
    ∃ p fault, (p = a ∨ p = b) ∧ e = .read p fault := by
  rw [contentsDiffer] at h
  split at h
  · exact ⟨a, _, Or.inl rfl, (Except.error.inj h).symm⟩
  split at h
  · exact ⟨b, _, Or.inr rfl, (Except.error.inj h).symm⟩
  split at h
  · cases h
  split at h
  · cases h
  · exact ⟨a, _, Or.inl rfl, (Except.error.inj h).symm⟩
  · exact ⟨b, _, Or.inr rfl, (Except.error.inj h).symm⟩

/-- A listing fails at a fault of the walk. -/
lemma Walk.Item.of_collect_error {found : PathSet} {items : List Item} {f : WalkFault}
    (h : Item.collect found items = .error f) : .fault f ∈ items := by
  induction items generalizing found with
  | nil => cases h
  | cons item items ih =>
    cases item with
    | file p => exact List.mem_cons_of_mem _ (ih h)
    | fault f' =>
      rw [Except.error.inj h]
      exact List.mem_cons_self ..

/-- The files below a directory can be listed unless the walk meets a fault. -/
lemma exists_fault_of_listFiles_error {root : Path} {e : DiffError}
    (hroot : fs.isDirectoryAt root = true) (h : listFiles fs config root = .error e) :
    ∃ items f, walk fs config root = .ok items ∧ .fault f ∈ items ∧ e = .walk f := by
  rw [listFiles] at h
  cases hwalk : walk fs config root with
  | error e' =>
    have hnone := ((walk_eq_error_iff config).1 hwalk).1
    rw [hroot] at hnone
    cases hnone
  | ok items =>
    rw [hwalk] at h
    cases hcollect : Item.collect ∅ items with
    | ok found =>
      simp [hcollect, Except.mapError] at h
    | error f =>
      simp only [hcollect, Except.mapError, Except.error.injEq] at h
      exact ⟨items, f, rfl, Walk.Item.of_collect_error hcollect, h.symm⟩

namespace Diff

/-- How a comparison ends that has found the local files `files`, has reported on the remote files
`ps` and has not come to the items `rest` of the remote walk. -/
inductive Ends (fs : FileSystem) (localRoot remoteRoot : Path) (files : PathSet) :
    List Path → List Item → Except DiffError DiffResults → Prop where
  /-- Every remote file has been reported.  The local ones are those that are counted and those that
  a remote file has matched. -/
  | finished {ps : List Path} {results : DiffResults} :
      ps.length = results.scannedRemote →
      results.missingLocal.size ≤ results.scannedRemote →
      files.size = results.scannedLocal + results.scannedRemote - results.missingLocal.size →
      Ends fs localRoot remoteRoot files ps [] (.ok results)
  /-- The next item is a fault. -/
  | fault {ps : List Path} {f : WalkFault} {rest : List Item} :
      Ends fs localRoot remoteRoot files ps (.fault f :: rest) (.error (.walk f))
  /-- The last file that was reported is local too and the first that cannot be compared. -/
  | unread {ps : List Path} {p path : Path} {fault : Fault} {rest : List Item} :
      (∀ q ∈ ps, q ∈ files.toList →
        ∃ differ, contentsDiffer fs (localRoot.join q) (remoteRoot.join q) = .ok differ) →
      p ∈ files.toList →
      contentsDiffer fs (localRoot.join p) (remoteRoot.join p) = .error (.read path fault) →
      path = localRoot.join p ∨ path = remoteRoot.join p →
      Ends fs localRoot remoteRoot files (ps ++ [p]) rest (.error (.read path fault))

/-- What a comparison reports, and what it answers then. -/
inductive Reported (fs : FileSystem) (config : Config) (localRoot remoteRoot : Path) :
    List Progress → Except DiffError DiffResults → Prop where
  /-- One of the roots is missing, and nothing is reported. -/
  | rootless {root : Path} :
      root = localRoot ∨ root = remoteRoot → fs.isDirectoryAt root = false →
      Reported fs config localRoot remoteRoot [] (.error (.rootNotFound root))
  /-- The local walk meets a fault, and nothing is reported. -/
  | unlisted {items : List Item} {f : WalkFault} :
      fs.isDirectoryAt localRoot = true → fs.isDirectoryAt remoteRoot = true →
      walk fs config localRoot = .ok items → .fault f ∈ items →
      Reported fs config localRoot remoteRoot [] (.error (.walk f))
  /-- The number of local files is reported, and then the first items of the remote walk. -/
  | listed {files : PathSet} {ps : List Path} {rest : List Item}
      {outcome : Except DiffError DiffResults} :
      fs.isDirectoryAt localRoot = true → fs.isDirectoryAt remoteRoot = true →
      listFiles fs config localRoot = .ok files →
      walk fs config remoteRoot = .ok (ps.map .file ++ rest) →
      Ends fs localRoot remoteRoot files ps rest outcome →
      Reported fs config localRoot remoteRoot (.localListed files.size :: checking 0 ps) outcome

/-- The local files that are counted in the end are those that no remote file has matched, and the
remote files that are not missing have matched one local file each. -/
lemma Exact.size_listed {results : DiffResults}
    (h : Exact fs config localRoot remoteRoot results)
    (hfiles : listFiles fs config localRoot = .ok files) :
    results.missingLocal.size ≤ results.scannedRemote ∧
      files.size = results.scannedLocal + results.scannedRemote - results.missingLocal.size := by
  obtain ⟨-, -, hmem⟩ := Walk.listFiles_eq_ok_iff.1 hfiles
  have hlisted : files.toList.toFinset = (yielded fs config localRoot).toFinset := by
    ext p
    simp only [List.mem_toFinset, hmem]
  have hmissing : results.missingLocal.toList.toFinset =
      (yielded fs config remoteRoot).toFinset \ (yielded fs config localRoot).toFinset := by
    ext p
    simp only [List.mem_toFinset, Finset.mem_sdiff, h.missingLocal]
  -- Either tree is divided into the common files and its own.
  have hlocal := Finset.card_sdiff_add_card_inter (yielded fs config localRoot).toFinset
    (yielded fs config remoteRoot).toFinset
  have hremote := Finset.card_sdiff_add_card_inter (yielded fs config remoteRoot).toFinset
    (yielded fs config localRoot).toFinset
  rw [Finset.inter_comm] at hremote
  rw [PathSet.size_eq_card, PathSet.size_eq_card, hlisted, hmissing, h.scannedLocal,
    h.scannedRemote]
  omega

/-- The results that a tally gives in the end. -/
def Tally.results (localRoot remoteRoot : Path) (t : Tally) : DiffResults :=
  ⟨t.different, t.missingLocal, localRoot, remoteRoot, t.unmatched.size, t.scanned⟩

/-- A comparison of two trees ends as the scan of the remote walk does. -/
lemma ScanEnds.ends {outcome : Except DiffError Tally}
    (hlocal : fs.isDirectoryAt localRoot = true) (hremote : fs.isDirectoryAt remoteRoot = true)
    (hfiles : listFiles fs config localRoot = .ok files)
    (hwalk : walk fs config remoteRoot = .ok (ps.map .file ++ rest))
    (h : ScanEnds (fun p => contentsDiffer fs (localRoot.join p) (remoteRoot.join p))
      ⟨files, ∅, ∅, 0⟩ ps rest outcome) :
    Ends fs localRoot remoteRoot files ps rest
      (outcome.map (Tally.results localRoot remoteRoot)) := by
  obtain ⟨-, -, hmem⟩ := Walk.listFiles_eq_ok_iff.1 hfiles
  have hyielded : ps.Sublist (yielded fs config remoteRoot) := by
    rw [Walk.yielded_of_walk hwalk, filesOf_append, filesOf_map_file]
    exact List.sublist_append_left ps (filesOf rest)
  -- What the tally knows after the first of these files, which the walk yields once each.
  have hscanned : ∀ {qs : List Path} {t : Tally}, qs.Sublist ps →
      (scanRemote (fun p => contentsDiffer fs (localRoot.join p) (remoteRoot.join p))
        ⟨files, ∅, ∅, 0⟩ (qs.map .file)).2 = .ok t →
      Scanned (fun p => contentsDiffer fs (localRoot.join p) (remoteRoot.join p))
        (yielded fs config localRoot) qs t := by
    intro qs t hqs hscan
    have hsub := hqs.trans hyielded
    have hplain : ∀ p ∈ filesOf (qs.map .file), p.Plain := by
      rw [filesOf_map_file]
      exact fun p hp => Walk.plain_of_mem_yielded (hsub.subset hp)
    have hnodup : ([] ++ filesOf (qs.map .file)).Nodup := by
      rw [List.nil_append, filesOf_map_file]
      exact hsub.nodup (Walk.nodup_yielded fs config remoteRoot)
    have hknown := ((scanned_of_listFiles hfiles).scan hplain hnodup hscan).2
    rwa [List.nil_append, filesOf_map_file] at hknown
  cases h with
  | finished hscan =>
    rename_i t
    rw [List.append_nil] at hwalk
    have hresults : (diffDirectories fs config localRoot remoteRoot).2 =
        .ok (t.results localRoot remoteRoot) :=
      diffDirectories_eq_ok_iff.2
        ⟨hlocal, hremote, files, ps.map .file, t, hfiles, hwalk, hscan, rfl⟩
    obtain ⟨hle, hsize⟩ := (exact_of_diffDirectories hresults).size_listed hfiles
    exact .finished (hscanned (List.Sublist.refl ps) hscan).scanned.symm hle hsize
  | fault hscan => exact .fault
  | stuck hscan hstuck =>
    rename_i qs t p e
    have hqs : qs.Sublist (qs ++ [p]) := List.sublist_append_left qs [p]
    have hp : p ∈ yielded fs config remoteRoot :=
      hyielded.subset (List.mem_append_right qs (List.mem_singleton_self p))
    have hnew : p ∉ qs := by
      have hnodup := hyielded.nodup (Walk.nodup_yielded fs config remoteRoot)
      intro hmem
      exact (List.nodup_append.1 hnodup).2.2 p hmem p (List.mem_singleton_self p) rfl
    obtain ⟨hfile, hdiffers⟩ :=
      (hscanned hqs hscan).of_enter_error (Walk.plain_of_mem_yielded hp) hnew hstuck
    obtain ⟨path, fault, hpath, rfl⟩ := of_contentsDiffer_error hdiffers
    refine .unread ?_ ((hmem p).2 hfile) hdiffers hpath
    intro q hq hlocalFile
    exact (hscanned hqs hscan).compared q hq ((hmem q).1 hlocalFile)

end Diff

/-- **The reports fit the outcome.**  Nothing is reported if a root is missing or the local walk
meets a fault.  Otherwise the number of local files comes first, and then come the first files of
the remote walk in its order, numbered from one: all of them, those in front of the first fault, or
those up to the first that cannot be compared. -/
theorem diffDirectories_reported (fs : FileSystem) (config : Config)
    (localRoot remoteRoot : Path) :
    Diff.Reported fs config localRoot remoteRoot
      (diffDirectories fs config localRoot remoteRoot).1
      (diffDirectories fs config localRoot remoteRoot).2 := by
  rw [diffDirectories, checkRoot, checkRoot]
  cases hlocal : fs.isDirectoryAt localRoot with
  | false => exact .rootless (Or.inl rfl) hlocal
  | true =>
  cases hremote : fs.isDirectoryAt remoteRoot with
  | false => exact .rootless (Or.inr rfl) hremote
  | true =>
  cases hfiles : listFiles fs config localRoot with
  | error e =>
    obtain ⟨items, f, hwalk, hfault, rfl⟩ := exists_fault_of_listFiles_error hlocal hfiles
    exact .unlisted hlocal hremote hwalk hfault
  | ok files =>
  cases hwalk : walk fs config remoteRoot with
  | error e =>
    have hnone := ((walk_eq_error_iff config).1 hwalk).1
    rw [hremote] at hnone
    cases hnone
  | ok items =>
    obtain ⟨ps, rest, rfl, hreports, hends⟩ := Diff.exists_scanEnds
      (fun p => contentsDiffer fs (localRoot.join p) (remoteRoot.join p)) ⟨files, ∅, ∅, 0⟩ items
    have houtcome := hends.ends hlocal hremote hfiles hwalk
    rw [if_pos rfl, if_pos rfl]
    show Diff.Reported fs config localRoot remoteRoot (.localListed files.size ::
      (Diff.scanRemote (fun p => contentsDiffer fs (localRoot.join p) (remoteRoot.join p))
        ⟨files, ∅, ∅, 0⟩ (ps.map .file ++ rest)).1) _
    rw [hreports]
    exact .listed hlocal hremote hfiles hwalk houtcome

end Roots
end Reconcile
