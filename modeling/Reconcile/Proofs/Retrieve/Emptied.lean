import Reconcile.Proofs.Retrieve.Copy
import Reconcile.Proofs.Retrieve.Stop
import Reconcile.Proofs.Split

/-!
# What a failed copy leaves of its destination

Where a file stands already, its directory is there (`FileSystem.directory_of_locate`), so a copy to
it makes no directory, and opens the source before it empties the file.  If the source cannot be
opened, nothing has happened yet.  A directory, however, can be opened, and only fails when it is
read, which is after the file has been emptied.  So a failed copy leaves the whole tree as it was,
unless the source is a directory; then the file at the destination is lost
(`Retrieve.failed_at_file`, `Retrieve.failure_empties_dest`).
-/

namespace Reconcile

open FileSystem

/-! ## The directory of a file -/

/-- A path that is no entry of a directory ends in a slash, in `.` or in `..`. -/
lemma Path.child_or_steps {p : Path} (hp : p.bytes ≠ []) :
    (∃ q n, p = child q n) ∨
      ∃ front step, p.steps = front ++ [step] ∧ (step = .here ∨ step = .close ∨ step = .up) := by
  -- The last piece of the text decides.
  have hpiece : ∀ (front last : Bytes) (before : List Step), p.bytes = front ++ last →
      slash ∉ last → last ≠ [] → (front = [] ∨ ∃ t, front = t ++ [slash]) →
      p.openSteps = before ++ [last].filterMap Step.ofPiece? →
      (∃ q n, p = child q n) ∨
        ∃ front step, p.steps = front ++ [step] ∧ (step = .here ∨ step = .close ∨ step = .up) := by
    intro front last before hbytes hslash hne hfront hopen
    have hsteps : p.steps = p.openSteps := by
      rw [steps, endsInSlash_of_getLast hne hslash hbytes]
      rfl
    by_cases hdot : last = [dot]
    · subst hdot
      exact Or.inr ⟨before, .here, by rw [hsteps, hopen]; rfl, Or.inl rfl⟩
    by_cases hup : last = [dot, dot]
    · subst hup
      exact Or.inr ⟨before, .up, by rw [hsteps, hopen]; rfl, Or.inr (Or.inr rfl)⟩
    · exact Or.inl ⟨⟨front⟩, ⟨last, hne, hslash, hdot, hup⟩, eq_child_of_bytes hbytes hfront⟩
  rcases last_separator_cases slash p.bytes with hslash | ⟨front, last, hbytes, hslash⟩
  · refine hpiece [] p.bytes [] rfl hslash hp (Or.inl rfl) ?_
    rw [openSteps, List.splitOn_eq_singleton hslash, List.nil_append]
  · by_cases hlast : last = []
    · refine Or.inr ⟨p.openSteps, .close, ?_, Or.inr (Or.inl rfl)⟩
      have hend : p.endsInSlash = true := by simp [endsInSlash, hbytes, hlast]
      rw [steps, if_pos hend]
    · refine hpiece (front ++ [slash]) last ((front.splitOn slash).filterMap Step.ofPiece?)
        (by simpa using hbytes) hslash hlast (Or.inr ⟨front, rfl⟩) ?_
      rw [openSteps, hbytes, List.splitOn_append_cons_self, List.splitOn_eq_singleton hslash,
        List.filterMap_append]

namespace FileSystem

variable {fs : FileSystem} {p : Path} {loc : Location} {content : Bytes}

/-- Behind a slash, a `.` and a `..` at the end of a path there is a directory. -/
lemma Leads.exists_directory_of_concat {top : Listing} {k : Nat} {loc' : Location}
    {steps : List Step} {step : Step} (h : Leads top k loc (steps ++ [step]) loc')
    (hstep : step = .here ∨ step = .close ∨ step = .up) :
    ∃ inner, top.lookup loc' = some (.directory inner) := by
  obtain ⟨mid, k₁, k₂, -, -, hlast⟩ := h.split
  cases hlast with
  | stay _ hdir hstop =>
    cases hstop
    exact ⟨_, hdir⟩
  | up hdir hstop =>
    cases hstop
    exact Listing.lookup_dropLast hdir
  | enter => simp at hstep
  | jump => simp at hstep

/-- Where a file is located, its directory is there, or is the one where relative paths start. -/
theorem directory_of_locate {parent : Path} (hp : fs.locate p = .ok loc)
    (hfile : fs.node? loc = some (.file content)) (hparent : p.parent? = some parent) :
    fs.existsAt parent = true ∨ parent.parent? = none := by
  obtain ⟨-, hne, -, k, -, hleads⟩ := locate_eq_ok_iff.1 hp
  rcases Path.child_or_steps hne with ⟨q, n, rfl⟩ | ⟨front, step, hsteps, hstep⟩
  · rw [Path.parent?_entry, Option.some.injEq] at hparent
    subst hparent
    by_cases hq : q.bytes = []
    · right
      rw [Path.eq_of_bytes (q := ⟨[]⟩) hq]
      rfl
    · left
      obtain ⟨loc', hlocate⟩ := exists_locate_of_child hq hp
      exact existsAt_of_locate (locate_trimmed hlocate)
  · rw [hsteps] at hleads
    obtain ⟨inner, hdir⟩ := hleads.exists_directory_of_concat hstep
    rw [node?, hdir] at hfile
    cases hfile

end FileSystem

/-! ## One copy -/

namespace Copy

variable {fs fs' : FileSystem} {c : Copy} {loc : Location} {content : Bytes} {e : DiffError}

/-- What a copy that fails leaves of a file at its destination. -/
theorem failed_at_file (hrun : c.run.on fs = (.error e, fs')) (hdest : fs.locate c.dest = .ok loc)
    (hfile : fs.node? loc = some (.file content)) :
    if fs.isDirectoryAt c.source then
      e = .write c.dest .isDirectory ∧ fs' = fs.storeAt loc []
    else (∃ fault, e = .read c.source fault) ∧ fs' = fs := by
  have hhoused : c.Housed fs := fun parent hparent => directory_of_locate hdest hfile hparent
  cases hsource : fs.locate c.source with
  | error fault =>
    have hask : (Effect.ask fun fs => (fs.locate c.source).mapError (DiffError.read c.source)).on
        fs = (.error (.read c.source fault), fs) := by
      rw [Effect.on_ask, hsource]
      rfl
    rw [run, Effect.on_bind_ok hhoused.on_makeParent, Effect.on_bind_error hask] at hrun
    cases hrun
    have hdirectory : fs.isDirectoryAt c.source = false := by
      simp [isDirectoryAt, stat, hsource, Except.toOption]
    simp [hdirectory]
  | ok source =>
    have hask : (Effect.ask fun fs => (fs.locate c.source).mapError (DiffError.read c.source)).on
        fs = (.ok source, fs) := by
      rw [Effect.on_ask, hsource]
      rfl
    have hshape := Listing.shape_eq_file_iff.2 hfile
    have hempty := stored_storeAt hshape []
    have hcreate := create_of_locate hdest hshape
    obtain ⟨node, hnode, hlink⟩ := exists_node_of_locate hsource
    cases node with
    | link target => simp [Node.isLink] at hlink
    | file old =>
      -- A file is copied without fail.
      obtain ⟨old', hold⟩ := hempty.extended.files source old (Listing.shape_eq_file_iff.2 hnode)
      rw [on_run hhoused.on_makeParent hsource hcreate hold] at hrun
      cases hrun
    | directory inner =>
      have hne : source ≠ loc := by
        rintro rfl
        rw [hfile] at hnode
        cases hnode
      have hdir : (fs.storeAt loc []).shape source = some (.directory .nil) := by
        rw [hempty.other hne]
        exact Listing.shape_eq_directory_iff.2 ⟨inner, hnode⟩
      obtain ⟨inner', hnode'⟩ := Listing.shape_eq_directory_iff.1 hdir
      have hread : (Effect.ask fun fs => ((fs.streamAt source).drain).mapError
          (DiffError.write c.dest)).on (fs.storeAt loc []) =
            (.error (.write c.dest .isDirectory), fs.storeAt loc []) := by
        rw [Effect.on_ask, streamAt_of_directory hnode']
        rfl
      rw [run, Effect.on_bind_ok hhoused.on_makeParent, Effect.on_bind_ok hask,
        Effect.on_bind_ok (Effect.on_blame_ok (Effect.on_attempt_ok hcreate)),
        Effect.on_bind_error hread] at hrun
      cases hrun
      rw [if_pos (isDirectoryAt_iff.2 ⟨source, inner, hsource, hnode⟩)]
      exact ⟨rfl, rfl⟩

end Copy

/-! ## The copy where a retrieve stops -/

namespace Retrieve

variable {fs fs' : FileSystem} {plan : List Copy} {e : DiffError}

/-- The copies were stopped at `c`, and this is what became of a file at its destination. -/
structure Struck (plan : List Copy) (fs fs' : FileSystem) (e : DiffError) (k : Nat) (c : Copy)
    (fs₁ : FileSystem) : Prop extends Stopped plan fs fs' e k c fs₁ where
  /-- If the source is no directory, whatever else it is, the copy has changed nothing. -/
  kept : fs₁.isDirectoryAt c.source = false → ∀ loc content, fs₁.locate c.dest = .ok loc →
    fs₁.node? loc = some (.file content) → fs' = fs₁
  /-- If it is one, the file has been emptied. -/
  emptied : fs₁.isDirectoryAt c.source = true → ∀ loc content, fs₁.locate c.dest = .ok loc →
    fs₁.node? loc = some (.file content) →
      e = .write c.dest .isDirectory ∧ fs'.locate c.dest = .ok loc ∧
        fs'.node? loc = some (.file [])

lemma exists_struck (h : (runCopies plan).on fs = (.error e, fs')) :
    ∃ k c fs₁, Struck plan fs fs' e k c fs₁ := by
  obtain ⟨k, c, fs₁, hstopped⟩ := exists_stopped h
  refine ⟨k, c, fs₁, hstopped, fun hsource loc content hdest hfile => ?_,
    fun hsource loc content hdest hfile => ?_⟩
  · have hfailed := Copy.failed_at_file hstopped.failed hdest hfile
    rw [hsource, if_neg Bool.false_ne_true] at hfailed
    exact hfailed.2
  · have hfailed := Copy.failed_at_file hstopped.failed hdest hfile
    rw [hsource, if_pos rfl] at hfailed
    obtain ⟨rfl, rfl⟩ := hfailed
    have hempty := stored_storeAt (Listing.shape_eq_file_iff.2 hfile) []
    exact ⟨rfl, hempty.extended.locate hdest, Listing.shape_eq_file_iff.1 hempty.file⟩

/-- **A failed copy keeps its destination unless its source is a directory**, in which case the
destination is lost.  This holds of every retrieve and every deployment, whatever links there
are. -/
theorem failed_copy_keeps_dest (fs : FileSystem) (results : DiffResults)
    (entries : List ConflictEntry) :
    (∀ e fs', (retrieve results entries).on fs = (.error (.diff e), fs') →
      ∃ k c fs₁, Struck (missingCopies results ++ acceptedCopies entries) fs fs' e k c fs₁) ∧
    ∀ e fs', (prepareDeploy entries).on fs = (.error (.diff e), fs') →
      ∃ k c fs₁, Struck (acceptedCopies entries) fs fs' e k c fs₁ :=
  ⟨fun _ _ h => exists_struck (runIfResolved_eq_diff_iff.1 h).2,
    fun _ _ h => exists_struck (runIfResolved_eq_diff_iff.1 h).2⟩

/-- A file `le/xe`, and a directory `re` with a directory `xe` in it. -/
def replaced : FileSystem where
  top := .directory ⟨[108, 101], by decide⟩ (.file ⟨[120, 101], by decide⟩ [49] .nil)
    (.directory ⟨[114, 101], by decide⟩ (.directory ⟨[120, 101], by decide⟩ .nil .nil) .nil)
  distinct := by decide
  current := []

/-- The file `xe` is to be taken from the directory at `remote`. -/
def taking (remote : Path) : List ConflictEntry :=
  [{ ConflictEntry.new ⟨[120, 101]⟩ ⟨[108, 101]⟩ remote with disposition := .acceptRemote }]

/-- The copy of the directory `re/xe` to the file `le/xe` fails, and the file is empty then. -/
theorem failure_empties_dest :
    replaced.read ⟨[108, 101, 47, 120, 101]⟩ = .ok [49] ∧
      ((prepareDeploy (taking ⟨[114, 101]⟩)).on replaced).1 =
        .error (.diff (.write ⟨[108, 101, 47, 120, 101]⟩ .isDirectory)) ∧
      ((prepareDeploy (taking ⟨[114, 101]⟩)).on replaced).2.read ⟨[108, 101, 47, 120, 101]⟩ =
        .ok [] :=
  ⟨rfl, rfl, rfl⟩

/-- What a comparison of `le` with `re` found when `xe` was a file of `re` only. -/
def exchanged : DiffResults where
  different := ∅
  missingLocal := (∅ : PathSet).insert ⟨[120, 101]⟩
  localRoot := ⟨[108, 101]⟩
  remoteRoot := ⟨[114, 101]⟩
  scannedLocal := 0
  scannedRemote := 1

/-- A retrieve stops at the directory `re/xe`, and a deployment where there is nothing to be copied
from `de`. -/
theorem failed_copy_keeps_dest_replaced :
    ((retrieve exchanged []).on replaced).1 =
        .error (.diff (.write ⟨[108, 101, 47, 120, 101]⟩ .isDirectory)) ∧
      (∃ k c fs₁, Struck (missingCopies exchanged ++ acceptedCopies []) replaced
        ((retrieve exchanged []).on replaced).2
        (.write ⟨[108, 101, 47, 120, 101]⟩ .isDirectory) k c fs₁) ∧
      ((prepareDeploy (taking ⟨[100, 101]⟩)).on replaced).1 =
        .error (.diff (.read ⟨[100, 101, 47, 120, 101]⟩ .notFound)) ∧
      ∃ k c fs₁, Struck (acceptedCopies (taking ⟨[100, 101]⟩)) replaced
        ((prepareDeploy (taking ⟨[100, 101]⟩)).on replaced).2
        (.read ⟨[100, 101, 47, 120, 101]⟩ .notFound) k c fs₁ :=
  ⟨rfl, (failed_copy_keeps_dest replaced exchanged []).1 _ _ (Prod.ext rfl rfl), rfl,
    (failed_copy_keeps_dest replaced exchanged (taking ⟨[100, 101]⟩)).2 _ _ (Prod.ext rfl rfl)⟩

end Retrieve
end Reconcile
