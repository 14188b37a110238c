import Reconcile.Proofs.FileSystem.Hollow
import Reconcile.Proofs.FileSystem.Spell
import Reconcile.Proofs.Retrieve.Copy
import Reconcile.Proofs.Retrieve.Run

/-!
# Carrying out any copies, once and again

Copies that succeed need not come from a comparison: there may be several to one destination, from
and to any directories.  As long as none reads what another one writes, every destination holds in
the end what the source of the last copy to it held in the beginning, and nothing else is different
but for new directories above the destinations (`Retrieve.Applied`).

After that every copy is settled (`Copy.Settled`): its paths are there, so that carrying it out once
more makes nothing new and only stores in files.  All of them once more therefore leave the tree as
it is, down to the order of its entries (`Retrieve.runCopies_again`).
-/

namespace Reconcile

open FileSystem

variable {fs fs₁ fs' : FileSystem} {c d : Copy} {plan rest : List Copy} {written : List Path}
  {p : Path} {loc : Location} {content : Bytes} {node : Node}

namespace Copy

/-! ## Settled copies -/

/-- The directory of the copy is there, and so are both files. -/
structure Settled (c : Copy) (fs : FileSystem) : Prop where
  housed : c.Housed fs
  source : ∃ content, fs.read c.source = .ok content
  dest : ∃ content, fs.read c.dest = .ok content

lemma Settled.extended (h : c.Settled fs) (hextends : fs.Extends fs') : c.Settled fs' where
  housed := h.housed.extended hextends
  source := h.source.elim fun _ hread => hextends.exists_read hread
  dest := h.dest.elim fun _ hread => hextends.exists_read hread

/-- A copy that succeeded is settled. -/
lemma settled_of_run (h : c.run.on fs = (.ok (), fs')) : c.Settled fs' := by
  cases ends_of_run h with
  | @done fs₁ _ source target content hdeepens hhoused hsource hstored hdest hread =>
    have hdest' : fs'.read c.dest = .ok content :=
      read_eq_ok_iff_shape.2 ⟨target, hdest, hstored.file⟩
    refine ⟨hhoused.extended hstored.extended, ?_, content, hdest'⟩
    rcases hread with hfile | ⟨rfl, -⟩
    · exact hstored.extended.exists_read (read_eq_ok_iff_shape.2 ⟨source, hsource, hfile⟩)
    · exact ⟨content,
        read_eq_ok_iff_shape.2 ⟨source, hstored.extended.locate hsource, hstored.file⟩⟩

/-- A settled copy succeeds, and changes nothing but the contents of a file. -/
lemma Settled.exists_run (h : c.Settled fs) :
    ∃ fs', c.run.on fs = (.ok (), fs') ∧ fs'.top.hollow = fs.top.hollow := by
  obtain ⟨x, hx⟩ := h.source
  obtain ⟨source, hsource, hx⟩ := read_eq_ok_iff_shape.1 hx
  obtain ⟨y, hy⟩ := h.dest
  obtain ⟨target, hdest, hold⟩ := read_eq_ok_iff_shape.1 hy
  have hempty := stored_storeAt hold []
  obtain ⟨content, hfile⟩ := hempty.extended.files source x hx
  refine ⟨_, on_run h.housed.on_makeParent hsource (create_of_locate hdest hold) hfile, ?_⟩
  rw [hollow_storeAt hempty.file, hollow_storeAt hold]

end Copy

namespace Retrieve

lemma settled_of_runCopies (h : (runCopies plan).on fs = (.ok written, fs')) :
    ∀ c ∈ plan, c.Settled fs' := by
  induction plan generalizing fs written with
  | nil => simp
  | cons c rest ih =>
    obtain ⟨fs₁, written', hrun, hrest, -⟩ := runCopies_cons_eq_ok_iff.1 h
    intro d hd
    rcases List.mem_cons.1 hd with rfl | hd
    · exact (Copy.settled_of_run hrun).extended (altered_of_runCopies hrest).extended
    · exact ih hrest d hd

lemma exists_runCopies_of_settled (h : ∀ c ∈ plan, c.Settled fs) :
    ∃ fs', (runCopies plan).on fs = (.ok (plan.map Copy.dest), fs') ∧
      fs'.top.hollow = fs.top.hollow := by
  induction plan generalizing fs with
  | nil => exact ⟨fs, rfl, rfl⟩
  | cons c rest ih =>
    obtain ⟨fs₁, hrun, hhollow⟩ := (h c List.mem_cons_self).exists_run
    have hextends := (altered_of_ends (Copy.ends_of_run hrun)).extended
    obtain ⟨fs', hrest, hhollow'⟩ :=
      ih fun d hd => (h d (List.mem_cons_of_mem c hd)).extended hextends
    exact ⟨fs', runCopies_cons_eq_ok_iff.2 ⟨fs₁, _, hrun, hrest, rfl⟩, hhollow'.trans hhollow⟩

/-! ## Copies that do not mix -/

/-- No copy reads what one of them writes. -/
def Apart (fs : FileSystem) (plan : List Copy) : Prop :=
  ∀ c ∈ plan, ∀ d ∈ plan, fs.spelled c.source ≠ fs.spelled d.dest

instance (fs : FileSystem) (plan : List Copy) : Decidable (Apart fs plan) :=
  inferInstanceAs (Decidable (∀ c ∈ plan, ∀ d ∈ plan, _))

/-- No path of a copy holds a `..`. -/
def Onward (plan : List Copy) : Prop := ∀ c ∈ plan, c.source.Onward ∧ c.dest.Onward

/-- The last copy to the place of `dest`. -/
def lastTo (fs : FileSystem) (plan : List Copy) (dest : Path) : Option Copy :=
  plan.reverse.find? fun c => fs.spelled c.dest = fs.spelled dest

/-- What is left by copies that succeed and do not mix. -/
structure Applied (plan : List Copy) (fs fs' : FileSystem) : Prop where
  current : fs'.current = fs.current
  /-- Each destination is a file at its place. -/
  placed : ∀ c ∈ plan, fs'.locate c.dest = .ok (fs.spelled c.dest)
  /-- It holds what was in the source of the last copy to this place. -/
  read : ∀ c ∈ plan, ∃ d content, lastTo fs plan c.dest = some d ∧
    fs.read d.source = .ok content ∧ fs'.read c.dest = .ok content
  /-- What is at no destination stays. -/
  kept : ∀ loc node, fs.shape loc = some node → (∀ c ∈ plan, loc ≠ fs.spelled c.dest) →
    fs'.shape loc = some node
  /-- What is new is a destination or a directory above one. -/
  fresh : ∀ loc, fs.shape loc = none → fs'.shape loc ≠ none → ∃ c ∈ plan,
    loc = fs.spelled c.dest ∨
      loc <+: fs.spelled c.dest ∧ fs'.shape loc = some (.directory .nil)

lemma Apart.congr (h : Apart fs plan) (hcurrent : fs'.current = fs.current) :
    Apart fs' plan := by
  intro c hc d hd
  rw [spelled_congr hcurrent, spelled_congr hcurrent]
  exact h c hc d hd

lemma lastTo_congr (hcurrent : fs'.current = fs.current) (plan : List Copy) (dest : Path) :
    lastTo fs' plan dest = lastTo fs plan dest := by
  simp only [lastTo, spelled_congr hcurrent]

lemma lastTo_cons (fs : FileSystem) (c : Copy) (rest : List Copy) (dest : Path) :
    lastTo fs (c :: rest) dest =
      (lastTo fs rest dest).or (if fs.spelled c.dest = fs.spelled dest then some c else none) := by
  rw [lastTo, List.reverse_cons, List.find?_append, lastTo]
  congr 1
  by_cases heq : fs.spelled c.dest = fs.spelled dest <;> simp [heq]

lemma spelled_of_lastTo (h : lastTo fs plan p = some d) : fs.spelled d.dest = fs.spelled p := by
  simpa using List.find?_some h

lemma mem_of_lastTo (h : lastTo fs plan p = some d) : d ∈ plan :=
  List.mem_reverse.1 (List.mem_of_find?_eq_some h)

lemma ne_of_lastTo_eq_none (h : lastTo fs plan p = none) (hc : c ∈ plan) :
    fs.spelled c.dest ≠ fs.spelled p := by
  simpa using List.find?_eq_none.1 h c (List.mem_reverse.2 hc)

lemma exists_lastTo (hc : c ∈ plan) : ∃ d, lastTo fs plan c.dest = some d := by
  rw [← Option.ne_none_iff_exists']
  exact fun hnone => ne_of_lastTo_eq_none hnone hc rfl

/-- A destination is a file at its place. -/
lemma Applied.shape_dest (h : Applied plan fs fs') (hc : c ∈ plan)
    (hread : fs'.read c.dest = .ok content) :
    fs'.shape (fs.spelled c.dest) = some (.file content) := by
  obtain ⟨loc, hlocate, hfile⟩ := read_eq_ok_iff_shape.1 hread
  obtain rfl := Except.ok.inj ((h.placed c hc).symm.trans hlocate)
  exact hfile

/-- If the sources are what they were, the same is left once more. -/
lemma Applied.shape_again {fs'' : FileSystem} (h : Applied plan fs fs')
    (h' : Applied plan fs' fs'')
    (hsources : ∀ c ∈ plan, ∀ content, fs.read c.source = .ok content →
      fs'.read c.source = .ok content) (loc : Location) : fs''.shape loc = fs'.shape loc := by
  by_cases hdest : ∃ c ∈ plan, loc = fs'.spelled c.dest
  · obtain ⟨c, hc, rfl⟩ := hdest
    obtain ⟨d, content, hlast, hsource, hread⟩ := h.read c hc
    obtain ⟨d', content', hlast', hsource', hread'⟩ := h'.read c hc
    rw [lastTo_congr h.current, hlast, Option.some.injEq] at hlast'
    subst hlast'
    rw [hsources d (mem_of_lastTo hlast) content hsource, Except.ok.injEq] at hsource'
    subst hsource'
    rw [h'.shape_dest hc hread', spelled_congr h.current, h.shape_dest hc hread]
  · have hoff : ∀ c ∈ plan, loc ≠ fs'.spelled c.dest := fun c hc heq => hdest ⟨c, hc, heq⟩
    cases hnode : fs'.shape loc with
    | some node => exact h'.kept loc node hnode hoff
    | none =>
      by_contra hsome
      obtain ⟨c, hc, heq | ⟨hpre, -⟩⟩ := h'.fresh loc hnode hsome
      · exact hoff c hc heq
      · -- Above a destination everything was there.
        obtain ⟨d, content, -, -, hread⟩ := h.read c hc
        have hfile := h.shape_dest hc hread
        rw [← spelled_congr h.current] at hfile
        obtain ⟨node, hnode'⟩ := exists_node_of_isPrefix (Listing.shape_eq_file_iff.1 hfile) hpre
        rw [shape, Listing.shape, show fs'.top.lookup loc = some node from hnode'] at hnode
        cases hnode

/-! ## One copy -/

/-- One copy that succeeds leaves in its destination what was in its source. -/
lemma read_of_run (hfree : fs.LinkFree) (hsource : c.source.Onward) (hdest : c.dest.Onward)
    (hapart : fs.spelled c.source ≠ fs.spelled c.dest) (h : c.run.on fs = (.ok (), fs')) :
    ∃ content, fs.read c.source = .ok content ∧ fs'.read c.dest = .ok content := by
  cases Copy.ends_of_run h with
  | @done fs₁ _ source target content hdeepens hhoused hlocate hstored htarget hread =>
    obtain rfl := hdeepens.extended.locate_eq_spelled hfree hsource hlocate
    obtain rfl :=
      (hdeepens.extended.trans hstored.extended).locate_eq_spelled hfree hdest htarget
    -- The source is no new directory, and not the destination that was emptied.
    have hfile := hread.resolve_right fun hsame => hapart hsame.1
    have hnode : fs.node? (fs.spelled c.source) = some (.file content) := by
      rcases hdeepens.shape (fs.spelled c.source) with hsame | ⟨-, hdir, -⟩
      · exact Listing.shape_eq_file_iff.1 (hsame.symm.trans hfile)
      · rw [hdir] at hfile
        cases hfile
    exact ⟨content,
      read_eq_ok_iff.2 ⟨_, hdeepens.extended.locate_back hfree hsource hnode hlocate, hnode⟩,
      read_eq_ok_iff_shape.2 ⟨_, htarget, hstored.file⟩⟩

/-! ## What copies leave alone -/

section LinkFree

variable (hfree : fs.LinkFree) (honward : Onward plan)

include hfree honward

namespace Altered

variable (h : Altered plan fs fs')

include h

lemma spelled_of_locate (hc : c ∈ plan) (hlocate : fs'.locate c.dest = .ok loc) :
    loc = fs.spelled c.dest :=
  h.extended.locate_eq_spelled hfree (honward c hc).2 hlocate

/-- What is at no destination stays. -/
lemma kept (hnode : fs.shape loc = some node) (hoff : ∀ c ∈ plan, loc ≠ fs.spelled c.dest) :
    fs'.shape loc = some node := by
  rcases h.shape loc with hsame | ⟨hnone, -⟩ | ⟨-, c, hc, hlocate⟩
  · rw [hsame, hnode]
  · rw [hnone] at hnode
    cases hnode
  · exact absurd (h.spelled_of_locate hfree honward hc hlocate) (hoff c hc)

/-- What is new is a destination or a directory above one. -/
lemma fresh (hnone : fs.shape loc = none) (hsome : fs'.shape loc ≠ none) :
    ∃ c ∈ plan, loc = fs.spelled c.dest ∨
      loc <+: fs.spelled c.dest ∧ fs'.shape loc = some (.directory .nil) := by
  rcases h.shape loc with hsame | ⟨-, hdir, c, hc, above, habove, hlocate⟩ | ⟨-, c, hc, hlocate⟩
  · exact absurd (hsame.trans hnone) hsome
  · refine ⟨c, hc, Or.inr ⟨?_, hdir⟩⟩
    have hpre := Copy.components_of_mem_parents habove
    have honward' : above.Onward := fun hup => (honward c hc).2 (hpre.subset hup)
    rw [h.extended.locate_eq_spelled hfree honward' hlocate]
    exact spelled_isPrefix fs (locate_ne_nil hlocate) hpre
  · exact ⟨c, hc, Or.inl (h.spelled_of_locate hfree honward hc hlocate)⟩

variable (hp : p.Onward) (hoff : ∀ c ∈ plan, fs.spelled p ≠ fs.spelled c.dest)

include hp hoff

/-- What can be read and is no destination is read as before. -/
lemma read_of_read (hread : fs.read p = .ok content) : fs'.read p = .ok content := by
  obtain ⟨loc, hlocate, hfile⟩ := read_eq_ok_iff_shape.1 hread
  obtain rfl := locate_eq_spelled hfree hp hlocate
  exact read_eq_ok_iff_shape.2
    ⟨_, h.extended.locate hlocate, h.kept hfree honward hfile hoff⟩

/-- It could be read before as well: no file has come where none was. -/
lemma read_back (hread : fs'.read p = .ok content) : fs.read p = .ok content := by
  obtain ⟨loc, hlocate, hfile⟩ := read_eq_ok_iff_shape.1 hread
  obtain rfl := h.extended.locate_eq_spelled hfree hp hlocate
  rcases h.shape (fs.spelled p) with hsame | ⟨-, hdir, -⟩ | ⟨-, c, hc, hdest⟩
  · rw [hsame] at hfile
    have hnode := Listing.shape_eq_file_iff.1 hfile
    exact read_eq_ok_iff.2 ⟨_, h.extended.locate_back hfree hp hnode hlocate, hnode⟩
  · rw [hdir] at hfile
    cases hfile
  · exact absurd (h.spelled_of_locate hfree honward hc hdest) (hoff c hc)

end Altered

/-! ## One copy after the other -/

/-- The last copy to a place leaves there what was in its source before all copies. -/
theorem read_of_lastTo (hapart : Apart fs plan) (h : (runCopies plan).on fs = (.ok written, fs'))
    (hlast : lastTo fs plan p = some d) :
    ∃ content, fs.read d.source = .ok content ∧ fs'.read d.dest = .ok content := by
  induction plan generalizing fs written with
  | nil => cases hlast
  | cons c rest ih =>
    obtain ⟨fs₁, written', hrun, hrest, -⟩ := runCopies_cons_eq_ok_iff.1 h
    have hfirst := altered_of_ends (Copy.ends_of_run hrun)
    have hfree₁ := hfirst.extended.linkFree hfree
    have hcurrent := hfirst.extended.current
    have honwardc : Onward [c] := fun e he => honward e (by simp_all)
    have honward' : Onward rest := fun e he => honward e (List.mem_cons_of_mem c he)
    have hapart' : Apart fs rest := fun e he e' he' =>
      hapart e (List.mem_cons_of_mem c he) e' (List.mem_cons_of_mem c he')
    rw [lastTo_cons, Option.or_eq_some_iff] at hlast
    rcases hlast with hlast | ⟨hnone, hlast⟩
    · -- A later copy is the last one, and the first does not touch what it reads.
      have hd := List.mem_cons_of_mem c (mem_of_lastTo hlast)
      obtain ⟨content, hsource, hdest⟩ := ih hfree₁ honward' (hapart'.congr hcurrent) hrest
        (by rw [lastTo_congr hcurrent, hlast])
      refine ⟨content, hfirst.read_back hfree honwardc (honward d hd).1 ?_ hsource, hdest⟩
      simpa using hapart d hd c List.mem_cons_self
    · -- The first copy is the last one, and no later one touches what it leaves.
      obtain ⟨heq, rfl⟩ : fs.spelled c.dest = fs.spelled p ∧ c = d := by simpa using hlast
      obtain ⟨hsource, hdest⟩ := honward c List.mem_cons_self
      obtain ⟨content, hread, hread₁⟩ := read_of_run hfree hsource hdest
        (hapart c List.mem_cons_self c List.mem_cons_self) hrun
      refine ⟨content, hread, (altered_of_runCopies hrest).read_of_read hfree₁ honward' hdest
        (fun e he => ?_) hread₁⟩
      rw [spelled_congr hcurrent, spelled_congr hcurrent, heq]
      exact fun hsame => ne_of_lastTo_eq_none hnone he hsame.symm

/-- Copies that succeed and do not mix are applied. -/
theorem applied_of_runCopies (hapart : Apart fs plan)
    (h : (runCopies plan).on fs = (.ok written, fs')) : Applied plan fs fs' := by
  have haltered := altered_of_runCopies h
  have hplaced : ∀ c ∈ plan, fs'.locate c.dest = .ok (fs.spelled c.dest) := by
    intro c hc
    obtain ⟨content, hread⟩ := (settled_of_runCopies h c hc).dest
    obtain ⟨loc, hlocate, -⟩ := read_eq_ok_iff.1 hread
    rw [hlocate, haltered.spelled_of_locate hfree honward hc hlocate]
  refine ⟨haltered.extended.current, hplaced, fun c hc => ?_,
    fun loc node hnode hoff => haltered.kept hfree honward hnode hoff,
    fun loc hnone hsome => haltered.fresh hfree honward hnone hsome⟩
  obtain ⟨d, hlast⟩ := exists_lastTo hc
  obtain ⟨content, hsource, hdest⟩ := read_of_lastTo hfree honward hapart h hlast
  refine ⟨d, content, hlast, hsource, ?_⟩
  rw [FileSystem.read, hplaced c hc, ← spelled_of_lastTo hlast, ← hplaced d (mem_of_lastTo hlast)]
  exact hdest

/-! ## The same copies again -/

/-- **Copies that do not mix leave the tree as it is when they are carried out once more.** -/
theorem runCopies_again (hapart : Apart fs plan)
    (h : (runCopies plan).on fs = (.ok written, fs')) :
    (runCopies plan).on fs' = (.ok written, fs') := by
  have haltered := altered_of_runCopies h
  have hfree' := haltered.extended.linkFree hfree
  have hcurrent := haltered.extended.current
  obtain ⟨fs'', hagain, hhollow⟩ := exists_runCopies_of_settled (settled_of_runCopies h)
  have hfirst := applied_of_runCopies hfree honward hapart h
  have hsecond := applied_of_runCopies hfree' honward (hapart.congr hcurrent) hagain
  have hsources : ∀ c ∈ plan, ∀ content, fs.read c.source = .ok content →
      fs'.read c.source = .ok content := fun c hc content hread =>
    haltered.read_of_read hfree honward (honward c hc).1 (hapart c hc) hread
  have hsame : fs'' = fs' :=
    eq_of_hollow hsecond.current hhollow (hfirst.shape_again hsecond hsources)
  rw [written_of_runCopies h, hagain, hsame]

end LinkFree

end Retrieve

/-! ## Retrieves and deployments -/

/-- No path of the results holds a `..`; paths of names only are such paths. -/
structure DiffResults.Onward (results : DiffResults) : Prop where
  localRoot : results.localRoot.Onward
  remoteRoot : results.remoteRoot.Onward
  missingLocal : ∀ path ∈ results.missingLocal.toList, path.Onward

/-- No path of the conflict holds a `..`. -/
structure ConflictEntry.Onward (e : ConflictEntry) : Prop where
  localRoot : e.localRoot.Onward
  remoteRoot : e.remoteRoot.Onward
  relativePath : e.relativePath.Onward

namespace Retrieve

variable {results : DiffResults} {entries : List ConflictEntry}

lemma onward_missingCopies (h : results.Onward) : Onward (missingCopies results) := by
  intro c hc
  obtain ⟨path, hpath, rfl⟩ := List.mem_map.1 hc
  have honward := h.missingLocal path hpath
  exact ⟨h.remoteRoot.join honward, h.localRoot.join honward⟩

lemma onward_acceptedCopies (h : ∀ e ∈ entries, e.Onward) : Onward (acceptedCopies entries) := by
  intro c hc
  obtain ⟨e, he, rfl⟩ := List.mem_map.1 hc
  have honward := h e (List.mem_filter.1 he).1
  exact ⟨honward.remoteRoot.join honward.relativePath, honward.localRoot.join honward.relativePath⟩

lemma map_dest_missingCopies (results : DiffResults) :
    (missingCopies results).map Copy.dest =
      results.missingLocal.toList.map fun path => results.localRoot.join path := by
  rw [missingCopies, List.map_map]
  rfl

lemma map_dest_acceptedCopies (entries : List ConflictEntry) :
    (acceptedCopies entries).map Copy.dest =
      (entries.filter fun e => e.disposition = .acceptRemote).map ConflictEntry.localPath := by
  rw [acceptedCopies, List.map_map]
  rfl

/-- Copies that are carried out because nothing is undecided. -/
lemma applied_of_runIfResolved (hfree : fs.LinkFree) (honward : Onward plan)
    (hapart : Apart fs plan) (h : (runIfResolved entries plan).on fs = (.ok written, fs')) :
    written = plan.map Copy.dest ∧ Applied plan fs fs' ∧
      (runIfResolved entries plan).on fs' = (.ok written, fs') := by
  obtain ⟨hcheck, hrun⟩ := runIfResolved_eq_ok_iff.1 h
  exact ⟨written_of_runCopies hrun, applied_of_runCopies hfree honward hapart hrun,
    runIfResolved_eq_ok_iff.2 ⟨hcheck, runCopies_again hfree honward hapart hrun⟩⟩

/-- **What a retrieve or a deployment leaves**, wherever its copies come from: as long as none of
them reads what another one writes, the last copy to a place counts, nothing else is different, and
doing it again changes nothing. -/
theorem copies_apply (fs : FileSystem) (entries : List ConflictEntry) (hfree : fs.LinkFree)
    (hentries : ∀ e ∈ entries, e.Onward) :
    (∀ results written fs', DiffResults.Onward results →
      Apart fs (missingCopies results ++ acceptedCopies entries) →
      (retrieve results entries).on fs = (.ok written, fs') →
        written = (results.missingLocal.toList.map fun path => results.localRoot.join path) ++
          (entries.filter fun e => e.disposition = .acceptRemote).map ConflictEntry.localPath ∧
        Applied (missingCopies results ++ acceptedCopies entries) fs fs' ∧
        (retrieve results entries).on fs' = (.ok written, fs')) ∧
    ∀ written fs', Apart fs (acceptedCopies entries) →
      (prepareDeploy entries).on fs = (.ok written, fs') →
        written =
          (entries.filter fun e => e.disposition = .acceptRemote).map ConflictEntry.localPath ∧
        Applied (acceptedCopies entries) fs fs' ∧
        (prepareDeploy entries).on fs' = (.ok written, fs') := by
  have haccepted := onward_acceptedCopies hentries
  constructor
  · intro results written fs' hresults hapart h
    have honward : Onward (missingCopies results ++ acceptedCopies entries) := fun c hc =>
      (List.mem_append.1 hc).elim (onward_missingCopies hresults c) (haccepted c)
    obtain ⟨hwritten, happlied, hagain⟩ := applied_of_runIfResolved hfree honward hapart h
    rw [List.map_append, map_dest_missingCopies, map_dest_acceptedCopies] at hwritten
    exact ⟨hwritten, happlied, hagain⟩
  · intro written fs' hapart h
    obtain ⟨hwritten, happlied, hagain⟩ := applied_of_runIfResolved hfree haccepted hapart h
    rw [map_dest_acceptedCopies] at hwritten
    exact ⟨hwritten, happlied, hagain⟩

/-- A file `l/m`, two files `u/m` and `u/n/v`, and a file `w/m`. -/
def threefold : FileSystem where
  top := .directory ⟨[108], by decide⟩ (.file ⟨[109], by decide⟩ [49] .nil)
    (.directory ⟨[117], by decide⟩
      (.file ⟨[109], by decide⟩ [50]
        (.directory ⟨[110], by decide⟩ (.file ⟨[118], by decide⟩ [57] .nil) .nil))
      (.directory ⟨[119], by decide⟩ (.file ⟨[109], by decide⟩ [51] .nil) .nil))
  distinct := by decide
  current := []

/-- Nothing but `n/v` is missing in `l`. -/
def lacking : DiffResults where
  different := ∅
  missingLocal := (∅ : PathSet).insert ⟨[110, 47, 118]⟩
  localRoot := ⟨[108]⟩
  remoteRoot := ⟨[117]⟩
  scannedLocal := 1
  scannedRemote := 1

/-- The file `m` is to be taken from `u`, and then from `w`. -/
def overlapping : List ConflictEntry :=
  [{ ConflictEntry.new ⟨[109]⟩ ⟨[108]⟩ ⟨[117]⟩ with disposition := .acceptRemote },
    { ConflictEntry.new ⟨[109]⟩ ⟨[108]⟩ ⟨[119]⟩ with disposition := .acceptRemote }]

/-- The directory `l/n` is made, and `l/m` is written twice; then it is what `w/m` was. -/
theorem copies_apply_threefold :
    threefold.LinkFree ∧ (∀ e ∈ overlapping, e.Onward) ∧ lacking.Onward ∧
      Apart threefold (missingCopies lacking ++ acceptedCopies overlapping) ∧
      ((retrieve lacking overlapping).on threefold).1 =
        .ok [⟨[108, 47, 110, 47, 118]⟩, ⟨[108, 47, 109]⟩, ⟨[108, 47, 109]⟩] ∧
      ((retrieve lacking overlapping).on threefold).2.read ⟨[108, 47, 109]⟩ = .ok [51] ∧
      Applied (missingCopies lacking ++ acceptedCopies overlapping) threefold
        ((retrieve lacking overlapping).on threefold).2 ∧
      Applied (acceptedCopies overlapping) threefold
        ((prepareDeploy overlapping).on threefold).2 := by
  have hfree : threefold.LinkFree := linkFree_of_hasLink rfl
  have hentries : ∀ e ∈ overlapping, e.Onward := by
    simp only [overlapping, List.mem_cons, List.not_mem_nil, or_false, forall_eq_or_imp, forall_eq]
    exact ⟨⟨by decide, by decide, by decide⟩, ⟨by decide, by decide, by decide⟩⟩
  have hresults : lacking.Onward := ⟨by decide, by decide, by decide⟩
  have hapart : Apart threefold (missingCopies lacking ++ acceptedCopies overlapping) := by decide
  obtain ⟨hretrieve, hdeploy⟩ := copies_apply threefold overlapping hfree hentries
  exact ⟨hfree, hentries, hresults, hapart, rfl, rfl,
    (hretrieve lacking _ _ hresults hapart (Prod.ext rfl rfl)).2.1,
    (hdeploy _ _ (by decide) (Prod.ext rfl rfl)).2.1⟩

end Retrieve
end Reconcile
