import Reconcile.Proofs.FileSystem.Make
import Reconcile.Proofs.Path.Onward
import Reconcile.Retrieve

/-!
# Carrying out copies

`Copy.Ends` lists every way in which a copy can end, with what it has done until then, for any tree
and whatever links there are in it (`Copy.ends_of_run`).  Nothing more about a single copy is needed
to say what a list of them does: it stops at the first copy that fails
(`Retrieve.runCopies_eq_error_iff`), and in either case the tree has only been altered in the files
at the destinations and the directories above them (`Retrieve.altered_of_runCopies`).
-/

namespace Reconcile

open FileSystem

variable {fs fs₁ fs₂ fs' : FileSystem} {c : Copy} {plan : List Copy} {loc : Location}

namespace Copy

/-! ## The directory of a copy -/

/-- The directory in which the copy is to stand and all those above it. -/
def parents (c : Copy) : List Path := c.dest.parent?.elim [] Path.ancestors

/-- The directory of the copy is there, or is the top, which is not made. -/
def Housed (c : Copy) (fs : FileSystem) : Prop :=
  ∀ parent, c.dest.parent? = some parent → fs.existsAt parent = true ∨ parent.parent? = none

lemma parents_of_parent? {parent : Path} (h : c.dest.parent? = some parent) :
    c.parents = parent.ancestors := by
  rw [parents, h]
  rfl

/-- The directories above the destination have fewer of its components. -/
lemma components_of_mem_parents {p : Path} (h : p ∈ c.parents) :
    p.components <+: c.dest.components := by
  rw [parents] at h
  cases hparent : c.dest.parent? with
  | none => simp [hparent] at h
  | some parent =>
    rw [hparent] at h
    obtain ⟨last, hcomponents⟩ := Path.components_of_parent? hparent
    exact (Path.components_of_mem_ancestors h).trans ⟨[last], hcomponents.symm⟩

lemma Housed.extended (h : c.Housed fs) (hextends : fs.Extends fs') : c.Housed fs' :=
  fun parent hparent => (h parent hparent).imp_left hextends.existsAt

/-- Where the directory of the copy is there, nothing is made. -/
lemma Housed.on_makeParent (h : c.Housed fs) : c.makeParent.on fs = (.ok (), fs) := by
  show c.makeParent fs = _
  rw [makeParent]
  split
  · rfl
  · rename_i parent hparent
    split
    · rfl
    · rename_i hexists
      have htop := (h parent hparent).resolve_left hexists
      obtain ⟨above, habove⟩ := Path.ancestors_go_cons parent.components.length parent
      refine Effect.on_blame_ok ?_
      rw [makeDirectories, Path.ancestors, habove]
      exact on_ensureDirectories_top htop

/-- Making the directory of a copy makes directories above the destination; then it is there, or
it could not be made. -/
lemma makeParent_cases (c : Copy) (fs : FileSystem) :
    (∃ fs₁, c.makeParent.on fs = (.ok (), fs₁) ∧ fs.Deepens fs₁ c.parents ∧ c.Housed fs₁) ∨
      ∃ parent fault fs₁, c.makeParent.on fs = (.error (.write parent fault), fs₁) ∧
        c.dest.parent? = some parent ∧ fs.Deepens fs₁ c.parents := by
  have hon : c.makeParent.on fs = c.makeParent fs := rfl
  rw [hon, makeParent]
  cases hparent : c.dest.parent? with
  | none => exact Or.inl ⟨fs, rfl, .refl fs _, by simp [Housed, hparent]⟩
  | some parent =>
    by_cases hexists : fs.existsAt parent = true
    · refine Or.inl ⟨fs, by simp [hexists], .refl fs _, fun q hq => Or.inl ?_⟩
      rw [hparent, Option.some.injEq] at hq
      exact hq ▸ hexists
    · simp only [hexists, Bool.false_eq_true, if_false]
      rcases hmake : (makeDirectories parent).on fs with ⟨fault | _, fs₁⟩
      · refine Or.inr ⟨parent, fault, fs₁, Effect.on_blame_error hmake, rfl, ?_⟩
        rw [parents_of_parent? hparent]
        exact deepens_of_ensureDirectories hmake
      · refine Or.inl ⟨fs₁, Effect.on_blame_ok hmake, ?_, fun q hq => ?_⟩
        · rw [parents_of_parent? hparent]
          exact deepens_of_ensureDirectories hmake
        · rw [hparent, Option.some.injEq] at hq
          subst hq
          by_cases htop : parent.parent? = none
          · exact Or.inr htop
          · have hdir := isDirectoryAt_of_makeDirectories htop hmake
            obtain ⟨loc, inner, hlocate, -⟩ := isDirectoryAt_iff.1 hdir
            exact Or.inl (existsAt_of_locate hlocate)

/-! ## The end of a copy -/

/-- Every way in which a copy can end, and what it leaves. -/
inductive Ends (c : Copy) (fs : FileSystem) : Except DiffError Unit → FileSystem → Prop where
  /-- The directory of the copy cannot be made. -/
  | noParent {parent : Path} {fault : Fault} {fs' : FileSystem} :
      c.dest.parent? = some parent → fs.Deepens fs' c.parents →
      Ends c fs (.error (.write parent fault)) fs'
  /-- The source is not found. -/
  | noSource {fault : Fault} {fs' : FileSystem} :
      fs.Deepens fs' c.parents → fs'.locate c.source = .error fault →
      Ends c fs (.error (.read c.source fault)) fs'
  /-- The destination cannot be opened for writing. -/
  | noDest {fault : Fault} {fs' : FileSystem} :
      fs.Deepens fs' c.parents → create c.dest fs' = .error fault →
      Ends c fs (.error (.write c.dest fault)) fs'
  /-- The source cannot be read, but the destination has been emptied. -/
  | unread {fault : Fault} {fs₁ fs' : FileSystem} {target : Location} :
      fs.Deepens fs₁ c.parents → Stored fs₁ fs' target [] → fs'.locate c.dest = .ok target →
      Ends c fs (.error (.write c.dest fault)) fs'
  /-- What is in the source is in the destination too, or was emptied if they are the same. -/
  | done {fs₁ fs' : FileSystem} {source target : Location} {content : Bytes} :
      fs.Deepens fs₁ c.parents → c.Housed fs₁ → fs₁.locate c.source = .ok source →
      Stored fs₁ fs' target content → fs'.locate c.dest = .ok target →
      (fs₁.shape source = some (.file content) ∨ source = target ∧ content = []) →
      Ends c fs (.ok ()) fs'

/-- There are no other ways in which a copy ends. -/
theorem ends_of_run {outcome : Except DiffError Unit} (h : c.run.on fs = (outcome, fs')) :
    c.Ends fs outcome fs' := by
  rw [run] at h
  rcases makeParent_cases c fs with ⟨fs₁, hmake, hdeepens, hhoused⟩ |
    ⟨parent, fault, fs₁, hmake, hparent, hdeepens⟩
  · rw [Effect.on_bind_ok hmake] at h
    cases hsource : fs₁.locate c.source with
    | error fault =>
      rw [Effect.on_bind_error (by rw [Effect.on_ask, hsource]; rfl)] at h
      cases h
      exact .noSource hdeepens hsource
    | ok source =>
      rw [Effect.on_bind_ok (by rw [Effect.on_ask, hsource]; rfl)] at h
      cases hcreate : create c.dest fs₁ with
      | error fault =>
        rw [Effect.on_bind_error (Effect.on_blame_error (Effect.on_attempt_error hcreate))] at h
        cases h
        exact .noDest hdeepens hcreate
      | ok made =>
        obtain ⟨target, fs₂⟩ := made
        obtain ⟨hempty, hlocate⟩ := stored_of_create hcreate
        rw [Effect.on_bind_ok (Effect.on_blame_ok (Effect.on_attempt_ok hcreate))] at h
        cases hdrain : (fs₂.streamAt source).drain with
        | error fault =>
          rw [Effect.on_bind_error (by rw [Effect.on_ask, hdrain]; rfl)] at h
          cases h
          exact .unread hdeepens hempty hlocate
        | ok content =>
          rw [Effect.on_bind_ok (by rw [Effect.on_ask, hdrain]; rfl)] at h
          cases h
          have hstored := hempty.trans (stored_storeAt hempty.file content)
          have hfile := Listing.shape_eq_file_iff.2 (drain_streamAt_eq_ok_iff.1 hdrain)
          refine .done hdeepens hhoused hsource hstored
            ((stored_storeAt hempty.file content).extended.locate hlocate) ?_
          rw [← shape, hempty.shape] at hfile
          split at hfile
          · rename_i heq
            cases hfile
            exact Or.inr ⟨heq, rfl⟩
          · exact Or.inl hfile
  · rw [Effect.on_bind_error hmake] at h
    cases h
    exact .noParent hparent hdeepens

end Copy

namespace Retrieve

/-! ## Many copies -/

variable {rest : List Copy} {written : List Path} {e : DiffError}

lemma runCopies_cons_eq_ok_iff :
    (runCopies (c :: rest)).on fs = (.ok written, fs') ↔
      ∃ fs₁ written', c.run.on fs = (.ok (), fs₁) ∧
        (runCopies rest).on fs₁ = (.ok written', fs') ∧ written = c.dest :: written' := by
  rw [runCopies, Effect.on_bind_eq_ok_iff]
  constructor
  · rintro ⟨⟨⟩, fs₁, hrun, hrest⟩
    obtain ⟨written', fs₂, hrest, hpure⟩ := Effect.on_bind_eq_ok_iff.1 hrest
    cases hpure
    exact ⟨fs₁, written', hrun, hrest, rfl⟩
  · rintro ⟨fs₁, written', hrun, hrest, rfl⟩
    exact ⟨(), fs₁, hrun, Effect.on_bind_eq_ok_iff.2 ⟨written', fs', hrest, rfl⟩⟩

lemma runCopies_cons_eq_error_iff :
    (runCopies (c :: rest)).on fs = (.error e, fs') ↔
      c.run.on fs = (.error e, fs') ∨
        ∃ fs₁, c.run.on fs = (.ok (), fs₁) ∧ (runCopies rest).on fs₁ = (.error e, fs') := by
  rw [runCopies, Effect.on_bind_eq_error_iff]
  refine or_congr_right ?_
  constructor
  · rintro ⟨⟨⟩, fs₁, hrun, hrest⟩
    rcases Effect.on_bind_eq_error_iff.1 hrest with hrest | ⟨written', fs₂, -, hpure⟩
    · exact ⟨fs₁, hrun, hrest⟩
    · cases hpure
  · rintro ⟨fs₁, hrun, hrest⟩
    exact ⟨(), fs₁, hrun, Effect.on_bind_error hrest⟩

/-- What is written are the destinations, in order. -/
lemma written_of_runCopies (h : (runCopies plan).on fs = (.ok written, fs')) :
    written = plan.map Copy.dest := by
  induction plan generalizing fs written with
  | nil =>
    cases h
    rfl
  | cons c rest ih =>
    obtain ⟨fs₁, written', -, hrest, rfl⟩ := runCopies_cons_eq_ok_iff.1 h
    rw [ih hrest, List.map_cons]

/-- Copies fail where, after all those in front of it, one of them fails. -/
theorem runCopies_eq_error_iff :
    (runCopies plan).on fs = (.error e, fs') ↔
      ∃ k c fs₁, plan[k]? = some c ∧
        (runCopies (plan.take k)).on fs = (.ok ((plan.take k).map Copy.dest), fs₁) ∧
        c.run.on fs₁ = (.error e, fs') := by
  induction plan generalizing fs with
  | nil =>
    constructor
    · intro h
      cases h
    · rintro ⟨k, c, fs₁, hc, -⟩
      cases hc
  | cons c rest ih =>
    rw [runCopies_cons_eq_error_iff]
    constructor
    · rintro (hrun | ⟨fs₁, hrun, hrest⟩)
      · exact ⟨0, c, fs, rfl, rfl, hrun⟩
      · obtain ⟨k, d, fs₂, hd, hfront, hfail⟩ := ih.1 hrest
        exact ⟨k + 1, d, fs₂, hd, runCopies_cons_eq_ok_iff.2 ⟨fs₁, _, hrun, hfront, rfl⟩, hfail⟩
    · rintro ⟨k, d, fs₂, hd, hfront, hfail⟩
      cases k with
      | zero =>
        cases hd
        cases hfront
        exact Or.inl hfail
      | succ k =>
        obtain ⟨fs₁, written', hrun, hfront, -⟩ := runCopies_cons_eq_ok_iff.1 hfront
        rw [written_of_runCopies hfront] at hfront
        exact Or.inr ⟨fs₁, hrun, ih.2 ⟨k, d, fs₂, hd, hfront, hfail⟩⟩

/-- A tree in which only the files at the destinations of copies are different, and only those and
directories above them are new. -/
structure Altered (plan : List Copy) (fs fs' : FileSystem) : Prop where
  extended : fs.Extends fs'
  shape : ∀ loc, fs'.shape loc = fs.shape loc ∨
    (fs.shape loc = none ∧ fs'.shape loc = some (.directory .nil) ∧
      ∃ c ∈ plan, ∃ p ∈ c.parents, fs'.locate p = .ok loc) ∨
    ((∃ content, fs'.shape loc = some (.file content)) ∧
      ∃ c ∈ plan, fs'.locate c.dest = .ok loc)

namespace Altered

lemma refl (plan : List Copy) (fs : FileSystem) : Altered plan fs fs where
  extended := .refl fs
  shape _ := Or.inl rfl

lemma mono {plan' : List Copy} (h : Altered plan fs fs') (hsub : plan ⊆ plan') :
    Altered plan' fs fs' where
  extended := h.extended
  shape loc := by
    rcases h.shape loc with hsame | ⟨hnone, hdir, c, hc, hp⟩ | ⟨hfile, c, hc, hlocate⟩
    · exact Or.inl hsame
    · exact Or.inr (Or.inl ⟨hnone, hdir, c, hsub hc, hp⟩)
    · exact Or.inr (Or.inr ⟨hfile, c, hsub hc, hlocate⟩)

lemma trans (h : Altered plan fs fs₁) (h' : Altered plan fs₁ fs') : Altered plan fs fs' where
  extended := h.extended.trans h'.extended
  shape loc := by
    rcases h'.shape loc with hsame | ⟨hnone₁, hdir, hp⟩ | hfile
    · -- What the first part altered is as it left it.
      rw [hsame]
      rcases h.shape loc with hsame₁ | ⟨hnone, hdir, c, hc, p, hp, hlocate⟩ |
        ⟨hfile, c, hc, hlocate⟩
      · exact Or.inl hsame₁
      · exact Or.inr (Or.inl ⟨hnone, hdir, c, hc, p, hp, h'.extended.locate hlocate⟩)
      · exact Or.inr (Or.inr ⟨hfile, c, hc, h'.extended.locate hlocate⟩)
    · refine Or.inr (Or.inl ⟨?_, hdir, hp⟩)
      by_contra hsome
      obtain ⟨node, hnode⟩ := Option.ne_none_iff_exists'.1 hsome
      obtain ⟨node', hnode'⟩ := h.extended.exists_shape hnode
      rw [hnone₁] at hnode'
      cases hnode'
    · exact Or.inr (Or.inr hfile)

lemma of_deepens (h : fs.Deepens fs' c.parents) : Altered [c] fs fs' where
  extended := h.extended
  shape loc := by
    rcases h.shape loc with hsame | ⟨hnone, hdir, hp⟩
    · exact Or.inl hsame
    · exact Or.inr (Or.inl ⟨hnone, hdir, c, List.mem_singleton_self c, hp⟩)

lemma of_stored {content : Bytes} (h : Stored fs fs' loc content)
    (hlocate : fs'.locate c.dest = .ok loc) : Altered [c] fs fs' where
  extended := h.extended
  shape loc' := by
    by_cases heq : loc' = loc
    · subst heq
      exact Or.inr (Or.inr ⟨⟨content, h.file⟩, c, List.mem_singleton_self c, hlocate⟩)
    · exact Or.inl (h.other heq)

end Altered

/-- However a copy ends, it alters its destination only. -/
lemma altered_of_ends {outcome : Except DiffError Unit} (h : c.Ends fs outcome fs') :
    Altered [c] fs fs' := by
  cases h with
  | noParent _ hdeepens => exact .of_deepens hdeepens
  | noSource hdeepens _ => exact .of_deepens hdeepens
  | noDest hdeepens _ => exact .of_deepens hdeepens
  | unread hdeepens hstored hlocate =>
    exact (Altered.of_deepens hdeepens).trans (.of_stored hstored hlocate)
  | done hdeepens _ _ hstored hlocate _ =>
    exact (Altered.of_deepens hdeepens).trans (.of_stored hstored hlocate)

/-- **However copies end, they alter their destinations only.** -/
theorem altered_of_runCopies {outcome : Except DiffError (List Path)}
    (h : (runCopies plan).on fs = (outcome, fs')) : Altered plan fs fs' := by
  induction plan generalizing fs outcome with
  | nil =>
    cases h
    exact .refl [] fs'
  | cons c rest ih =>
    have hfirst : ∀ {outcome fs₁}, c.run.on fs = (outcome, fs₁) → Altered (c :: rest) fs fs₁ :=
      fun hrun => (altered_of_ends (Copy.ends_of_run hrun)).mono (by simp)
    have hrest : ∀ {outcome fs₁}, (runCopies rest).on fs₁ = (outcome, fs') →
        Altered (c :: rest) fs₁ fs' :=
      fun hrest => (ih hrest).mono (List.subset_cons_self c rest)
    cases outcome with
    | ok written =>
      obtain ⟨fs₁, written', hrun, hrest', -⟩ := runCopies_cons_eq_ok_iff.1 h
      exact (hfirst hrun).trans (hrest hrest')
    | error e =>
      rcases runCopies_cons_eq_error_iff.1 h with hrun | ⟨fs₁, hrun, hrest'⟩
      · exact hfirst hrun
      · exact (hfirst hrun).trans (hrest hrest')

/-! ## Decided conflicts -/

variable {entries : List ConflictEntry}

/-- The copies of a retrieve are carried out if no conflict is undecided. -/
lemma runIfResolved_eq_ok_iff :
    (runIfResolved entries plan).on fs = (.ok written, fs') ↔
      Conflict.checkAllResolved entries = .ok () ∧
        (runCopies plan).on fs = (.ok written, fs') := by
  rw [runIfResolved]
  cases Conflict.checkAllResolved entries with
  | error e => simp [Effect.on_throw]
  | ok u =>
    rw [Effect.on_blame]
    rcases (runCopies plan).on fs with ⟨e | written', fs₁⟩ <;> simp [Except.mapError]

lemma runIfResolved_eq_diff_iff :
    (runIfResolved entries plan).on fs = (.error (.diff e), fs') ↔
      Conflict.checkAllResolved entries = .ok () ∧
        (runCopies plan).on fs = (.error e, fs') := by
  rw [runIfResolved]
  cases hcheck : Conflict.checkAllResolved entries with
  | error e' =>
    have hne : e' ≠ .diff e := by
      rintro rfl
      rw [Conflict.checkAllResolved] at hcheck
      split at hcheck <;> cases hcheck
    simp [Effect.on_throw, hne]
  | ok u =>
    rw [Effect.on_blame]
    rcases (runCopies plan).on fs with ⟨e' | written', fs₁⟩ <;> simp [Except.mapError]

end Retrieve
end Reconcile
