import Reconcile.Proofs.Path.Parent
import Reconcile.Proofs.Retrieve.Run

/-!
# Where copies stop

A retrieve that fails over a file has carried out the copies in front of one of them, and that one
as far as it went (`Retrieve.Stopped`).  The failure names a path of this copy.  Unless it names the
destination itself, no file is different from what the earlier copies left: there may be new
directories above the destination and nothing else.
-/

namespace Reconcile
namespace Retrieve

open FileSystem

variable {fs fs' : FileSystem} {plan : List Copy} {c : Copy} {e : DiffError}

/-- The copies were stopped at `c`, which has the number `k` and was run on the tree `fs₁`. -/
structure Stopped (plan : List Copy) (fs fs' : FileSystem) (e : DiffError) (k : Nat) (c : Copy)
    (fs₁ : FileSystem) : Prop where
  next : plan[k]? = some c
  /-- All copies in front of it were carried out. -/
  done : (runCopies (plan.take k)).on fs = (.ok ((plan.take k).map Copy.dest), fs₁)
  /-- Nothing was done after it. -/
  failed : c.run.on fs₁ = (.error e, fs')
  /-- The failure names the source, the destination or the directory of the destination. -/
  blamed : (∃ fault, e = .read c.source fault) ∨ (∃ fault, e = .write c.dest fault) ∨
    ∃ parent fault, c.dest.parent? = some parent ∧ parent ≠ c.dest ∧ e = .write parent fault
  /-- Unless it names the destination, only directories above that are new. -/
  spared : (∀ fault, e ≠ .write c.dest fault) → fs₁.Deepens fs' c.parents

lemma parent_ne {p parent : Path} (h : p.parent? = some parent) : parent ≠ p := by
  rintro rfl
  obtain ⟨last, hcomponents⟩ := Path.components_of_parent? h
  simpa using congrArg List.length hcomponents

/-- A copy that fails names one of its paths. -/
lemma blamed_of_ends (h : c.Ends fs (.error e) fs') :
    (∃ fault, e = .read c.source fault) ∨ (∃ fault, e = .write c.dest fault) ∨
      ∃ parent fault, c.dest.parent? = some parent ∧ parent ≠ c.dest ∧ e = .write parent fault := by
  cases h with
  | noParent hparent _ => exact Or.inr (Or.inr ⟨_, _, hparent, parent_ne hparent, rfl⟩)
  | noSource _ _ => exact Or.inl ⟨_, rfl⟩
  | noDest _ _ => exact Or.inr (Or.inl ⟨_, rfl⟩)
  | unread _ _ _ => exact Or.inr (Or.inl ⟨_, rfl⟩)

/-- A copy that fails before it comes to its destination only makes directories. -/
lemma spared_of_ends (h : c.Ends fs (.error e) fs') (hdest : ∀ fault, e ≠ .write c.dest fault) :
    fs.Deepens fs' c.parents := by
  cases h with
  | noParent _ hdeepens => exact hdeepens
  | noSource hdeepens _ => exact hdeepens
  | noDest _ _ => exact absurd rfl (hdest _)
  | unread _ _ _ => exact absurd rfl (hdest _)

lemma exists_stopped (h : (runCopies plan).on fs = (.error e, fs')) :
    ∃ k c fs₁, Stopped plan fs fs' e k c fs₁ := by
  obtain ⟨k, c, fs₁, hnext, hdone, hfailed⟩ := runCopies_eq_error_iff.1 h
  have hends := Copy.ends_of_run hfailed
  exact ⟨k, c, fs₁, hnext, hdone, hfailed, blamed_of_ends hends, spared_of_ends hends⟩

/-- **A failing retrieve or deployment stops at one copy**, whatever links there are. -/
theorem stops_at_one_copy (fs : FileSystem) (results : DiffResults)
    (entries : List ConflictEntry) :
    (∀ e fs', (retrieve results entries).on fs = (.error (.diff e), fs') →
      ∃ k c fs₁, Stopped (missingCopies results ++ acceptedCopies entries) fs fs' e k c fs₁) ∧
    ∀ e fs', (prepareDeploy entries).on fs = (.error (.diff e), fs') →
      ∃ k c fs₁, Stopped (acceptedCopies entries) fs fs' e k c fs₁ :=
  ⟨fun _ _ h => exists_stopped (runIfResolved_eq_diff_iff.1 h).2,
    fun _ _ h => exists_stopped (runIfResolved_eq_diff_iff.1 h).2⟩

/-- An empty directory `p`, and a directory `q` with a file `s`. -/
def single : FileSystem where
  top := .directory ⟨[112], by decide⟩ .nil
    (.directory ⟨[113], by decide⟩ (.file ⟨[115], by decide⟩ [49] .nil) .nil)
  distinct := by decide
  current := []

/-- What a comparison of `p` with `q` found when there was still a file `t/b` in `q`. -/
def outdated : DiffResults where
  different := ∅
  missingLocal := ((∅ : PathSet).insert ⟨[115]⟩).insert ⟨[116, 47, 98]⟩
  localRoot := ⟨[112]⟩
  remoteRoot := ⟨[113]⟩
  scannedLocal := 0
  scannedRemote := 2

/-- The file `s` is copied; for `t/b` the directory `p/t` is made, but there is no source. -/
theorem stops_at_one_copy_outdated :
    ((retrieve outdated []).on single).1 =
        .error (.diff (.read ⟨[113, 47, 116, 47, 98]⟩ .notFound)) ∧
      ∃ c fs₁, Stopped (missingCopies outdated ++ acceptedCopies []) single
          ((retrieve outdated []).on single).2 (.read ⟨[113, 47, 116, 47, 98]⟩ .notFound) 1 c fs₁ ∧
        fs₁.read ⟨[112, 47, 115]⟩ = .ok [49] := by
  refine ⟨rfl, ?_⟩
  obtain ⟨k, c, fs₁, hstopped⟩ := (stops_at_one_copy single outdated []).1 _ _ (Prod.ext rfl rfl)
  refine ⟨c, fs₁, ?_⟩
  match k, hstopped with
  | 0, h =>
    -- The copy of `s` does not fail on the tree as it was.
    obtain ⟨hnext, hdone, hfailed, -, -⟩ := h
    cases hnext
    cases hdone
    cases congrArg Prod.fst hfailed
  | 1, h =>
    have hcopied : ((runCopies ((missingCopies outdated ++ acceptedCopies []).take 1)).on
        single).2 = fs₁ := congrArg Prod.snd h.done
    refine ⟨h, ?_⟩
    rw [← hcopied]
    rfl
  | k + 2, h => cases h.next

end Retrieve
end Reconcile
