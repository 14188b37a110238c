import Mathlib.Tactic.Common
import Reconcile.FileSystem.Effect

/-!
# Outcomes of effects

What an effect does is known from the outcome of each part: a part that succeeds hands the file
system on to the next one, and the first that fails ends the whole.
-/

namespace Reconcile
namespace Effect

variable {ε ε' α β : Type} {e : Effect ε α} {f : α → Effect ε β} {fs fs' : FileSystem}

/-- An effect that ends somehow leaves some file system. -/
lemma exists_on {outcome : Except ε α} (h : (e.on fs).1 = outcome) :
    ∃ fs', e.on fs = (outcome, fs') :=
  ⟨(e.on fs).2, Prod.ext h rfl⟩

lemma on_bind_ok {a : α} (h : e.on fs = (.ok a, fs')) : (e >>= f).on fs = (f a).on fs' := by
  simp only [on, ExceptT.run_bind, StateT.run_bind] at h ⊢
  rw [h]
  rfl

lemma on_bind_error {err : ε} (h : e.on fs = (.error err, fs')) :
    (e >>= f).on fs = (.error err, fs') := by
  simp only [on, ExceptT.run_bind, StateT.run_bind] at h ⊢
  rw [h]
  rfl

lemma on_bind_eq_ok_iff {b : β} :
    (e >>= f).on fs = (.ok b, fs') ↔
      ∃ a fs₁, e.on fs = (.ok a, fs₁) ∧ (f a).on fs₁ = (.ok b, fs') := by
  rcases he : e.on fs with ⟨err | a, fs₁⟩
  · simp [on_bind_error he]
  · simp [on_bind_ok he]

lemma on_bind_eq_error_iff {err : ε} :
    (e >>= f).on fs = (.error err, fs') ↔
      e.on fs = (.error err, fs') ∨
        ∃ a fs₁, e.on fs = (.ok a, fs₁) ∧ (f a).on fs₁ = (.error err, fs') := by
  rcases he : e.on fs with ⟨err' | a, fs₁⟩
  · simp [on_bind_error he]
  · simp [on_bind_ok he]

lemma on_ask (question : FileSystem → Except ε α) (fs : FileSystem) :
    (ask question).on fs = (question fs, fs) := rfl

lemma on_attempt_ok {change : FileSystem → Except ε (α × FileSystem)} {a : α}
    (h : change fs = .ok (a, fs')) : (attempt change).on fs = (.ok a, fs') := by
  show attempt change fs = _
  rw [attempt, h]

lemma on_attempt_error {change : FileSystem → Except ε (α × FileSystem)} {err : ε}
    (h : change fs = .error err) : (attempt change).on fs = (.error err, fs) := by
  show attempt change fs = _
  rw [attempt, h]

lemma on_blame (describe : ε → ε') (e : Effect ε α) (fs : FileSystem) :
    (blame describe e).on fs = ((e.on fs).1.mapError describe, (e.on fs).2) := rfl

lemma on_blame_ok {describe : ε → ε'} {a : α} (h : e.on fs = (.ok a, fs')) :
    (blame describe e).on fs = (.ok a, fs') := by
  rw [on_blame, h]
  rfl

lemma on_blame_error {describe : ε → ε'} {err : ε} (h : e.on fs = (.error err, fs')) :
    (blame describe e).on fs = (.error (describe err), fs') := by
  rw [on_blame, h]
  rfl

lemma on_modify (change : FileSystem → FileSystem) (fs : FileSystem) :
    (modify change : Effect ε Unit).on fs = (.ok (), change fs) := rfl

lemma on_throw (err : ε) (fs : FileSystem) :
    (throw err : Effect ε α).on fs = (.error err, fs) := rfl

lemma on_pure (a : α) (fs : FileSystem) : (pure a : Effect ε α).on fs = (.ok a, fs) := rfl

end Effect
end Reconcile
