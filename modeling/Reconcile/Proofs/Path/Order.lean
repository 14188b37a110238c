import Mathlib.Data.List.Lex
import Reconcile.Path.Basic

/-!
# The order of paths

Paths are compared component by component: the root comes first, then `.`, `..` and the names, which
are compared byte by byte (`Component.Before`), and a path comes before those that go on behind it.
Keys are in this order (`Path.key_lt_key_iff`), so two paths with different components stand in it
one way or the other (`Path.precedes_total`).
-/

namespace Reconcile
namespace Component

/-- The place of the kinds of components in their order. -/
def rank : Component → Nat
  | .root => 0
  | .here => 1
  | .up => 2
  | .name _ => 3

/-- Does a component come before another one? -/
inductive Before : Component → Component → Prop where
  | rank {c d : Component} : c.rank < d.rank → Before c d
  | name {m n : Name} : m.bytes < n.bytes → Before (.name m) (.name n)

variable {c d : Component}

/-- The first byte of a key says what kind of component it is. -/
theorem key_lt_key_iff : c.key < d.key ↔ c.Before d := by
  have hbefore : c.Before d ↔
      c.rank < d.rank ∨ ∃ m n, c = .name m ∧ d = .name n ∧ m.bytes < n.bytes := by
    constructor
    · rintro (h | h)
      · exact Or.inl h
      · exact Or.inr ⟨_, _, rfl, rfl, h⟩
    · rintro (h | ⟨m, n, rfl, rfl, h⟩)
      · exact .rank h
      · exact .name h
  rw [hbefore]
  cases c <;> cases d <;> simp [key, rank, List.cons_lt_cons_iff]

/-- Lists of keys are compared as the components are. -/
theorem lex_key_iff (cs ds : List Component) :
    List.Lex (· < ·) (cs.map key) (ds.map key) ↔ List.Lex Before cs ds := by
  induction cs generalizing ds with
  | nil =>
    cases ds with
    | nil => simp
    | cons d ds => simp
  | cons c cs ih =>
    cases ds with
    | nil => simp
    | cons d ds =>
      have hkey : c.key = d.key ↔ c = d := ⟨key_injective, congrArg key⟩
      rw [List.map_cons, List.map_cons, List.cons_lex_cons_iff, List.cons_lex_cons_iff, ih,
        key_lt_key_iff, hkey]

end Component

namespace Path

/-- Does a path come before another one? -/
def Precedes (p q : Path) : Prop := List.Lex Component.Before p.components q.components

variable {p q r : Path}

/-- Keys are in the order of the components. -/
theorem key_lt_key_iff : p.key < q.key ↔ p.Precedes q :=
  Component.lex_key_iff p.components q.components

instance : Decidable (p.Precedes q) := decidable_of_iff _ key_lt_key_iff

lemma Precedes.irrefl : ¬ p.Precedes p := by
  rw [← key_lt_key_iff]
  exact TotalOrder.irrefl p.key

lemma Precedes.trans (h : p.Precedes q) (h' : q.Precedes r) : p.Precedes r := by
  rw [← key_lt_key_iff] at h h' ⊢
  exact TotalOrder.trans h h'

/-- Of two paths one comes before the other, unless they are spellings of the same one. -/
theorem precedes_total (p q : Path) :
    p.Precedes q ∨ p.components = q.components ∨ q.Precedes p := by
  rw [← key_lt_key_iff, ← key_lt_key_iff, ← key_eq_key_iff]
  by_cases hpq : p.key < q.key
  · exact Or.inl hpq
  by_cases hqp : q.key < p.key
  · exact Or.inr (Or.inr hqp)
  · exact Or.inr (Or.inl (TotalOrder.connected hpq hqp))

-- A slash ends a name, so `a/z` comes before `a-b` although the byte `-` is smaller.
example : (⟨[97, 47, 122]⟩ : Path).Precedes ⟨[97, 45, 98]⟩ := by decide

end Path
end Reconcile
