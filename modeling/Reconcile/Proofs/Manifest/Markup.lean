import Mathlib.Data.List.Basic
import Reconcile.Manifest.Package

/-!
# Markup of packages

Behind its declaration the text of a package consists of tags and of texts in front of them.  A
text is escaped, so it holds no bracket and is determined by what is written for it
(`Package.unescape_escape`).  A sequence of texts and tags can therefore be cut out of the
characters again (`Package.cut?_write`), and wherever a bracket opens there is a tag
(`Package.exists_tag_of_bracket`).
-/

namespace Reconcile
namespace Package

/-! ## Entities -/

/-- Puts the five characters back for which entities are written. -/
def unescape : List Char → List Char
  | '&' :: 'a' :: 'm' :: 'p' :: ';' :: rest => '&' :: unescape rest
  | '&' :: 'l' :: 't' :: ';' :: rest => '<' :: unescape rest
  | '&' :: 'g' :: 't' :: ';' :: rest => '>' :: unescape rest
  | '&' :: 'q' :: 'u' :: 'o' :: 't' :: ';' :: rest => '"' :: unescape rest
  | '&' :: 'a' :: 'p' :: 'o' :: 's' :: ';' :: rest => '\'' :: unescape rest
  | c :: rest => c :: unescape rest
  | [] => []

variable {c : Char} {s : String} {rest : List Char}

lemma unescape_cons (h : c ≠ '&') : unescape (c :: rest) = c :: unescape rest := by
  rw [unescape] <;> rintro _ rfl <;> exact absurd rfl h

lemma unescape_escapeChar (c : Char) (rest : List Char) :
    unescape (escapeChar c ++ rest) = c :: unescape rest := by
  by_cases hamp : c = '&'
  · subst hamp; rfl
  by_cases hlt : c = '<'
  · subst hlt; rfl
  by_cases hgt : c = '>'
  · subst hgt; rfl
  by_cases hquot : c = '"'
  · subst hquot; rfl
  by_cases hapos : c = '\''
  · subst hapos; rfl
  have hplain : escapeChar c = [c] := by simp [escapeChar, hamp, hlt, hgt, hquot, hapos]
  rw [hplain, List.singleton_append, unescape_cons hamp]

/-- A text is what its entities stand for. -/
theorem unescape_escape (s : String) : unescape (escape s) = s.toList := by
  rw [escape]
  induction s.toList with
  | nil => rfl
  | cons c cs ih => rw [List.flatMap_cons, unescape_escapeChar, ih]

lemma bracket_notMem_escapeChar : '<' ∉ escapeChar c ∧ '>' ∉ escapeChar c := by
  simp only [escapeChar]
  split_ifs <;> simp_all [eq_comm]

/-- A text that is written holds no bracket. -/
lemma bracket_notMem_escape : '<' ∉ escape s ∧ '>' ∉ escape s := by
  simp only [escape, List.mem_flatMap, not_exists, not_and]
  exact ⟨fun _ _ => bracket_notMem_escapeChar.1, fun _ _ => bracket_notMem_escapeChar.2⟩

/-! ## Tags -/

/-- An element of a package. -/
inductive Element where
  | package
  | types
  | members
  | name
  | version
deriving DecidableEq, Repr

/-- A tag that a package is written with. -/
inductive Tag where
  | declaration
  | opening (e : Element)
  | closing (e : Element)
deriving DecidableEq, Repr

namespace Element

/-- All elements. -/
def all : List Element := [package, types, members, name, version]

/-- The word for an element. -/
def word : Element → String
  | package => "Package"
  | types => "types"
  | members => "members"
  | name => "name"
  | version => "version"

end Element

namespace Tag

/-- What stands between the brackets of a tag. -/
def inner : Tag → List Char
  | declaration => "?xml version=\"1.0\" encoding=\"UTF-8\"?".toList
  | opening .package => "Package xmlns=\"http://soap.sforce.com/2006/04/metadata\"".toList
  | opening e => e.word.toList
  | closing e => '/' :: e.word.toList

/-- All tags. -/
def all : List Tag := declaration :: Element.all.map opening ++ Element.all.map closing

/-- The tag with the given characters between its brackets. -/
def ofInner? (cs : List Char) : Option Tag := all.find? fun tag => tag.inner = cs

lemma ofInner?_inner (tag : Tag) : ofInner? tag.inner = some tag := by
  rcases tag with _ | e | e
  · decide
  · cases e <;> decide
  · cases e <;> decide

lemma inner_opening {e : Element} (he : e ≠ .package) : (opening e).inner = e.word.toList := by
  cases e with
  | package => exact absurd rfl he
  | _ => rfl

lemma inner_closing (e : Element) : (closing e).inner = '/' :: e.word.toList := rfl

lemma bracket_notMem_inner (tag : Tag) : '<' ∉ tag.inner ∧ '>' ∉ tag.inner := by
  rcases tag with _ | e | e
  · decide
  · cases e <;> decide
  · cases e <;> decide

end Tag

/-! ## Texts and tags -/

/-- A tag and the text in front of it, as it is written. -/
structure Piece where
  text : List Char
  tag : Tag
deriving DecidableEq, Repr

namespace Piece

variable {p : Piece} {ps qs : List Piece} {cs ds before after : List Char}

/-- The piece in front of a closing bracket. -/
def ofStretch? (stretch : List Char) : Option Piece :=
  (Tag.ofInner? ((stretch.dropWhile (· ≠ '<')).drop 1)).map fun tag =>
    ⟨stretch.takeWhile (· ≠ '<'), tag⟩

/-- What is written in front of the closing bracket. -/
def stretch (p : Piece) : List Char := p.text ++ '<' :: p.tag.inner

/-- The characters of some pieces. -/
def write (ps : List Piece) : List Char := ps.flatMap fun p => p.stretch ++ ['>']

/-- The text in front of the tag holds no bracket. -/
def Plain (p : Piece) : Prop := '<' ∉ p.text ∧ '>' ∉ p.text

@[simp] lemma write_nil : write [] = [] := rfl

@[simp] lemma write_cons : write (p :: ps) = p.stretch ++ '>' :: write ps := by
  simp [write]

@[simp] lemma write_append : write (ps ++ qs) = write ps ++ write qs := List.flatMap_append

lemma ofStretch?_stretch (h : p.Plain) : ofStretch? p.stretch = some p := by
  have hne : ∀ c ∈ p.text, decide (c ≠ '<') = true := by
    intro c hc
    simp only [ne_eq, decide_eq_true_eq]
    rintro rfl
    exact h.1 hc
  have hdrop : p.stretch.dropWhile (· ≠ '<') = '<' :: p.tag.inner := by
    rw [stretch, List.dropWhile_append_of_pos hne]
    simp
  have htake : p.stretch.takeWhile (· ≠ '<') = p.text := by
    rw [stretch, List.takeWhile_append_of_pos hne]
    simp
  rw [ofStretch?, hdrop, htake, List.drop_one, List.tail_cons, Tag.ofInner?_inner]
  rfl

lemma closing_notMem_stretch (h : p.Plain) : '>' ∉ p.stretch := by
  simp [stretch, h.2, p.tag.bracket_notMem_inner.2]

/-- Characters that are cut behind every closing bracket. -/
lemma splitOn_write (h : ∀ p ∈ ps, p.Plain) (hcs : '>' ∉ cs) :
    (write ps ++ cs).splitOn '>' = ps.map stretch ++ [cs] := by
  induction ps with
  | nil => exact List.splitOn_eq_singleton hcs
  | cons p ps ih =>
    rw [write_cons, List.append_assoc, List.cons_append,
      List.splitOn_append_cons_self_of_not_mem (closing_notMem_stretch (h p List.mem_cons_self)),
      ih fun q hq => h q (List.mem_cons_of_mem p hq), List.map_cons, List.cons_append]

lemma mapM_ofStretch? (h : ∀ p ∈ ps, p.Plain) : (ps.map stretch).mapM ofStretch? = some ps := by
  induction ps with
  | nil => rfl
  | cons p ps ih =>
    rw [List.map_cons, List.mapM_cons, ofStretch?_stretch (h p List.mem_cons_self),
      ih fun q hq => h q (List.mem_cons_of_mem p hq)]
    rfl

end Piece

variable {p : Piece} {ps : List Piece} {cs before after : List Char}

/-- Cuts characters into texts and tags; what stands behind the last tag is dropped. -/
def cut? (cs : List Char) : Option (List Piece) :=
  (cs.splitOn '>').dropLast.mapM Piece.ofStretch?

/-- What was written is cut into the same texts and tags. -/
theorem cut?_write (h : ∀ p ∈ ps, p.Plain) (hcs : '>' ∉ cs) :
    cut? (Piece.write ps ++ cs) = some ps := by
  rw [cut?, Piece.splitOn_write h hcs, List.dropLast_concat, Piece.mapM_ofStretch? h]

/-- An element that is not in `l` stands behind all of `l`. -/
lemma eq_append_of_notMem {a : Char} {l rest : List Char} (ha : a ∉ l)
    (heq : l ++ rest = before ++ a :: after) :
    ∃ between, before = l ++ between ∧ rest = between ++ a :: after := by
  rcases List.append_eq_append_iff.1 heq with ⟨between, hbefore, hrest⟩ | ⟨between, hl, hrest⟩
  · exact ⟨between, hbefore, hrest⟩
  · cases between with
    | nil => exact ⟨[], by simpa using hl.symm, by simpa using hrest.symm⟩
    | cons b between =>
      obtain ⟨rfl, -⟩ := List.cons.inj hrest
      exact absurd (by simp [hl]) ha

/-- Wherever a bracket opens, a tag is written. -/
theorem exists_tag_of_bracket (h : ∀ p ∈ ps, p.Plain) (hcs : '<' ∉ cs)
    (heq : Piece.write ps ++ cs = before ++ '<' :: after) :
    ∃ tag rest, after = Tag.inner tag ++ '>' :: rest := by
  induction ps generalizing before with
  | nil =>
    rw [Piece.write_nil, List.nil_append] at heq
    exact absurd (by simp [heq]) hcs
  | cons p ps ih =>
    rw [Piece.write_cons, Piece.stretch, List.append_assoc, List.append_assoc, List.cons_append,
      List.cons_append] at heq
    obtain ⟨between, -, hbehind⟩ := eq_append_of_notMem (h p List.mem_cons_self).1 heq
    cases between with
    | nil => exact ⟨p.tag, _, (List.cons.inj hbehind).2.symm⟩
    | cons b between =>
      -- The bracket stands behind the tag of the first piece.
      obtain ⟨between, -, hbehind⟩ :=
        eq_append_of_notMem p.tag.bracket_notMem_inner.1 (List.cons.inj hbehind).2
      cases between with
      | nil => exact absurd (List.cons.inj hbehind).1 (by decide)
      | cons b between =>
        exact ih (fun q hq => h q (List.mem_cons_of_mem p hq)) (List.cons.inj hbehind).2

end Package
end Reconcile
