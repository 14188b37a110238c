import Reconcile.Proofs.Registry.Spells

/-!
# Classification by offsets

Texts are cut at offsets that count bytes, and only between characters: `Utf8.cutAt?` gives nothing
behind the end of a text or inside of one of its characters (`Utf8.cutAt?_eq_some_iff`).
`Registry.classifyAt` classifies a file with such cuts alone.  Each of its offsets is the size of a
text that stands in front of the rest, so no cut ever fails (`Registry.classifyAt_eq`).
-/

namespace Reconcile
namespace Utf8

/-- The number of bytes of a text. -/
def size (cs : List Char) : Nat := (encodeChars cs).length

/-- The two parts of a text that is cut behind `offset` bytes. -/
def cutAt? : (offset : Nat) → List Char → Option (List Char × List Char)
  | 0, cs => some ([], cs)
  | _ + 1, [] => none
  | offset + 1, c :: cs =>
    if c.utf8Size ≤ offset + 1 then
      (cutAt? (offset + 1 - c.utf8Size) cs).map fun parts => (c :: parts.1, parts.2)
    else none

/-- A text without its last `count` bytes. -/
def dropEnd? (count : Nat) (cs : List Char) : Option (List Char) :=
  if count ≤ size cs then (cutAt? (size cs - count) cs).map Prod.fst else none

/-- The offset of the first character `c` in a text. -/
def offsetOf? (c : Char) : List Char → Option Nat
  | [] => none
  | d :: cs => if d = c then some 0 else (offsetOf? c cs).map (d.utf8Size + ·)

variable {c : Char} {cs front back : List Char} {offset : Nat}

@[simp] lemma size_nil : size [] = 0 := rfl

@[simp] lemma size_cons (c : Char) (cs : List Char) : size (c :: cs) = c.utf8Size + size cs := by
  simp [size]

@[simp] lemma size_append (front back : List Char) :
    size (front ++ back) = size front + size back := by
  simp [size]

lemma size_pos (h : cs ≠ []) : 0 < size cs := by
  obtain ⟨c, rest, rfl⟩ := List.exists_cons_of_ne_nil h
  rw [size_cons]
  have hc := c.utf8Size_pos
  omega

/-- A text is cut exactly where the bytes in front are those of its first characters. -/
theorem cutAt?_eq_some_iff :
    cutAt? offset cs = some (front, back) ↔ cs = front ++ back ∧ size front = offset := by
  fun_induction cutAt? offset cs generalizing front back with
  | case1 cs =>
    constructor
    · intro h
      cases h
      exact ⟨rfl, rfl⟩
    · rintro ⟨rfl, hfront⟩
      cases front with
      | nil => rfl
      | cons c front => exact absurd hfront (Nat.ne_of_gt (size_pos (List.cons_ne_nil c front)))
  | case2 offset =>
    simp only [reduceCtorEq, false_iff]
    rintro ⟨hnil, hfront⟩
    obtain ⟨rfl, -⟩ := List.append_eq_nil_iff.1 hnil.symm
    cases hfront
  | case3 offset c cs hfits ih =>
    have hc := c.utf8Size_pos
    rw [Option.map_eq_some_iff]
    constructor
    · rintro ⟨parts, hparts, hcut⟩
      cases hcut
      obtain ⟨rfl, hfront⟩ := ih.1 hparts
      exact ⟨rfl, by rw [size_cons]; omega⟩
    · rintro ⟨hcs, hfront⟩
      cases front with
      | nil => cases hfront
      | cons d front =>
        obtain ⟨rfl, rfl⟩ := List.cons.inj hcs
        rw [size_cons] at hfront
        exact ⟨(front, back), ih.2 ⟨rfl, by omega⟩, rfl⟩
  | case4 offset c cs htight =>
    -- The offset is inside of the first character.
    simp only [reduceCtorEq, false_iff]
    rintro ⟨hcs, hfront⟩
    cases front with
    | nil => cases hfront
    | cons d front =>
      obtain ⟨rfl, rfl⟩ := List.cons.inj hcs
      rw [size_cons] at hfront
      omega

example : cutAt? 1 ['é', 'a'] = none ∧ cutAt? 2 ['é', 'a'] = some (['é'], ['a']) := by decide

@[simp] lemma cutAt?_size (front back : List Char) :
    cutAt? (size front) (front ++ back) = some (front, back) :=
  cutAt?_eq_some_iff.2 ⟨rfl, rfl⟩

@[simp] lemma dropEnd?_size (front back : List Char) :
    dropEnd? (size back) (front ++ back) = some front := by
  rw [dropEnd?, if_pos (by simp), size_append, Nat.add_sub_cancel, cutAt?_size]
  rfl

lemma offsetOf?_of_notMem (h : c ∉ cs) : offsetOf? c cs = none := by
  induction cs with
  | nil => rfl
  | cons d cs ih =>
    have hd : d ≠ c := (List.ne_of_not_mem_cons h).symm
    rw [offsetOf?, if_neg hd, ih (List.not_mem_of_not_mem_cons h), Option.map_none]

/-- The first `c` stands behind the text in front of it. -/
lemma offsetOf?_append (h : c ∉ front) : offsetOf? c (front ++ c :: back) = some (size front) := by
  induction front with
  | nil => simp [offsetOf?]
  | cons d front ih =>
    have hd : d ≠ c := (List.ne_of_not_mem_cons h).symm
    rw [List.cons_append, offsetOf?, if_neg hd, ih (List.not_mem_of_not_mem_cons h), size_cons,
      Option.map_some]

end Utf8

namespace Registry

open Utf8 (size size_append size_pos cutAt? cutAt?_size dropEnd? dropEnd?_size offsetOf?
  offsetOf?_append offsetOf?_of_notMem)

/-- What stands in front of `-meta.xml` in an extension.  The outer `none` is a cut that fails. -/
def describedSuffixAt (extension : List Char) : Option (Option (List Char)) :=
  if size descriptorEnd < size extension ∧ descriptorEnd <:+ extension then
    (dropEnd? (size descriptorEnd) extension).map some
  else some none

/-- The part of a file, by cuts of its text `cs` and of its extension. -/
def roleAt (r : Registry) (fs : FileSystem) (cs extension : List Char) :
    Option (Except ClassifyError FileRole) :=
  match r.idForSuffix (String.ofList extension) with
  | some id =>
    let descriptor := pathOf (cs ++ descriptorEnd)
    if fs.existsAt descriptor then some (.ok ⟨id, descriptor, [pathOf cs]⟩)
    else some (.error (.missingDescriptor (pathOf cs) descriptor))
  | none => do
    match ← describedSuffixAt extension with
    | none => some (.error (.unsupportedType (pathOf cs)))
    | some suffix =>
      let contents ← dropEnd? (size descriptorEnd) cs
      match r.idForSuffix (String.ofList suffix) with
      | some id =>
        some (.ok ⟨id, pathOf cs, if fs.existsAt (pathOf contents) then [pathOf contents] else []⟩)
      | none => some (.error (.unsupportedType (pathOf cs)))

/-- The component of the file at a path, by cuts at the first dot of its name and in front of
`-meta.xml`.  The outer `none` is a cut that fails. -/
def classifyAt (r : Registry) (fs : FileSystem) (p : Path) :
    Option (Except ClassifyError MetadataComponent) :=
  match Utf8.decode? p.bytes with
  | none => some (.error (.malformedFileName p))
  | some text => do
    let segments := (text.toList.splitOn '/').reverse
    let file := segments.headD []
    let folder := (segments.drop 1).headD []
    if !fs.existsAt p then some (.error (.fileNotFound p))
    else
      match offsetOf? '.' file with
      | none => some (.error (.malformedFileName p))
      | some dot =>
        let (base, _) ← cutAt? dot file
        let (_, extension) ← cutAt? (dot + 1) file
        match ← r.roleAt fs text.toList extension with
        | .error e => some (.error e)
        | .ok role =>
          some ((r.typeById role.typeId).map fun type => component folder base type role)

variable {r : Registry} {fs : FileSystem} {cs extension : List Char}

lemma describedSuffixAt_eq (extension : List Char) :
    describedSuffixAt extension = some (describedSuffix? extension) := by
  rw [describedSuffixAt]
  split
  · rename_i h
    obtain ⟨hsize, suffix, rfl⟩ := h
    have hsuffix : suffix ≠ [] := by
      rintro rfl
      simp at hsize
    rw [dropEnd?_size, describedSuffix?_eq_some_iff.2 ⟨rfl, hsuffix⟩]
    rfl
  · rename_i h
    cases hdescribed : describedSuffix? extension with
    | none => rfl
    | some suffix =>
      obtain ⟨rfl, hsuffix⟩ := describedSuffix?_eq_some_iff.1 hdescribed
      have hsize := size_pos hsuffix
      exact absurd ⟨by rw [size_append]; omega, List.suffix_append _ _⟩ h

/-- The end of a descriptor is cut from the text as well as from the extension. -/
lemma roleAt_eq (h : extension <:+ cs) :
    r.roleAt fs cs extension = some (r.roleOf fs cs extension) := by
  rw [roleAt, roleOf]
  cases r.idForSuffix (String.ofList extension) with
  | some id =>
    dsimp only
    split <;> rfl
  | none =>
    simp only [describedSuffixAt_eq, Option.bind_eq_bind, Option.bind_some]
    cases hdescribed : describedSuffix? extension with
    | none => rfl
    | some suffix =>
      obtain ⟨rfl, -⟩ := describedSuffix?_eq_some_iff.1 hdescribed
      obtain ⟨front, rfl⟩ : descriptorEnd <:+ cs := List.IsSuffix.trans ⟨suffix, rfl⟩ h
      simp only [dropEnd?_size, Option.bind_some, List.length_append, Nat.add_sub_cancel,
        List.take_left]
      cases r.idForSuffix (String.ofList suffix) <;> rfl

/-- **Classification by cuts gives the same answer, and none of the cuts fails.** -/
theorem classifyAt_eq (r : Registry) (fs : FileSystem) (p : Path) :
    r.classifyAt fs p = some (r.classify fs p) := by
  by_cases htext : ∃ cs, p = pathOf cs
  · obtain ⟨cs, rfl⟩ := htext
    obtain ⟨folder, file, hfile⟩ := exists_endsIn '/' cs
    rw [classifyAt, decode?_pathOf]
    simp only [String.toList_ofList, hfile.headD_splitOn.1, hfile.headD_splitOn.2]
    cases hexists : fs.existsAt (pathOf cs) with
    | false => rw [classify_of_absent hexists]; rfl
    | true =>
      by_cases hdot : '.' ∈ file
      · obtain ⟨base, extension, rfl, hbase⟩ := List.eq_append_cons_of_mem hdot
        have hspells : Spells (pathOf cs) cs folder base extension := ⟨rfl, hfile, hbase⟩
        have hbehind : cutAt? (size base + 1) (base ++ '.' :: extension) =
            some (base ++ ['.'], extension) := by
          rw [Utf8.cutAt?_eq_some_iff, Utf8.size_append]
          exact ⟨by simp, rfl⟩
        rw [classify_of_spells hspells hexists, offsetOf?_append hbase]
        simp only [cutAt?_size, hbehind, Option.bind_eq_bind, Option.bind_some,
          roleAt_eq hspells.isSuffix]
        cases r.roleOf fs cs extension <;> rfl
      · rw [classify_of_undotted hexists hfile hdot, offsetOf?_of_notMem hdot]
        rfl
  · have hgarbled : ∀ cs, p ≠ pathOf cs := fun cs h => htext ⟨cs, h⟩
    rw [classifyAt, decode?_eq_none_iff.2 hgarbled, classify_of_garbled hgarbled]

end Registry
end Reconcile
