import Mathlib.Data.List.TakeWhile
import Reconcile.Proofs.Path.Names
import Reconcile.Proofs.Text.Utf8
import Reconcile.Registry.Classify

/-!
# The names of contents and descriptors

`Spells` takes the text of a path apart: the folder, the name up to its first dot, and the
extension behind it.  A file with contents and its descriptor have all but the extension in common,
and either extension determines the other (`Spells.described`, `Spells.contents`).  Classification
goes by these parts: the extension decides the part of the file, the rest is its name
(`classify_of_spells`).
-/

namespace Reconcile
namespace Registry

/-- The descriptor that belongs to a file with contents. -/
def descriptorOf (p : Path) : Path := ⟨p.bytes ++ Utf8.encodeChars descriptorEnd⟩

/-- The path has the text `cs`, and behind the last slash of it stands a name whose first dot is in
front of the extension.  `folder` is the stretch in front of that slash. -/
structure Spells (p : Path) (cs folder base extension : List Char) : Prop where
  text : p = pathOf cs
  endsIn : EndsIn '/' cs folder (base ++ '.' :: extension)
  undotted : '.' ∉ base

variable {p q : Path} {cs ds folder base extension suffix : List Char}

/-! ## Texts of paths -/

lemma pathOf_injective (h : pathOf cs = pathOf ds) : cs = ds := by
  have hbytes : Utf8.encodeChars cs = Utf8.encodeChars ds := congrArg Path.bytes h
  have hdecoded := congrArg Utf8.decode? hbytes
  rw [Utf8.decode?_encodeChars, Utf8.decode?_encodeChars, Option.some.injEq] at hdecoded
  simpa using congrArg String.toList hdecoded

lemma decode?_pathOf (cs : List Char) :
    Utf8.decode? (pathOf cs).bytes = some (String.ofList cs) :=
  Utf8.decode?_encodeChars cs

/-- A path is a text unless there is no text to decode. -/
lemma decode?_eq_none_iff : Utf8.decode? p.bytes = none ↔ ∀ cs, p ≠ pathOf cs := by
  constructor
  · rintro hnone cs rfl
    rw [decode?_pathOf] at hnone
    cases hnone
  · intro hnone
    cases hdecoded : Utf8.decode? p.bytes with
    | none => rfl
    | some text =>
      rw [Utf8.decode?_eq_some_iff, Utf8.encode] at hdecoded
      exact absurd (Path.eq_of_bytes hdecoded) (hnone text.toList)

lemma descriptorOf_pathOf (cs : List Char) :
    descriptorOf (pathOf cs) = pathOf (cs ++ descriptorEnd) := by
  simp [descriptorOf, pathOf]

lemma descriptorOf_injective (h : descriptorOf p = descriptorOf q) : p = q :=
  Path.eq_of_bytes (List.append_cancel_right (congrArg Path.bytes h))

lemma descriptorOf_ne (p : Path) : descriptorOf p ≠ p := by
  intro h
  have hend : Utf8.encodeChars descriptorEnd = [] :=
    List.append_right_eq_self.1 (congrArg Path.bytes h)
  exact absurd hend (by decide)

lemma append_descriptorEnd_ne (cs : List Char) : cs ++ descriptorEnd ≠ cs := by
  intro h
  exact absurd (List.append_right_eq_self.1 h) (by decide)

/-- No slash is in the end of the name of a descriptor. -/
lemma slash_notMem_descriptorEnd : '/' ∉ descriptorEnd := by decide

/-- What is in front of the end of a descriptor in an extension, if it is not empty. -/
lemma describedSuffix?_eq_some_iff :
    describedSuffix? extension = some suffix ↔
      extension = suffix ++ descriptorEnd ∧ suffix ≠ [] := by
  rw [describedSuffix?]
  split
  · rename_i h
    simp only [Bool.and_eq_true, decide_eq_true_eq, List.isSuffixOf_iff_suffix] at h
    obtain ⟨hlength, front, rfl⟩ := h
    have hfront : front ≠ [] := by
      rintro rfl
      simp at hlength
    simp only [List.length_append, Nat.add_sub_cancel, List.take_left, Option.some.injEq,
      List.append_cancel_right_eq]
    constructor
    · rintro rfl
      exact ⟨rfl, hfront⟩
    · exact fun h => h.1
  · rename_i h
    simp only [reduceCtorEq, false_iff]
    rintro ⟨rfl, hsuffix⟩
    have hlength := List.length_pos_of_ne_nil hsuffix
    simp [hlength] at h

/-! ## Names -/

namespace Spells

/-- The extension is the end of the text. -/
lemma isSuffix (h : Spells p cs folder base extension) : extension <:+ cs :=
  List.IsSuffix.trans ⟨base ++ ['.'], by simp⟩ h.endsIn.isSuffix

/-- The descriptor has the longer extension. -/
theorem described (h : Spells p cs folder base extension) :
    Spells (descriptorOf p) (cs ++ descriptorEnd) folder base (extension ++ descriptorEnd) where
  text := by rw [h.text, descriptorOf_pathOf]
  endsIn := by simpa using h.endsIn.append slash_notMem_descriptorEnd
  undotted := h.undotted

/-- The file with the contents has the extension without the end of its descriptor. -/
theorem contents (h : Spells p cs folder base (suffix ++ descriptorEnd)) :
    ∃ ds, cs = ds ++ descriptorEnd ∧ descriptorOf (pathOf ds) = p ∧
      Spells (pathOf ds) ds folder base suffix := by
  obtain ⟨ds, rfl⟩ : descriptorEnd <:+ cs := List.IsSuffix.trans ⟨suffix, rfl⟩ h.isSuffix
  obtain ⟨folder', file, hfile⟩ := exists_endsIn '/' ds
  obtain ⟨rfl, hlast⟩ := h.endsIn.unique (hfile.append slash_notMem_descriptorEnd)
  have hcut : base ++ '.' :: suffix = file := by
    have hfile : (base ++ '.' :: suffix) ++ descriptorEnd = file ++ descriptorEnd := by
      simpa using hlast
    exact List.append_cancel_right hfile
  refine ⟨ds, rfl, ?_, rfl, ?_, h.undotted⟩
  · rw [h.text, descriptorOf_pathOf]
  · rw [hcut]
    exact hfile

end Spells

/-- A path with a dot behind its last slash can be taken apart. -/
lemma exists_spells (htext : p = pathOf cs)
    (hdotted : ∀ folder file, EndsIn '/' cs folder file → '.' ∈ file) :
    ∃ folder base extension, Spells p cs folder base extension := by
  obtain ⟨folder, file, hfile⟩ := exists_endsIn '/' cs
  obtain ⟨base, extension, rfl, hbase⟩ := List.eq_append_cons_of_mem (hdotted folder file hfile)
  exact ⟨folder, base, extension, htext, hfile, hbase⟩

/-! ## Classification by names -/

/-- The component of a file with a name, a type and a part. -/
def component (folder base : List Char) (type : MetadataType) (role : FileRole) :
    MetadataComponent where
  fullName := String.ofList
    (if type.inFolder && folder ≠ [] then folder ++ '/' :: base else base)
  type := type
  xmlPath := role.xmlPath
  sources := role.sources

variable {r : Registry} {fs : FileSystem} {file : List Char}

lemma classify_of_garbled (h : ∀ cs, p ≠ pathOf cs) :
    r.classify fs p = .error (.malformedFileName p) := by
  rw [classify, decode?_eq_none_iff.2 h]

/-- The steps of classification, for a text that is taken apart. -/
lemma classify_pathOf (hfile : EndsIn '/' cs folder file) :
    r.classify fs (pathOf cs) =
      if !fs.existsAt (pathOf cs) then .error (.fileNotFound (pathOf cs))
      else
        match file.dropWhile (· ≠ '.') with
        | [] => .error (.malformedFileName (pathOf cs))
        | _ :: extension =>
          (r.roleOf fs cs extension).bind fun role => (r.typeById role.typeId).map fun type =>
            component folder (file.takeWhile (· ≠ '.')) type role := by
  rw [classify, decode?_pathOf]
  simp only [String.toList_ofList, hfile.headD_splitOn.1, hfile.headD_splitOn.2]
  cases file.dropWhile (· ≠ '.') with
  | nil => rfl
  | cons dot extension =>
    dsimp only
    cases r.roleOf fs cs extension with
    | error e => rfl
    | ok role =>
      dsimp only [Except.bind]
      cases r.typeById role.typeId <;> rfl

lemma classify_of_absent (h : fs.existsAt (pathOf cs) = false) :
    r.classify fs (pathOf cs) = .error (.fileNotFound (pathOf cs)) := by
  obtain ⟨folder, file, hfile⟩ := exists_endsIn '/' cs
  rw [classify_pathOf hfile, h]
  rfl

lemma classify_of_undotted (hexists : fs.existsAt (pathOf cs) = true)
    (hfile : EndsIn '/' cs folder file) (h : '.' ∉ file) :
    r.classify fs (pathOf cs) = .error (.malformedFileName (pathOf cs)) := by
  have hnone : file.dropWhile (· ≠ '.') = [] := by
    rw [List.dropWhile_eq_nil_iff]
    grind
  rw [classify_pathOf hfile, hexists, hnone]
  rfl

/-- The part of a file is a matter of its extension, and its name is the same for its descriptor. -/
theorem classify_of_spells (h : Spells p cs folder base extension)
    (hexists : fs.existsAt p = true) :
    r.classify fs p = (r.roleOf fs cs extension).bind fun role =>
      (r.typeById role.typeId).map fun type => component folder base type role := by
  have hbase : ∀ c ∈ base, decide (c ≠ '.') = true := by
    grind [h.undotted]
  have hextension : (base ++ '.' :: extension).dropWhile (· ≠ '.') = '.' :: extension := by
    rw [List.dropWhile_append_of_pos hbase]
    rfl
  have hname : (base ++ '.' :: extension).takeWhile (· ≠ '.') = base := by
    rw [List.takeWhile_append_of_pos hbase]
    simp
  obtain rfl := h.text
  rw [classify_pathOf h.endsIn, hexists, hextension, hname]
  rfl

/-- Once the part of a file is known, there is only its type to be found. -/
lemma classify_of_roleOf {role : FileRole} (h : Spells p cs folder base extension)
    (hexists : fs.existsAt p = true) (hrole : r.roleOf fs cs extension = .ok role) :
    r.classify fs p = (r.typeById role.typeId).map fun type => component folder base type role := by
  rw [classify_of_spells h hexists, hrole]
  rfl

end Registry
end Reconcile
