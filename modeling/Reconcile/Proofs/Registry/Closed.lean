import Reconcile.Proofs.Registry.Exact
import Reconcile.Proofs.Sorted
import Reconcile.Registry.Bundled

/-!
# Registries that are closed

Suffixes and directories lead to types by identifier, and a registry is `Closed` if each of these
identifiers has a type.  The check goes through all entries once and reports one that leads nowhere,
if there is one; which one it is may depend on the order (`validateIn`), but whether there is one
does not.  In a closed registry nothing that is looked up later lacks its type: every registered
suffix has one, which is that of the files with this suffix, and no file is ever refused because of
an unknown identifier (`validate_exact`).
-/

namespace Reconcile

lemma Table.get?_eq_some_iff {α : Type} {t : Table α} {key : String} {value : α} :
    t.get? key = some value ↔ (key, value) ∈ t.toList := by
  rw [Table.get?, Option.map_eq_some_iff]
  constructor
  · rintro ⟨e, hfind, rfl⟩
    obtain ⟨hmem, rfl⟩ := SortedList.find?_eq_some_iff.1 hfind
    exact hmem
  · intro hmem
    exact ⟨_, SortedList.find?_eq_some_iff.2 ⟨hmem, rfl⟩, rfl⟩

namespace Registry

/-- Suffixes and directories, each with the identifier that it leads to. -/
def references (r : Registry) : List (String × String) :=
  r.suffixes.toList ++ r.mixedContent.toList

/-- Checks the entries in the order in which they are given. -/
def validateIn (r : Registry) (entries : List (String × String)) : Except RegistryError Unit :=
  match entries.find? fun e => (r.types.get? e.2).isNone with
  | some (key, id) => .error (.danglingSuffix key id)
  | none => .ok ()

/-- Every identifier that a suffix or a directory leads to has a type. -/
structure Closed (r : Registry) : Prop where
  suffix : ∀ suffix id, r.suffixes.get? suffix = some id → ∃ type, r.types.get? id = some type
  directory : ∀ directory id, r.mixedContent.get? directory = some id →
    ∃ type, r.types.get? id = some type

/-- The error is about an entry that is there, and whose identifier has no type. -/
def Dangles (r : Registry) (e : RegistryError) : Prop :=
  ∃ key id, e = .danglingSuffix key id ∧
    (r.suffixes.get? key = some id ∨ r.mixedContent.get? key = some id) ∧ r.types.get? id = none

variable {r : Registry} {fs : FileSystem} {p : Path} {cs folder base extension suffix : List Char}
  {id : String} {entries : List (String × String)}

/-! ## The check -/

lemma mem_references {key : String} :
    (key, id) ∈ r.references ↔
      r.suffixes.get? key = some id ∨ r.mixedContent.get? key = some id := by
  rw [references, List.mem_append, Table.get?_eq_some_iff, Table.get?_eq_some_iff]

lemma closed_iff : r.Closed ↔ ∀ e ∈ r.references, ∃ type, r.types.get? e.2 = some type := by
  constructor
  · rintro h ⟨key, id⟩ he
    exact (mem_references.1 he).elim (h.suffix key id) (h.directory key id)
  · intro h
    exact ⟨fun suffix id hid => h (suffix, id) (mem_references.2 (Or.inl hid)),
      fun directory id hid => h (directory, id) (mem_references.2 (Or.inr hid))⟩

/-- The check succeeds for closed registries, in whatever order the entries are taken. -/
theorem validateIn_eq_ok_iff (hentries : entries.Perm r.references) :
    r.validateIn entries = .ok () ↔ r.Closed := by
  have hfind : r.validateIn entries = .ok () ↔
      entries.find? (fun e => (r.types.get? e.2).isNone) = none := by
    rw [validateIn]
    split
    · rename_i hfound
      simp only [hfound, reduceCtorEq]
    · rename_i hnone
      simp only [hnone]
  rw [hfind, List.find?_eq_none, closed_iff]
  simp only [hentries.mem_iff, Option.isNone_iff_eq_none, Option.ne_none_iff_exists']

/-- What the check reports is an entry without a type. -/
theorem dangles_of_validateIn (hentries : entries.Perm r.references) {e : RegistryError}
    (h : r.validateIn entries = .error e) : r.Dangles e := by
  rw [validateIn] at h
  split at h
  · rename_i key id hfind
    have hmem := hentries.mem_iff.1 (List.mem_of_find?_eq_some hfind)
    have hnone := List.find?_some hfind
    exact ⟨key, id, (Except.error.inj h).symm, mem_references.1 hmem, by simpa using hnone⟩
  · cases h

lemma validate_eq_ok_iff : r.validate = .ok () ↔ r.Closed :=
  validateIn_eq_ok_iff (List.Perm.refl r.references)

/-! ## Look-ups -/

lemma Identifies.idForSuffix (h : Identifies r extension suffix id) :
    r.idForSuffix (String.ofList suffix) = some id := by
  cases h with
  | own hid => exact hid
  | described _ _ _ hid => exact hid

namespace Closed

/-- A registered suffix has a type. -/
lemma isSome_typeForSuffix (h : r.Closed) (suffix : String) :
    (r.typeForSuffix suffix).isSome = (r.idForSuffix suffix).isSome := by
  rw [typeForSuffix]
  cases hid : r.idForSuffix suffix with
  | none => rfl
  | some id =>
    obtain ⟨type, htype⟩ := h.suffix suffix id hid
    rw [Option.bind_some, htype]
    rfl

lemma isSome_typeForDirectory (h : r.Closed) {directory : String}
    (hid : r.mixedContent.get? directory = some id) :
    (r.typeForDirectory directory).isSome = true := by
  obtain ⟨type, htype⟩ := h.directory directory id hid
  rw [typeForDirectory, hid, Option.bind_some, htype]
  rfl

/-- No file is refused because of an identifier without a type. -/
theorem classify_ne_unknownType (h : r.Closed) (fs : FileSystem) (p : Path) (id : String) :
    r.classify fs p ≠ .error (.unknownType id) := by
  intro herror
  obtain ⟨rank, hobjection, -⟩ := classify_eq_error_iff.1 herror
  cases hobjection with
  | untyped _ hidentifies hnone =>
    obtain ⟨type, htype⟩ := h.suffix _ id hidentifies.idForSuffix
    rw [hnone] at htype
    cases htype

/-- A file whose extension is registered, or is that of a descriptor for a registered suffix, is
given the type of this suffix. -/
theorem exists_classify (h : r.Closed) (hspells : Spells p cs folder base extension)
    (hidentifies : Identifies r extension suffix id) (hexists : fs.existsAt p = true)
    (hdescriptor : suffix = extension → fs.existsAt (descriptorOf p) = true) :
    ∃ c, r.classify fs p = .ok c ∧ r.typeForSuffix (String.ofList suffix) = some c.type := by
  have hid := hidentifies.idForSuffix
  obtain ⟨type, htype⟩ := h.suffix _ id hid
  have htypeFor := typeForSuffix_eq_some hid htype
  cases hidentifies with
  | own =>
    have haccepted := Accepted.contents hspells hexists hid (hdescriptor rfl) htype
    exact ⟨_, classify_eq_ok_iff.2 haccepted, htypeFor⟩
  | described hnone hextension hsuffix =>
    subst hextension
    obtain ⟨ds, -, hds, -⟩ := hspells.contents
    have haccepted := Accepted.descriptor hspells hexists hnone hsuffix hid hds htype
    exact ⟨_, classify_eq_ok_iff.2 haccepted, htypeFor⟩

end Closed

/-! ## What the check is worth -/

/-- What the check says about a registry and all that is looked up in it. -/
structure Checked (r : Registry) : Prop where
  ok_iff : r.validate = .ok () ↔ r.Closed
  error : ∀ e, r.validate = .error e → r.Dangles e
  /-- Another order may change which entry is reported, but nothing else. -/
  any_order : ∀ entries, entries.Perm r.references →
    (r.validateIn entries = .ok () ↔ r.validate = .ok ()) ∧
      ∀ e, r.validateIn entries = .error e → r.Dangles e
  known : r.validate = .ok () → ∀ fs p id, r.classify fs p ≠ .error (.unknownType id)
  suffix : r.validate = .ok () → ∀ suffix,
    (r.typeForSuffix suffix).isSome = (r.idForSuffix suffix).isSome
  /-- The file is there, and so is its descriptor if the suffix is all of its extension. -/
  file : r.validate = .ok () → ∀ fs p cs folder base extension suffix id,
    Spells p cs folder base extension → Identifies r extension suffix id →
    fs.existsAt p = true → (suffix = extension → fs.existsAt (descriptorOf p) = true) →
    ∃ c, r.classify fs p = .ok c ∧ r.typeForSuffix (String.ofList suffix) = some c.type
  directory : r.validate = .ok () → ∀ directory id,
    r.mixedContent.get? directory = some id → (r.typeForDirectory directory).isSome = true

/-- **A registry that passes its check is closed.**  The check finds any suffix and any directory
without a type, and if there is none, every later look-up finds the type that it needs. -/
theorem validate_exact (r : Registry) : Checked r where
  ok_iff := validate_eq_ok_iff
  error := fun _ => dangles_of_validateIn (List.Perm.refl r.references)
  any_order := fun _ hentries =>
    ⟨(validateIn_eq_ok_iff hentries).trans validate_eq_ok_iff.symm,
      fun _ => dangles_of_validateIn hentries⟩
  known := fun h => (validate_eq_ok_iff.1 h).classify_ne_unknownType
  suffix := fun h => (validate_eq_ok_iff.1 h).isSome_typeForSuffix
  file := fun h _ _ _ _ _ _ _ _ hspells hidentifies hexists hdescriptor =>
    (validate_eq_ok_iff.1 h).exists_classify hspells hidentifies hexists hdescriptor
  directory := fun h _ _ hid => (validate_eq_ok_iff.1 h).isSome_typeForDirectory hid

-- The registry that is used unless another one is loaded passes.
example : bundled.validate = .ok () := by decide

end Registry
end Reconcile
