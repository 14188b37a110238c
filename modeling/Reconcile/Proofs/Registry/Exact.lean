import Reconcile.Proofs.Registry.Classify

/-!
# Classification is exact

What the component of a file says about the file system is true (`Fits`): its descriptor is there
and carries its name, its contents are there if they are listed, and the file that was asked about
is one of the two.  Together with the conditions under which there is a component, and with the
order of the errors, this settles classification for every registry, every file system and every
path (`classify_exact`).
-/

namespace Reconcile
namespace Registry

/-- The component of the file at `p` is called `base`, in the folder `folder`, by the suffix
`suffix`. -/
structure Fits (r : Registry) (fs : FileSystem) (p : Path) (c : MetadataComponent)
    (folder base suffix : List Char) : Prop where
  spells : ∃ cs extension, Spells p cs folder base extension
  descriptor_exists : fs.existsAt c.xmlPath = true
  /-- The descriptor is called `base.suffix-meta.xml`. -/
  descriptor_spells : ∃ cs, Spells c.xmlPath cs folder base (suffix ++ descriptorEnd)
  type : r.typeForSuffix (String.ofList suffix) = some c.type
  sources_length : c.sources.length ≤ 1
  /-- No contents are listed if there are none. -/
  sources_nil_iff : ∃ q, descriptorOf q = c.xmlPath ∧ (c.sources = [] ↔ fs.existsAt q = false)
  sources_exist : ∀ q ∈ c.sources, fs.existsAt q = true ∧ descriptorOf q = c.xmlPath
  given : p = c.xmlPath ∨ p ∈ c.sources
  /-- The base, without a dot, is the last segment of the full name. -/
  base_fullName : '.' ∉ base ∧ ∃ prior, EndsIn '/' c.fullName.toList prior base
  fullName : c.fullName = String.ofList
    (if c.type.inFolder = true ∧ folder ≠ [] then folder ++ '/' :: base else base)

/-- What classification comes to for the file at `p`. -/
structure Exact (r : Registry) (fs : FileSystem) (p : Path) : Prop where
  /-- No cut of a text is out of range or inside of a character. -/
  cuts : r.classifyAt fs p = some (r.classify fs p)
  /-- The extension identifies a type that is there.  One that is registered itself is that of
  contents, which have their descriptor beside them. -/
  ok_iff : (∃ c, r.classify fs p = .ok c) ↔ ∃ cs folder base extension suffix id,
    Spells p cs folder base extension ∧ fs.existsAt p = true ∧ Identifies r extension suffix id ∧
      (suffix = extension → fs.existsAt (descriptorOf p) = true) ∧
      (r.types.get? id).isSome = true
  /-- What the component says is true. -/
  fits : ∀ c, r.classify fs p = .ok c → ∃ folder base suffix, Fits r fs p c folder base suffix
  error_iff : ∀ e, r.classify fs p = .error e ↔ FirstObjection r fs p e

variable {r : Registry} {fs : FileSystem} {p : Path} {c : MetadataComponent}
  {cs folder base extension suffix : List Char} {id : String} {type : MetadataType}
  {role : FileRole}

lemma typeForSuffix_eq_some (hid : r.idForSuffix (String.ofList suffix) = some id)
    (htype : r.types.get? id = some type) :
    r.typeForSuffix (String.ofList suffix) = some type := by
  rw [typeForSuffix, hid, Option.bind_some, htype]

lemma component_fullName : (component folder base type role).fullName = String.ofList
    (if type.inFolder = true ∧ folder ≠ [] then folder ++ '/' :: base else base) := by
  simp [component]

/-- The base is the last segment of the full name, since neither it nor the folder has a slash. -/
lemma Spells.endsIn_fullName (h : Spells p cs folder base extension) (type : MetadataType)
    (role : FileRole) :
    ∃ prior, EndsIn '/' (component folder base type role).fullName.toList prior base := by
  have hbase : '/' ∉ base := fun hmem =>
    h.endsIn.sep_notMem_last (List.mem_append_left _ hmem)
  rw [component_fullName, String.toList_ofList]
  split
  · exact ⟨folder, .second h.endsIn.sep_notMem_prior hbase⟩
  · exact ⟨[], .single hbase⟩

lemma fits_of_accepted (h : Accepted r fs p c) :
    ∃ folder base suffix, Fits r fs p c folder base suffix := by
  cases h with
  | @contents cs folder base extension id type hspells hexists hid hdescriptor htype =>
    refine ⟨folder, base, extension, ?_⟩
    exact {
      spells := ⟨cs, extension, hspells⟩
      descriptor_exists := hdescriptor
      descriptor_spells := ⟨_, hspells.described⟩
      type := typeForSuffix_eq_some hid htype
      sources_length := le_rfl
      sources_nil_iff := ⟨p, rfl, by simp [component, hexists]⟩
      sources_exist := by simp [component, hexists]
      given := Or.inr List.mem_cons_self
      base_fullName := ⟨hspells.undotted, hspells.endsIn_fullName type _⟩
      fullName := component_fullName }
  | @descriptor cs folder base suffix id type q hspells hexists hnone hsuffix hid hq htype =>
    refine ⟨folder, base, suffix, ?_⟩
    exact {
      spells := ⟨cs, _, hspells⟩
      descriptor_exists := hexists
      descriptor_spells := ⟨cs, hspells⟩
      type := typeForSuffix_eq_some hid htype
      sources_length := by simp only [component]; split <;> simp
      sources_nil_iff := ⟨q, hq, by simp [component]⟩
      sources_exist := by cases hcontents : fs.existsAt q <;> simp [component, hcontents, hq]
      given := Or.inl rfl
      base_fullName := ⟨hspells.undotted, hspells.endsIn_fullName type _⟩
      fullName := component_fullName }

/-- **Classification is exact.**  It cuts texts between characters only.  A file has a component
exactly if its name identifies a type and the descriptor is there, and what the component says about
the two files is true.  Otherwise the first objection is the error. -/
theorem classify_exact (r : Registry) (fs : FileSystem) (p : Path) : Exact r fs p where
  cuts := classifyAt_eq r fs p
  ok_iff := by simp only [classify_eq_ok_iff, exists_accepted_iff]
  fits := fun _ h => fits_of_accepted (classify_eq_ok_iff.1 h)
  error_iff := fun _ => classify_eq_error_iff

end Registry
end Reconcile
