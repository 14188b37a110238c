import Mathlib.Data.Nat.Find
import Reconcile.Proofs.Registry.Cut

/-!
# Which files have a component

A file is accepted as the contents or as the descriptor of a component (`Accepted`), or something
about it is objected to (`Objection`).  Objections are ranked in the order in which they are looked
for, and the one of the lowest rank is the error.  If nothing is objected to, the file is accepted
(`accepted_of_unobjected`), so the two relations say what classification comes to, for every path
(`classify_eq_ok_iff`, `classify_eq_error_iff`).
-/

namespace Reconcile
namespace Registry

/-- The extension identifies a type by the suffix `suffix`: it is registered itself, or it is not
and is that of a descriptor for a registered suffix. -/
inductive Identifies (r : Registry) : (extension suffix : List Char) → (id : String) → Prop
  | own {extension : List Char} {id : String} :
      r.idForSuffix (String.ofList extension) = some id → Identifies r extension extension id
  | described {extension suffix : List Char} {id : String} :
      r.idForSuffix (String.ofList extension) = none → extension = suffix ++ descriptorEnd →
      suffix ≠ [] → r.idForSuffix (String.ofList suffix) = some id →
      Identifies r extension suffix id

/-- The file at `p` has the component. -/
inductive Accepted (r : Registry) (fs : FileSystem) (p : Path) : MetadataComponent → Prop
  /-- The file has the contents. -/
  | contents {cs folder base extension : List Char} {id : String} {type : MetadataType} :
      Spells p cs folder base extension → fs.existsAt p = true →
      r.idForSuffix (String.ofList extension) = some id → fs.existsAt (descriptorOf p) = true →
      r.types.get? id = some type →
      Accepted r fs p (component folder base type ⟨id, descriptorOf p, [p]⟩)
  /-- The file is the descriptor of `q`, which need not be there. -/
  | descriptor {cs folder base suffix : List Char} {id : String} {type : MetadataType} {q : Path} :
      Spells p cs folder base (suffix ++ descriptorEnd) → fs.existsAt p = true →
      r.idForSuffix (String.ofList (suffix ++ descriptorEnd)) = none → suffix ≠ [] →
      r.idForSuffix (String.ofList suffix) = some id → descriptorOf q = p →
      r.types.get? id = some type →
      Accepted r fs p (component folder base type ⟨id, p, if fs.existsAt q then [q] else []⟩)

/-- What may be objected to the file at `p`, and how late it is looked for. -/
inductive Objection (r : Registry) (fs : FileSystem) (p : Path) :
    (rank : Nat) → ClassifyError → Prop
  | garbled : (∀ cs, p ≠ pathOf cs) → Objection r fs p 0 (.malformedFileName p)
  | absent : fs.existsAt p = false → Objection r fs p 1 (.fileNotFound p)
  | undotted {cs folder file : List Char} :
      p = pathOf cs → EndsIn '/' cs folder file → '.' ∉ file →
      Objection r fs p 2 (.malformedFileName p)
  | undescribed {cs folder base extension : List Char} {id : String} :
      Spells p cs folder base extension → r.idForSuffix (String.ofList extension) = some id →
      fs.existsAt (descriptorOf p) = false →
      Objection r fs p 3 (.missingDescriptor p (descriptorOf p))
  | unsupported {cs folder base extension : List Char} :
      Spells p cs folder base extension → (∀ suffix id, ¬ Identifies r extension suffix id) →
      Objection r fs p 4 (.unsupportedType p)
  | untyped {cs folder base extension suffix : List Char} {id : String} :
      Spells p cs folder base extension → Identifies r extension suffix id →
      r.types.get? id = none → Objection r fs p 5 (.unknownType id)

/-- The error is that of an objection, and there is none that is looked for earlier. -/
def FirstObjection (r : Registry) (fs : FileSystem) (p : Path) (e : ClassifyError) : Prop :=
  ∃ rank, Objection r fs p rank e ∧ ∀ lower < rank, ∀ e', ¬ Objection r fs p lower e'

variable {r : Registry} {fs : FileSystem} {p : Path} {c : MetadataComponent} {e : ClassifyError}
  {cs folder base extension suffix : List Char} {id : String}

/-! ## The part of a file -/

lemma roleOf_contents (hid : r.idForSuffix (String.ofList extension) = some id)
    (hdescriptor : fs.existsAt (descriptorOf (pathOf cs)) = true) :
    r.roleOf fs cs extension = .ok ⟨id, descriptorOf (pathOf cs), [pathOf cs]⟩ := by
  rw [descriptorOf_pathOf] at *
  simp only [roleOf, hid, hdescriptor, if_true]

lemma roleOf_undescribed (hid : r.idForSuffix (String.ofList extension) = some id)
    (hdescriptor : fs.existsAt (descriptorOf (pathOf cs)) = false) :
    r.roleOf fs cs extension =
      .error (.missingDescriptor (pathOf cs) (descriptorOf (pathOf cs))) := by
  rw [descriptorOf_pathOf] at *
  simp only [roleOf, hid, hdescriptor, Bool.false_eq_true, if_false]

lemma roleOf_descriptor (hnone : r.idForSuffix (String.ofList (suffix ++ descriptorEnd)) = none)
    (hsuffix : suffix ≠ []) (hid : r.idForSuffix (String.ofList suffix) = some id) :
    r.roleOf fs (cs ++ descriptorEnd) (suffix ++ descriptorEnd) =
      .ok ⟨id, descriptorOf (pathOf cs), if fs.existsAt (pathOf cs) then [pathOf cs] else []⟩ := by
  rw [roleOf, hnone, describedSuffix?_eq_some_iff.2 ⟨rfl, hsuffix⟩, Option.bind_some, hid,
    List.length_append, Nat.add_sub_cancel, List.take_left, descriptorOf_pathOf]

lemma roleOf_unsupported (h : ∀ suffix id, ¬ Identifies r extension suffix id) :
    r.roleOf fs cs extension = .error (.unsupportedType (pathOf cs)) := by
  have hnone : r.idForSuffix (String.ofList extension) = none := by
    rw [Option.eq_none_iff_forall_ne_some]
    exact fun id hid => h extension id (.own hid)
  have hdescribed : ((describedSuffix? extension).bind
      fun suffix => r.idForSuffix (String.ofList suffix)) = none := by
    rw [Option.eq_none_iff_forall_ne_some]
    intro id hid
    obtain ⟨suffix, hsuffix, hid⟩ := Option.bind_eq_some_iff.1 hid
    obtain ⟨hextension, hne⟩ := describedSuffix?_eq_some_iff.1 hsuffix
    exact h suffix id (.described hnone hextension hne hid)
  rw [roleOf, hnone, hdescribed]

lemma typeById_eq_ok {type : MetadataType} (h : r.types.get? id = some type) :
    r.typeById id = .ok type := by
  rw [typeById, h]

lemma typeById_eq_error (h : r.types.get? id = none) :
    r.typeById id = .error (.unknownType id) := by
  rw [typeById, h]

/-! ## Accepted files -/

lemma classify_of_accepted (h : Accepted r fs p c) : r.classify fs p = .ok c := by
  cases h with
  | contents hspells hexists hid hdescriptor htype =>
    obtain rfl := hspells.text
    rw [classify_of_roleOf hspells hexists (roleOf_contents hid hdescriptor),
      typeById_eq_ok htype]
    rfl
  | descriptor hspells hexists hnone hsuffix hid hq htype =>
    obtain ⟨ds, rfl, hds, -⟩ := hspells.contents
    obtain rfl := descriptorOf_injective (hds.trans hq.symm)
    rw [classify_of_roleOf hspells hexists (roleOf_descriptor hnone hsuffix hid),
      typeById_eq_ok htype, hq]
    rfl

/-- Some component is that of the file if the extension identifies a type, and if the descriptor is
there in case the extension itself is registered. -/
theorem exists_accepted_iff :
    (∃ c, Accepted r fs p c) ↔ ∃ cs folder base extension suffix id,
      Spells p cs folder base extension ∧ fs.existsAt p = true ∧ Identifies r extension suffix id ∧
        (suffix = extension → fs.existsAt (descriptorOf p) = true) ∧
        (r.types.get? id).isSome = true := by
  constructor
  · rintro ⟨c, hc⟩
    cases hc with
    | contents hspells hexists hid hdescriptor htype =>
      exact ⟨_, _, _, _, _, _, hspells, hexists, .own hid, fun _ => hdescriptor,
        Option.isSome_of_eq_some htype⟩
    | descriptor hspells hexists hnone hsuffix hid hq htype =>
      exact ⟨_, _, _, _, _, _, hspells, hexists, .described hnone rfl hsuffix hid,
        fun h => absurd h.symm (append_descriptorEnd_ne _), Option.isSome_of_eq_some htype⟩
  · rintro ⟨cs, folder, base, extension, suffix, id, hspells, hexists, hidentifies, hdescriptor,
      htype⟩
    obtain ⟨type, htype⟩ := Option.isSome_iff_exists.1 htype
    cases hidentifies with
    | own hid => exact ⟨_, .contents hspells hexists hid (hdescriptor rfl) htype⟩
    | described hnone hextension hsuffix hid =>
      subst hextension
      obtain ⟨ds, -, hds, -⟩ := hspells.contents
      exact ⟨_, .descriptor hspells hexists hnone hsuffix hid hds htype⟩

/-! ## Objections -/

lemma classify_of_firstObjection (h : FirstObjection r fs p e) : r.classify fs p = .error e := by
  obtain ⟨rank, hobjection, hfirst⟩ := h
  have htext : 0 < rank → ∃ cs, p = pathOf cs := by
    intro hrank
    by_contra hnone
    exact hfirst 0 hrank _ (.garbled fun cs hcs => hnone ⟨cs, hcs⟩)
  have hexists : 1 < rank → fs.existsAt p = true := by
    intro hrank
    by_contra hnone
    exact hfirst 1 hrank _ (.absent (by simpa using hnone))
  cases hobjection with
  | garbled hgarbled => exact classify_of_garbled hgarbled
  | absent habsent =>
    obtain ⟨cs, rfl⟩ := htext (by omega)
    exact classify_of_absent habsent
  | undotted hcs hfile hdot =>
    obtain rfl := hcs
    exact classify_of_undotted (hexists (by omega)) hfile hdot
  | undescribed hspells hid hdescriptor =>
    obtain rfl := hspells.text
    rw [classify_of_spells hspells (hexists (by omega)), roleOf_undescribed hid hdescriptor]
    rfl
  | unsupported hspells hnone =>
    obtain rfl := hspells.text
    rw [classify_of_spells hspells (hexists (by omega)), roleOf_unsupported hnone]
    rfl
  | untyped hspells hidentifies htype =>
    cases hidentifies with
    | own hid =>
      have hdescriptor : fs.existsAt (descriptorOf p) = true := by
        by_contra hnone
        exact hfirst 3 (by omega) _ (.undescribed hspells hid (by simpa using hnone))
      obtain rfl := hspells.text
      rw [classify_of_roleOf hspells (hexists (by omega)) (roleOf_contents hid hdescriptor),
        typeById_eq_error htype]
      rfl
    | described hnone hextension hsuffix hid =>
      subst hextension
      obtain ⟨ds, rfl, -⟩ := hspells.contents
      rw [classify_of_roleOf hspells (hexists (by omega)) (roleOf_descriptor hnone hsuffix hid),
        typeById_eq_error htype]
      rfl

/-- A file to which nothing is objected has a component. -/
theorem accepted_of_unobjected (h : ∀ rank e, ¬ Objection r fs p rank e) :
    ∃ c, Accepted r fs p c := by
  obtain ⟨cs, hcs⟩ : ∃ cs, p = pathOf cs := by
    by_contra hnone
    exact h 0 _ (.garbled fun cs hcs => hnone ⟨cs, hcs⟩)
  have hexists : fs.existsAt p = true := by
    by_contra hnone
    exact h 1 _ (.absent (by simpa using hnone))
  obtain ⟨folder, base, extension, hspells⟩ := exists_spells hcs fun folder file hfile => by
    by_contra hdot
    exact h 2 _ (.undotted hcs hfile hdot)
  obtain ⟨suffix, id, hidentifies⟩ : ∃ suffix id, Identifies r extension suffix id := by
    by_contra hnone
    exact h 4 _ (.unsupported hspells fun suffix id hidentifies => hnone ⟨suffix, id, hidentifies⟩)
  have htype : (r.types.get? id).isSome = true := by
    by_contra hnone
    exact h 5 _ (.untyped hspells hidentifies (by simpa using hnone))
  refine exists_accepted_iff.2 ⟨cs, folder, base, extension, suffix, id, hspells, hexists,
    hidentifies, fun hsuffix => ?_, htype⟩
  by_contra hnone
  cases hidentifies with
  | own hid => exact h 3 _ (.undescribed hspells hid (by simpa using hnone))
  | described _ hextension =>
    rw [hsuffix] at hextension
    exact append_descriptorEnd_ne extension hextension.symm

lemma accepted_or_firstObjection (r : Registry) (fs : FileSystem) (p : Path) :
    (∃ c, Accepted r fs p c) ∨ ∃ e, FirstObjection r fs p e := by
  classical
  by_cases h : ∃ rank, ∃ e, Objection r fs p rank e
  · obtain ⟨e, hobjection⟩ := Nat.find_spec h
    refine Or.inr ⟨e, Nat.find h, hobjection, fun lower hlower e' hearlier => ?_⟩
    exact Nat.find_min h hlower ⟨e', hearlier⟩
  · exact Or.inl (accepted_of_unobjected fun rank e hobjection => h ⟨rank, e, hobjection⟩)

/-! ## What classification comes to -/

theorem classify_eq_ok_iff : r.classify fs p = .ok c ↔ Accepted r fs p c := by
  refine ⟨fun h => ?_, classify_of_accepted⟩
  rcases accepted_or_firstObjection r fs p with ⟨c', hc'⟩ | ⟨e, he⟩
  · rw [classify_of_accepted hc', Except.ok.injEq] at h
    rwa [← h]
  · rw [classify_of_firstObjection he] at h
    cases h

theorem classify_eq_error_iff : r.classify fs p = .error e ↔ FirstObjection r fs p e := by
  refine ⟨fun h => ?_, classify_of_firstObjection⟩
  rcases accepted_or_firstObjection r fs p with ⟨c, hc⟩ | ⟨e', he'⟩
  · rw [classify_of_accepted hc] at h
    cases h
  · rw [classify_of_firstObjection he', Except.error.injEq] at h
    rwa [← h]

end Registry
end Reconcile
