import Reconcile.Conflict.Json
import Reconcile.Diff.Json
import Reconcile.Proofs.Json.Composite
import Reconcile.Proofs.Json.Scalar
import Reconcile.Proofs.Sorted
import Reconcile.Registry.Json

/-!
# Results, conflicts and types are read back

Only a path can keep something from being written: one that is no text.  What is written is taken
for what was to be written (`Json.Writes`), and so results, conflicts and types are read back from
their texts (`Json.roundTrips`), in whatever order the paths of a set were written.
-/

namespace Reconcile

/-- Is the path a text? -/
def Path.IsText (p : Path) : Prop := ∃ s : String, p.bytes = Utf8.encode s

namespace Json

variable {α β γ : Type} {a : α} {b : β} {as : List α} {r : Reader α} {ps : List Path}
  {written : Except Problem β} {isText isText' : Prop} {good : β → Prop} {good' : γ → Prop}

/-- Writing succeeds exactly if what has to be a text is one; then what is written is good. -/
def Writes (written : Except Problem β) (isText : Prop) (good : β → Prop) : Prop :=
  isText ∧ (∃ b, written = .ok b ∧ good b) ∨ ¬ isText ∧ written = .error .pathNotText

namespace Writes

lemma pure (h : good b) : Writes (Pure.pure b) True good := .inl ⟨trivial, b, rfl, h⟩

/-- One part is written after the other, and the first one that is no text stops it. -/
lemma bind {write : β → Except Problem γ} (h : Writes written isText good)
    (h' : ∀ b, good b → Writes (write b) isText' good') :
    Writes (written >>= write) (isText ∧ isText') good' := by
  rcases h with ⟨htext, b, rfl, hb⟩ | ⟨htext, rfl⟩
  · rcases h' b hb with ⟨htext', hwritten⟩ | ⟨htext', hwritten⟩
    · exact .inl ⟨⟨htext, htext'⟩, hwritten⟩
    · exact .inr ⟨fun hand => htext' hand.2, hwritten⟩
  · exact .inr ⟨fun hand => htext hand.1, rfl⟩

lemma congr (h : Writes written isText good) (hiff : isText ↔ isText') :
    Writes written isText' good := by
  rwa [← propext hiff]

end Writes

/-! ## Paths and lists -/

lemma writes_path (p : Path) : Writes (path p) p.IsText fun cs => Takes Reader.path cs p := by
  cases hdecode : Utf8.decode? p.bytes with
  | some s =>
    have hbytes := Utf8.decode?_eq_some_iff.1 hdecode
    refine .inl ⟨⟨s, hbytes⟩, quote s, by rw [path, hdecode], ?_⟩
    have htakes := (takes_textAs "path string" s).map Path.ofString
    have hp : Path.ofString s = p := by rw [Path.ofString, ← hbytes]
    rwa [hp] at htakes
  | none =>
    refine .inr ⟨?_, by rw [path, hdecode]⟩
    rintro ⟨s, hs⟩
    rw [Utf8.decode?_eq_some_iff.2 hs] at hdecode
    cases hdecode

lemma writes_mapM {write : α → Except Problem (List Char)} {isText : α → Prop}
    (h : ∀ a, Writes (write a) (isText a) fun cs => Takes r cs a) (as : List α) :
    Writes (as.mapM write) (∀ a ∈ as, isText a) fun ws => List.Forall₂ (Takes r) ws as := by
  induction as with
  | nil => exact .inl ⟨by simp, [], rfl, .nil⟩
  | cons a as ih =>
    rw [List.mapM_cons]
    refine ((h a).bind fun w hw => ih.bind fun ws hws => .pure (.cons hw hws)).congr ?_
    rw [and_true, List.forall_mem_cons]

/-- A list of paths, in their order. -/
def pathList (ps : List Path) : Except Problem (List Char) := do
  pure (array (← ps.mapM path))

/-- A set of paths is taken from the list of its elements, in whatever order they were written. -/
lemma writes_pathList {s : PathSet} (h : ps.Perm s.toList) :
    Writes (pathList ps) (∀ p ∈ s.toList, p.IsText) fun cs => Takes Reader.paths cs s := by
  have hwrites : Writes (pathList ps) _ fun cs => Takes Reader.paths cs s :=
    (writes_mapM writes_path ps).bind fun ws hws => .pure <| by
      have htakes := takes_listInto hws SortedList.insert (∅ : PathSet)
      rwa [← SortedList.ofList, SortedList.ofList_eq_of_mem_iff fun _ => h.mem_iff] at htakes
  refine hwrites.congr ?_
  rw [and_true]
  exact forall_congr' fun p => by rw [h.mem_iff]

end Json

/-! ## Results -/

namespace DiffResults

open Json

/-- The paths in some results. -/
def paths (r : DiffResults) : List Path :=
  r.different.toList ++ r.missingLocal.toList ++ [r.localRoot, r.remoteRoot]

/-- The text of results, with the paths of the two sets in the orders that are given. -/
def toJsonInOrder (r : DiffResults) (different missingLocal : List Path) :
    Except Problem (List Char) := do
  pure (object [
    ("different", ← pathList different), ("missing_local", ← pathList missingLocal),
    ("local_root", ← path r.localRoot), ("remote_root", ← path r.remoteRoot),
    ("scanned_local", natural r.scannedLocal), ("scanned_remote", natural r.scannedRemote)])

variable {r : DiffResults} {different missingLocal : List Path}

lemma toJson_eq (r : DiffResults) :
    r.toJson = r.toJsonInOrder r.different.toList r.missingLocal.toList := rfl

lemma writes_toJsonInOrder (hlocal : r.scannedLocal ≤ Number.maxNatural)
    (hremote : r.scannedRemote ≤ Number.maxNatural) (hdifferent : different.Perm r.different.toList)
    (hmissing : missingLocal.Perm r.missingLocal.toList) :
    Writes (r.toJsonInOrder different missingLocal) (∀ p ∈ r.paths, p.IsText)
      fun cs => Takes form.reader cs r := by
  have hwrites : Writes (r.toJsonInOrder different missingLocal) _
      fun cs => Takes form.reader cs r :=
    (writes_pathList hdifferent).bind fun _ h1 => (writes_pathList hmissing).bind fun _ h2 =>
      (writes_path r.localRoot).bind fun _ h3 => (writes_path r.remoteRoot).bind fun _ h4 =>
        .pure <| by
          refine Form.Fills.takes (.cons rfl rfl (h1.map _) <| .cons rfl rfl (h2.map _) <|
            .cons rfl rfl (h3.map _) <| .cons rfl rfl (h4.map _) <|
            .cons rfl rfl ((takes_natural hlocal).map _) <|
            .cons rfl rfl ((takes_natural hremote).map _) <| .nil _) ?_ rfl
          simp [form]
  refine hwrites.congr ?_
  simp [paths, or_imp, forall_and]

end DiffResults

/-! ## Conflicts -/

lemma Disposition.takes_name (d : Disposition) :
    Json.Takes reader (Json.quote d.name) d where
  opens := ⟨'"', _, rfl, by decide⟩
  takes input _ := by
    have hname : ofName? d.name = some d := by cases d <;> decide
    have hread : ofName d.name input = .ok (d, input) := by rw [ofName, hname]; rfl
    rw [Json.quote, List.cons_append, reader,
      Json.Reader.bind_of_ok (Json.Reader.valueStart_behind (by decide) _ _)]
    rw [if_pos rfl, Json.Reader.bind_of_ok (Json.Reader.skip_behind (by decide) _ _),
      Json.Reader.bind_of_ok (Json.textRest_behind d.name input), hread]

namespace ConflictEntry

open Json

/-- The paths in a conflict. -/
def paths (e : ConflictEntry) : List Path := [e.relativePath, e.localRoot, e.remoteRoot]

lemma writes_toJson (e : ConflictEntry) :
    Writes e.toJson (∀ p ∈ e.paths, p.IsText) fun cs => Takes form.reader cs e := by
  have htype : Takes (Reader.option Reader.text) (optional quote e.typeName) e.typeName := by
    cases e.typeName with
    | none => exact takes_none
    | some s => exact takes_some_text s
  have hwrites : Writes e.toJson _ fun cs => Takes form.reader cs e :=
    (writes_path e.relativePath).bind fun _ h1 => (writes_path e.localRoot).bind fun _ h2 =>
      (writes_path e.remoteRoot).bind fun _ h3 => .pure <| by
        refine Form.Fills.takes (.cons rfl rfl (h1.map _) <|
          .cons rfl rfl ((takes_text e.fileName).map _) <| .cons rfl rfl (h2.map _) <|
          .cons rfl rfl (h3.map _) <| .cons rfl rfl (htype.map _) <|
          .cons rfl rfl (e.disposition.takes_name.map _) <| .nil _) ?_ rfl
        simp [form]
  refine hwrites.congr ?_
  simp [paths]

end ConflictEntry

/-! ## Types -/

namespace MetadataType

open Json

lemma takes_toJson (t : MetadataType) : Takes form.reader t.toJson t := by
  have hneeded : Form.Fills form form.start
      [("name", quote t.name), ("directoryName", quote t.directoryName),
        ("inFolder", boolean t.inFolder)]
      ⟨some t.name, some t.directoryName, some t.inFolder, none, none⟩ :=
    .cons rfl rfl ((takes_text t.name).map _) <|
      .cons rfl rfl ((takes_text t.directoryName).map _) <|
      .cons rfl rfl ((takes_boolean t.inFolder).map _) <| .nil _
  have hsuffix : Form.Fills form ⟨some t.name, some t.directoryName, some t.inFolder, none, none⟩
      (t.suffix.map fun s => ("suffix", quote s)).toList
      ⟨some t.name, some t.directoryName, some t.inFolder, t.suffix.map some, none⟩ := by
    cases t.suffix with
    | none => exact .nil _
    | some s => exact .cons rfl rfl ((takes_some_text s).map _) (.nil _)
  have hchildren : ∃ children, children.getD [] = t.childXmlNames ∧ Form.Fills form
      ⟨some t.name, some t.directoryName, some t.inFolder, t.suffix.map some, none⟩
      (if t.childXmlNames.isEmpty then []
        else [("childXmlNames", array (t.childXmlNames.map quote))])
      ⟨some t.name, some t.directoryName, some t.inFolder, t.suffix.map some, children⟩ := by
    by_cases hempty : t.childXmlNames.isEmpty = true
    · rw [if_pos hempty]
      exact ⟨none, by simpa using hempty.symm, .nil _⟩
    · rw [if_neg hempty]
      have htakes : Takes (Reader.list Reader.text) (array (t.childXmlNames.map quote))
          t.childXmlNames := by
        refine takes_array ?_
        rw [List.forall₂_map_left_iff]
        exact List.forall₂_same.2 fun s _ => takes_text s
      exact ⟨some t.childXmlNames, rfl, .cons rfl rfl (htakes.map _) (.nil _)⟩
  obtain ⟨children, hvalue, hchildren⟩ := hchildren
  have hjoin : (t.suffix.map some).join = t.suffix := by cases t.suffix <;> rfl
  refine ((hneeded.append hsuffix).append hchildren).takes (by simp [form]) ?_
  simp only [form, hvalue, hjoin]
  rfl

end MetadataType

/-! ## Reading back -/

namespace Json

/-- Writing fails exactly if one of some paths is no text, and what is written is read as `a`. -/
structure RoundTrip (written : Except Problem (List Char)) (paths : List Path)
    (read : Input → Except Problem α) (a : α) : Prop where
  error_iff : ∀ problem, written = .error problem ↔
    problem = .pathNotText ∧ ∃ p ∈ paths, ¬ p.IsText
  read : ∀ text, written = .ok text → read ⟨Utf8.encodeChars text, .complete⟩ = .ok a

lemma Writes.roundTrip {written : Except Problem (List Char)} {paths : List Path}
    (h : Writes written (∀ p ∈ paths, p.IsText) fun cs => Takes r cs a) :
    RoundTrip written paths r.run a := by
  rcases h with ⟨htext, cs, rfl, htakes⟩ | ⟨htext, rfl⟩
  · refine ⟨fun problem => ⟨nofun, ?_⟩, fun text h => ?_⟩
    · rintro ⟨-, p, hp, hpath⟩
      exact absurd (htext p hp) hpath
    · cases h
      exact htakes.run
  · refine ⟨fun problem => ⟨fun h => ?_, ?_⟩, nofun⟩
    · cases h
      exact ⟨rfl, by simpa using htext⟩
    · rintro ⟨rfl, -⟩
      rfl

/-- **What is written is read back.**  Results and conflicts fail to be written exactly if a path
in them is no text; a type is always written.  What is written is read as what it was, whatever
characters are in its texts, and in whatever orders the paths of the two sets were written.  Counts
fit into 64 bits. -/
theorem roundTrips :
    (∀ r : DiffResults, r.scannedLocal ≤ Number.maxNatural → r.scannedRemote ≤ Number.maxNatural →
      (∀ different missingLocal, different.Perm r.different.toList →
        missingLocal.Perm r.missingLocal.toList →
          RoundTrip (r.toJsonInOrder different missingLocal) r.paths DiffResults.ofJson r) ∧
        RoundTrip r.toJson r.paths DiffResults.ofJson r) ∧
      (∀ entries, RoundTrip (Conflict.toJson entries) (entries.flatMap ConflictEntry.paths)
        Conflict.ofJson entries) ∧
      ∀ t : MetadataType,
        MetadataType.form.reader.run ⟨Utf8.encodeChars t.toJson, .complete⟩ = .ok t := by
  refine ⟨fun r hlocal hremote => ⟨fun different missingLocal hdifferent hmissing => ?_, ?_⟩,
    fun entries => ?_, fun t => t.takes_toJson.run⟩
  · exact (DiffResults.writes_toJsonInOrder hlocal hremote hdifferent hmissing).roundTrip
  · rw [DiffResults.toJson_eq]
    exact (DiffResults.writes_toJsonInOrder hlocal hremote (.refl _) (.refl _)).roundTrip
  · have hwrites : Writes (Conflict.toJson entries) _ fun cs =>
        Takes (Reader.list ConflictEntry.form.reader) cs entries :=
      (writes_mapM ConflictEntry.writes_toJson entries).bind fun ws hws => .pure (takes_array hws)
    refine (hwrites.congr ?_).roundTrip
    simp only [and_true, List.mem_flatMap, forall_exists_index, and_imp]
    exact ⟨fun h p e he hp => h e he p hp, fun h e he p hp => h p e he hp⟩

/-- A quote, a backslash, a control character and a character beyond the first plane. -/
def oddText : String := String.ofList ['"', '\\', Char.ofNat 1, Char.ofNat 0x1F600]

/-- Results with two files that differ. -/
def oddResults : DiffResults where
  different := .ofList [.ofString "a", .ofString oddText]
  missingLocal := ∅
  localRoot := .ofString oddText
  remoteRoot := .ofString ""
  scannedLocal := 0
  scannedRemote := 2

/-- Their two files are read in order, although they were written in the opposite order. -/
theorem roundTrips_oddResults :
    ∃ text, oddResults.toJsonInOrder [.ofString "a", .ofString oddText] [] = .ok text ∧
      DiffResults.ofJson ⟨Utf8.encodeChars text, .complete⟩ = .ok oddResults := by
  have hread := (roundTrips.1 oddResults (by decide) (by decide)).1
    [.ofString "a", .ofString oddText] [] (by decide) (by decide)
  exact ⟨_, rfl, hread.read _ rfl⟩

end Json
end Reconcile
