import Mathlib.Data.Set.List
import Reconcile.Proofs.FileSystem.Respelled
import Reconcile.Proofs.Registry.Classify

/-!
# Classification below two spellings of one directory

Whether a path is a text can be told from its components (`Registry.exists_text_iff`), and so can
all that decides on the type of a file and on the base of its name.  Its folder cannot: it is the
stretch of the text between the last two slashes (`Path.lastPiece`), which is the name of the
directory unless the path of the directory ends in a blank piece.  So a file in a directory that is
spelled in two ways has components which may differ in their folders only
(`Registry.classify_child`).
-/

namespace Reconcile

/-! ## Stretches of a text and of its bytes -/

namespace Utf8

variable {c : Char} {cs ds : List Char}

lemma slash_notMem_encodeChar (hc : c ≠ '/') : slash ∉ String.utf8EncodeChar c := by
  intro hmem
  have hslash : slash.toNat = 47 ∧ '/'.toNat = 47 := by decide
  rcases toNat_of_mem_encodeChar hmem with hnat | hnat
  · exact hc (Char.toNat_inj.1 (by omega))
  · omega

/-- A text is cut at its slashes where its bytes are. -/
theorem splitOn_encodeChars (cs : List Char) :
    (encodeChars cs).splitOn slash = (cs.splitOn '/').map encodeChars := by
  induction cs with
  | nil => rfl
  | cons c cs ih =>
    rw [encodeChars_cons]
    by_cases hc : c = '/'
    · have hbytes : String.utf8EncodeChar c = [slash] := by
        rw [hc]
        decide
      rw [hbytes, List.singleton_append, hc, splitOn_cons_self, splitOn_cons_self,
        List.map_cons, ih]
      rfl
    · obtain ⟨piece, pieces, hsplit⟩ := List.exists_cons_of_ne_nil (List.splitOn_ne_nil '/' cs)
      rw [splitOn_append_of_notMem (slash_notMem_encodeChar hc), ih,
        List.splitOn_cons_eq_if_modifyHead, if_neg (by simpa using hc), hsplit]
      rfl

lemma encodeChars_intercalate (pieces : List (List Char)) :
    encodeChars (['/'].intercalate pieces) = [slash].intercalate (pieces.map encodeChars) := by
  have hslash : encodeChars ['/'] = [slash] := by decide
  have hflat : ∀ pieces : List (List Char), encodeChars (pieces.flatMap ('/' :: ·)) =
      (pieces.map encodeChars).flatMap (slash :: ·) := by
    intro pieces
    induction pieces with
    | nil => rfl
    | cons piece rest ih =>
      rw [List.flatMap_cons, encodeChars_append, ih, ← List.singleton_append, encodeChars_append,
        hslash]
      rfl
  cases pieces with
  | nil => rfl
  | cons piece rest =>
    rw [intercalate_cons, encodeChars_append, hflat, List.map_cons,
      intercalate_cons]

/-- Bytes are a text if the stretches between their slashes are. -/
lemma exists_encodeChars_iff {bytes : Bytes} :
    (∃ cs, bytes = encodeChars cs) ↔
      ∀ piece ∈ bytes.splitOn slash, ∃ cs, piece = encodeChars cs := by
  constructor
  · rintro ⟨cs, rfl⟩ piece hpiece
    rw [splitOn_encodeChars, List.mem_map] at hpiece
    obtain ⟨cs', -, rfl⟩ := hpiece
    exact ⟨cs', rfl⟩
  · intro h
    have hrange : bytes.splitOn slash ∈ Set.range (List.map encodeChars) := by
      rw [Set.range_list_map]
      intro piece hpiece
      obtain ⟨cs, hcs⟩ := h piece hpiece
      exact ⟨cs, hcs.symm⟩
    obtain ⟨pieces, hpieces⟩ := hrange
    refine ⟨['/'].intercalate pieces, ?_⟩
    rw [encodeChars_intercalate, hpieces, List.intercalate_splitOn]

/-- The last stretches of a text are those of its bytes. -/
lemma endsIn_encodeChars {prior last : List Char} (h : EndsIn '/' cs prior last) :
    ((encodeChars cs).splitOn slash).reverse.headD [] = encodeChars last ∧
      (((encodeChars cs).splitOn slash).reverse.drop 1).headD [] = encodeChars prior := by
  have hheadD : ∀ pieces : List (List Char),
      (pieces.map encodeChars).headD [] = encodeChars (pieces.headD []) := by
    intro pieces
    cases pieces <;> rfl
  obtain ⟨hlast, hprior⟩ := h.headD_splitOn
  rw [splitOn_encodeChars, ← List.map_reverse, ← List.map_drop, hheadD, hheadD, hlast, hprior]
  exact ⟨rfl, rfl⟩

end Utf8

namespace Path

/-- What stands in front of the name of an entry, behind the slash before. -/
def lastPiece (p : Path) : Bytes := ((p.stem.splitOn slash).reverse.drop 1).headD []

lemma lastPieces_child (p : Path) (n : Name) :
    ((p.child n).bytes.splitOn slash).reverse.headD [] = n.bytes ∧
      (((p.child n).bytes.splitOn slash).reverse.drop 1).headD [] = p.lastPiece := by
  have hn : n.bytes.splitOn slash = [n.bytes] := List.splitOn_eq_singleton n.proper.2.1
  have hstem : p.stem = [] ∨ ∃ t, p.stem = t ++ [slash] := by
    rw [stem]
    split
    · rename_i hend
      rcases Bool.or_eq_true_iff.1 hend with hnil | hslash
      · exact Or.inl (of_decide_eq_true hnil)
      · exact Or.inr ⟨_, (List.getLast?_eq_some_iff.1 (of_decide_eq_true hslash)).choose_spec⟩
    · exact Or.inr ⟨p.bytes, rfl⟩
  rw [child_bytes, lastPiece]
  rcases hstem with hstem | ⟨t, hstem⟩
  · rw [hstem, List.nil_append, hn]
    exact ⟨rfl, rfl⟩
  · rw [hstem, List.append_assoc, List.singleton_append, List.splitOn_append_cons_self,
      List.splitOn_append_cons_self, hn]
    simp

/-- In front of what is in a directory stands the name of the directory, if that is an entry. -/
lemma lastPiece_child (p : Path) (n : Name) : (p.child n).lastPiece = n.bytes := by
  have hstem : (p.child n).stem = (p.child n).bytes ++ [slash] :=
    stem_of_not_endsInSlash (child_ne_nil p n) (endsInSlash_child p n)
  rw [lastPiece, hstem, List.splitOn_append_cons_self, ← (lastPieces_child p n).1]
  simp

end Path

/-! ## Names of descriptors -/

/-- The name of the descriptor of a file. -/
def Name.described (n : Name) : Name where
  bytes := n.bytes ++ Utf8.encodeChars Registry.descriptorEnd
  proper := by
    have hend : slash ∉ Utf8.encodeChars Registry.descriptorEnd := by decide
    have hlength : 2 < (Utf8.encodeChars Registry.descriptorEnd).length := by decide
    refine ⟨?_, ?_, ?_, ?_⟩
    · exact fun h => n.proper.1 (List.append_eq_nil_iff.1 h).1
    · rw [List.mem_append, not_or]
      exact ⟨n.proper.2.1, hend⟩
    · intro h
      have hbytes := congrArg List.length h
      rw [List.length_append, List.length_singleton] at hbytes
      omega
    · intro h
      have hbytes := congrArg List.length h
      rw [List.length_append, List.length_cons, List.length_singleton] at hbytes
      omega

namespace Registry

variable {r : Registry} {fs : FileSystem} {p q : Path} {n : Name} {c c' : MetadataComponent}
  {cs folder base extension : List Char}

lemma descriptorOf_child (p : Path) (n : Name) :
    descriptorOf (p.child n) = p.child n.described := by
  apply Path.eq_of_bytes
  rw [descriptorOf, Path.child_bytes, Path.child_bytes, List.append_assoc]
  rfl

/-! ## What a text says -/

/-- Whether a path is a text can be told from its components. -/
theorem exists_text_iff :
    (∃ cs, p = pathOf cs) ↔ ∀ c ∈ p.components, ∃ cs, c.bytes = Utf8.encodeChars cs := by
  have htext : (∃ cs, p = pathOf cs) ↔ ∃ cs, p.bytes = Utf8.encodeChars cs :=
    exists_congr fun cs => ⟨congrArg Path.bytes, Path.eq_of_bytes⟩
  rw [htext, Utf8.exists_encodeChars_iff,
    Path.forall_pieces_iff (P := fun bytes => ∃ cs, bytes = Utf8.encodeChars cs)]
  · exact ⟨[], rfl⟩
  · exact ⟨['.'], by decide⟩
  · exact ⟨['/'], by decide⟩

lemma encodeChars_injective {cs ds : List Char} (h : Utf8.encodeChars cs = Utf8.encodeChars ds) :
    cs = ds :=
  pathOf_injective (Path.eq_of_bytes h)

/-- The folder of a file is what stands in front of its name. -/
lemma Spells.child (h : Spells (p.child n) cs folder base extension) :
    Utf8.encodeChars folder = p.lastPiece ∧
      Utf8.encodeChars (base ++ '.' :: extension) = n.bytes := by
  obtain ⟨hlast, hprior⟩ := Utf8.endsIn_encodeChars h.endsIn
  have hbytes : (p.child n).bytes = Utf8.encodeChars cs := congrArg Path.bytes h.text
  obtain ⟨hname, hpiece⟩ := Path.lastPieces_child p n
  rw [hbytes] at hname hpiece
  exact ⟨hprior.symm.trans hpiece, hlast.symm.trans hname⟩

/-- The text of a file says the same in another spelling of its directory, but for the folder. -/
lemma Spells.respell (h : Spells (p.child n) cs folder base extension)
    (hcomponents : p.components = q.components) :
    ∃ ds folder', Spells (q.child n) ds folder' base extension ∧
      Utf8.encodeChars folder' = q.lastPiece := by
  have hbelow : (p.child n).components = (q.child n).components :=
    Path.components_descend_congr hcomponents [n]
  obtain ⟨ds, hds⟩ : ∃ ds, q.child n = pathOf ds := by
    rw [exists_text_iff, ← hbelow, ← exists_text_iff]
    exact ⟨cs, h.text⟩
  obtain ⟨folder', file, hfile⟩ := exists_endsIn '/' ds
  obtain ⟨hlast, hprior⟩ := Utf8.endsIn_encodeChars hfile
  obtain ⟨hname, hpiece⟩ := Path.lastPieces_child q n
  have hbytes : (q.child n).bytes = Utf8.encodeChars ds := congrArg Path.bytes hds
  rw [hbytes] at hname hpiece
  have hsame : file = base ++ '.' :: extension :=
    encodeChars_injective ((hlast.symm.trans hname).trans h.child.2.symm)
  rw [hsame] at hfile
  exact ⟨ds, folder', ⟨hds, hfile, h.undotted⟩, hprior.symm.trans hpiece⟩

/-! ## Components of one file -/

/-- The full name of a component in a folder. -/
def fullNameIn (type : MetadataType) (folder base : List Char) : String :=
  String.ofList (if type.inFolder && folder ≠ [] then folder ++ '/' :: base else base)

/-- The components have the same type and the same name, in folders that may be spelled
differently. -/
structure Renamed (c c' : MetadataComponent) (piece piece' : Bytes) : Prop where
  type : c.type = c'.type
  named : ∃ folder folder' base, Utf8.encodeChars folder = piece ∧
    Utf8.encodeChars folder' = piece' ∧ c.fullName = fullNameIn c.type folder base ∧
    c'.fullName = fullNameIn c'.type folder' base

namespace Renamed

variable {piece piece' : Bytes}

/-- The folder shows in the names of types that are kept in folders, and there only. -/
theorem fullName_eq (h : Renamed c c' piece piece')
    (hsame : piece = piece' ∨ c.type.inFolder = false) : c.fullName = c'.fullName := by
  obtain ⟨folder, folder', base, hfolder, hfolder', hname, hname'⟩ := h.named
  rw [hname, hname', ← h.type]
  rcases hsame with rfl | hplain
  · rw [encodeChars_injective (hfolder.trans hfolder'.symm)]
  · simp [fullNameIn, hplain]

end Renamed

/-- **A file in a directory that is spelled in two ways** has the same component for both, but for
the spelling of its folder. -/
theorem classify_child (hcomponents : p.components = q.components)
    (hfile : (p.child n).tooLong = (q.child n).tooLong)
    (hdescriptor : (descriptorOf (p.child n)).tooLong = (descriptorOf (q.child n)).tooLong)
    (hc : r.classify fs (p.child n) = .ok c) :
    ∃ c', r.classify fs (q.child n) = .ok c' ∧ Renamed c c' p.lastPiece q.lastPiece := by
  have hexists : ∀ m : Name, (p.child m).tooLong = (q.child m).tooLong →
      fs.existsAt (p.child m) = fs.existsAt (q.child m) := fun m hlong =>
    FileSystem.existsAt_descend_congr hcomponents (List.cons_ne_nil m []) hlong
  have hexistsFile := hexists n hfile
  have hexistsDescriptor : fs.existsAt (descriptorOf (p.child n)) =
      fs.existsAt (descriptorOf (q.child n)) := by
    rw [descriptorOf_child, descriptorOf_child] at hdescriptor ⊢
    exact hexists n.described hdescriptor
  rw [classify_eq_ok_iff] at hc
  cases hc with
  | contents hspells hexistsp hid hdescribed htype =>
    obtain ⟨ds, folder', hspells', hfolder'⟩ := hspells.respell hcomponents
    rw [hexistsFile] at hexistsp
    rw [hexistsDescriptor] at hdescribed
    refine ⟨_, classify_eq_ok_iff.2 (.contents hspells' hexistsp hid hdescribed htype), rfl, ?_⟩
    exact ⟨_, folder', _, hspells.child.1, hfolder', rfl, rfl⟩
  | descriptor hspells hexistsp hnone hsuffix hid _ htype =>
    obtain ⟨ds, folder', hspells', hfolder'⟩ := hspells.respell hcomponents
    rw [hexistsFile] at hexistsp
    obtain ⟨es, -, hes, -⟩ := hspells'.contents
    refine ⟨_, classify_eq_ok_iff.2 (.descriptor hspells' hexistsp hnone hsuffix hid hes htype),
      rfl, ?_⟩
    exact ⟨_, folder', _, hspells.child.1, hfolder', rfl, rfl⟩

end Registry
end Reconcile
