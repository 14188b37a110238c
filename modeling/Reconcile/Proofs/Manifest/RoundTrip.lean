import Reconcile.Proofs.Manifest.Markup
import Reconcile.Proofs.Manifest.Names

/-!
# Reading a package back

The text of a package is cut into tags with the texts in front of them, and these are read as
blocks, one for each type: members, then one name.  What is written for a manifest consists of the
blocks of its types (`Package.blocks?_render`), and from them the manifest is made again by naming
their members (`Manifest.ofBlocks_blocks`).  So the manifest and the version are determined by the
text (`Package.decode?_render`).
-/

namespace Reconcile

/-- What is written about one type. -/
structure Block where
  members : List String
  name : String
deriving DecidableEq, Repr

namespace Group

/-- The block of a type. -/
def toBlock (g : Group) : Block := ⟨g.members.toList, g.typeName⟩

end Group

namespace Manifest

variable {m : Manifest} {t n : String} {bs : List Block}

/-- The blocks of a manifest. -/
def blocks (m : Manifest) : List Block := m.groups.toList.map Group.toBlock

/-- Names all members of some blocks. -/
def ofBlocks (blocks : List Block) : Manifest :=
  blocks.foldl (fun m b => b.members.foldl (fun m n => m.add b.name n) m) empty

lemma names_foldl_add {members : List String} {type : String} :
    (members.foldl (fun m n => m.add type n) m).Names t n ↔
      m.Names t n ∨ (t = type ∧ n ∈ members) := by
  induction members generalizing m with
  | nil => simp
  | cons member members ih =>
    rw [List.foldl_cons, ih, names_add, List.mem_cons]
    tauto

lemma names_foldl_blocks :
    (bs.foldl (fun m b => b.members.foldl (fun m n => m.add b.name n) m) m).Names t n ↔
      m.Names t n ∨ ∃ b ∈ bs, b.name = t ∧ n ∈ b.members := by
  induction bs generalizing m with
  | nil => simp
  | cons b bs ih =>
    rw [List.foldl_cons, ih, names_foldl_add, eq_comm (a := t)]
    simp only [List.mem_cons, exists_eq_or_imp, or_assoc]

/-- Every manifest is made by naming the members in its blocks. -/
theorem ofBlocks_blocks (m : Manifest) : ofBlocks m.blocks = m := by
  refine ext_of_names_iff fun t n => ?_
  rw [ofBlocks, names_foldl_blocks, or_iff_right not_names_empty]
  constructor
  · rintro ⟨b, hb, rfl, hn⟩
    obtain ⟨g, hg, rfl⟩ := List.mem_map.1 hb
    exact ⟨g, hg, rfl, hn⟩
  · rintro ⟨g, hg, rfl, hn⟩
    exact ⟨g.toBlock, List.mem_map_of_mem hg, rfl, hn⟩

/-- Types are written in order, each with at least one member, and members are in order. -/
lemma blocks_ordered (m : Manifest) :
    (∀ b ∈ m.blocks, b.members ≠ [] ∧ b.members.Pairwise (· < ·)) ∧
      (m.blocks.map Block.name).Pairwise (· < ·) := by
  constructor
  · intro b hb
    obtain ⟨g, -, rfl⟩ := List.mem_map.1 hb
    exact ⟨g.nonempty, g.members.increasing⟩
  · rw [blocks, List.map_map, List.pairwise_map]
    exact m.groups.increasing

end Manifest

namespace Package

/-! ## Reading -/

/-- The text that was written as `cs`. -/
def textOf (cs : List Char) : String := String.ofList (unescape cs)

mutual

/-- Reads blocks up to the end of the package, and the version. -/
def readBlocks : List Piece → Option (List Block × Option String)
  | ⟨_, .opening .types⟩ :: rest => readBlock [] rest
  | [⟨_, .opening .version⟩, ⟨version, .closing .version⟩, ⟨_, .closing .package⟩] =>
    some ([], some (textOf version))
  | [⟨_, .closing .package⟩] => some ([], none)
  | _ => none

/-- Reads the block that has been opened, whose members so far are given, and all behind it. -/
def readBlock (members : List String) : List Piece → Option (List Block × Option String)
  | ⟨_, .opening .members⟩ :: ⟨member, .closing .members⟩ :: rest =>
    readBlock (members ++ [textOf member]) rest
  | ⟨_, .opening .name⟩ :: ⟨name, .closing .name⟩ :: ⟨_, .closing .types⟩ :: rest =>
    (readBlocks rest).map fun (blocks, version) => (⟨members, textOf name⟩ :: blocks, version)
  | _ => none

end

/-- The blocks in the text of a package, and the version. -/
def blocks? (text : String) : Option (List Block × Option String) :=
  match cut? text.toList with
  | some (⟨_, .declaration⟩ :: ⟨_, .opening .package⟩ :: rest) => readBlocks rest
  | _ => none

/-- The manifest and the version in the text of a package. -/
def decode? (text : String) : Option (Manifest × Option String) :=
  (blocks? text).map fun (blocks, version) => (.ofBlocks blocks, version)

/-! ## What is written -/

/-- An element with a text in it, on a line of its own. -/
def linePieces (indent : String) (e : Element) (content : String) : List Piece :=
  [⟨'\n' :: indent.toList, .opening e⟩, ⟨escape content, .closing e⟩]

/-- The pieces of a block. -/
def blockPieces (b : Block) : List Piece :=
  [⟨"\n  ".toList, .opening .types⟩] ++ b.members.flatMap (linePieces "    " .members) ++
    linePieces "    " .name b.name ++ [⟨"\n  ".toList, .closing .types⟩]

/-- The pieces behind the start of a package. -/
def bodyPieces (bs : List Block) (version : Option String) : List Piece :=
  bs.flatMap blockPieces ++ (version.map (linePieces "  " .version)).getD [] ++
    [⟨['\n'], .closing .package⟩]

/-- The pieces of a package. -/
def pieces (bs : List Block) (version : Option String) : List Piece :=
  ⟨[], .declaration⟩ :: ⟨['\n'], .opening .package⟩ :: bodyPieces bs version

/-- The pieces are written as lines of text: in front of each tag there is the end of the last
line. -/
def Lines (ps : List Piece) (text : List Char) : Prop := '\n' :: text = Piece.write ps ++ ['\n']

variable {m : Manifest} {g : Group} {b : Block} {bs : List Block} {version : Option String}
  {ps qs : List Piece} {text text' : List Char}

lemma Lines.append (h : Lines ps text) (h' : Lines qs text') :
    Lines (ps ++ qs) (text ++ text') := by
  rw [Lines, ← List.cons_append, h, List.append_assoc, List.singleton_append, h',
    Piece.write_append, List.append_assoc]

lemma lines_nil : Lines [] [] := rfl

lemma Lines.flatMap {α : Type} {l : List α} {f : α → List Piece} {w : α → List Char}
    (h : ∀ a, Lines (f a) (w a)) : Lines (l.flatMap f) (l.flatMap w) := by
  induction l with
  | nil => exact lines_nil
  | cons a l ih => exact (h a).append ih

lemma lines_linePieces {indent content : String} {e : Element} (he : e ≠ .package) :
    Lines (linePieces indent e content) (line indent e.word content) := by
  have hopen : "<".toList = ['<'] := rfl
  have hclose : "</".toList = ['<', '/'] := rfl
  have hend : ">".toList = ['>'] := rfl
  have hline : ">\n".toList = ['>', '\n'] := rfl
  simp only [Lines, linePieces, line, Piece.write_cons, Piece.write_nil, Piece.stretch,
    Tag.inner_opening he, Tag.inner_closing, String.toList_append, hopen, hclose, hend, hline,
    List.append_assoc, List.cons_append, List.nil_append]

lemma lines_blockPieces (g : Group) : Lines (blockPieces g.toBlock) (block g) := by
  have hmembers : Lines (g.members.toList.flatMap (linePieces "    " .members))
      (g.members.toList.flatMap (line "    " "members")) :=
    Lines.flatMap fun _ => lines_linePieces (by decide)
  have hname : Lines (linePieces "    " .name g.typeName) (line "    " "name" g.typeName) :=
    lines_linePieces (by decide)
  have hopening : Lines [⟨"\n  ".toList, .opening .types⟩] "  <types>\n".toList := by
    rw [Lines]; decide
  have hclosing : Lines [⟨"\n  ".toList, .closing .types⟩] "  </types>\n".toList := by
    rw [Lines]; decide
  unfold blockPieces block
  exact ((hopening.append hmembers).append hname).append hclosing

lemma lines_bodyPieces (m : Manifest) (version : Option String) :
    Lines (bodyPieces m.blocks version) (m.groups.toList.flatMap block ++
      (version.map (line "  " "version")).getD [] ++ "</Package>\n".toList) := by
  have hblocks : Lines (m.blocks.flatMap blockPieces) (m.groups.toList.flatMap block) := by
    rw [Manifest.blocks, List.flatMap_map]
    exact Lines.flatMap lines_blockPieces
  have hversion : Lines ((version.map (linePieces "  " .version)).getD [])
      ((version.map (line "  " "version")).getD []) := by
    cases version with
    | none => exact lines_nil
    | some v => exact lines_linePieces (by decide)
  have hclosing : Lines [⟨['\n'], .closing .package⟩] "</Package>\n".toList := by
    rw [Lines]; decide
  rw [bodyPieces]
  exact (hblocks.append hversion).append hclosing

/-- The text of a package consists of its pieces. -/
lemma toList_render (m : Manifest) (version : Option String) :
    (render m version).toList = Piece.write (pieces m.blocks version) ++ ['\n'] := by
  have hheader :
      header = Piece.write [⟨[], .declaration⟩, ⟨['\n'], .opening .package⟩] ++ ['\n'] := by
    decide
  have hpieces : pieces m.blocks version =
      [⟨[], .declaration⟩, ⟨['\n'], .opening .package⟩] ++ bodyPieces m.blocks version := rfl
  rw [render, String.toList_ofList, hheader, hpieces, Piece.write_append,
    List.append_assoc _ (Piece.write (bodyPieces m.blocks version)), ← lines_bodyPieces]
  simp only [List.append_assoc, List.cons_append, List.nil_append]

/-! ## Texts hold no brackets -/

lemma plain_linePieces {indent content : String} {e : Element} {p : Piece}
    (hindent : ('<' ∉ indent.toList) ∧ '>' ∉ indent.toList)
    (hp : p ∈ linePieces indent e content) : p.Plain := by
  rcases List.mem_pair.1 hp with rfl | rfl
  · exact ⟨by simp [hindent.1], by simp [hindent.2]⟩
  · exact bracket_notMem_escape

lemma plain_blockPieces {p : Piece} (hp : p ∈ blockPieces b) : p.Plain := by
  simp only [blockPieces, List.mem_append, List.mem_singleton, List.mem_flatMap] at hp
  rcases hp with ((rfl | ⟨member, -, hp⟩) | hp) | rfl
  · exact ⟨by decide, by decide⟩
  · exact plain_linePieces (by decide) hp
  · exact plain_linePieces (by decide) hp
  · exact ⟨by decide, by decide⟩

lemma plain_pieces {p : Piece} (hp : p ∈ pieces bs version) : p.Plain := by
  simp only [pieces, bodyPieces, List.mem_cons, List.mem_append, List.mem_flatMap,
    List.not_mem_nil, or_false] at hp
  rcases hp with rfl | rfl | (⟨b, -, hp⟩ | hp) | rfl
  · exact ⟨by decide, by decide⟩
  · exact ⟨by decide, by decide⟩
  · exact plain_blockPieces hp
  · cases version with
    | none => exact absurd hp List.not_mem_nil
    | some v => exact plain_linePieces (by decide) hp
  · exact ⟨by decide, by decide⟩

/-! ## What is written is read -/

@[simp] lemma textOf_escape (s : String) : textOf (escape s) = s := by
  rw [textOf, unescape_escape, String.ofList_toList]

lemma readBlock_members (ms ms' : List String) (ps : List Piece) :
    readBlock ms (ms'.flatMap (linePieces "    " .members) ++ ps) = readBlock (ms ++ ms') ps := by
  induction ms' generalizing ms with
  | nil => simp
  | cons member ms' ih =>
    rw [List.flatMap_cons, linePieces, List.append_assoc, List.cons_append, List.cons_append,
      List.nil_append, readBlock, ih, textOf_escape, List.append_assoc, List.singleton_append]

lemma readBlocks_blockPieces (b : Block) (ps : List Piece) :
    readBlocks (blockPieces b ++ ps) =
      (readBlocks ps).map fun (bs, version) => (b :: bs, version) := by
  simp only [blockPieces, List.append_assoc, readBlocks, readBlock_members, List.nil_append,
    linePieces, List.cons_append, readBlock, textOf_escape]

lemma readBlocks_bodyPieces (bs : List Block) (version : Option String) :
    readBlocks (bodyPieces bs version) = some (bs, version) := by
  rw [bodyPieces]
  induction bs with
  | nil => cases version <;> simp [linePieces, readBlocks]
  | cons b bs ih =>
    rw [List.flatMap_cons, List.append_assoc, List.append_assoc, readBlocks_blockPieces,
      ← List.append_assoc, ih]
    rfl

/-- The blocks of a manifest are read from its text. -/
theorem blocks?_render (m : Manifest) (version : Option String) :
    blocks? (render m version) = some (m.blocks, version) := by
  have hcut : cut? (render m version).toList = some (pieces m.blocks version) := by
    rw [toList_render]
    exact cut?_write (fun _ => plain_pieces) (by decide)
  rw [blocks?, hcut, pieces]
  exact readBlocks_bodyPieces m.blocks version

/-- **A package can be read back.**  The manifest and the version are found in the text, so no two
manifests or versions have one text.  Every bracket that opens in it belongs to a tag.  In the
text there is a block for each type with its members, at least one and in order, and then the name
of the type, and the blocks stand in the order of these names. -/
theorem decode?_render :
    (∀ m version, decode? (render m version) = some (m, version)) ∧
      (∀ m m' version version', render m version = render m' version' →
        m = m' ∧ version = version') ∧
      (∀ m version before after, (render m version).toList = before ++ '<' :: after →
        ∃ tag rest, after = Tag.inner tag ++ '>' :: rest) ∧
      ∀ m version, ∃ bs, blocks? (render m version) = some (bs, version) ∧
        (∀ b ∈ bs, b.members ≠ [] ∧ b.members.Pairwise (· < ·)) ∧
        (bs.map Block.name).Pairwise (· < ·) := by
  have hdecode : ∀ m version, decode? (render m version) = some (m, version) := by
    intro m version
    simp only [decode?, blocks?_render, Option.map_some, Manifest.ofBlocks_blocks]
  refine ⟨hdecode, ?_, ?_, ?_⟩
  · intro m m' version version' heq
    have hsome := hdecode m version
    rw [heq, hdecode m' version', Option.some.injEq, Prod.mk.injEq] at hsome
    exact ⟨hsome.1.symm, hsome.2.symm⟩
  · intro m version before after heq
    rw [toList_render] at heq
    exact exists_tag_of_bracket (fun _ => plain_pieces) (by decide) heq
  · intro m version
    exact ⟨m.blocks, blocks?_render m version, m.blocks_ordered⟩

end Package
end Reconcile
