import Reconcile.Path.Basic

/-!
# Directories as trees

The contents of a directory are a `Listing`: its entries in the order in which the directory hands
them out, each with a name and a file, a link or a directory of its own.  The order matters to
nobody but an unsorted walk; which entry a name stands for is `Listing.find?`, and what stands at
a `Location`, a list of names from the top, is `Listing.lookup`.

`Listing.insertAt` and `Listing.removeAt` are the only ways in which a tree changes.  They keep the
names of each directory distinct (`Listing.Distinct`), and no name is one that an entry cannot have
(`Listing.Named`).
-/

namespace Reconcile

/-- A name longer than this cannot be an entry. -/
def nameLimit : Nat := 255

/-- A name that an entry can have: not too long and without a NUL byte. -/
def Name.Fits (n : Name) : Prop := n.bytes.length ≤ nameLimit ∧ 0 ∉ n.bytes

instance (n : Name) : Decidable n.Fits := inferInstanceAs (Decidable (_ ∧ _))

/-- The contents of a directory, entry by entry. -/
inductive Listing where
  | nil
  /-- A regular file and the entries behind it. -/
  | file (name : Name) (content : Bytes) (rest : Listing)
  /-- A symbolic link, with the path it stands for, and the entries behind it. -/
  | link (name : Name) (target : Path) (rest : Listing)
  /-- A directory and the entries behind it. -/
  | directory (name : Name) (inner : Listing) (rest : Listing)
deriving DecidableEq, Repr, Inhabited

/-- What a name can stand for. -/
inductive Node where
  | file (content : Bytes)
  | link (target : Path)
  | directory (inner : Listing)
deriving DecidableEq, Repr

namespace Node

/-- Is the node a directory? -/
def isDirectory : Node → Bool
  | directory _ => true
  | _ => false

/-- Is the node a regular file? -/
def isFile : Node → Bool
  | file _ => true
  | _ => false

end Node

/-- Where a node stands: the names that lead to it from the top, none of them through a link. -/
abbrev Location := List Name

namespace Listing

/-- Puts an entry in front. -/
def cons (name : Name) : Node → Listing → Listing
  | .file content, rest => file name content rest
  | .link target, rest => link name target rest
  | .directory inner, rest => directory name inner rest

/-- The entries, in order. -/
def toList : Listing → List (Name × Node)
  | nil => []
  | file name content rest => (name, .file content) :: rest.toList
  | link name target rest => (name, .link target) :: rest.toList
  | directory name inner rest => (name, .directory inner) :: rest.toList

@[simp] theorem toList_nil : nil.toList = [] := rfl

@[simp] theorem toList_cons (name : Name) (node : Node) (rest : Listing) :
    (cons name node rest).toList = (name, node) :: rest.toList := by
  cases node <;> rfl

/-- What the name `n` stands for. -/
def find? : Listing → Name → Option Node
  | nil, _ => none
  | file name content rest, n => if name = n then some (.file content) else rest.find? n
  | link name target rest, n => if name = n then some (.link target) else rest.find? n
  | directory name inner rest, n => if name = n then some (.directory inner) else rest.find? n

/-- Lets the name `n` stand for `node`: in place of what it stood for, or at the end. -/
def set : Listing → Name → Node → Listing
  | nil, n, node => cons n node nil
  | file name content rest, n, node =>
    if name = n then cons n node rest else file name content (rest.set n node)
  | link name target rest, n, node =>
    if name = n then cons n node rest else link name target (rest.set n node)
  | directory name inner rest, n, node =>
    if name = n then cons n node rest else directory name inner (rest.set n node)

/-- Drops the name `n`. -/
def erase : Listing → Name → Listing
  | nil, _ => nil
  | file name content rest, n => if name = n then rest else file name content (rest.erase n)
  | link name target rest, n => if name = n then rest else link name target (rest.erase n)
  | directory name inner rest, n =>
    if name = n then rest else directory name inner (rest.erase n)

/-- What stands at a location below the directory with these contents. -/
def lookup (top : Listing) : Location → Option Node
  | [] => some (.directory top)
  | n :: rest =>
    match top.find? n with
    | some (.directory inner) => inner.lookup rest
    | some node => if rest = [] then some node else none
    | none => none

/-- Changes the directory at a location; nothing happens where there is no directory. -/
def modifyAt (change : Listing → Listing) (top : Listing) : Location → Listing
  | [] => change top
  | n :: rest =>
    match top.find? n with
    | some (.directory inner) => top.set n (.directory (inner.modifyAt change rest))
    | _ => top

/-- Lets `n` stand for `node` in the directory at `parent`. -/
def insertAt (top : Listing) (parent : Location) (n : Name) (node : Node) : Listing :=
  top.modifyAt (·.set n node) parent

/-- Drops `n` from the directory at `parent`. -/
def removeAt (top : Listing) (parent : Location) (n : Name) : Listing :=
  top.modifyAt (·.erase n) parent

/-- The number of directories below the top. -/
def directoryCount : Listing → Nat
  | nil => 0
  | file _ _ rest => rest.directoryCount
  | link _ _ rest => rest.directoryCount
  | directory _ inner rest => inner.directoryCount + rest.directoryCount + 1

/-! ## Distinct names -/

/-- In each directory no name is used twice. -/
def Distinct : Listing → Prop
  | nil => True
  | file name _ rest => rest.find? name = none ∧ rest.Distinct
  | link name _ rest => rest.find? name = none ∧ rest.Distinct
  | directory name inner rest => rest.find? name = none ∧ inner.Distinct ∧ rest.Distinct

instance decidableDistinct : (l : Listing) → Decidable l.Distinct
  | nil => isTrue trivial
  | file _ _ rest => have := decidableDistinct rest; inferInstanceAs (Decidable (_ ∧ _))
  | link _ _ rest => have := decidableDistinct rest; inferInstanceAs (Decidable (_ ∧ _))
  | directory _ inner rest =>
    have := decidableDistinct inner
    have := decidableDistinct rest
    inferInstanceAs (Decidable (_ ∧ _ ∧ _))

/-- Every name of the tree is one that an entry can have. -/
def Named : Listing → Prop
  | nil => True
  | file name _ rest => name.Fits ∧ rest.Named
  | link name _ rest => name.Fits ∧ rest.Named
  | directory name inner rest => name.Fits ∧ inner.Named ∧ rest.Named

instance decidableNamed : (l : Listing) → Decidable l.Named
  | nil => isTrue trivial
  | file _ _ rest => have := decidableNamed rest; inferInstanceAs (Decidable (_ ∧ _))
  | link _ _ rest => have := decidableNamed rest; inferInstanceAs (Decidable (_ ∧ _))
  | directory _ inner rest =>
    have := decidableNamed inner
    have := decidableNamed rest
    inferInstanceAs (Decidable (_ ∧ _ ∧ _))

end Listing

/-- A node with distinct names in each directory of it. -/
def Node.Distinct : Node → Prop
  | .directory inner => inner.Distinct
  | _ => True

/-- A node below which every name is one that an entry can have. -/
def Node.Named : Node → Prop
  | .directory inner => inner.Named
  | _ => True

namespace Listing

@[simp] theorem find?_nil (n : Name) : nil.find? n = none := rfl

theorem find?_cons (name n : Name) (node : Node) (rest : Listing) :
    (cons name node rest).find? n = if name = n then some node else rest.find? n := by
  cases node <;> rfl

theorem distinct_cons {name : Name} {node : Node} {rest : Listing} :
    (cons name node rest).Distinct ↔
      rest.find? name = none ∧ node.Distinct ∧ rest.Distinct := by
  cases node <;> simp [cons, Distinct, Node.Distinct]

theorem find?_set (top : Listing) (n m : Name) (node : Node) :
    (top.set n node).find? m = if n = m then some node else top.find? m := by
  induction top with
  | nil => simp [set, find?_cons]
  | file name _ rest ih | link name _ rest ih | directory name _ rest _ ih =>
    simp only [set]
    split
    · subst_vars; simp only [find?_cons, find?]; split <;> simp_all
    · simp only [find?, ih]; grind

theorem find?_erase_ne (top : Listing) {n m : Name} (h : n ≠ m) :
    (top.erase n).find? m = top.find? m := by
  induction top with
  | nil => rfl
  | file name _ rest ih | link name _ rest ih | directory name _ rest _ ih =>
    simp only [erase]
    split
    · subst_vars; simp [find?, h]
    · simp [find?, ih]

theorem find?_erase_self {top : Listing} (h : top.Distinct) (n : Name) :
    (top.erase n).find? n = none := by
  induction top with
  | nil => rfl
  | file name _ rest ih | link name _ rest ih =>
    obtain ⟨h₁, h₂⟩ := h
    simp only [erase]
    split
    · subst_vars; exact h₁
    · simp_all [find?]
  | directory name _ rest _ ih =>
    obtain ⟨h₁, _, h₂⟩ := h
    simp only [erase]
    split
    · subst_vars; exact h₁
    · simp_all [find?]

theorem distinct_of_find? {top inner : Listing} (h : top.Distinct) {n : Name}
    (hn : top.find? n = some (.directory inner)) : inner.Distinct := by
  induction top with
  | nil => simp at hn
  | file name _ rest ih | link name _ rest ih =>
    simp only [find?] at hn
    split at hn
    · simp at hn
    · exact ih h.2 hn
  | directory name _ rest _ ih =>
    simp only [find?] at hn
    split at hn
    · simp at hn; exact hn ▸ h.2.1
    · exact ih h.2.2 hn

theorem distinct_set {top : Listing} (h : top.Distinct) (n : Name) {node : Node}
    (hnode : node.Distinct) : (top.set n node).Distinct := by
  induction top with
  | nil => exact distinct_cons.2 ⟨rfl, hnode, trivial⟩
  | file name _ rest ih | link name _ rest ih =>
    obtain ⟨h₁, h₂⟩ := h
    simp only [set]
    split
    · subst_vars; exact distinct_cons.2 ⟨h₁, hnode, h₂⟩
    · rename_i hne
      exact ⟨by rw [find?_set, if_neg (Ne.symm hne)]; exact h₁, ih h₂⟩
  | directory name _ rest _ ih =>
    obtain ⟨h₁, h₂, h₃⟩ := h
    simp only [set]
    split
    · subst_vars; exact distinct_cons.2 ⟨h₁, hnode, h₃⟩
    · rename_i hne
      exact ⟨by rw [find?_set, if_neg (Ne.symm hne)]; exact h₁, h₂, ih h₃⟩

theorem distinct_erase {top : Listing} (h : top.Distinct) (n : Name) :
    (top.erase n).Distinct := by
  induction top with
  | nil => trivial
  | file name _ rest ih | link name _ rest ih =>
    obtain ⟨h₁, h₂⟩ := h
    simp only [erase]
    split
    · exact h₂
    · rename_i hne
      exact ⟨by rw [find?_erase_ne _ (Ne.symm hne)]; exact h₁, ih h₂⟩
  | directory name _ rest _ ih =>
    obtain ⟨h₁, h₂, h₃⟩ := h
    simp only [erase]
    split
    · exact h₃
    · rename_i hne
      exact ⟨by rw [find?_erase_ne _ (Ne.symm hne)]; exact h₁, h₂, ih h₃⟩

theorem distinct_modifyAt {change : Listing → Listing}
    (hchange : ∀ l : Listing, l.Distinct → (change l).Distinct) {top : Listing}
    (h : top.Distinct) (loc : Location) : (top.modifyAt change loc).Distinct := by
  induction loc generalizing top with
  | nil => exact hchange _ h
  | cons n rest ih =>
    simp only [modifyAt]
    split
    · rename_i inner hn
      exact distinct_set h n (show Node.Distinct (.directory _) from ih (distinct_of_find? h hn))
    · exact h

theorem distinct_insertAt {top : Listing} (h : top.Distinct) (parent : Location) (n : Name)
    {node : Node} (hnode : node.Distinct) : (top.insertAt parent n node).Distinct :=
  distinct_modifyAt (fun _ hl => distinct_set hl n hnode) h parent

theorem distinct_removeAt {top : Listing} (h : top.Distinct) (parent : Location) (n : Name) :
    (top.removeAt parent n).Distinct :=
  distinct_modifyAt (fun _ hl => distinct_erase hl n) h parent

/-! ## Names that fit -/

theorem named_cons {name : Name} {node : Node} {rest : Listing} :
    (cons name node rest).Named ↔ name.Fits ∧ node.Named ∧ rest.Named := by
  cases node <;> simp [cons, Named, Node.Named]

theorem fits_of_find? {top : Listing} (h : top.Named) {n : Name} {node : Node}
    (hn : top.find? n = some node) : n.Fits := by
  induction top with
  | nil => simp at hn
  | file name _ rest ih | link name _ rest ih =>
    simp only [find?] at hn
    split at hn
    · rename_i heq; exact heq ▸ h.1
    · exact ih h.2 hn
  | directory name _ rest _ ih =>
    simp only [find?] at hn
    split at hn
    · rename_i heq; exact heq ▸ h.1
    · exact ih h.2.2 hn

theorem named_of_find? {top inner : Listing} (h : top.Named) {n : Name}
    (hn : top.find? n = some (.directory inner)) : inner.Named := by
  induction top with
  | nil => simp at hn
  | file name _ rest ih | link name _ rest ih =>
    simp only [find?] at hn
    split at hn
    · simp at hn
    · exact ih h.2 hn
  | directory name _ rest _ ih =>
    simp only [find?] at hn
    split at hn
    · simp at hn; exact hn ▸ h.2.1
    · exact ih h.2.2 hn

theorem named_set {top : Listing} (h : top.Named) {n : Name} (hn : n.Fits) {node : Node}
    (hnode : node.Named) : (top.set n node).Named := by
  induction top with
  | nil => exact named_cons.2 ⟨hn, hnode, trivial⟩
  | file name _ rest ih | link name _ rest ih =>
    simp only [set]
    split
    · exact named_cons.2 ⟨hn, hnode, h.2⟩
    · exact ⟨h.1, ih h.2⟩
  | directory name _ rest _ ih =>
    simp only [set]
    split
    · exact named_cons.2 ⟨hn, hnode, h.2.2⟩
    · exact ⟨h.1, h.2.1, ih h.2.2⟩

theorem named_erase {top : Listing} (h : top.Named) (n : Name) : (top.erase n).Named := by
  induction top with
  | nil => trivial
  | file name _ rest ih | link name _ rest ih =>
    simp only [erase]
    split
    · exact h.2
    · exact ⟨h.1, ih h.2⟩
  | directory name _ rest _ ih =>
    simp only [erase]
    split
    · exact h.2.2
    · exact ⟨h.1, h.2.1, ih h.2.2⟩

theorem named_modifyAt {change : Listing → Listing}
    (hchange : ∀ l : Listing, l.Named → (change l).Named) {top : Listing}
    (h : top.Named) (loc : Location) : (top.modifyAt change loc).Named := by
  induction loc generalizing top with
  | nil => exact hchange _ h
  | cons n rest ih =>
    simp only [modifyAt]
    split
    · rename_i inner hn
      exact named_set h (fits_of_find? h hn)
        (show Node.Named (.directory _) from ih (named_of_find? h hn))
    · exact h

theorem named_insertAt {top : Listing} (h : top.Named) (parent : Location) {n : Name}
    (hn : n.Fits) {node : Node} (hnode : node.Named) : (top.insertAt parent n node).Named :=
  named_modifyAt (fun _ hl => named_set hl hn hnode) h parent

theorem named_removeAt {top : Listing} (h : top.Named) (parent : Location) (n : Name) :
    (top.removeAt parent n).Named :=
  named_modifyAt (fun _ hl => named_erase hl n) h parent

end Listing
end Reconcile
