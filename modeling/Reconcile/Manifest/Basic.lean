import Reconcile.Registry.Classify
import Reconcile.Walk.Basic

/-!
# Manifests

A manifest names components, grouped by type.  Types and the members of each are kept in order, and
a type is only there with at least one member.
-/

namespace Reconcile

/-- A set of texts. -/
abbrev Members := SortedList (id : String → String)

/-- The members of one type. -/
structure Group where
  typeName : String
  members : Members
  nonempty : members.toList ≠ []

/-- The names of components, by type. -/
structure Manifest where
  groups : SortedList Group.typeName

namespace Members

theorem toList_insert_ne_nil (m : Members) (member : String) : (m.insert member).toList ≠ [] := by
  show SortedList.upsertList _ _ _ m.toList ≠ []
  cases m.toList with
  | nil => simp [SortedList.upsertList]
  | cons b rest =>
    simp only [SortedList.upsertList]
    split
    · simp
    · split <;> simp

end Members

namespace Group

/-- A type with one member. -/
def single (typeName member : String) : Group :=
  ⟨typeName, (∅ : Members).insert member, Members.toList_insert_ne_nil _ _⟩

/-- Adds a member. -/
def add (g : Group) (member : String) : Group :=
  ⟨g.typeName, g.members.insert member, Members.toList_insert_ne_nil _ _⟩

end Group

namespace Manifest

/-- The manifest that names nothing. -/
def empty : Manifest := ⟨∅⟩

/-- Names the member of a type. -/
def add (m : Manifest) (typeName member : String) : Manifest :=
  ⟨m.groups.upsert (.single typeName member) (·.add member) fun _ => rfl⟩

/-- Names a component. -/
def addComponent (m : Manifest) (c : MetadataComponent) : Manifest :=
  m.add c.type.name c.fullName

/-- The manifest of some components. -/
def ofComponents (cs : List MetadataComponent) : Manifest := cs.foldl addComponent empty

/-- The members of a type, in order. -/
def members? (m : Manifest) (typeName : String) : Option (List String) :=
  (m.groups.find? typeName).map fun g => g.members.toList

/-- Is nothing named? -/
def isEmpty (m : Manifest) : Bool := m.groups.isEmpty

/-- The types of which everything is retrieved when nothing is named. -/
def defaultTypes : List String :=
  ["ApexClass", "ApexTrigger", "AuraDefinitionBundle", "LightningComponentBundle", "FlexiPage",
   "Layout", "CustomObject", "PermissionSet", "StaticResource", "CustomTab"]

/-- Everything of the commonly edited types. -/
def default : Manifest := defaultTypes.foldl (fun m t => m.add t "*") empty

/-- Adds the components of the files that a walk lists; files of no component are passed over. -/
def collect (classify : Path → Except ClassifyError MetadataComponent) (m : Manifest) :
    List Walk.Item → Except DiffError Manifest
  | [] => .ok m
  | .fault fault :: _ => .error (.walk fault)
  | .file p :: rest =>
    match classify p with
    | .ok c => collect classify (m.addComponent c) rest
    | .error _ => collect classify m rest

/-- The manifest of the files below a root. -/
def ofTree (r : Registry) (fs : FileSystem) (config : Config) (root : Path) :
    Except DiffError Manifest :=
  match walk fs config root with
  | .error e => .error e
  | .ok items => collect (fun p => r.classify fs (root.join p)) empty items

end Manifest
end Reconcile
