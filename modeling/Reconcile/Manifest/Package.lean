import Reconcile.Manifest.Basic

/-!
# The text of a manifest

A manifest is written as a package: a block for each type with its members and its name, and the
version at the end.  The five characters with a meaning in markup are written as entities.
-/

namespace Reconcile
namespace Package

/-- A character as it is written. -/
def escapeChar (c : Char) : List Char :=
  if c = '&' then "&amp;".toList
  else if c = '<' then "&lt;".toList
  else if c = '>' then "&gt;".toList
  else if c = '"' then "&quot;".toList
  else if c = '\'' then "&apos;".toList
  else [c]

/-- A text as it is written. -/
def escape (s : String) : List Char := s.toList.flatMap escapeChar

/-- The start of every package. -/
def header : List Char :=
  ("<?xml version=\"1.0\" encoding=\"UTF-8\"?>\n" ++
    "<Package xmlns=\"http://soap.sforce.com/2006/04/metadata\">\n").toList

/-- A line with a text between two tags. -/
def line (indent tag : String) (content : String) : List Char :=
  (indent ++ "<" ++ tag ++ ">").toList ++ escape content ++ ("</" ++ tag ++ ">\n").toList

/-- The block of a type. -/
def block (g : Group) : List Char :=
  "  <types>\n".toList ++ g.members.toList.flatMap (line "    " "members") ++
    line "    " "name" g.typeName ++ "  </types>\n".toList

/-- The text of a package. -/
def render (m : Manifest) (version : Option String) : String :=
  String.ofList (header ++ m.groups.toList.flatMap block ++
    (version.map (line "  " "version")).getD [] ++ "</Package>\n".toList)

end Package
end Reconcile
