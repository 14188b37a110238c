import Reconcile.Registry.Basic

/-!
# The registry that is used unless another one is loaded
-/

namespace Reconcile
namespace Registry

/-- A type kept outside of folders, with files of one suffix. -/
def plainType (name directory suffix : String) (childXmlNames : List String) : MetadataType :=
  ⟨name, directory, false, some suffix, childXmlNames⟩

/-- A type kept in folders. -/
def folderType (name directory : String) (suffix : Option String) : MetadataType :=
  ⟨name, directory, true, suffix, []⟩

/-- A type whose components are directories with files of several kinds. -/
def bundleType (name directory : String) : MetadataType := ⟨name, directory, false, none, []⟩

/-- The types with files of one suffix, by identifier. -/
def suffixTypes : List (String × MetadataType) :=
  [("apexclass", plainType "ApexClass" "classes" "cls" []),
   ("apextrigger", plainType "ApexTrigger" "triggers" "trigger" []),
   ("apexpage", plainType "ApexPage" "pages" "page" []),
   ("apexcomponent", plainType "ApexComponent" "components" "component" []),
   ("staticresource", plainType "StaticResource" "staticresources" "resource" []),
   ("customobject", plainType "CustomObject" "objects" "object"
      ["CustomField", "ListView", "RecordType", "ValidationRule"]),
   ("layout", plainType "Layout" "layouts" "layout" []),
   ("customlabels", plainType "CustomLabels" "labels" "labels" ["CustomLabel"]),
   ("report", folderType "Report" "reports" (some "report")),
   ("dashboard", folderType "Dashboard" "dashboards" (some "dashboard")),
   ("emailtemplate", folderType "EmailTemplate" "email" (some "email"))]

/-- The types without a suffix of their own, by identifier. -/
def otherTypes : List (String × MetadataType) :=
  [("document", folderType "Document" "documents" none),
   ("auradefinitionbundle", bundleType "AuraDefinitionBundle" "aura"),
   ("lightningcomponentbundle", bundleType "LightningComponentBundle" "lwc")]

/-- The bundled registry. -/
def bundled : Registry where
  types := .ofEntries (suffixTypes ++ otherTypes)
  suffixes := .ofEntries (suffixTypes.filterMap fun e => e.2.suffix.map fun s => (s, e.1))
  mixedContent := .ofEntries
    [("aura", "auradefinitionbundle"), ("lwc", "lightningcomponentbundle"),
     ("documents", "document"), ("staticresources", "staticresource")]

end Registry
end Reconcile
