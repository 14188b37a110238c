import Reconcile.Diff.Basic
import Reconcile.FileSystem.Effect
import Reconcile.Manifest.Package

/-!
# The layout of a project

Local sources stand in the output directory of a project.  What is retrieved is put into a scratch
directory below the project: the manifest, and the sources in the form of the project.
-/

namespace Reconcile

/-- Where a project keeps its files. -/
structure Layout where
  projectRoot : Path
  /-- The directory of the local sources, seen from the root of the project. -/
  outputDir : Path
deriving DecidableEq, Repr

namespace Layout

/-- The local side of a comparison. -/
def localSource (l : Layout) : Path := l.projectRoot.join l.outputDir

/-- The scratch directory. -/
def scratch (l : Layout) : Path :=
  ((l.projectRoot.join (.ofString ".sfdx")).join (.ofString "tools")).join (.ofString "conflicts")

/-- The manifest in the scratch directory. -/
def packageXml (l : Layout) : Path := l.scratch.join (.ofString "package.xml")

/-- The remote side of a comparison. -/
def remoteSource (l : Layout) : Path := l.scratch.join (.ofString "converted")

/-- Stores a manifest in the scratch directory, which is made if it is not there. -/
def storePackage (l : Layout) (content : Bytes) : Effect DiffError Path := do
  Effect.blame (DiffError.write l.scratch) (FileSystem.makeDirectories l.scratch)
  Effect.blame (DiffError.write l.packageXml) (FileSystem.write l.packageXml content)
  pure l.packageXml

/-- Writes a manifest for a retrieve, or the default one if it names nothing. -/
def writeManifest (l : Layout) (m : Manifest) (version : Option String) : Effect DiffError Path :=
  l.storePackage
    (Utf8.encode (Package.render (if m.isEmpty then Manifest.default else m) version))

/-- Copies a manifest that is there already.  It is read before anything is made. -/
def copyManifest (l : Layout) (file : Path) : Effect DiffError Path := do
  let content ← Effect.ask fun fs => (fs.read file).mapError (DiffError.read file)
  l.storePackage content

/-- Compares the local sources with the retrieved ones. -/
def diff (l : Layout) (fs : FileSystem) (config : Config) :
    List Progress × Except DiffError DiffResults :=
  diffDirectories fs config l.localSource l.remoteSource

/-- Removes the scratch directory with all that is in it. -/
def cleanup (l : Layout) : Effect DiffError Unit := fun fs =>
  if fs.existsAt l.scratch then
    Effect.on (Effect.blame (DiffError.write l.scratch)
      (Effect.attempt (FileSystem.removeDirectory l.scratch))) fs
  else (.ok (), fs)

end Layout
end Reconcile
