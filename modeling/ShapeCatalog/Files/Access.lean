import ShapeCatalog.Catalog.OfModels
import ShapeCatalog.Files.Discovery

/-!
Access to files, and the models that are read through it.
-/

namespace ShapeCatalog

/-- What can be done with files: look through a directory, read and write text, and make directories
with all that they lie in. -/
structure FileAccess (m : Type → Type) where
  directory? : String → m (Option Listing)
  readText : String → m (Except FileFault String)
  writeText : String → String → m (Except FileFault Unit)
  makeDirectories : String → m (Except FileFault Unit)

namespace FileAccess

variable {m : Type → Type} [Monad m]

def discover (files : FileAccess m) (root : String) (filter : Option (List String)) :
    ExceptT CatalogError m (List String) := do
  match ← files.directory? root with
  | none => throw (.notADirectory root)
  | some listing => ExceptT.mk (pure (Discovery.fullPaths filter root listing))

def readModel (files : FileAccess m) (path : String) : ExceptT CatalogError m Model := do
  let some shortName := Path.shortName? path | throw (.invalidFileName path)
  match ← files.readText path with
  | .error fault => throw (.unreadableFile path fault)
  | .ok text =>
      match Document.ofText text with
      | .error error => throw (.malformedFile path error)
      | .ok document => return ⟨shortName, document⟩

def readModels (files : FileAccess m) (paths : List String) : ExceptT CatalogError m (List Model) :=
  paths.mapM files.readModel

def readDirectory (files : FileAccess m) (root : String) (filter : Option (List String)) :
    ExceptT CatalogError m (List Model) := do
  files.readModels (← files.discover root filter)

end FileAccess

end ShapeCatalog
