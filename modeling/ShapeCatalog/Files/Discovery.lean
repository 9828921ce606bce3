import ShapeCatalog.Error
import ShapeCatalog.Files.Path

/-!
Discovery of model files.  Every file below a directory whose extension is `json` is found, but
hidden files and directories and directories of tests are passed over.  Files come in the order
of their paths, compared name by name.  The first directory to be searched that cannot be read
stops the discovery.
-/

namespace ShapeCatalog

/-- What is seen at a path: a file, a directory with its entries, or a directory that cannot be
read. -/
inductive Listing where
  | file
  | directory (entries : List (String × Listing))
  | unreadable (fault : FileFault)

namespace Discovery

/-- Whether a text has another one in it. -/
def isInside (part : List Char) : List Char → Bool
  | [] => part.isEmpty
  | c :: rest => part.isPrefixOf (c :: rest) || isInside part rest

def isHidden (name : String) : Bool :=
  name.toList.head? = some '.'

def holdsTests (name : String) : Bool :=
  isInside "__test__".toList name.toList

/-- Whether a file of the given name is a model file that the filter keeps.  A filter keeps the
files whose short name has one of its texts in it. -/
def keepsFile (filter : Option (List String)) (name : String) : Bool :=
  !isHidden name && Path.extension? name == some "json" &&
    match filter with
    | none => true
    | some parts => parts.any fun part => isInside part.toList (Path.stem name).toList

/-- Whether a directory of the given name is searched. -/
def entersDirectory (name : String) : Bool :=
  !isHidden name && !holdsTests name

/-- The files found, each as the names that lead to it; or the names that lead to a directory that
cannot be read, and why. -/
abbrev Finding := Except (List String × FileFault) (List (List String))

/-- What is found in an entry of a directory, seen from the directory. -/
def Finding.below (name : String) : Finding → Finding
  | .ok found => .ok (found.map (name :: ·))
  | .error (names, fault) => .error (name :: names, fault)

mutual

/-- The model files below a directory. -/
def paths (filter : Option (List String)) : Listing → Finding
  | .file => .ok []
  | .unreadable fault => .error ([], fault)
  | .directory entries =>
      (((entryPaths filter entries).mergeSort fun a b => a.1 ≤ b.1).mapM Prod.snd).map
        List.flatten

/-- The model files that the entries of a directory lead to, beside the name of each entry. -/
def entryPaths (filter : Option (List String)) :
    List (String × Listing) → List (String × Finding)
  | [] => []
  | (name, .file) :: rest =>
      (name, .ok (if keepsFile filter name then [[name]] else [])) :: entryPaths filter rest
  | (name, inner) :: rest =>
      (name, if entersDirectory name then (paths filter inner).below name else .ok [])
        :: entryPaths filter rest

end

/-- The model files below a directory, as paths that start with the path of the directory. -/
def fullPaths (filter : Option (List String)) (root : String) (listing : Listing) :
    Except CatalogError (List String) :=
  match paths filter listing with
  | .ok found => .ok (found.map fun names => names.foldl Path.join root)
  | .error (names, fault) => .error (.unreadableDirectory (names.foldl Path.join root) fault)

end Discovery

end ShapeCatalog
