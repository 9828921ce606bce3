import ShapeCatalog.Files.Access

/-!
Files in memory.  Paths are followed through a tree, segment by segment: a double dot leads to the
directory above, and everything that is followed further must be a directory.  An absolute path
starts at the root of the tree, any other path in the home directory, which lies below the root and
cannot be reached by name.  Paths and names that are too long are at fault themselves, whatever
there is in the tree.
-/

namespace ShapeCatalog

/-- A tree of files: a file with its bytes, or a directory with its entries. -/
inductive Memory where
  | file (content : ByteArray)
  | directory (entries : List (String × Memory))

namespace Memory

/-- The names that lead to the home directory.  They are empty, and no segment of a path stands for
an empty name: above the home directory nothing is found that was not put there. -/
def home : List String := ["", ""]

/-- A tree without files: the home directory, and the two directories above it. -/
def empty : Memory := .directory [("", .directory [("", .directory [])])]

/-- The file or directory at the end of a list of names. -/
def at? : Memory → List String → Option Memory
  | tree, [] => some tree
  | .file _, _ :: _ => none
  | .directory entries, name :: rest => (entries.lookup name).bind (at? · rest)

def isDirectoryAt (tree : Memory) (names : List String) : Bool :=
  match at? tree names with
  | some (.directory _) => true
  | _ => false

def isTooLong (name : String) : Bool :=
  Path.maxNameBytes < name.utf8ByteSize

/-- What is wrong with the text of a path, whatever there is in a tree. -/
def textFault? (path : String) : Option FileFault :=
  if path = "" then some .notFound
  else if path.toList.contains '\x00' then some .nulInPath
  else if Path.maxBytes < path.utf8ByteSize then some .nameTooLong
  else none

/-- Follow segments from the directory at `names`. -/
def follow (tree : Memory) : (names : List String) → List String → Except FileFault (List String)
  | names, [] => .ok names
  | names, segment :: rest =>
      if !isDirectoryAt tree names then .error .notADirectory
      else if Path.isIdle segment then follow tree names rest
      else if segment = ".." then follow tree names.dropLast rest
      else if isTooLong segment then .error .nameTooLong
      else if (at? tree (names ++ [segment])).isNone then .error .notFound
      else follow tree (names ++ [segment]) rest

/-- The names that lead to the directory in which a path starts. -/
def startOf (path : String) : List String :=
  if Path.isAbsolute path then [] else home

def find (tree : Memory) (path : String) : Except FileFault Memory := do
  if let some fault := textFault? path then throw fault
  match at? tree (← follow tree (startOf path) (Path.segments path)) with
  | some found => return found
  | none => throw .notFound

/-- A path without the slashes at its end. -/
def withoutEndSlashes (path : String) : String :=
  String.ofList (path.toList.reverse.dropWhile (· = '/')).reverse

/-- The directory that a path names an entry of, and the last segment of the path. -/
def findEntry (tree : Memory) (path : String) : Except FileFault (List String × String) := do
  if let some fault := textFault? path then throw fault
  let segments := Path.segments (withoutEndSlashes path)
  let parent ← follow tree (startOf path) segments.dropLast
  if isDirectoryAt tree parent then return (parent, segments.getLast?.getD "")
  else throw .notADirectory

/-- Put an entry into the directory at the end of a list of names. -/
def putAt (name : String) (entry : Memory) : List String → Memory → Memory
  | [], .directory entries => .directory (Entries.put name entry entries)
  | step :: rest, .directory entries =>
      .directory (entries.map fun (key, inner) =>
        (key, if key = step then putAt name entry rest inner else inner))
  | _, .file content => .file content

/-- Whether a segment names an entry, and not a directory that must be there already. -/
def isEntryName (segment : String) : Bool :=
  !Path.isIdle segment && segment != ".."

def read (tree : Memory) (path : String) : Except FileFault ByteArray := do
  match ← find tree path with
  | .file content => return content
  | .directory _ => throw .isADirectory

/-- Write a file into a directory that is there.  A path that ends in a slash, or leads to a
directory, names no file. -/
def write (path : String) (content : ByteArray) (tree : Memory) : Except FileFault Memory := do
  let (parent, name) ← findEntry tree path
  if withoutEndSlashes path != path || !isEntryName name
      || isDirectoryAt tree (parent ++ [name]) then
    throw .isADirectory
  if isTooLong name then throw .nameTooLong
  return putAt name (.file content) parent tree

/-- Make a directory in a directory that is there. -/
def makeDirectory (path : String) (tree : Memory) : Except FileFault Memory := do
  let (parent, name) ← findEntry tree path
  if !isEntryName name || (at? tree (parent ++ [name])).isSome then throw .alreadyExists
  if isTooLong name then throw .nameTooLong
  return putAt name (.directory []) parent tree

def isDirectory (tree : Memory) (path : String) : Bool :=
  match find tree path with
  | .ok (.directory _) => true
  | _ => false

def ensureDirectory (path : String) (tree : Memory) : Except FileFault Memory :=
  match makeDirectory path tree with
  | .ok made => .ok made
  | .error fault => if isDirectory tree path then .ok tree else .error fault

/-- Make the directories of a list, from the last, which lies outermost, to the first.  Directories
further out than one that is there are left alone. -/
def ensureDirectories : List String → Memory → Except FileFault Memory
  | [], tree => .ok tree
  | path :: outer, tree =>
      match ensureDirectory path tree with
      | .ok made => .ok made
      | .error .notFound => (ensureDirectories outer tree).bind (ensureDirectory path)
      | .error fault => .error fault

/-- Make a directory with all that it lies in. -/
def makeDirectories (path : String) (tree : Memory) : Except FileFault Memory :=
  ensureDirectories (Path.ancestors (path.length + 1) path) tree

def readText (tree : Memory) (path : String) : Except FileFault String := do
  let some text := String.fromUTF8? (← read tree path) | throw .notUtf8
  return text

mutual

/-- What is seen of a tree that lies at a path.  A directory whose path is too long
cannot be read. -/
def listing (path : String) : Memory → Listing
  | .file _ => .file
  | .directory entries =>
      if Path.maxBytes < path.utf8ByteSize then .unreadable .nameTooLong
      else .directory (entryListings path entries)

def entryListings (path : String) : List (String × Memory) → List (String × Listing)
  | [] => []
  | (name, inner) :: rest => (name, listing (Path.join path name) inner) :: entryListings path rest

end

def directory? (tree : Memory) (path : String) : Option Listing :=
  match find tree path with
  | .ok (.directory entries) => some (listing path (.directory entries))
  | _ => none

/-- Change the tree unless there is a fault. -/
def change (f : Memory → Except FileFault Memory) : StateM Memory (Except FileFault Unit) := do
  match f (← get) with
  | .ok tree => set tree; return .ok ()
  | .error fault => return .error fault

def access : FileAccess (StateM Memory) where
  directory? path := return directory? (← get) path
  readText path := return readText (← get) path
  writeText path text := change (write path text.toUTF8)
  makeDirectories path := change (makeDirectories path)

end Memory

end ShapeCatalog
