/-!
Paths as text.  A path is a list of segments between slashes.  Empty segments and segments of a
single dot say nothing, but for the first one: an empty first segment makes the path absolute, and a
single dot there is kept.
-/

namespace ShapeCatalog.Path

/-- The number of bytes that a path may have for files to be found at it. -/
def maxBytes : Nat := 4095

def maxNameBytes : Nat := 255

/-- Split a text at every occurrence of a mark. -/
def splitAt (mark : Char) : List Char → List (List Char)
  | [] => [[]]
  | c :: rest =>
      match splitAt mark rest with
      | [] => [[c]]
      | first :: others =>
          if c = mark then [] :: first :: others else (c :: first) :: others

def segments (path : String) : List String :=
  (splitAt '/' path.toList).map String.ofList

/-- Whether a segment says nothing after the first place. -/
def isIdle (segment : String) : Bool :=
  segment = "" || segment = "."

def isAbsolute (path : String) : Bool :=
  path.toList.head? = some '/'

/-- The segments that say something.  An absolute path starts with an empty one. -/
def components (path : String) : List String :=
  match segments path with
  | [] => []
  | first :: rest =>
      let others := rest.filter fun segment => !isIdle segment
      if first = "" && !isAbsolute path then others else first :: others

/-- The name that a path ends in; none if it ends in the root, a single dot or a double dot. -/
def fileName? (path : String) : Option String :=
  (components path).getLast?.filter fun name => !isIdle name && name != ".."

/-- Split a file name at its last dot, unless that is its first character. -/
def splitName (name : String) : String × Option String :=
  let reversed := name.toList.reverse
  let extension := (reversed.takeWhile (· ≠ '.')).reverse
  match reversed.dropWhile (· ≠ '.') with
  | _ :: c :: stem => (String.ofList (c :: stem).reverse, some (String.ofList extension))
  | _ => (name, none)

/-- A file name without its extension. -/
def stem (name : String) : String :=
  (splitName name).1

/-- What follows the last dot of a file name. -/
def extension? (name : String) : Option String :=
  (splitName name).2

/-- The short name of a file: its name without its extension. -/
def shortName? (path : String) : Option String :=
  (fileName? path).map stem

def join (directory name : String) : String :=
  if directory.toList.getLast? = some '/' then directory ++ name else directory ++ "/" ++ name

def ofSegments (segments : List String) : String :=
  "/".intercalate segments

/-- Segments without those at the end that say nothing. -/
def trimEnd : List String → List String
  | [] => []
  | first :: rest => first :: (rest.reverse.dropWhile isIdle).reverse

/-- The path of the directory that a path lies in; none for the root and for the empty path. -/
def parent? (path : String) : Option String :=
  match trimEnd (segments path) with
  | [] => none
  | [""] => none
  | found =>
      match trimEnd found.dropLast with
      | [""] => some "/"
      | outer => some (ofSegments outer)

/-- A path and its ancestors, from the inside outward, without the empty path. -/
def ancestors : (steps : Nat) → String → List String
  | 0, _ => []
  | steps + 1, path =>
      if path = "" then []
      else
        match parent? path with
        | none => [path]
        | some outer => path :: ancestors steps outer

end ShapeCatalog.Path
