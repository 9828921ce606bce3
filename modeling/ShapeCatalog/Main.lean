import ShapeCatalog.CommandLine.Run

/-!
The program: the command line with the files of the disk.
-/

namespace ShapeCatalog.Main

/-- The fault that a failed file operation shows. -/
def faultOf : IO.Error → FileFault
  | .noFileOrDirectory _ _ _ => .notFound
  | .alreadyExists _ _ _ => .alreadyExists
  | .inappropriateType _ 20 _ => .notADirectory
  | .inappropriateType _ 21 _ => .isADirectory
  | .invalidArgument _ 36 _ => .nameTooLong
  | error => .other (toString error)

def catching {α : Type} (action : IO α) : IO (Except FileFault α) := do
  try
    return .ok (← action)
  catch error =>
    return .error (faultOf error)

/-- What is seen of the directory at a path. -/
partial def listing (path : String) : IO Listing := do
  match ← catching ((← IO.currentDir) / path).readDir with
  | .error fault => return .unreadable fault
  | .ok entries =>
      let seen ← entries.toList.mapM fun entry => do
        if ← entry.path.isDir then
          return (entry.fileName, ← listing (Path.join path entry.fileName))
        else return (entry.fileName, .file)
      return .directory seen

def directory? (path : String) : IO (Option Listing) := do
  if path != "" && (← ((← IO.currentDir) / path).isDir) then return some (← listing path)
  else return none

def readText (path : String) : IO (Except FileFault String) := do
  match ← catching (IO.FS.readBinFile path) with
  | .error fault => return .error fault
  | .ok bytes =>
      match String.fromUTF8? bytes with
      | some text => return .ok text
      | none => return .error .notUtf8

def disk : FileAccess IO where
  directory? := directory?
  readText := readText
  writeText path text := catching (IO.FS.writeFile path text)
  makeDirectories path := catching (IO.FS.createDirAll path)

end ShapeCatalog.Main

def main (arguments : List String) : IO UInt32 := do
  let outcome ← ShapeCatalog.CommandLine.run ShapeCatalog.Main.disk arguments
  IO.print outcome.printed.output
  IO.eprint outcome.printed.notes
  return outcome.code.toUInt32
