import ShapeCatalog.Catalog.Writer
import ShapeCatalog.CommandLine.Request
import ShapeCatalog.Files.Access

/-!
Running a command: what it prints, and with which code it ends.
-/

namespace ShapeCatalog.CommandLine

/-- What a run has printed, on the output and beside it. -/
structure Printed where
  output : String := ""
  notes : String := ""
deriving Repr, DecidableEq

/-- Why a command failed, in the words of the command, and what caused it, down to
the last cause. -/
structure Failure where
  words : String
  causes : List String := []
deriving Repr, DecidableEq

structure Outcome where
  printed : Printed
  code : Nat
deriving Repr, DecidableEq

/-- A command at work: it prints, uses files, and may fail. -/
abbrev Work (m : Type → Type) := ExceptT Failure (StateT Printed m)

namespace Failure

/-- A text with a mark before its first line, and its other lines indented as far. -/
def marked (mark text : String) : String :=
  let indentation := String.ofList (List.replicate mark.length ' ')
  let lines := (Path.splitAt '\n' text.toList).map String.ofList
  mark ++ ("\n" ++ indentation).intercalate lines

/-- The mark of a numbered cause: its number, set to the right, and a colon. -/
def numberMark (number : Nat) : String :=
  let digits := toString number
  String.ofList (List.replicate (5 - digits.length) ' ') ++ digits ++ ": "

/-- How a failure is printed.  Several causes are numbered. -/
def render (failure : Failure) : String :=
  let header := s!"Error: {failure.words}\n"
  match failure.causes with
  | [] => header
  | [cause] => header ++ "\nCaused by:\n" ++ marked "    " cause ++ "\n"
  | causes =>
      let lines := causes.zipIdx.map fun (cause, number) => marked (numberMark number) cause ++ "\n"
      header ++ "\nCaused by:\n" ++ String.join lines

end Failure

namespace Work

variable {m : Type → Type} [Monad m]

/-- Print a line on the output. -/
def say (line : String) : Work m Unit :=
  modify fun printed => { printed with output := printed.output ++ line ++ "\n" }

/-- Print a line beside the output. -/
def note (line : String) : Work m Unit :=
  modify fun printed => { printed with notes := printed.notes ++ line ++ "\n" }

def perform {α : Type} (action : m α) : Work m α :=
  ExceptT.lift (StateT.lift action)

/-- Do something that may fail, and say what it was for. -/
def attempt {α : Type} (words : String) (action : ExceptT CatalogError m α) : Work m α := do
  match ← perform action.run with
  | .ok result => return result
  | .error error => throw ⟨words, error.causes⟩

/-- Do something with a file that may fail, and say what it was for. -/
def attemptFile {α : Type} (words : String) (action : m (Except FileFault α)) : Work m α := do
  match ← perform action with
  | .ok result => return result
  | .error fault => throw ⟨words, [fault.describe]⟩

end Work

open Work

variable {m : Type → Type} [Monad m]

def modelPaths (files : FileAccess m) (verbose : Bool) (request : CompileRequest) :
    Work m (List String) := do
  match request.specDir, request.specs with
  | some directory, _ =>
      note s!"→ Scanning directory for specs: {directory}"
      let found ← attempt s!"Failed to scan {directory}" (files.discover directory request.filter)
      if verbose then
        found.forM fun path => note s!"  Found: {path}"
      note s!"✓ Discovered {found.length} spec files"
      if found.isEmpty then throw ⟨"No spec files found", []⟩
      return found
  | none, some paths =>
      if request.filter.isSome then
        note "⚠ --filter only applies to --spec-dir, ignoring it"
      return paths
  | none, none => throw ⟨"Either --specs or --spec-dir must be provided", []⟩

/-- Whether a path stands for the output of the program. -/
def isOutput (path : String) : Bool :=
  Path.components path == ["-"]

/-- Write a catalog to a file, or to the output. -/
def writeCatalog (files : FileAccess m) (request : CompileRequest) (catalog : Catalog) :
    Work m Unit := do
  let text := catalog.write (if request.compact then .compact else .pretty)
  if isOutput request.output then say text
  else
    match Path.parent? request.output with
    | none | some "" => pure ()
    | some parent =>
        attemptFile s!"Failed to create directory: {parent}" (files.makeDirectories parent)
    attemptFile s!"Failed to write {request.output}"
      (files.writeText request.output (text ++ "\n"))

def compile (files : FileAccess m) (verbose : Bool) (request : CompileRequest) : Work m Unit := do
  let paths ← modelPaths files verbose request
  note "→ Compiling service models..."
  let catalog ← attempt "Failed to compile catalog" do
    let models ← files.readModels paths
    ExceptT.mk (pure (Catalog.ofModels models))
  if verbose then
    catalog.services.forM fun service =>
      note (s!"  {service.name} ({service.shortName}): {service.resources.length} resources, "
        ++ s!"{service.operations.length} operations")
  note (s!"✓ Total: {catalog.services.length} services, {catalog.resourceCount} resources, "
    ++ s!"{catalog.operationCount} operations")
  writeCatalog files request catalog
  if !isOutput request.output then
    note "\n✓ Compilation complete!"
    note s!"  📄 {request.output}"

def indentation (depth : Nat) : String :=
  String.ofList (List.replicate (2 * depth) ' ')

def operationLines (depth : Nat) (operations : List Operation) : List String :=
  operations.map fun operation =>
    s!"{indentation depth}- {operation.methodName} [{operation.operationId}]"

mutual

def resourceLines (operations : Bool) (depth : Nat) : Resource → List String
  | ⟨nodeId, name, children, own⟩ =>
      s!"{indentation depth}• {name} ({nodeId})"
        :: (if operations then operationLines (depth + 1) own else [])
        ++ childLines operations (depth + 1) children

def childLines (operations : Bool) (depth : Nat) : List Resource → List String
  | [] => []
  | resource :: rest =>
      resourceLines operations depth resource ++ childLines operations depth rest

end

def serviceLines (operations : Bool) (service : Service) : List String :=
  ["\nService:", s!"  Name: {service.name}", s!"  Node: {service.nodeId}"]
    ++ (service.className.map fun name => s!"  SDK id: {name}").toList
    ++ [s!"  Resources: {service.resources.length}",
        s!"  Operations: {service.operations.length}"]
    ++ (if operations then operationLines 1 service.operations else [])
    ++ childLines operations 1 service.resources

/-- Show the services of one model. -/
def inspect (files : FileAccess m) (verbose : Bool) (request : InspectRequest) : Work m Unit := do
  say s!"→ Parsing spec file: {request.spec}"
  let model ← attempt "Failed to load Smithy spec" (files.readModel request.spec)
  if verbose then
    say s!"  Short name: {model.shortName}"
    say s!"  Shapes: {model.document.shapes.size}"
  let catalog ← attempt "Failed to compile Smithy spec"
    (ExceptT.mk (pure (Catalog.ofModels [model])))
  say "\n✓ Parse successful!"
  (catalog.services.flatMap (serviceLines request.operations)).forM say

def programName : String := "api-catalog"

def programVersion : String := "0.4.1"

def usage : String :=
  "\n".intercalate
    [s!"Usage: {programName} [--verbose] <COMMAND>",
     "",
     "Commands:",
     "  compile  Compile schema documents into a single catalog file",
     "           (--specs <PATHS> | --spec-dir <DIR>) [--filter <NAMES>] [--output <PATH>]",
     "           [--compact]",
     "  inspect  Compile one schema document and display its service tree",
     "           --spec <PATH> [--operations]",
     "  help     Print this message",
     ""]

/-- Run a command to its end. -/
def perform (files : FileAccess m) (verbose : Bool) (command : Command) : m Outcome := do
  let work : Work m Unit := do
    if verbose then note "→ Verbose mode enabled"
    match command with
    | .compile request => compile files verbose request
    | .inspect request => inspect files verbose request
  let (ended, printed) ← work.run.run {}
  match ended with
  | .ok () => return ⟨printed, 0⟩
  | .error failure =>
      return ⟨{ printed with notes := printed.notes ++ failure.render }, 1⟩

/-- Run the program with the given arguments. -/
def run (files : FileAccess m) (arguments : List String) : m Outcome :=
  match Request.ofArguments arguments with
  | .help => return ⟨{ output := usage }, 0⟩
  | .version => return ⟨{ output := s!"{programName} {programVersion}\n" }, 0⟩
  | .misuse => return ⟨{ notes := usage }, 2⟩
  | .command verbose command => perform files verbose command

end ShapeCatalog.CommandLine
