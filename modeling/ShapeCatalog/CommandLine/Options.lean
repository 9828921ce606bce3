import ShapeCatalog.Files.Path

/-!
Options on a command line.  An option has a long name and may have a letter; it is a flag, or it
takes a value, given in the same argument or in the next one, or it ends everything else, so that
nothing after it is looked at.  A value in an argument of its own does not start with a dash, unless
it is a single dash.
-/

namespace ShapeCatalog.CommandLine

/-- How often an option may be given, whether with a value, and whether it ends everything else. -/
inductive OptionForm where
  | flag
  | ending
  | value
  | values
deriving Repr, DecidableEq

structure OptionSpec where
  long : String
  letter? : Option Char
  form : OptionForm
deriving Repr, DecidableEq

/-- An option as given, with its value; a flag has none. -/
structure GivenOption where
  long : String
  value? : Option String
deriving Repr, DecidableEq

/-- What follows an argument: others, the value of an option, or nothing that is looked at. -/
inductive Following where
  | arguments
  | value (spec : OptionSpec)
  | nothing
deriving Repr, DecidableEq

/-- What is left to do with an argument list after the options in front of it. -/
structure SplitArguments where
  options : List GivenOption
  rest : List String
deriving Repr, DecidableEq

namespace OptionSpec

/-- Whether an argument is read as an option and not as a value. -/
def isOption (argument : String) : Bool :=
  argument.toList.head? = some '-' && argument != "-"

/-- Split the text of a long option at its first equals sign. -/
def splitAssignment (text : List Char) : String × Option String :=
  let name := String.ofList (text.takeWhile (· ≠ '='))
  match text.dropWhile (· ≠ '=') with
  | [] => (name, none)
  | _ :: value => (name, some (String.ofList value))

/-- Read the letters of a short option. -/
def readLetters? (specs : List OptionSpec) : List Char → Option (List GivenOption × Following)
  | [] => some ([], .arguments)
  | letter :: rest =>
      match specs.find? (·.letter? = some letter) with
      | none => none
      | some spec =>
          match spec.form, rest with
          | .flag, rest =>
              (readLetters? specs rest).map fun (given, following) =>
                (⟨spec.long, none⟩ :: given, following)
          | .ending, _ => some ([⟨spec.long, none⟩], .nothing)
          | _, [] => some ([], .value spec)
          | _, '=' :: value => some ([⟨spec.long, some (String.ofList value)⟩], .arguments)
          | _, value => some ([⟨spec.long, some (String.ofList value)⟩], .arguments)

def readArgument? (specs : List OptionSpec) (argument : String) :
    Option (List GivenOption × Following) :=
  match argument.toList with
  | '-' :: '-' :: text =>
      let (name, value?) := splitAssignment text
      match specs.find? (·.long = name) with
      | none => none
      | some spec =>
          match spec.form, value? with
          | .flag, none => some ([⟨spec.long, none⟩], .arguments)
          | .ending, none => some ([⟨spec.long, none⟩], .nothing)
          | .flag, some _ | .ending, some _ => none
          | _, some value => some ([⟨spec.long, some value⟩], .arguments)
          | _, none => some ([], .value spec)
  | '-' :: letters => readLetters? specs letters
  | _ => none

/-- Read the options in front of a list of arguments, the first of which may be the value that an
option waits for.  Reading stops at the first argument that is neither an option nor the value of
one, and at an option that ends everything else.  A double dash may stand at the very end. -/
def read? (specs : List OptionSpec) (waiting : Option OptionSpec) :
    List String → Option SplitArguments
  | [] => if waiting.isSome then none else some ⟨[], []⟩
  | argument :: rest =>
      match waiting with
      | some spec =>
          if isOption argument then none
          else (read? specs none rest).map fun split =>
            { split with options := ⟨spec.long, some argument⟩ :: split.options }
      | none =>
          if !isOption argument then some ⟨[], argument :: rest⟩
          else if argument = "--" then
            if rest.isEmpty then some ⟨[], []⟩ else none
          else
            (readArgument? specs argument).bind fun (given, following) =>
              let after := match following with
                | .arguments => read? specs none rest
                | .value spec => read? specs (some spec) rest
                | .nothing => some ⟨[], rest⟩
              after.map fun split => { split with options := given ++ split.options }

end OptionSpec

namespace GivenOption

def valuesOf (long : String) (given : List GivenOption) : List String :=
  given.filterMap fun option => if option.long = long then option.value? else none

def countOf (long : String) (given : List GivenOption) : Nat :=
  given.countP (·.long = long)

/-- Split a value at its commas. -/
def splitValue (value : String) : List String :=
  (Path.splitAt ',' value.toList).map String.ofList

/-- The values of an option that takes lists separated by commas; nothing if it is not given. -/
def listOf? (long : String) (given : List GivenOption) : Option (List String) :=
  if countOf long given = 0 then none
  else some ((valuesOf long given).flatMap splitValue)

end GivenOption

end ShapeCatalog.CommandLine
