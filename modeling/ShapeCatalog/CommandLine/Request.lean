import ShapeCatalog.CommandLine.Options

/-!
What a command line asks for.
-/

namespace ShapeCatalog.CommandLine

/-- What to compile, and where to write the catalog. -/
structure CompileRequest where
  specs : Option (List String)
  specDir : Option String
  filter : Option (List String)
  output : String
  compact : Bool
deriving Repr, DecidableEq

/-- Which model to show, and how much of it. -/
structure InspectRequest where
  spec : String
  operations : Bool
deriving Repr, DecidableEq

inductive Command where
  | compile (request : CompileRequest)
  | inspect (request : InspectRequest)
deriving Repr, DecidableEq

/-- What is asked for: help, the version, a command, or nothing that can be understood. -/
inductive Request where
  | help
  | version
  | command (verbose : Bool) (command : Command)
  | misuse
deriving Repr, DecidableEq

namespace Request

/-- The options that every command has. -/
def sharedOptions : List OptionSpec :=
  [⟨"verbose", some 'v', .flag⟩, ⟨"help", some 'h', .ending⟩]

/-- The options in front of the command. -/
def mainOptions : List OptionSpec :=
  sharedOptions ++ [⟨"version", some 'V', .ending⟩]

def compileOptions : List OptionSpec :=
  sharedOptions ++
    [⟨"specs", some 's', .values⟩, ⟨"spec-dir", none, .value⟩, ⟨"filter", none, .values⟩,
     ⟨"output", some 'o', .value⟩, ⟨"compact", none, .flag⟩]

def inspectOptions : List OptionSpec :=
  sharedOptions ++ [⟨"spec", some 's', .value⟩, ⟨"operations", none, .flag⟩]

/-- The options whose values are paths. -/
def pathOptions : List String :=
  ["specs", "spec-dir", "output", "spec"]

/-- Whether no option is given twice that may be given once, and no path is empty. -/
def isSound (specs : List OptionSpec) (given : List GivenOption) : Bool :=
  specs.all (fun spec => spec.form = .values || GivenOption.countOf spec.long given ≤ 1)
    && pathOptions.all fun long =>
      (GivenOption.valuesOf long given).all fun value =>
        if long = "specs" then !(GivenOption.splitValue value).contains "" else value != ""

def has (long : String) (given : List GivenOption) : Bool :=
  GivenOption.countOf long given != 0

/-- Read the options of a command, which takes no other arguments. -/
def ofOptions (specs : List OptionSpec) (verbose : Bool) (arguments : List String)
    (command? : List GivenOption → Option Command) : Request :=
  match OptionSpec.read? specs none arguments with
  | none => .misuse
  | some ⟨given, rest⟩ =>
      if !isSound specs given then .misuse
      else if has "help" given then .help
      else if !rest.isEmpty then .misuse
      else
        match command? given with
        | none => .misuse
        | some chosen => .command (verbose || has "verbose" given) chosen

/-- The options of `compile` as a command.  Files and a directory exclude each other. -/
def compile? (given : List GivenOption) : Option Command :=
  if has "specs" given && has "spec-dir" given then none
  else some <| .compile {
    specs := GivenOption.listOf? "specs" given
    specDir := (GivenOption.valuesOf "spec-dir" given).head?
    filter := GivenOption.listOf? "filter" given
    output := (GivenOption.valuesOf "output" given).head?.getD "./catalog.json"
    compact := has "compact" given }

/-- The options of `inspect` as a command.  The file must be given. -/
def inspect? (given : List GivenOption) : Option Command :=
  (GivenOption.valuesOf "spec" given).head?.map fun spec =>
    .inspect ⟨spec, has "operations" given⟩

/-- What the arguments of a command line ask for. -/
def ofArguments (arguments : List String) : Request :=
  match OptionSpec.read? mainOptions none arguments with
  | none => .misuse
  | some ⟨given, rest⟩ =>
      if !isSound mainOptions given then .misuse
      else if has "help" given then .help
      else if has "version" given then .version
      else
        match rest with
        | "compile" :: rest => ofOptions compileOptions (has "verbose" given) rest compile?
        | "inspect" :: rest => ofOptions inspectOptions (has "verbose" given) rest inspect?
        | ["help"] | ["help", "help"] | ["help", "compile"] | ["help", "inspect"] => .help
        | _ => .misuse

end Request

end ShapeCatalog.CommandLine
