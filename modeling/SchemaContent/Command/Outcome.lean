import SchemaContent.Command.Arguments
import SchemaContent.Import.Resolver
import SchemaContent.Loading
import SchemaContent.Text.Words

/-! # The command

What the command does with files and arguments: the text it prints, or the report of what went wrong,
and an exit code that tells which it was. A report shows a message and what lies behind it, each cause
below its effect. More than one cause are numbered, from zero on.
-/

namespace SchemaContent.Command

/-! ## Reports -/

def textLines (text : String) : List String :=
  (Text.cut (· == '\n') text.toList).map String.ofList

/-- The text with blanks before it, up to a width. -/
def alignRight (width : Nat) (text : String) : String :=
  String.ofList (List.replicate (width - text.length) ' ') ++ text

/-- The lines of a cause: `first` stands before the first one, and `later` before the others. -/
def causeLines (first later cause : String) : List String :=
  match textLines cause with
  | [] => []
  | line :: lines => (first ++ line) :: lines.map (later ++ ·)

def causesLines : List String → List String
  | [cause] => causeLines "    " "    " cause
  | causes =>
    causes.zipIdx.flatMap fun (cause, number) =>
      causeLines (alignRight 5 (toString number) ++ ": ") "       " cause

/-- The report of a message and its causes. Every line ends with a line feed. -/
def report (message : String) (causes : List String) : String :=
  let explanation := if causes.isEmpty then [] else "" :: "Caused by:" :: causesLines causes
  String.join ((("Error: " ++ message) :: explanation).map (· ++ "\n"))

example :
    report "no output" ["not loaded", "not found"] =
      "Error: no output\n\nCaused by:\n    0: not loaded\n    1: not found\n" := by
  decide +kernel

/-! ## Runs -/

/-- How a run ends. -/
structure Outcome where
  exitCode : UInt8
  output : String
  report : String
deriving DecidableEq, Repr

namespace Outcome

def done (output : String) : Outcome := ⟨0, output, ""⟩

/-- The exit code for an error. A document that ends more elements than it begins is not read on, not
even for a better report. -/
def exitCodeOf : SchemaError → UInt8
  | .notWellFormed (.endTagOutside _) => 101
  | _ => 1

def failed (message : String) (failure : SchemaError) : Outcome :=
  ⟨exitCodeOf failure, "", Command.report message (failure.message :: failure.causes)⟩

def misused (mistake : UsageError) : Outcome :=
  ⟨2, "", Command.report mistake.message ["see --help"]⟩

/-- The declarations cannot be written, as a name is no identifier. -/
def unwritable (invalid : Declarations.InvalidIdentifier) : Outcome :=
  ⟨101, "", Command.report (Text.quote invalid.text ++ " is not an identifier") []⟩

end Outcome

def versionText : String := "xcm-generator 0.1.0\n"

def helpText : String :=
  "Usage: xcm-generate [OPTIONS] <INPUT>\n\n" ++
  "Arguments:\n" ++
  "  <INPUT>  The schema file to compile; imported modules are loaded relative to it\n\n" ++
  "Options:\n" ++
  "      --allow-dtd              Allow a document type definition to occur\n" ++
  "      --generator <GENERATOR>  rust or listing\n" ++
  "  -h, --help                   Show this text\n" ++
  "  -V, --version                Show the version\n"

/-- Loads the schemas of a job, compiles them, and writes the content models. -/
def Job.run (files : FileSystem) (job : Job) : Outcome :=
  match SchemaSet.load files.resolver job.entry job.allowDoctype with
  | .error failure => .failed ("failed to load schema " ++ job.entry) failure
  | .ok set =>
    match set.contentModels with
    | .error failure => .failed "failed to compile content models" failure
    | .ok models =>
      match job.format.write models with
      | .error invalid => .unwritable invalid
      | .ok text => .done text

def run (files : FileSystem) (arguments : List String) : Outcome :=
  match readArguments arguments with
  | .error mistake => .misused mistake
  | .ok .version => .done versionText
  | .ok .help => .done helpText
  | .ok (.compile job) => job.run files

end SchemaContent.Command
