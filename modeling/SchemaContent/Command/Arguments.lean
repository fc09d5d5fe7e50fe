import SchemaContent.Output

/-! # Arguments of the command

The command takes one schema file and a few options, in any order. Arguments are read from left to
right, and the first one that decides the matter does so: a mistake, or a wish for the version or the
help text.
-/

namespace SchemaContent.Command

/-- What to compile, and how. -/
structure Job where
  entry : String
  allowDoctype : Bool
  format : OutputFormat
deriving DecidableEq, Repr

/-- What a command line asks for. -/
inductive Request where
  | compile (job : Job)
  | version
  | help
deriving DecidableEq, Repr

/-- What can be wrong with a command line. -/
inductive UsageError where
  | unknownOption (option : String)
  | repeatedOption (option : String)
  | missingValue (option : String)
  | unknownFormat (word : String)
  | unwantedValue (option value : String)
  | surplusArgument (argument : String)
  | missingEntry
deriving DecidableEq, Repr

def UsageError.message : UsageError → String
  | .unknownOption option => "unexpected option " ++ Text.quote option
  | .repeatedOption option => "option " ++ Text.quote option ++ " cannot be used twice"
  | .missingValue option => "option " ++ Text.quote option ++ " needs a value"
  | .unknownFormat word => "there is no generator " ++ Text.quote word
  | .unwantedValue option value =>
    "option " ++ Text.quote option ++ " takes no value, but has " ++ Text.quote value
  | .surplusArgument argument => "unexpected argument " ++ Text.quote argument
  | .missingEntry => "a schema file is needed"

/-- The form of one argument. Of options that are written with one dash, the first letter counts. -/
inductive Argument where
  | plain (text : String)
  | letter (letter : Char)
  | option (name : String) (value : Option String)
  | endOfOptions
deriving DecidableEq, Repr

/-- The name of an option, and the value that stands after an equals sign. -/
def splitAtEquals (text : List Char) : String × Option String :=
  match text.span (· != '=') with
  | (name, []) => (String.ofList name, none)
  | (name, _ :: value) => (String.ofList name, some (String.ofList value))

def Argument.ofText (text : String) : Argument :=
  match text.toList with
  | ['-', '-'] => .endOfOptions
  | '-' :: '-' :: rest =>
    let (name, value) := splitAtEquals rest
    .option name value
  | '-' :: first :: _ => .letter first
  | _ => .plain text

/-- What the arguments have said so far. -/
structure Settings where
  entry : Option String
  allowDoctype : Bool
  format : Option OutputFormat

namespace Settings

def initial : Settings := ⟨none, false, none⟩

def withEntry (settings : Settings) (entry : String) : Except UsageError Settings :=
  if settings.entry.isSome then .error (.surplusArgument entry)
  else .ok { settings with entry := some entry }

def withDoctype (settings : Settings) : Except UsageError Settings :=
  if settings.allowDoctype then .error (.repeatedOption "--allow-dtd")
  else .ok { settings with allowDoctype := true }

def withFormat (settings : Settings) (word : String) : Except UsageError Settings :=
  if settings.format.isSome then .error (.repeatedOption "--generator")
  else
    match OutputFormat.ofWord? word with
    | some format => .ok { settings with format := some format }
    | none => .error (.unknownFormat word)

def job (settings : Settings) : Except UsageError Job :=
  match settings.entry with
  | some entry => .ok ⟨entry, settings.allowDoctype, settings.format.getD .standard⟩
  | none => .error .missingEntry

/-- Reads arguments that cannot be options. -/
def readPlain (settings : Settings) : List String → Except UsageError Settings
  | [] => .ok settings
  | text :: rest => do
    let settings ← settings.withEntry text
    settings.readPlain rest

def read (settings : Settings) : List String → Except UsageError Request
  | [] => .compile <$> settings.job
  | text :: rest =>
    match Argument.ofText text, rest with
    | .plain text, rest => do
      let settings ← settings.withEntry text
      settings.read rest
    | .endOfOptions, rest => do
      let settings ← settings.readPlain rest
      .compile <$> settings.job
    | .letter 'V', _ => .ok .version
    | .letter 'h', _ => .ok .help
    | .letter _, _ => .error (.unknownOption text)
    | .option "version" none, _ => .ok .version
    | .option "help" none, _ => .ok .help
    | .option "allow-dtd" none, rest => do
      let settings ← settings.withDoctype
      settings.read rest
    | .option "generator" (some word), rest => do
      let settings ← settings.withFormat word
      settings.read rest
    | .option "generator" none, [] => .error (.missingValue text)
    | .option "generator" none, word :: rest => do
      let settings ← settings.withFormat word
      settings.read rest
    | .option "version" (some value), _ => .error (.unwantedValue "--version" value)
    | .option "help" (some value), _ => .error (.unwantedValue "--help" value)
    | .option "allow-dtd" (some value), _ => .error (.unwantedValue "--allow-dtd" value)
    | .option _ _, _ => .error (.unknownOption text)

end Settings

def readArguments (arguments : List String) : Except UsageError Request :=
  Settings.initial.read arguments

example :
    (readArguments ["--generator=listing", "a.xsd", "--allow-dtd"]).toOption =
      some (.compile ⟨"a.xsd", true, .listing⟩) := by
  decide +kernel

example : (readArguments ["a.xsd", "b.xsd", "--version"]).toOption = none := by decide +kernel

end SchemaContent.Command
