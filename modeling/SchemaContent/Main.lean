import SchemaContent.Command.Outcome

/-! # The program

Runs the command on the files of the machine. The command itself works on a tree of files; what it
needs of the machine's files is brought into the tree beforehand, one missing document after the other.
-/

namespace SchemaContent.Command

def Job.missing? (files : FileSystem) (job : Job) : Option String :=
  match SchemaSet.load files.resolver job.entry job.allowDoctype with
  | .error (.notLoaded _ (.notFound path)) => some path
  | _ => none

/-- What the machine has under a path. Links appear as what they lead to. -/
def look (path : String) : IO (Option FileTree) := do
  match ← (IO.FS.realPath path).toBaseIO with
  | .error _ => return none
  | .ok real =>
    if ← real.isDir then return some (.directory [])
    match ← (IO.FS.readBinFile real).toBaseIO with
    | .error _ => return some (.file none)
    | .ok bytes => return some (.file (String.fromUTF8? bytes))

/-- Brings everything into the tree that lies along a path. -/
def bringPath (files : FileSystem) (path : String) : IO FileSystem := do
  let mut names := if path.startsWith "/" then [] else files.current
  let mut root := files.root
  for component in pathComponents path do
    if component = "" ∨ component = "." then continue
    if component = ".." then
      names := names.dropLast
      continue
    names := names ++ [component]
    if (root.get? names).isSome then continue
    match ← look (pathText names) with
    | none => break
    | some tree => root := FileTree.place tree names root
  return { files with root := root }

/-- Brings documents into the tree until the job misses none that the machine has. -/
partial def bringDocuments (files : FileSystem) (job : Job) : IO FileSystem := do
  match job.missing? files with
  | none => return files
  | some path =>
    let more ← bringPath files path
    if job.missing? more = some path then return more else bringDocuments more job

def workingDirectory : IO FileSystem := do
  let path ← IO.FS.realPath "."
  let names := (pathComponents path.toString).filter (· ≠ "")
  return ⟨FileTree.place (.directory []) names (.directory []), names⟩

end SchemaContent.Command

open SchemaContent.Command in
def main (arguments : List String) : IO UInt32 := do
  let files ← workingDirectory
  let files ←
    match readArguments arguments with
    | .ok (.compile job) => bringDocuments files job
    | _ => pure files
  let outcome := run files arguments
  IO.print outcome.output
  IO.eprint outcome.report
  return outcome.exitCode.toUInt32
