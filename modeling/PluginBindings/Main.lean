import PluginBindings.Command.Run

namespace PluginBindings
namespace CommandLine

-- The same jobs as on a file tree, with the files of the system in its place.

def usage : String :=
  "Usage: plugin-bindings [-c FILE] [-r DIRECTORY] [-v]... COMMAND\n\n" ++
  "  events   [-d FILE] [-e FILE] [-o FILE] [--json] [--check]\n" ++
  "  prefs    [-i FILE] [-o FILE] [--json] [--check]\n" ++
  "  rewrite  [-i FILE] [-o FILE] [--json] [--check]\n" ++
  "  all      [--check]\n"

def accessKind : IO.Error → AccessKind
  | .noFileOrDirectory .. => .notFound
  | .noSuchThing .. => .notFound
  | .inappropriateType _ code _ => if code == 20 then .notADirectory else .isADirectory
  | .resourceBusy .. => .resourceBusy
  | .permissionDenied .. => .permissionDenied
  | .invalidArgument .. => .invalidInput
  | _ => .other

def readText (path : Text) : IO (Except AccessKind Text) := do
  try
    match String.fromUTF8? (← IO.FS.readBinFile (String.ofList path)) with
    | some text => return .ok text.toList
    | none => return .error .invalidData
  catch error => return .error (accessKind error)

-- Every input of a job is read before the job starts.
def readInputs (paths : List Text) : IO Input := do
  let found ← paths.mapM fun path => do return (path, ← readText path)
  return fun path => (found.lookup path).getD (.error .notFound)

def preparedPath (path : Text) : Text :=
  let parent := Text.join ['/'] (FileTree.parentNames path)
  let directory := if path.head? == some '/' then parent else "./".toList ++ parent
  directory ++ "/.plugin-bindings.tmp".toList

def moveOnto (path prepared : String) : IO (Except AccessKind Unit) := do
  try
    IO.FS.rename prepared path
    return .ok ()
  catch error =>
    IO.FS.removeFile prepared
    return .error (accessKind error)

def writeText (path text : Text) : IO (Except AccessKind Unit) := do
  let prepared := String.ofList (preparedPath path)
  match ← (IO.FS.writeFile prepared (String.ofList text)).toBaseIO with
  | .ok () => moveOnto (String.ofList path) prepared
  | .error error =>
    discard (IO.FS.removeFile prepared).toBaseIO
    return .error (accessKind error)

def tell (invocation : Command.Invocation) (notices : List Notice) : IO Unit :=
  for notice in notices do
    if invocation.shows notice then
      IO.println (String.ofList (notice.level.name ++ [' '] ++ notice.message))

def settle (invocation : Command.Invocation) (outcome : Outcome α) : IO (Except Fault α) := do
  tell invocation outcome.notices
  return outcome.result

def runJob [PatternEngine] (invocation : Command.Invocation) (settings : Settings)
    (job : Command.Job) : IO (Except Fault Unit) := do
  let product ← settle invocation (job.product settings (← readInputs job.inputs))
  match product, job.action with
  | .error fault, _ => return .error fault
  | .ok text, .print =>
    IO.print (String.ofList text)
    return .ok ()
  | .ok text, .check path => settle invocation (Output.compare (← readText path) path text)
  | .ok text, .write path =>
    match ← writeText path text with
    | .error kind => return .error (.access kind)
    | .ok () => settle invocation (Outcome.note (.outputWritten path))

def runJobs [PatternEngine] (invocation : Command.Invocation) (settings : Settings) :
    List Command.Job → IO (Except Fault Unit)
  | [] => return .ok ()
  | job :: jobs => do
    match ← runJob invocation settings job with
    | .error fault => return .error fault
    | .ok () => runJobs invocation settings jobs

def run [PatternEngine] (invocation : Command.Invocation) : IO (Except Fault Unit) := do
  let paths := invocation.settings.toList.map (joinPath invocation.root)
  match invocation.readSettings (← readInputs paths) with
  | .error fault => return .error fault
  | .ok settings => runJobs invocation settings (invocation.jobs settings)

end CommandLine
end PluginBindings

open PluginBindings in
def main (arguments : List String) : IO UInt32 := do
  match Command.readArguments (arguments.map String.toList) with
  | .error .help =>
    IO.print CommandLine.usage
    return 0
  | .error .usage =>
    IO.eprint CommandLine.usage
    return 2
  | .ok invocation =>
    match ← @CommandLine.run .standard invocation with
    | .ok () => return 0
    | .error fault =>
      IO.eprintln (String.ofList ("Error: ".toList ++ fault.shown))
      return 1
