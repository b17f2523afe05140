import PluginBindings.Command.Job
import PluginBindings.Files.Output

namespace PluginBindings
namespace Command

structure Run where
  tree : FileTree
  printed : Text
  notices : List Notice
  fault : Option Fault

def Action.run (tree : FileTree) (product : Text) : Action → FileTree × Outcome Text
  | .write path =>
    let (after, written) := Output.write tree path product
    (after, do written; return [])
  | .check path => (tree, do Output.check tree path product; return [])
  | .print => (tree, return product)

def Job.run [PatternEngine] (settings : Settings) (tree : FileTree) (job : Job) :
    FileTree × Outcome Text :=
  let product := job.product settings tree.readText
  match product.result with
  | .error _ => (tree, product)
  | .ok text =>
    let (after, printed) := job.action.run tree text
    (after, product >>= fun _ => printed)

def runJobs [PatternEngine] (settings : Settings) (tree : FileTree) : List Job → Run
  | [] => ⟨tree, [], [], none⟩
  | job :: jobs =>
    let (after, outcome) := job.run settings tree
    match outcome.result with
    | .error fault => ⟨after, [], outcome.notices, some fault⟩
    | .ok printed =>
      let rest := runJobs settings after jobs
      { rest with printed := printed ++ rest.printed, notices := outcome.notices ++ rest.notices }

def Invocation.readSettings (invocation : Invocation) (input : Input) : Except Fault Settings :=
  match invocation.settings with
  | none => .ok {}
  | some path => Settings.load (joinPath invocation.root path) input

def Invocation.run [PatternEngine] (invocation : Invocation) (tree : FileTree) : Run :=
  match invocation.readSettings tree.readText with
  | .error fault => ⟨tree, [], [], some fault⟩
  | .ok settings => runJobs settings tree (invocation.jobs settings)

def Invocation.shows (invocation : Invocation) (notice : Notice) : Bool :=
  notice.level.verbosity ≤ invocation.verbosity

structure Report where
  code : Nat
  printed : Text
  notices : List Notice
  fault : Option Fault
  tree : FileTree

def run [PatternEngine] (arguments : List Text) (tree : FileTree) : Report :=
  match readArguments arguments with
  | .error .help => ⟨0, [], [], none, tree⟩
  | .error .usage => ⟨2, [], [], none, tree⟩
  | .ok invocation =>
    let run := invocation.run tree
    ⟨if run.fault.isSome then 1 else 0, run.printed, run.notices.filter invocation.shows, run.fault,
      run.tree⟩

end Command
end PluginBindings
