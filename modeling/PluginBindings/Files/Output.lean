import PluginBindings.Files.Tree
import PluginBindings.Report.Outcome

namespace PluginBindings
namespace Output

-- A generated text is put in place, or only compared with what is there.

def write (tree : FileTree) (path text : Text) : FileTree × Outcome Unit :=
  match tree.write path text with
  | (after, .ok ()) => (after, Outcome.note (.outputWritten path))
  | (after, .error kind) => (after, Outcome.fail (.access kind))

-- A missing output is out of date; one that cannot be read is a fault of its own.
def compare (found : Except AccessKind Text) (path text : Text) : Outcome Unit :=
  match found with
  | .ok existing =>
    if existing = text then Outcome.note (.outputCurrent path)
    else Outcome.fail (.staleOutput path)
  | .error .notFound => Outcome.fail (.staleOutput path)
  | .error kind => Outcome.fail (.access kind)

def check (tree : FileTree) (path text : Text) : Outcome Unit :=
  compare (tree.readText path) path text

end Output
end PluginBindings
