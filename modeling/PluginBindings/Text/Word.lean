import PluginBindings.Text.Basic
import PluginBindings.Unicode.Word

namespace PluginBindings

def isWord (c : Char) : Bool := Unicode.wordBounds.contains c.toNat

-- The first character of a name is the only place where names and words differ.
def isNameStart (c : Char) : Bool := c.isAlpha || c == '_'

def isName : Text → Bool
  | [] => false
  | c :: rest => isNameStart c && rest.all isWord

-- The ends of a text count as characters outside every word.
def isWordBoundary (left right : Option Char) : Bool := left.any isWord != right.any isWord

end PluginBindings
