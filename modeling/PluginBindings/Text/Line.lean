import PluginBindings.Text.Basic

namespace PluginBindings
namespace Text

def extendFirst (c : Char) : List Text → List Text
  | [] => [[c]]
  | line :: lines => (c :: line) :: lines

-- A line takes one carriage return right before its line feed along; any other one is text.
-- After the last line feed nothing starts a line of its own.
def lines : Text → List Text
  | [] => []
  | '\n' :: rest => [] :: lines rest
  | '\r' :: '\n' :: rest => [] :: lines rest
  | c :: rest => extendFirst c (lines rest)

def lastLine (text : Text) : Text := (text.reverse.takeWhile (· != '\n')).reverse

end Text

structure Line where
  number : Nat
  text : Text
deriving DecidableEq, Repr

-- Numbers count from the top of the text: leaving out a header does not renumber.
def numberedLines (text : Text) (header : Nat) : List Line :=
  (((Text.lines text).zipIdx 1).map fun row => Line.mk row.2 row.1).drop header

end PluginBindings
