import PluginBindings.Text.Blank
import PluginBindings.Text.Word

namespace PluginBindings

-- A scan takes a piece off the front of a text and leaves the rest.
abbrev Scan (α : Type) := StateT Text Option α

namespace Scan

def literal : Text → Scan Unit
  | [], text => some ((), text)
  | c :: word, d :: text => if c == d then literal word text else none
  | _ :: _, [] => none

-- It never gives a character back, so what comes next must not begin inside the run.
def span (accepts : Char → Bool) : Scan Text := fun text =>
  some (text.takeWhile accepts, text.dropWhile accepts)

def span1 (accepts : Char → Bool) : Scan Text := fun text =>
  if text.head?.any accepts then span accepts text else none

def blanks : Scan Text := span isBlank

def name : Scan Text := fun text =>
  if text.head?.any isNameStart then span isWord text else none

def optionally (c : Char) : Scan Unit := fun text =>
  if text.head? == some c then some ((), text.drop 1) else some ((), text)

-- `next` may itself begin with blanks: the longest run after which it succeeds is taken.
def afterBlanks (blank : Char → Bool) (next : Scan α) : Scan α
  | [] => none
  | c :: text => if blank c then afterBlanks blank next text <|> next text else none

def whole (form : Scan α) (text : Text) : Option α :=
  (form text).bind fun read => if read.2.isEmpty then some read.1 else none

def findFirst (form : Scan α) : Text → Option (Text × α × Text)
  | [] => (form []).map fun read => ([], read)
  | c :: text =>
    match form (c :: text) with
    | some read => some ([], read)
    | none => (findFirst form text).map fun found => (c :: found.1, found.2)

def findAtLineStart (form : Scan α) (starts : Bool) : Text → Option (Text × α × Text)
  | [] => if starts then (form []).map fun read => ([], read) else none
  | c :: text =>
    match if starts then form (c :: text) else none with
    | some read => some ([], read)
    | none => (findAtLineStart form (c == '\n') text).map fun found => (c :: found.1, found.2)

end Scan

-- What comes before each place with what was read there, and what comes after the last.
structure Sweep (α : Type) where
  hits : List (Text × α)
  tail : Text

-- A form that reads nothing could be found forever and ends the search instead.
def sweep (form : Scan α) (text : Text) : Sweep α :=
  match Scan.findFirst form text with
  | none => ⟨[], text⟩
  | some (gap, value, rest) =>
    if rest.length < text.length then
      let later := sweep form rest
      ⟨(gap, value) :: later.hits, later.tail⟩
    else ⟨[], text⟩
termination_by text.length

end PluginBindings
