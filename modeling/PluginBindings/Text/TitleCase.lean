import PluginBindings.Text.Word
import PluginBindings.Unicode.Case
import PluginBindings.Unicode.Cased

namespace PluginBindings
namespace Text

def upperCase (c : Char) : Text :=
  match Unicode.upperExpansions.lookup c.toNat with
  | some points => points.map Char.ofNat
  | none => [Char.ofNat (Unicode.mapPoint Unicode.upperRuns c.toNat)]

-- Only the dotted capital I has a lower case of two characters.
def lowerCase (c : Char) : Text :=
  if c == 'İ' then ['i', Char.ofNat 0x307]
  else [Char.ofNat (Unicode.mapPoint Unicode.lowerRuns c.toNat)]

def letterComesNext (text : Text) : Bool :=
  match text.dropWhile fun c => Unicode.caseIgnorableBounds.contains c.toNat with
  | [] => false
  | c :: _ => Unicode.casedBounds.contains c.toNat

-- Sigma has a form of its own at the end of a word; `seen` stands before it, nearest first.
def lowerCaseAfter (seen : Text) : Text → Text
  | [] => []
  | c :: rest =>
    (if c == 'Σ' then [if letterComesNext seen && !letterComesNext rest then 'ς' else 'σ']
      else lowerCase c) ++ lowerCaseAfter (c :: seen) rest

-- The first character never counts as a letter before a sigma.
def titleCase : Text → Text
  | [] => []
  | c :: rest => upperCase c ++ lowerCaseAfter [] rest

def joinTitleCase (words : List Text) : Text := words.flatMap titleCase

def toIdentifier (name : Text) : Text := joinTitleCase (pieces (fun c => !isWord c) name)

def toPascalCase (name : Text) : Text := joinTitleCase (pieces (· == '_') name)

end Text
end PluginBindings
