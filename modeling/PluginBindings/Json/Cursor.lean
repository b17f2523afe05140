import PluginBindings.Json.Problem

namespace PluginBindings
namespace Json

structure Flaw where
  problem : Problem
  line : Nat
  column : Nat
deriving DecidableEq, Repr

-- What is left of a document, and where: `column` counts the bytes of the line so far.
structure Cursor where
  rest : Text
  line : Nat
  column : Nat
deriving DecidableEq, Repr

namespace Cursor

def start (document : Text) : Cursor := ⟨document, 1, 0⟩

def past (cursor : Cursor) (c : Char) (rest : Text) : Cursor :=
  if c == '\n' then ⟨rest, cursor.line + 1, 0⟩ else ⟨rest, cursor.line, cursor.column + c.utf8Size⟩

-- A longer character is left in the middle of its bytes when fewer of them are asked for.
def pastBytesFrom (line column : Nat) : Nat → Text → Cursor
  | _, [] => ⟨[], line, column⟩
  | 0, rest => ⟨rest, line, column⟩
  | less + 1, c :: rest =>
    if c == '\n' then pastBytesFrom (line + 1) 0 less rest
    else if c.utf8Size ≤ less + 1 then
      pastBytesFrom line (column + c.utf8Size) (less + 1 - c.utf8Size) rest
    else ⟨rest, line, column + (less + 1)⟩

def pastBytes (cursor : Cursor) (count : Nat) : Cursor :=
  pastBytesFrom cursor.line cursor.column count cursor.rest

end Cursor

abbrev Read (α : Type) := StateT Cursor (Except Flaw) α

namespace Read

def fail (problem : Problem) : Read α := fun cursor => .error ⟨problem, cursor.line, cursor.column⟩

def failAtNext (problem : Problem) : Read α := fun cursor =>
  fail problem (cursor.pastBytes 1)

def peek : Read (Option Char) := fun cursor => .ok (cursor.rest.head?, cursor)

def skip : Read Unit := fun cursor =>
  match cursor.rest with
  | [] => .ok ((), cursor)
  | c :: rest => .ok ((), cursor.past c rest)

def whileFrom (accepts : Char → Bool) : Text → Text → Cursor → Text × Cursor
  | taken, [], cursor => (taken.reverse, cursor)
  | taken, c :: rest, cursor =>
    if accepts c then whileFrom accepts (c :: taken) rest (cursor.past c rest)
    else (taken.reverse, cursor)

def takeWhile (accepts : Char → Bool) : Read Text := fun cursor =>
  .ok (whileFrom accepts [] cursor.rest cursor)

def blanks : Read Unit := do
  let _ ← takeWhile fun c => c == ' ' || c == '\n' || c == '\t' || c == '\r'

def peekAfterBlanks : Read (Option Char) := do
  blanks
  peek

def remaining : Read Nat := fun cursor => .ok (cursor.rest.length, cursor)

def word : Text → Read Unit
  | [] => return ()
  | c :: rest => do
    match ← peek with
    | none => fail .endInValue
    | some d =>
      if d == c then
        skip
        word rest
      else failAtNext .expectedIdent

end Read
end Json
end PluginBindings
