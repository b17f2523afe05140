namespace PluginBindings

-- A text is the list of its characters, so that every law of a reader is an induction on it.
abbrev Text := List Char

namespace Text

def ofNat (n : Nat) : Text := Nat.toDigits 10 n

def join (separator : Text) (parts : List Text) : Text := List.intercalate separator parts

def pieces (separates : Char → Bool) : Text → List Text
  | [] => [[]]
  | c :: rest =>
    match pieces separates rest with
    | [] => []
    | first :: others =>
      if separates c then [] :: first :: others else (c :: first) :: others

-- In UTF-8.
def byteCount : Text → Nat
  | [] => 0
  | c :: rest => c.utf8Size + byteCount rest

def cutAt? (c : Char) : Text → Option (Text × Text)
  | [] => none
  | d :: rest =>
    if d == c then some ([], rest)
    else (cutAt? c rest).map fun parts => (d :: parts.1, parts.2)

def cutAtLast? (c : Char) (text : Text) : Option (Text × Text) :=
  (cutAt? c text.reverse).map fun parts => (parts.2.reverse, parts.1.reverse)

def before (text rest : Text) : Text := text.take (text.length - rest.length)

theorem before_append (front rest : Text) : before (front ++ rest) rest = front := by
  simp [before]

end Text
end PluginBindings
