import Mathlib.Data.List.Forall2
import PluginBindings.Json.Ignore

namespace PluginBindings
namespace Json

-- What may be written in more than one way is a relation between a text and what it stands for.

def isGap (c : Char) : Bool := c == ' ' || c == '\n' || c == '\t' || c == '\r'

def Gap (text : Text) : Prop := ∀ c ∈ text, isGap c = true

def HexDigit (digit : Char) (value : Nat) : Prop :=
  value < 16 ∧ (digit = Nat.digitChar value ∨ digit = (Nat.digitChar value).toUpper)

inductive CodeUnit : Text → Nat → Prop where
  | digits (first : HexDigit a n) (second : HexDigit b m) (third : HexDigit c k)
      (fourth : HexDigit d l) : CodeUnit [a, b, c, d] (((n * 16 + m) * 16 + k) * 16 + l)

def shortEscapes : List (Char × Char) :=
  [('"', '"'), ('\\', '\\'), ('/', '/'), ('b', '\x08'), ('f', '\x0c'), ('n', '\n'), ('r', '\r'),
    ('t', '\t')]

inductive Spelling : Text → Char → Prop where
  | plain (quote : c ≠ '"') (escape : c ≠ '\\') (above : 0x20 ≤ c.toNat) : Spelling [c] c
  | short (listed : (sign, c) ∈ shortEscapes) : Spelling ['\\', sign] c
  | unit (written : CodeUnit digits n) (whole : n < 0xD800 ∨ 0xDFFF < n) :
      Spelling ('\\' :: 'u' :: digits) (Char.ofNat n)
  | pair (high : CodeUnit digits n) (low : CodeUnit digits' m) (first : 0xD800 ≤ n ∧ n ≤ 0xDBFF)
      (second : 0xDC00 ≤ m ∧ m ≤ 0xDFFF) :
      Spelling ('\\' :: 'u' :: (digits ++ '\\' :: 'u' :: digits'))
        (Char.ofNat ((n - 0xD800) * 0x400 + (m - 0xDC00) + 0x10000))

inductive Spells : Text → Text → Prop where
  | nil : Spells [] []
  | cons (first : Spelling part c) (later : Spells written text) :
      Spells (part ++ written) (c :: text)

def quoted (written : Text) : Text := '"' :: (written ++ ['"'])

-- A string that nobody reads needs to stand for no text: each half of a pair may stand alone.
inductive Piece : Text → Prop where
  | plain (quote : c ≠ '"') (escape : c ≠ '\\') (above : 0x20 ≤ c.toNat) : Piece [c]
  | short (listed : (sign, c) ∈ shortEscapes) : Piece ['\\', sign]
  | unit (written : CodeUnit digits n) : Piece ('\\' :: 'u' :: digits)

inductive Body : Text → Prop where
  | nil : Body []
  | cons (first : Piece part) (later : Body written) : Body (part ++ written)

def Digits (text : Text) : Prop := text ≠ [] ∧ ∀ c ∈ text, c.isDigit = true

-- Only zero itself begins with a zero.
def Whole (text : Text) : Prop := Digits text ∧ (text.head? = some '0' → text = ['0'])

inductive Fraction : Text → Prop where
  | none : Fraction []
  | digits (written : Digits digits) : Fraction ('.' :: digits)

inductive Exponent : Text → Prop where
  | none : Exponent []
  | digits (marked : mark = 'e' ∨ mark = 'E') (signed : sign = [] ∨ sign = ['+'] ∨ sign = ['-'])
      (written : Digits digits) : Exponent (mark :: (sign ++ digits))

inductive NumberText : Text → Prop where
  | written (signed : sign = [] ∨ sign = ['-']) (whole : Whole digits) (parted : Fraction fraction)
      (scaled : Exponent exponent) : NumberText (sign ++ (digits ++ (fraction ++ exponent)))

inductive Listed : List Text → Text → Prop where
  | last (before : Gap front) (after : Gap back) : Listed [item] (front ++ (item ++ back))
  | next (before : Gap front) (after : Gap back) (later : Listed (other :: items) text) :
      Listed (item :: other :: items) (front ++ (item ++ (back ++ ',' :: text)))

def Bracket.opening : Bracket → Char
  | list => '['
  | object => '{'

inductive Bracketed (bracket : Bracket) : List Text → Text → Prop where
  | empty (gap : Gap inside) : Bracketed bracket [] (bracket.opening :: (inside ++ [bracket.closing]))
  | full (listed : Listed items inside) :
      Bracketed bracket items (bracket.opening :: (inside ++ [bracket.closing]))

inductive MemberText (key value : Text) : Text → Prop where
  | written (before : Gap front) (after : Gap back) :
      MemberText key value (quoted key ++ (front ++ ':' :: (back ++ value)))

inductive ValueText : Text → Prop where
  | word (known : word = "null".toList ∨ word = "true".toList ∨ word = "false".toList) :
      ValueText word
  | number (written : NumberText text) : ValueText text
  | string (body : Body written) : ValueText (quoted written)
  | list (each : ∀ item ∈ items, ValueText item) (written : Bracketed .list items text) :
      ValueText text
  | object {members : List (Text × Text)} (keys : ∀ member ∈ members, Body member.1)
      (each : ∀ member ∈ members, ValueText member.2)
      (spelled : List.Forall₂ (fun member item => MemberText member.1 member.2 item) members items)
      (written : Bracketed .object items text) : ValueText text

end Json
end PluginBindings
