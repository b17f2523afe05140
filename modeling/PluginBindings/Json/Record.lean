import PluginBindings.Json.Ignore
import PluginBindings.Text.Escaped

namespace PluginBindings
namespace Json

structure Field (σ : Type) where
  name : Text
  read : Read (σ → σ)

namespace Read

-- A list or an object is named by its bracket alone.
def unexpected (expected : Text) : Read α := do
  match ← peek with
  | none => fail .expectedValue
  | some c =>
    if c == 'n' then
      word "null".toList
      fail (.wrongType "null".toList expected)
    else if c == 't' then
      word "true".toList
      fail (.wrongType "boolean `true`".toList expected)
    else if c == 'f' then
      word "false".toList
      fail (.wrongType "boolean `false`".toList expected)
    else if c == '-' then
      skip
      fail (.wrongType (← number false).shown expected)
    else if c.isDigit then
      fail (.wrongType (← number true).shown expected)
    else if c == '"' then
      skip
      fail (.wrongType ("string ".toList ++ Text.shown (← string)) expected)
    else if c == '[' then fail (.wrongType "sequence".toList expected)
    else if c == '{' then fail (.wrongType "map".toList expected)
    else failAtNext .expectedValue

def countName : Text := "usize".toList

def judged : Number → Read Nat
  | .natural value => return value
  | found@(.negative _) => fail (.wrongValue found.shown countName)
  | found@(.floating ..) => fail (.wrongType found.shown countName)

def count : Read Nat := do
  match ← peekAfterBlanks with
  | none => fail .endInValue
  | some c =>
    if c == '-' then
      skip
      judged (← number false)
    else if c.isDigit then judged (← number true)
    else unexpected countName

def stringFor (expected : Text) : Read Text := do
  match ← peekAfterBlanks with
  | none => fail .endInValue
  | some c =>
    if c == '"' then
      skip
      string
    else unexpected expected

def atElement (first : Bool) : Read Bool := do
  match ← peekAfterBlanks with
  | none => fail .endInList
  | some c =>
    if c == ']' then return false
    else if first then return true
    else if c == ',' then
      skip
      match ← peekAfterBlanks with
      | none => fail .endInValue
      | some d => if d == ']' then failAtNext .trailingComma else return true
    else failAtNext .expectedListCommaOrEnd

-- A list that ends early leaves the later fields alone.
def elements (record : σ) (first : Bool) : List (Field σ) → Read σ
  | [] => return record
  | field :: fields => do
    if ← atElement first then
      let set ← field.read
      elements (set record) false fields
    else return record

def closeList : Read Unit := do
  match ← peekAfterBlanks with
  | none => fail .endInList
  | some c =>
    if c == ']' then skip
    else if c == ',' then
      skip
      if (← peekAfterBlanks) == some ']' then failAtNext .trailingComma
      else failAtNext .trailingCharacters
    else failAtNext .trailingCharacters

def atMember (first : Bool) : Read Bool := do
  match ← peekAfterBlanks with
  | none => fail .endInObject
  | some c =>
    if c == '}' then return false
    else if first then
      if c == '"' then return true else failAtNext .keyMustBeString
    else if c == ',' then
      skip
      match ← peekAfterBlanks with
      | none => fail .endInValue
      | some d =>
        if d == '"' then return true
        else if d == '}' then failAtNext .trailingComma
        else failAtNext .keyMustBeString
    else failAtNext .expectedObjectCommaOrEnd

-- A repeated key is found before its value is looked at.
def duplicate (name : Text) : Read α := do
  if (← peekAfterBlanks) == some '}' then skip
  fail (.duplicateField name)

-- Keys of no field are passed over with their values, as often as they come.
def members (fields : List (Field σ)) (seen : List Text) (first : Bool) (record : σ) :
    (rounds : Nat) → Read σ
  | 0 => fail .endInObject
  | rounds + 1 => do
    if ← atMember first then
      skip
      let key ← string
      match fields.find? (·.name == key) with
      | none =>
        colon
        ignoreValue
        members fields seen false record rounds
      | some field =>
        if seen.contains key then duplicate key
        else
          colon
          let set ← field.read
          members fields (key :: seen) false (set record) rounds
    else
      skip
      return record

-- What is not written stays as in `default`.
def record (expected : Text) (fields : List (Field σ)) (default : σ) : Read σ := do
  match ← peekAfterBlanks with
  | none => fail .endInValue
  | some c =>
    if c == '[' then
      skip
      let read ← elements default true fields
      closeList
      return read
    else if c == '{' then
      skip
      members fields [] true default ((← remaining) + 1)
    else unexpected expected

def document (value : Read α) (text : Text) : Except Flaw α := do
  let (read, cursor) ← value (.start text)
  let (next, cursor) ← peekAfterBlanks cursor
  if next.isNone then return read
  else
    let (read, _) ← (failAtNext .trailingCharacters : Read α) cursor
    return read

end Read
end Json
end PluginBindings
