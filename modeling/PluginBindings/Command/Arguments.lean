import PluginBindings.Text.Basic

namespace PluginBindings
namespace Command

inductive Purpose where
  | write
  | check
  | print
deriving DecidableEq, Repr

inductive Task where
  | events (descriptors events output : Option Text) (purpose : Purpose)
  | preferences (input output : Option Text) (purpose : Purpose)
  | wrappers (input output : Option Text) (purpose : Purpose)
  | all (purpose : Purpose)
deriving DecidableEq, Repr

structure Invocation where
  settings : Option Text
  root : Text
  verbosity : Nat
  task : Task
deriving DecidableEq, Repr

-- Why a command line is not carried out. Asking for help is no mistake.
inductive Refusal where
  | usage
  | help
deriving DecidableEq, Repr

inductive Switch where
  | config
  | root
  | verbose
  | help
  | descriptors
  | events
  | input
  | output
  | json
  | check
deriving DecidableEq, Repr

namespace Switch

def long : Switch → Text
  | config => "config".toList
  | root => "root".toList
  | verbose => "verbose".toList
  | help => "help".toList
  | descriptors => "descriptors".toList
  | events => "events".toList
  | input => "input".toList
  | output => "output".toList
  | json => "json".toList
  | check => "check".toList

def short : Switch → Option Char
  | config => some 'c'
  | root => some 'r'
  | verbose => some 'v'
  | help => some 'h'
  | descriptors => some 'd'
  | events => some 'e'
  | input => some 'i'
  | output => some 'o'
  | json | check => none

def takesValue : Switch → Bool
  | config | root | descriptors | events | input | output => true
  | verbose | help | json | check => false

def everywhere : List Switch := [config, root, verbose, help]

end Switch

structure Given where
  switch : Switch
  value : Text
deriving DecidableEq, Repr

-- Only verbosity adds up; anything else is given once. No value is empty.
def add (given : List Given) (switch : Switch) (value : Text) : Except Refusal (List Given) :=
  if switch = .help then throw .help
  else if switch.takesValue && value.isEmpty then throw .usage
  else if switch != .verbose && given.any (·.switch = switch) then throw .usage
  else return given ++ [⟨switch, value⟩]

-- The rest of a cluster is the value of a switch that takes one; when nothing is left, the value
-- is still to come.
def addCluster (allowed : List Switch) (given : List Given) :
    Text → Except Refusal (List Given × Option Switch)
  | [] => return (given, none)
  | letter :: rest =>
    match allowed.find? (·.short = some letter) with
    | none => throw .usage
    | some switch =>
      if switch.takesValue then
        match rest with
        | [] => return (given, some switch)
        | '=' :: value => return (← add given switch value, none)
        | value => return (← add given switch value, none)
      else do addCluster allowed (← add given switch []) rest

def addLong (allowed : List Switch) (given : List Given) (word : Text) :
    Except Refusal (List Given × Option Switch) :=
  let (name, attached) :=
    match Text.cutAt? '=' word with
    | some (name, value) => (name, some value)
    | none => (word, none)
  match allowed.find? (·.long = name) with
  | none => throw .usage
  | some switch =>
    match switch.takesValue, attached with
    | true, none => return (given, some switch)
    | true, some value => return (← add given switch value, none)
    | false, none => return (← add given switch [], none)
    | false, some _ => throw .usage

-- What looks like a switch is never the value of another one; a dash by itself is a value.
def isSwitch (argument : Text) : Bool := argument.head? == some '-' && argument != ['-']

-- After two dashes every argument is free.
def readSwitches (allowed : List Switch) (given : List Given) :
    List Text → Except Refusal (List Given × List Text)
  | [] => return (given, [])
  | argument :: rest =>
    if argument = ['-', '-'] then
      if rest.isEmpty then return (given, []) else throw .usage
    else if isSwitch argument then do
      let (given, awaiting) ←
        if argument.take 2 = ['-', '-'] then addLong allowed given (argument.drop 2)
        else addCluster allowed given (argument.drop 1)
      match awaiting, rest with
      | none, rest => readSwitches allowed given rest
      | some _, [] => throw .usage
      | some switch, value :: rest =>
        if isSwitch value then throw .usage
        else readSwitches allowed (← add given switch value) rest
    else return (given, argument :: rest)

def value? (given : List Given) (switch : Switch) : Option Text :=
  (given.find? (·.switch = switch)).map (·.value)

def isGiven (given : List Given) (switch : Switch) : Bool := given.any (·.switch = switch)

def count (given : List Given) (switch : Switch) : Nat :=
  (given.filter (·.switch = switch)).length

def purpose (given : List Given) : Purpose :=
  if isGiven given .json then .print
  else if isGiven given .check then .check
  else .write

structure TaskForm where
  name : Text
  switches : List Switch
  task : List Given → Task

def taskForms : List TaskForm := [
  ⟨"events".toList, [.descriptors, .events, .output, .json, .check], fun given =>
    .events (value? given .descriptors) (value? given .events) (value? given .output)
      (purpose given)⟩,
  ⟨"prefs".toList, [.input, .output, .json, .check], fun given =>
    .preferences (value? given .input) (value? given .output) (purpose given)⟩,
  ⟨"rewrite".toList, [.input, .output, .json, .check], fun given =>
    .wrappers (value? given .input) (value? given .output) (purpose given)⟩,
  ⟨"all".toList, [.check], fun given => .all (purpose given)⟩]

def isTaskName (name : Text) : Bool := taskForms.any (·.name = name)

-- A switch given after the name of the task replaces one given before it: also a count.
def invocation (before after : List Given) (task : Task) : Invocation where
  settings := value? after .config <|> value? before .config
  root := (value? after .root <|> value? before .root).getD ['.']
  verbosity := if isGiven after .verbose then count after .verbose else count before .verbose
  task := task

def readHelp : List Text → Refusal
  | [] => .help
  | [name] => if isTaskName name || name = "help".toList then .help else .usage
  | _ => .usage

def readArguments (arguments : List Text) : Except Refusal Invocation := do
  match ← readSwitches Switch.everywhere [] arguments with
  | (_, []) => throw .usage
  | (before, name :: rest) =>
    match taskForms.find? (·.name = name) with
    | none => throw (if name = "help".toList then readHelp rest else .usage)
    | some form =>
      match ← readSwitches (Switch.everywhere ++ form.switches) [] rest with
      | (after, []) => return invocation before after (form.task after)
      | (_, _ :: _) => throw .usage

end Command
end PluginBindings
