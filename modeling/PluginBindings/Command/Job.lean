import PluginBindings.Command.Arguments
import PluginBindings.Generator
import PluginBindings.Json.Value
import PluginBindings.Settings.Reader

namespace PluginBindings

def joinPath (root path : Text) : Text :=
  if path.head? == some '/' then path
  else if root.isEmpty || root.getLast? == some '/' then root ++ path
  else root ++ ['/'] ++ path

namespace Json

def textList (texts : List Text) : Value := .list (texts.map .text)

def ofDescriptor (descriptor : FieldDescriptor) : Value := .object [
  ("fields".toList, textList descriptor.fields),
  ("key".toList, .text descriptor.key),
  ("line".toList, .number descriptor.line)]

def ofEvent (event : EventSpec) : Value := .object [
  ("field_count_hint".toList, .text event.fieldCountHint),
  ("fields_key".toList, .text event.fieldsKey),
  ("format".toList, .text event.format),
  ("line".toList, .number event.line),
  ("name".toList, .text event.name),
  ("signal".toList, .text event.signal)]

def ofPreference (preference : Preference) : Value := .object [
  ("name".toList, .text preference.name),
  ("line".toList, .number preference.line),
  ("type_".toList, .text preference.kind.name)]

def ofSignature (signature : Signature) : Value := .object [
  ("name".toList, .text signature.name),
  ("parameters".toList, textList signature.parameters),
  ("indentation_unit".toList, .text signature.indentationUnit)]

def printed (value : Value) : Text := value.pretty 0 ++ ['\n']

end Json

namespace Command

inductive Action where
  | write (path : Text)
  | check (path : Text)
  | print
deriving DecidableEq, Repr

def Purpose.action (output : Text) : Purpose → Action
  | write => .write output
  | check => .check output
  | print => .print

inductive Job where
  | events (descriptors table : Text) (action : Action)
  | preferences (input : Text) (action : Action)
  | wrappers (input : Text) (action : Action)
deriving DecidableEq, Repr

namespace Job

def action : Job → Action
  | events _ _ action | preferences _ action | wrappers _ action => action

def inputs : Job → List Text
  | events descriptors table _ => [descriptors, table]
  | preferences input _ | wrappers input _ => [input]

def readInput (input : Input) (path : Text) : Outcome Text :=
  match input path with
  | .ok text => return text
  | .error kind => Outcome.fail (.access kind)

-- Printing shows what was read, before anything is joined or removed.
def product [PatternEngine] (settings : Settings) (input : Input) : Job → Outcome Text
  | events descriptors table action => do
    let descriptorText ← readInput input descriptors
    let eventText ← readInput input table
    if action = .print then
      let descriptors ← (Descriptor.read descriptorText settings.descriptorHeader).collect
      let events ← EventSpec.readAll eventText settings.eventStride
      return Json.printed (.object [
        ("descriptors".toList, .list (descriptors.map Json.ofDescriptor)),
        ("events".toList, .list (events.map Json.ofEvent))])
    else Generator.events settings descriptorText eventText
  | preferences path action => do
    let text ← readInput input path
    if action = .print then
      let preferences ← Preference.readAll text settings.preferenceHeader
      return Json.printed (.list (preferences.map Json.ofPreference))
    else Generator.preferences settings text
  | wrappers path action => do
    let text ← readInput input path
    if action = .print then
      let signatures ← Outcome.ofExcept (Signature.readAll text)
      return Json.printed (.list (signatures.map Json.ofSignature))
    else return (← Generator.wrappers settings text).text

end Job

def Invocation.jobs (invocation : Invocation) (settings : Settings) : List Job :=
  let path (given : Option Text) (configured : Text) := joinPath invocation.root (given.getD configured)
  let events (descriptors table output : Option Text) (purpose : Purpose) : Job :=
    .events (path descriptors settings.layout.descriptors) (path table settings.layout.events)
      (purpose.action (path output settings.layout.eventsOutput))
  let preferences (input output : Option Text) (purpose : Purpose) : Job :=
    .preferences (path input settings.layout.preferences)
      (purpose.action (path output settings.layout.preferencesOutput))
  let wrappers (input output : Option Text) (purpose : Purpose) : Job :=
    .wrappers (path input settings.layout.declarations)
      (purpose.action (path output settings.layout.declarationsOutput))
  match invocation.task with
  | .events descriptors table output purpose => [events descriptors table output purpose]
  | .preferences input output purpose => [preferences input output purpose]
  | .wrappers input output purpose => [wrappers input output purpose]
  | .all purpose =>
    [events none none none purpose, preferences none none purpose, wrappers none none purpose]

end Command
end PluginBindings
