import PluginBindings.Json.Record
import PluginBindings.Report.Fault
import PluginBindings.Settings.Basic

namespace PluginBindings

def FileLayout.pathField (name : String) (set : Text → FileLayout → FileLayout) :
    Json.Field FileLayout :=
  ⟨name.toList, do return set (← Json.Read.stringFor "path string".toList)⟩

-- In the order in which a list of paths is read.
def FileLayout.fields : List (Json.Field FileLayout) := [
  pathField "descriptors" fun path layout => { layout with descriptors := path },
  pathField "events" fun path layout => { layout with events := path },
  pathField "events_output" fun path layout => { layout with eventsOutput := path },
  pathField "prefs" fun path layout => { layout with preferences := path },
  pathField "prefs_output" fun path layout => { layout with preferencesOutput := path },
  pathField "signatures" fun path layout => { layout with declarations := path },
  pathField "signatures_output" fun path layout => { layout with declarationsOutput := path }]

def FileLayout.read : Json.Read FileLayout :=
  Json.Read.record "struct PathConfig".toList fields {}

abbrev Input := Text → Except AccessKind Text

namespace Settings

def countField (name : String) (set : Nat → Settings → Settings) : Json.Field Settings :=
  ⟨name.toList, do return set (← Json.Read.count)⟩

def textField (name : String) (set : Text → Settings → Settings) : Json.Field Settings :=
  ⟨name.toList, do return set (← Json.Read.stringFor "a string".toList)⟩

def fields : List (Json.Field Settings) := [
  countField "descriptor_header_lines" fun n settings => { settings with descriptorHeader := n },
  textField "empty_descriptor_key" fun key settings => { settings with emptyKey := key },
  countField "event_stride" fun n settings => { settings with eventStride := n },
  countField "pref_header_lines" fun n settings => { settings with preferenceHeader := n },
  textField "handle_type" fun type settings => { settings with handleType := type },
  ⟨"paths".toList, do
    let layout ← FileLayout.read
    return fun settings => { settings with layout := layout }⟩]

def read : Json.Read Settings := Json.Read.record "struct GeneratorConfig".toList fields {}

def ofText (text : Text) : Except Fault Settings :=
  match Json.Read.document read text with
  | .ok settings => .ok settings
  | .error flaw => .error (.json flaw.problem flaw.line flaw.column)

def load (path : Text) (input : Input) : Except Fault Settings :=
  match input path with
  | .ok text => ofText text
  | .error kind => .error (.access kind)

end Settings
end PluginBindings
