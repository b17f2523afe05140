import PluginBindings.Preference.Kind

namespace PluginBindings

inductive Level where
  | warn
  | info
  | debug
  | trace
deriving DecidableEq, Repr

namespace Level

def name : Level → Text
  | warn => "WARN".toList
  | info => "INFO".toList
  | debug => "DEBUG".toList
  | trace => "TRACE".toList

def verbosity : Level → Nat
  | warn => 0
  | info => 1
  | debug => 2
  | trace => 3

end Level

inductive Notice where
  | descriptorRead (key : Text) (fields : Nat)
  | eventRead (name : Text) (line : Nat)
  | preferenceRead (name : Text) (kind : PreferenceKind)
  | tableEnd (line : Nat)
  | notARow (line : Nat)
  | parametersForwarded (name : Text) (count : Nat)
  | noDeclarations
  | eventsRead (events descriptors : Nat)
  | preferencesRead (count : Nat)
  | wrappersWritten (count : Nat)
  | outputWritten (path : Text)
  | outputCurrent (path : Text)
deriving DecidableEq, Repr

namespace Notice

def level : Notice → Level
  | noDeclarations => .warn
  | eventsRead .. | preferencesRead _ | wrappersWritten _ | outputWritten _ | outputCurrent _ => .info
  | descriptorRead .. | eventRead .. | preferenceRead .. | parametersForwarded .. => .debug
  | tableEnd _ | notARow _ => .trace

def message : Notice → Text
  | descriptorRead key fields =>
    "descriptor ".toList ++ key ++ " with ".toList ++ Text.ofNat fields ++ " fields".toList
  | eventRead name line => "event ".toList ++ name ++ " at line ".toList ++ Text.ofNat line
  | preferenceRead name kind => "preference ".toList ++ name ++ " (".toList ++ kind.name ++ [')']
  | tableEnd line => "line ".toList ++ Text.ofNat line ++ ": end of table".toList
  | notARow line => "line ".toList ++ Text.ofNat line ++ ": not a preference row".toList
  | parametersForwarded name count =>
    name ++ " forwards ".toList ++ Text.ofNat count ++ " parameter(s)".toList
  | noDeclarations => "no unsafe fn declarations found".toList
  | eventsRead events descriptors =>
    Text.ofNat events ++ " events over ".toList ++ Text.ofNat descriptors ++ " descriptors".toList
  | preferencesRead count => Text.ofNat count ++ " preferences".toList
  | wrappersWritten count => Text.ofNat count ++ " wrappers".toList
  | outputWritten path => "wrote ".toList ++ path
  | outputCurrent path => path ++ " is up to date".toList

end Notice
end PluginBindings
