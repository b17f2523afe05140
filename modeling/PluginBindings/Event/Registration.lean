import PluginBindings.Descriptor.Table
import PluginBindings.Event.Reader
import PluginBindings.Registration
import PluginBindings.Text.TitleCase

namespace PluginBindings

structure ResolvedEvent where
  spec : EventSpec
  fields : List Text
deriving DecidableEq, Repr

namespace ResolvedEvent

def ofSpec (table : DescriptorTable) (spec : EventSpec) : Except Fault ResolvedEvent := do
  return ⟨spec, ← table.resolve spec.fieldsKey spec.name⟩

def field (label : Text) (index : Nat) : Text :=
  [' '] ++ Text.ofNat index ++ ": \"".toList ++ label ++ ['"']

def fieldList (fields : List Text) : Text :=
  Text.join [','] (fields.zipIdx.map fun row => field row.1 row.2)

-- Names, formats and labels are pasted as they are: what the source escapes stays escaped.
def registration (event : ResolvedEvent) : Text :=
  "print_event!(".toList ++ Text.toIdentifier event.spec.name ++ ", \"".toList ++
    event.spec.name ++ "\", \"`".toList ++ event.spec.format ++ "`\",".toList ++
    fieldList event.fields ++ ");".toList

end ResolvedEvent

-- The first event without a descriptor decides: no line is written before all resolve.
def registerEvents (specs : List EventSpec) (table : DescriptorTable) : Except Fault Text := do
  let events ← specs.mapM (ResolvedEvent.ofSpec table)
  return registrationLines (events.map ResolvedEvent.registration)

end PluginBindings
