import PluginBindings.Event.Registration
import PluginBindings.Preference.Reader
import PluginBindings.Settings.Basic
import PluginBindings.Signature.Wrapper

namespace PluginBindings
namespace Generator

-- A fault in a later stage is never told while an earlier one has its own.
def events (settings : Settings) (descriptors events : Text) : Outcome Text := do
  let table ← DescriptorTable.ofText descriptors settings.descriptorHeader settings.emptyKey
  let specs ← EventSpec.readAll events settings.eventStride
  Outcome.note (.eventsRead specs.length table.size)
  Outcome.ofExcept (registerEvents specs table)

def preferences (settings : Settings) (text : Text) : Outcome Text := do
  let preferences ← Preference.readAll text settings.preferenceHeader
  Outcome.note (.preferencesRead preferences.length)
  return registrationLines (preferences.map Preference.registration)

def wrappers [PatternEngine] (settings : Settings) (text : Text) : Outcome WrappedSource := do
  let wrapped ← WrappedSource.ofText settings.handleType text
  Outcome.note (.wrappersWritten wrapped.signatures.length)
  return wrapped

end Generator
end PluginBindings
