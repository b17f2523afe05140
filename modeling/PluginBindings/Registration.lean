import PluginBindings.Text.Basic

namespace PluginBindings

def registrationLines (registrations : List Text) : Text := registrations.flatMap (· ++ ['\n'])

end PluginBindings
