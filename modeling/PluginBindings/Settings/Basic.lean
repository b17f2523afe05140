import PluginBindings.Text.Basic

namespace PluginBindings

structure FileLayout where
  descriptors : Text := "src/event/print/text.c".toList
  events : Text := "src/event/print/textevents.in".toList
  eventsOutput : Text := "src/event/print/impls.rs".toList
  preferences : Text := "src/pref/cfgfiles.c".toList
  preferencesOutput : Text := "src/pref/impls.rs".toList
  declarations : Text := "src/ffi/handle.in.rs".toList
  declarationsOutput : Text := "src/ffi/handle.rs".toList
deriving DecidableEq, Repr

structure Settings where
  descriptorHeader : Nat := 17
  emptyKey : Text := "pevt_generic_none_help".toList
  eventStride : Nat := 5
  preferenceHeader : Nat := 2
  handleType : Text := "hexchat_plugin".toList
  layout : FileLayout := {}
deriving DecidableEq, Repr

end PluginBindings
