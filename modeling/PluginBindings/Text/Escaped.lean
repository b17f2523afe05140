import PluginBindings.Text.Basic
import PluginBindings.Unicode.Hidden

namespace PluginBindings
namespace Text

def showChar (c : Char) : Text :=
  if c == '"' then ['\\', '"']
  else if c == '\\' then ['\\', '\\']
  else if c == '\n' then ['\\', 'n']
  else if c == '\r' then ['\\', 'r']
  else if c == '\t' then ['\\', 't']
  else if c == '\x00' then ['\\', '0']
  else if Unicode.hiddenBounds.contains c.toNat then
    ['\\', 'u', '{'] ++ Nat.toDigits 16 c.toNat ++ ['}']
  else [c]

def shown (text : Text) : Text := '"' :: text.flatMap showChar ++ ['"']

end Text
end PluginBindings
