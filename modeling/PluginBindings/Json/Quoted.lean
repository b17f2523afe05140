import PluginBindings.Text.Basic

namespace PluginBindings
namespace Json

def hexDigit (n : Nat) : Char := Nat.digitChar (n % 16)

-- Only quotes, backslashes and the controls below the space are escaped.
def escape (c : Char) : Text :=
  if c == '"' then ['\\', '"']
  else if c == '\\' then ['\\', '\\']
  else if c == '\x08' then ['\\', 'b']
  else if c == '\x0c' then ['\\', 'f']
  else if c == '\n' then ['\\', 'n']
  else if c == '\r' then ['\\', 'r']
  else if c == '\t' then ['\\', 't']
  else if c.toNat < 0x20 then ['\\', 'u', '0', '0', hexDigit (c.toNat / 16), hexDigit c.toNat]
  else [c]

def quote (text : Text) : Text := '"' :: text.flatMap escape ++ ['"']

end Json
end PluginBindings
