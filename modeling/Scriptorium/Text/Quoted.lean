import Scriptorium.Text.Numeral
import Scriptorium.Text.Unprintable

/-! Quoted text, as descriptions and error messages show a name or a path: in double quotes, with
every character escaped that would not show as itself. -/

namespace Scriptorium.Text

/-- One character inside double quotes. -/
def quoteChar (c : Char) : Text :=
  if c = '"' then ['\\', '"']
  else if c = '\\' then ['\\', '\\']
  else if c = '\t' then ['\\', 't']
  else if c = '\n' then ['\\', 'n']
  else if c = '\r' then ['\\', 'r']
  else if c = '\x00' then ['\\', '0']
  else if isUnprintable c then ['\\', 'u', '\x7b'] ++ hexadecimal c.toNat ++ ['\x7d']
  else [c]

def quoted (s : Text) : Text := '"' :: s.flatMap quoteChar ++ ['"']

end Scriptorium.Text
