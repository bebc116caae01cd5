import Floodgate.Text.Hexadecimal
import Floodgate.Text.Printable

/-!
# Quoted text

A text between double quotes, for messages and log lines: quotes and backslashes are escaped,
and a character that does not show is written by name or by its code point.
-/

namespace Floodgate

/-- One character inside quotes. -/
def quotedChar (c : Char) : List Char :=
  if c = '"' then ['\\', '"']
  else if c = '\\' then ['\\', '\\']
  else if c = '\x00' then ['\\', '0']
  else if c = '\t' then ['\\', 't']
  else if c = '\n' then ['\\', 'n']
  else if c = '\r' then ['\\', 'r']
  else if isPrintable c then [c]
  else '\\' :: 'u' :: '\x7b' :: Hexadecimal.digits c.toNat ++ ['\x7d']

/-- A text in double quotes. -/
def quoted (s : String) : String :=
  String.ofList ('"' :: s.toList.flatMap quotedChar ++ ['"'])

example : quoted "a\"\\\n\u007f" = "\"a\\\"\\\\\\n\\u\x7b7f\x7d\"" := by decide +kernel

end Floodgate
