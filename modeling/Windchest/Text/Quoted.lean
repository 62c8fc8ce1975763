/-
# Windchest.Text.Quoted -- texts between double quotes

A quoted text is one line.  Quotes and backslashes carry a backslash, the usual
control characters have their letters, and any other character that shows nothing
of itself is written as its code point in hexadecimal, between braces.
-/
import Windchest.Bytes
import Windchest.Text.Invisible

namespace Windchest.Text

set_option autoImplicit false

/-- The hexadecimal digits of a number, lower case, without leading zeros. -/
def hexDigits (n : Nat) : List Char := (Nat.toDigits 16 n)

/-- What stands for a character between double quotes. -/
def quoteChar (c : Char) : List Char :=
  if c = '"' then ['\\', '"']
  else if c = '\\' then ['\\', '\\']
  else if c = '\n' then ['\\', 'n']
  else if c = '\r' then ['\\', 'r']
  else if c = '\t' then ['\\', 't']
  else if c.toNat = 0 then ['\\', '0']
  else if c.toNat < 32 || c.toNat = 127 || (127 < c.toNat && isInvisible c) then
    ['\\', 'u', '\x7b'] ++ hexDigits c.toNat ++ ['\x7d']
  else [c]

/-- The text between double quotes. -/
def quoted (text : String) : String :=
  String.ofList (('"' :: text.toList.flatMap quoteChar) ++ ['"'])

end Windchest.Text
