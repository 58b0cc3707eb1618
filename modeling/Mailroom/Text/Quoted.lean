import Mailroom.Text.GraphemeExtend
import Mailroom.Text.Printable

/-! # Quoted text

Error messages show a refused value between double quotes, so that blanks and control
characters in it can be seen.  NUL, tab, line feed and carriage return have short escapes, a
backslash and a double quote are escaped by a backslash, and characters that combine with
their neighbours or cannot be printed are written by their code point in hexadecimal, between
braces. -/

namespace Mailroom

/-- A character inside quoted text. -/
def quoteChar (c : Char) : List Char :=
  if c = '\x00' then ['\\', '0']
  else if c = '\t' then ['\\', 't']
  else if c = '\n' then ['\\', 'n']
  else if c = '\r' then ['\\', 'r']
  else if c = '\\' then ['\\', '\\']
  else if c = '"' then ['\\', '"']
  else if isPrintable c && !isGraphemeExtend c then [c]
  else ['\\', 'u', '\x7b'] ++ Nat.toDigits 16 c.toNat ++ ['\x7d']

/-- A text between double quotes, escaped. -/
def quoted (s : String) : String :=
  String.ofList ('"' :: s.toList.flatMap quoteChar ++ ['"'])

end Mailroom
