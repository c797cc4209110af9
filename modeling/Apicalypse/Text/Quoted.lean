import Apicalypse.Text.Printable

/-!
# Quoted texts

A text between double quotes, on one line and without anything that cannot be seen. `"` and `\`
take a backslash, the tab, the line break, the carriage return and the null character have short
names, and every other character that does not show by itself is given by its code point. A
single quote needs no escape.
-/

namespace Apicalypse.Text

/-- A code point in lower case hexadecimal digits between braces. -/
def codePointEscape (c : Char) : List Char :=
  ['\\', 'u', '\x7b'] ++ Nat.toDigits 16 c.toNat ++ ['\x7d']

/-- A character as it stands in a quoted text. -/
def escapeChar (c : Char) : List Char :=
  if c = '"' then ['\\', '"']
  else if c = '\\' then ['\\', '\\']
  else if c = '\t' then ['\\', 't']
  else if c = '\n' then ['\\', 'n']
  else if c = '\r' then ['\\', 'r']
  else if c.toNat = 0 then ['\\', '0']
  else if isPrintable c && !isExtending c then [c]
  else codePointEscape c

/-- A text between double quotes. -/
def quote (s : String) : String := String.ofList ('"' :: (s.toList.flatMap escapeChar ++ ['"']))

end Apicalypse.Text
