import LinkWarden.Text.Quoted

/-!
# Strings in JSON text

Between quotation marks every character stands for itself, apart from the quotation mark, the
backslash and the controls below U+0020; those are escaped, five of them by a letter and the others
by four hexadecimal digits.
-/

namespace LinkWarden.Text

/-- Four hexadecimal digits in lower case. -/
def fourHexDigits (n : Nat) : List Char :=
  let digits := hexDigits n
  List.replicate (4 - digits.length) '0' ++ digits

/-- How a character is written inside a JSON string. -/
def jsonSpell (c : Char) : List Char :=
  if c = '"' then ['\\', '"']
  else if c = '\\' then ['\\', '\\']
  else if c = '\x08' then ['\\', 'b']
  else if c = '\t' then ['\\', 't']
  else if c = '\n' then ['\\', 'n']
  else if c = '\x0c' then ['\\', 'f']
  else if c = '\r' then ['\\', 'r']
  else if c.toNat < 0x20 then ['\\', 'u'] ++ fourHexDigits c.toNat
  else [c]

/-- A JSON string. -/
def jsonString (s : String) : List Char := ['"'] ++ s.toList.flatMap jsonSpell ++ ['"']

end LinkWarden.Text
