import LinkWarden.Text.Shown

/-!
# Quoted text

A text between quotation marks, written so that its extent and its content are plain: quotation
marks and backslashes are marked by a backslash, the common controls have short spellings, and any
other character that is not shown is given by its number in lower-case hexadecimal, `\x7b` and
`\x7d` around it.
-/

namespace LinkWarden.Text

/-- The digits of a number in lower-case hexadecimal. -/
def hexDigits (n : Nat) : List Char := Nat.toDigits 16 n

/-- How one character is written between quotation marks. -/
def spell (c : Char) : List Char :=
  if c = '"' then ['\\', '"']
  else if c = '\\' then ['\\', '\\']
  else if c = '\n' then ['\\', 'n']
  else if c = '\r' then ['\\', 'r']
  else if c = '\t' then ['\\', 't']
  else if c.toNat = 0 then ['\\', '0']
  else if isShown c then [c]
  else ['\\', 'u', '\x7b'] ++ hexDigits c.toNat ++ ['\x7d']

/-- A text in quotation marks. -/
def quote (s : String) : String :=
  String.ofList (['"'] ++ s.toList.flatMap spell ++ ['"'])

/-! ### Names in code marks -/

/-- The mark that stands on both sides of a name or a value in a message. -/
def codeMark : String := String.singleton (Char.ofNat 0x60)

/-- A name between code marks. -/
def marked (s : String) : String := codeMark ++ s ++ codeMark

end LinkWarden.Text
