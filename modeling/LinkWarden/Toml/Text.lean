import LinkWarden.Toml.Blank

/-!
# Texts in TOML

A text stands between quotation marks, where a backslash begins an escape, or between apostrophes,
where every character stands for itself. Three marks instead of one make a text that may run over
several lines; a line end right after the first three is dropped, and up to two marks may stand
right before the last three. Inside such a text a carriage return before a line feed is dropped.
-/

namespace LinkWarden.Toml

/-- What an escape that has begun is waiting for. -/
inductive Escape
  | /-- No escape has begun. -/
    none
  | /-- The character after the backslash. -/
    letter
  | /-- So many more hexadecimal digits than one; the number so far. -/
    digits (more number : Nat)
  | /-- The end of a line whose end is escaped. -/
    lineEnd
  | /-- The first character of the text after an escaped line end. -/
    nextText
  deriving DecidableEq

/-- The characters that an escape of one letter stands for. -/
def escaped? (c : Char) : Option Char :=
  if c = 'b' then some '\x08'
  else if c = 't' then some '\t'
  else if c = 'n' then some '\n'
  else if c = 'f' then some '\x0c'
  else if c = 'r' then some '\r'
  else if c = '"' then some '"'
  else if c = '\\' then some '\\'
  else none

/-- The value of a hexadecimal digit. -/
def hexDigit? (c : Char) : Option Nat :=
  if c.isDigit then some (c.toNat - '0'.toNat)
  else if 'a' ≤ c ∧ c ≤ 'f' then some (c.toNat - 'a'.toNat + 10)
  else if 'A' ≤ c ∧ c ≤ 'F' then some (c.toNat - 'A'.toNat + 10)
  else none

/-- The character with a number; surrogates and numbers beyond the last character have none. -/
def scalar? (n : Nat) : Option Char :=
  if n.isValidChar then some (Char.ofNat n) else none

/-- A text read so far and the rest. -/
abbrev TextAndRest := Option (List Char × List Char)

/-- A character in front of a text. -/
def withChar (c : Char) (r : TextAndRest) : TextAndRest := r.map fun (text, rest) => (c :: text, rest)

/-- What follows the letter of an escape: a character at once, or digits. -/
def escapeLetter (c : Char) (go : Escape → TextAndRest) : TextAndRest :=
  match escaped? c with
  | some d => withChar d (go .none)
  | none =>
    if c = 'u' then go (.digits 3 0)
    else if c = 'U' then go (.digits 7 0)
    else none

/-- What follows a digit of an escape: another one, or the character. -/
def escapeDigit (c : Char) (more number : Nat) (go : Escape → TextAndRest) : TextAndRest :=
  match hexDigit? c with
  | none => none
  | some d =>
    match more with
    | more + 1 => go (.digits more (number * 16 + d))
    | 0 => (scalar? (number * 16 + d)).bind fun c => withChar c (go .none)

/-- A text on one line up to its closing quotation mark. -/
def basicFrom : Escape → List Char → TextAndRest
  | _, [] => none
  | .letter, c :: cs => escapeLetter c fun e => basicFrom e cs
  | .digits more number, c :: cs => escapeDigit c more number fun e => basicFrom e cs
  | _, c :: cs =>
    if c = '"' then some ([], cs)
    else if c = '\\' then basicFrom .letter cs
    else if isPlain c then withChar c (basicFrom .none cs)
    else none

/-- Up to two marks right before the three that close a text. -/
def closing (mark : Char) : List Char → List Char × List Char
  | a :: b :: cs =>
    if a = mark ∧ b = mark then ([mark, mark], cs)
    else if a = mark then ([mark], b :: cs)
    else ([], a :: b :: cs)
  | [a] => if a = mark then ([mark], []) else ([], [a])
  | [] => ([], [])

/-- A text over several lines up to its closing quotation marks. -/
def basicLinesFrom : Escape → List Char → TextAndRest
  | _, [] => none
  | .letter, '\n' :: cs => basicLinesFrom .nextText cs
  | .letter, '\r' :: '\n' :: cs => basicLinesFrom .nextText cs
  | .letter, c :: cs =>
    if isBlank c then basicLinesFrom .lineEnd cs
    else escapeLetter c fun e => basicLinesFrom e cs
  | .digits more number, c :: cs => escapeDigit c more number fun e => basicLinesFrom e cs
  | .lineEnd, '\n' :: cs => basicLinesFrom .nextText cs
  | .lineEnd, '\r' :: '\n' :: cs => basicLinesFrom .nextText cs
  | .lineEnd, c :: cs => if isBlank c then basicLinesFrom .lineEnd cs else none
  | .nextText, '\n' :: cs => basicLinesFrom .nextText cs
  | .nextText, '\r' :: '\n' :: cs => basicLinesFrom .nextText cs
  | .none, '\n' :: cs => withChar '\n' (basicLinesFrom .none cs)
  | .none, '\r' :: '\n' :: cs => withChar '\n' (basicLinesFrom .none cs)
  | _, '"' :: '"' :: '"' :: cs => some (closing '"' cs)
  | e, c :: cs =>
    if e = .nextText ∧ isBlank c then basicLinesFrom .nextText cs
    else if c = '\\' then basicLinesFrom .letter cs
    else if isPlain c then withChar c (basicLinesFrom .none cs)
    else none

/-- A literal text on one line up to its closing apostrophe. -/
def literalFrom : List Char → TextAndRest
  | [] => none
  | c :: cs =>
    if c = '\'' then some ([], cs)
    else if isPlain c then withChar c (literalFrom cs)
    else none

/-- A literal text over several lines up to its closing apostrophes. -/
def literalLinesFrom : List Char → TextAndRest
  | [] => none
  | '\n' :: cs => withChar '\n' (literalLinesFrom cs)
  | '\r' :: '\n' :: cs => withChar '\n' (literalLinesFrom cs)
  | '\'' :: '\'' :: '\'' :: cs => some (closing '\'' cs)
  | c :: cs => if isPlain c then withChar c (literalLinesFrom cs) else none

/-- The rest without a line end at its beginning. -/
def dropNewline (cs : List Char) : List Char := (newline? cs).getD cs

/-- A text, from its first mark on. -/
def text? : List Char → TextAndRest
  | '"' :: '"' :: '"' :: cs => basicLinesFrom .none (dropNewline cs)
  | '"' :: cs => basicFrom .none cs
  | '\'' :: '\'' :: '\'' :: cs => literalLinesFrom (dropNewline cs)
  | '\'' :: cs => literalFrom cs
  | _ => none

end LinkWarden.Toml
