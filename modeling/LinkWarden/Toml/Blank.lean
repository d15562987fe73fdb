/-!
# Blanks, comments and line ends in TOML

A reader takes characters and gives back the rest. Blanks are spaces and tabs, a line ends with a
line feed, before which a carriage return may stand, and a comment runs from `#` to the end of the
line and holds no control characters but tabs.
-/

namespace LinkWarden.Toml

def isBlank (c : Char) : Bool := c == ' ' || c == '\t'

/-- A character that may stand in a comment, and in a text apart from its own marks. -/
def isPlain (c : Char) : Bool :=
  c == '\t' || (0x20 ≤ c.toNat && c.toNat ≠ 0x7F)

def skipBlanks (cs : List Char) : List Char := cs.dropWhile isBlank

/-- The rest after a line end. -/
def newline? : List Char → Option (List Char)
  | '\n' :: cs => some cs
  | '\r' :: '\n' :: cs => some cs
  | _ => none

/-- Skips a comment, if there is one. -/
def skipComment : List Char → List Char
  | '#' :: cs => cs.dropWhile isPlain
  | cs => cs

/-- The rest after blanks, a comment and the end of the line or of the document. -/
def endOfLine? (cs : List Char) : Option (List Char) :=
  match skipComment (skipBlanks cs) with
  | [] => some []
  | rest => newline? rest

/-- Skips blanks, line ends and comments; the flag says whether a comment has begun. -/
def skipLinesFrom : Bool → List Char → List Char
  | _, [] => []
  | _, '\n' :: cs => skipLinesFrom false cs
  | _, '\r' :: '\n' :: cs => skipLinesFrom false cs
  | true, c :: cs => if isPlain c then skipLinesFrom true cs else c :: cs
  | false, c :: cs =>
    if isBlank c then skipLinesFrom false cs
    else if c = '#' then skipLinesFrom true cs
    else c :: cs

/-- Skips blanks, line ends and comments. -/
def skipLines : List Char → List Char := skipLinesFrom false

end LinkWarden.Toml
