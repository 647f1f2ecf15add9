/-!
# Places in a YAML text

A cursor is what is left of a text together with the place where that begins. Carriage return,
line feed, the two in a row, next line, line separator and paragraph separator are line breaks.
-/

namespace Gatehouse.Yaml

/-- Whether the character is a blank of a line. -/
def isBlank (c : Char) : Bool := c == ' ' || c == '\t'

/-- Whether the character breaks a line. -/
def isBreak (c : Char) : Bool :=
  c == '\n' || c == '\r' || c == '\u0085' || c == '\u2028' || c == '\u2029'

/-- Whether a blank, a line break or nothing follows. -/
def blankFollows : List Char → Bool
  | [] => true
  | c :: _ => isBlank c || isBreak c

/-- The rest of a text and where it begins. -/
structure Cursor where
  rest : List Char
  /-- The number of characters before. -/
  index : Nat
  line : Nat
  /-- The number of characters before in the line. -/
  column : Nat

namespace Cursor

/-- The beginning of a text. -/
def start (cs : List Char) : Cursor := ⟨cs, 0, 0, 0⟩

/-- The cursor behind the next character of the line. -/
def skip (c : Cursor) : Cursor :=
  match c.rest with
  | [] => c
  | _ :: rest => ⟨rest, c.index + 1, c.line, c.column + 1⟩

/-- The cursor behind the next `n` characters of the line. -/
def skipMany (n : Nat) (c : Cursor) : Cursor := Nat.repeat skip n c

/-- The cursor behind all next characters of the kind, none of which breaks the line. -/
def skipWhile (p : Char → Bool) (c : Cursor) : Cursor :=
  skipMany (c.rest.takeWhile p).length c

/-- Whether a line break follows. -/
def atBreak (c : Cursor) : Bool := c.rest.head?.any isBreak

/-- Whether the character follows. -/
def at? (c : Cursor) (ch : Char) : Bool := c.rest.head? == some ch

/-- The cursor behind a line break. -/
def skipBreak (c : Cursor) : Cursor :=
  match c.rest with
  | '\r' :: '\n' :: rest => ⟨rest, c.index + 2, c.line + 1, 0⟩
  | ch :: rest => if isBreak ch then ⟨rest, c.index + 1, c.line + 1, 0⟩ else c
  | [] => c

/-- What a line break contributes to a scalar: a separator itself, otherwise a line feed. -/
def breakText (c : Cursor) : String :=
  match c.rest with
  | '\u2028' :: _ => "\u2028"
  | '\u2029' :: _ => "\u2029"
  | ch :: _ => if isBreak ch then "\n" else ""
  | [] => ""

/-- Whether the three characters stand at the beginning of a line and a blank follows them. -/
def atMark (ch : Char) (c : Cursor) : Bool :=
  match c.rest with
  | x :: y :: z :: rest => c.column == 0 && x == ch && y == ch && z == ch && blankFollows rest
  | _ => false

/-- Whether a document begins or ends here. -/
def atDocumentMark (c : Cursor) : Bool := c.atMark '-' || c.atMark '.'

end Cursor

end Gatehouse.Yaml
