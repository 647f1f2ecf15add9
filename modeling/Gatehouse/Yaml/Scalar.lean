import Gatehouse.Text.Numeral
import Gatehouse.Yaml.Cursor

/-!
# Scalars of YAML texts

Plain scalars, scalars between quotes and block scalars. Inside the first two a line break with
the blanks around it folds to a space, and further line breaks stay. All readers take fuel; one
unit for each character of the text is enough.
-/

namespace Gatehouse.Yaml

/-- The blanks and line breaks between two words of a scalar. -/
structure Gap where
  /-- The blanks, when there is no line break. -/
  blanks : String
  /-- The first line break. -/
  first : String
  /-- The line breaks after the first. -/
  more : String
  /-- Whether there is a line break. -/
  broken : Bool

namespace Gap

/-- Nothing between two words. -/
def none : Gap := ⟨"", "", "", false⟩

/-- The gap after a line break that was escaped. -/
def escaped : Gap := ⟨"", "", "", true⟩

/-- What the gap contributes to the scalar. -/
def text (g : Gap) : String :=
  if g.broken then
    if g.first = "\n" then (if g.more = "" then " " else g.more) else g.first ++ g.more
  else g.blanks

/-- Reads on through blanks and line breaks. A tab left of the column `tabLimit` in a further
line is an error. -/
def read (tabLimit : Nat) : Nat → Gap → Cursor → Option (Gap × Cursor)
  | 0, _, _ => .none
  | fuel + 1, g, c =>
    match c.rest with
    | [] => some (g, c)
    | ch :: _ =>
      if isBlank ch then
        if g.broken then
          if c.column < tabLimit ∧ ch = '\t' then .none else read tabLimit fuel g c.skip
        else read tabLimit fuel { g with blanks := g.blanks.push ch } c.skip
      else if isBreak ch then
        let g :=
          if g.broken then { g with more := g.more ++ c.breakText }
          else { g with first := c.breakText, broken := true }
        read tabLimit fuel g c.skipBreak
      else some (g, c)

end Gap

/-- A plain scalar and where it ends. -/
structure Plain where
  text : String
  cursor : Cursor
  /-- Whether line breaks follow it. -/
  broken : Bool

/-- Whether the character delimits items of a flow collection. -/
def isFlowDelimiter (c : Char) : Bool :=
  c == ',' || c == '[' || c == ']' || c == '{' || c == '}'

/-- Reads the characters of a plain scalar up to a blank or an indicator. In a flow collection a
colon before another indicator is an error. -/
def plainWord (flow : Bool) : Nat → String → Cursor → Option (String × Cursor)
  | 0, _, _ => none
  | fuel + 1, word, c =>
    match c.rest with
    | [] => some (word, c)
    | ch :: rest =>
      if isBlank ch || isBreak ch then some (word, c)
      else if flow && ch == ':' && rest.head?.any fun n => isFlowDelimiter n || n == '?' then none
      else if (ch == ':' && blankFollows rest) || (flow && isFlowDelimiter ch) then some (word, c)
      else plainWord flow fuel (word.push ch) c.skip

/-- Reads a plain scalar word by word. Outside flow collections it ends before a line that
begins left of the column `indent`. -/
def plainWords (flow : Bool) (indent : Nat) : Nat → String → Gap → Cursor → Option Plain
  | 0, _, _, _ => none
  | fuel + 1, text, gap, c =>
    if c.atDocumentMark || c.at? '#' then some ⟨text, c, gap.broken⟩
    else
      match plainWord flow (fuel + 1) "" c with
      | none => none
      | some (word, c) =>
        if word = "" then some ⟨text, c, gap.broken⟩
        else
          let text := text ++ gap.text ++ word
          match Gap.read indent (fuel + 1) .none c with
          | none => none
          | some (gap, c) =>
            if gap.broken = false ∧ gap.blanks = "" then some ⟨text, c, false⟩
            else if flow = false ∧ c.column < indent then some ⟨text, c, gap.broken⟩
            else plainWords flow indent fuel text gap c

/-- Reads a plain scalar. -/
def plain (flow : Bool) (indent : Nat) (c : Cursor) : Option Plain :=
  plainWords flow indent (c.rest.length + 1) "" .none c

/-- The character of a one-letter escape between double quotes. -/
def escaped? : Char → Option Char
  | '0' => some '\x00'
  | 'a' => some '\x07'
  | 'b' => some '\x08'
  | 't' => some '\t'
  | '\t' => some '\t'
  | 'n' => some '\n'
  | 'v' => some '\x0b'
  | 'f' => some '\x0c'
  | 'r' => some '\r'
  | 'e' => some '\x1b'
  | ' ' => some ' '
  | '"' => some '"'
  | '/' => some '/'
  | '\\' => some '\\'
  | 'N' => some '\u0085'
  | '_' => some '\u00a0'
  | 'L' => some '\u2028'
  | 'P' => some '\u2029'
  | _ => none

/-- The number of hexadecimal digits that an escape by code point has. -/
def escapeDigits? : Char → Option Nat
  | 'x' => some 2
  | 'u' => some 4
  | 'U' => some 8
  | _ => none

/-- The character of an escape with `n` hexadecimal digits at the front of the text. -/
def codePoint? (n : Nat) (cs : List Char) : Option Char :=
  let digits := cs.take n
  if digits.length = n then
    match Text.readNumeral? 16 digits with
    | some v => if v.isValidChar then some (Char.ofNat v) else none
    | none => none
  else none

/-- Reads the characters between quotes up to a blank or the closing quote. The flag tells that
an escaped line break ended the word. -/
def quotedWord (quote : Char) : Nat → String → Cursor → Option (String × Cursor × Bool)
  | 0, _, _ => none
  | fuel + 1, text, c =>
    match c.rest with
    | [] => some (text, c, false)
    | ch :: rest =>
      if isBlank ch || isBreak ch then some (text, c, false)
      else if ch == quote then
        if quote == '\'' && rest.head? == some '\'' then
          quotedWord quote fuel (text.push '\'') (c.skipMany 2)
        else some (text, c, false)
      else if quote == '"' && ch == '\\' then
        match rest with
        | [] => none
        | e :: digits =>
          if isBreak e then some (text, c.skip.skipBreak, true)
          else
            match escaped? e, escapeDigits? e with
            | some v, _ => quotedWord quote fuel (text.push v) (c.skipMany 2)
            | none, some n =>
              match codePoint? n digits with
              | some v => quotedWord quote fuel (text.push v) (c.skipMany (2 + n))
              | none => none
            | none, none => none
      else quotedWord quote fuel (text.push ch) c.skip

/-- Reads a scalar between quotes word by word behind its opening quote. -/
def quotedWords (quote : Char) : Nat → String → Cursor → Option (String × Cursor)
  | 0, _, _ => none
  | fuel + 1, text, c =>
    if c.atDocumentMark then none
    else
      match quotedWord quote (fuel + 1) text c with
      | none => none
      | some (text, c, escaped) =>
        match c.rest with
        | [] => none
        | ch :: _ =>
          if ch == quote then some (text, c.skip)
          else
            match Gap.read 0 (fuel + 1) (if escaped then .escaped else .none) c with
            | some (gap, c) => quotedWords quote fuel (text ++ gap.text) c
            | none => none

/-- Reads a scalar between quotes. -/
def quoted (quote : Char) (c : Cursor) : Option (String × Cursor) :=
  quotedWords quote (c.rest.length + 1) "" c.skip

/-- What happens to the line breaks at the end of a block scalar. -/
inductive Chomping where
  /-- None stays. -/
  | strip
  /-- One stays. -/
  | clip
  /-- All stay. -/
  | keep
  deriving DecidableEq, Repr

/-- The chomping that a sign asks for. -/
def chomping? : Char → Option Chomping
  | '+' => some .keep
  | '-' => some .strip
  | _ => none

/-- The value of an indentation digit. -/
def indentDigit? (c : Char) : Option Nat :=
  if '0' ≤ c ∧ c ≤ '9' then some (c.toNat - '0'.toNat) else none

/-- Reads the sign and the digit of a block scalar's header in either order. Zero is no
indentation. -/
def blockHeader (c : Cursor) : Option (Chomping × Nat × Cursor) :=
  match c.rest with
  | [] => some (.clip, 0, c)
  | a :: rest =>
    match chomping? a, indentDigit? a with
    | some chomping, _ =>
      match rest.head?.bind indentDigit? with
      | some 0 => none
      | some n => some (chomping, n, c.skipMany 2)
      | none => some (chomping, 0, c.skip)
    | none, some 0 => none
    | none, some n =>
      match rest.head?.bind chomping? with
      | some chomping => some (chomping, n, c.skipMany 2)
      | none => some (.clip, n, c.skip)
    | none, none => some (.clip, 0, c)

/-- Reads indentation and empty lines. An `indent` of zero is not known yet, and becomes the
widest column that was reached, but at least `least`. -/
def blockBreaks (least : Nat) : Nat → Nat → Nat → String → Cursor → Option (Nat × String × Cursor)
  | 0, _, _, _, _ => none
  | fuel + 1, indent, widest, breaks, c =>
    let room := if indent = 0 then c.rest.length else indent - c.column
    let c := c.skipMany ((c.rest.take room).takeWhile (· == ' ')).length
    let widest := max widest c.column
    if (indent = 0 ∨ c.column < indent) ∧ c.at? '\t' = true then none
    else if c.atBreak then
      blockBreaks least fuel indent widest (breaks ++ c.breakText) c.skipBreak
    else some (if indent = 0 then max (max widest least) 1 else indent, breaks, c)

/-- Reads the lines of a block scalar: its text without the last line breaks, and those. -/
def blockLines (literal : Bool) (indent : Nat) :
    Nat → String → String → String → Bool → Cursor → Option (String × String × String × Cursor)
  | 0, _, _, _, _, _ => none
  | fuel + 1, text, first, more, blankBefore, c =>
    match c.rest with
    | [] => some (text, first, more, c)
    | ch :: _ =>
      if c.column ≠ indent then some (text, first, more, c)
      else
        let blank := isBlank ch
        let folds := !literal && first == "\n" && !blankBefore && !blank
        let joint := if folds then (if more = "" then " " else "") else first
        let line := c.rest.takeWhile (!isBreak ·)
        let c := c.skipMany line.length
        let text := text ++ joint ++ more ++ String.ofList line
        match blockBreaks 0 (fuel + 1) indent 0 "" c.skipBreak with
        | some (_, more, next) => blockLines literal indent fuel text c.breakText more blank next
        | none => none

/-- Reads a block scalar whose header begins at the cursor. Its lines are indented at least to
the column `least`. -/
def block (literal : Bool) (least : Nat) (c : Cursor) : Option (String × Cursor) :=
  match blockHeader c.skip with
  | none => none
  | some (chomping, digit, c) =>
    let c := c.skipWhile isBlank
    let c := if c.at? '#' then c.skipWhile (!isBreak ·) else c
    if c.rest ≠ [] ∧ c.atBreak = false then none
    else
      let fuel := c.rest.length + 1
      let indent := if digit = 0 then 0 else least - 1 + digit
      match blockBreaks least fuel indent 0 "" c.skipBreak with
      | none => none
      | some (indent, breaks, c) =>
        match blockLines literal indent fuel "" "" breaks false c with
        | none => none
        | some (text, first, more, c) =>
          match chomping with
          | .strip => some (text, c)
          | .clip => some (text ++ first, c)
          | .keep => some (text ++ first ++ more, c)

end Gatehouse.Yaml
