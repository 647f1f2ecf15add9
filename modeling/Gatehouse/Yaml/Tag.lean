import Gatehouse.Text.Numeral
import Gatehouse.Yaml.Cursor

/-!
# Tags and directives of YAML texts

A tag is a handle and a suffix, or written out between angle brackets. A directive in front of a
document names the version of the language, or the prefix that a handle stands for.
-/

namespace Gatehouse.Yaml

/-- A tag as it is written. -/
structure Tag where
  /-- The handle; empty if the suffix is the whole tag. -/
  handle : String
  suffix : String
  deriving DecidableEq, Repr

/-- A line in front of a document. -/
inductive Directive where
  | version (major minor : Nat)
  | tag (handle stands : String)
  deriving DecidableEq, Repr

/-- Whether the character may stand in the name of an anchor, a handle or a directive. -/
def isNameChar (c : Char) : Bool :=
  ('0' ≤ c && c ≤ '9') || ('A' ≤ c && c ≤ 'Z') || ('a' ≤ c && c ≤ 'z') || c == '_' || c == '-'

/-- Reads a name, which may be empty. -/
def name (c : Cursor) : String × Cursor :=
  let cs := c.rest.takeWhile isNameChar
  (String.ofList cs, c.skipMany cs.length)

/-- Whether the character may stand in a tag. Commas and brackets may not where they could belong
to a flow collection. -/
def isTagChar (wide : Bool) (c : Char) : Bool :=
  isNameChar c || ";/?:@&=+$.!~*'()".contains c || (wide && ",[]".contains c)

/-- The byte of a percent sign and two hexadecimal digits. -/
def escapedByte? : List Char → Option Nat
  | '%' :: high :: low :: _ => Text.readNumeral? 16 [high, low]
  | _ => none

/-- The number of bytes of a character that begins with the byte. -/
def encodedSize? (first : Nat) : Option Nat :=
  if first < 0x80 then some 1
  else if 0xc0 ≤ first ∧ first < 0xe0 then some 2
  else if 0xe0 ≤ first ∧ first < 0xf0 then some 3
  else if 0xf0 ≤ first ∧ first < 0xf8 then some 4
  else none

/-- Reads a character whose bytes are escaped. -/
def escapedChar (c : Cursor) : Option (String × Cursor) :=
  match (escapedByte? c.rest).bind encodedSize? with
  | none => none
  | some size =>
    let bytes := (List.range size).filterMap fun i => escapedByte? (c.rest.drop (3 * i))
    let continued := bytes.tail.all fun b => 0x80 ≤ b && b < 0xc0
    if bytes.length = size ∧ continued = true then
      let text := String.fromUTF8? (ByteArray.mk (bytes.map UInt8.ofNat).toArray)
      some (text.getD "\ufffd", c.skipMany (3 * size))
    else none

/-- Reads the rest of a tag behind a text. The fuel is one unit for each character that is left. -/
def tagText (wide : Bool) : Nat → String → Cursor → Option (String × Cursor)
  | 0, _, _ => none
  | fuel + 1, text, c =>
    match c.rest with
    | [] => some (text, c)
    | ch :: _ =>
      if ch == '%' then
        match escapedChar c with
        | none => none
        | some (s, c) => tagText wide fuel (text ++ s) c
      else if isTagChar wide ch then tagText wide fuel (text.push ch) c.skip
      else some (text, c)

/-- Reads a tag, or a part of one, that is not empty. -/
def tagPart (wide : Bool) (c : Cursor) : Option (String × Cursor) :=
  (tagText wide (c.rest.length + 1) "" c).filter fun r => r.1 != ""

/-- Reads an exclamation mark with the name behind it, and tells whether another exclamation mark
ends them. -/
def tagHandle (c : Cursor) : Option (String × Bool × Cursor) :=
  if c.at? '!' then
    let (word, c) := name c.skip
    if c.at? '!' then some ("!" ++ word ++ "!", true, c.skip) else some ("!" ++ word, false, c)
  else none

/-- Reads a tag that begins with an exclamation mark. Without a second one the handle is the first
one alone, and an exclamation mark on its own is a whole tag. -/
def tag (c : Cursor) : Option (Tag × Cursor) :=
  if c.skip.at? '<' then
    match tagPart true (c.skipMany 2) with
    | none => none
    | some (suffix, c) => if c.at? '>' then some (⟨"", suffix⟩, c.skip) else none
  else
    match tagHandle c with
    | none => none
    | some (handle, true, c) => (tagPart false c).map fun r => (⟨handle, r.1⟩, r.2)
    | some (_, false, _) =>
      (tagText false (c.rest.length + 1) "" c.skip).map fun r =>
        (if r.1 = "" then ⟨"", "!"⟩ else ⟨"!", r.1⟩, r.2)

/-- Reads a number of at most nine digits. -/
def versionNumber (c : Cursor) : Option (Nat × Cursor) :=
  let digits := c.rest.takeWhile fun ch => '0' ≤ ch && ch ≤ '9'
  if digits.length ≤ 9 then
    (Text.readNumeral? 10 digits).map fun n => (n, c.skipMany digits.length)
  else none

/-- Reads what a directive for the version says. -/
def versionDirective (c : Cursor) : Option (Directive × Cursor) :=
  match versionNumber c with
  | none => none
  | some (major, c) =>
    if c.at? '.' then
      (versionNumber c.skip).map fun r => (.version major r.1, r.2)
    else none

/-- Reads what a directive for a handle says. -/
def tagDirective (c : Cursor) : Option (Directive × Cursor) :=
  match tagHandle c with
  | none => none
  | some (handle, ended, c) =>
    if (ended = true ∨ handle = "!") ∧ c.rest.head?.any isBlank = true then
      match tagPart true (c.skipWhile isBlank) with
      | none => none
      | some (stands, c) => if blankFollows c.rest then some (.tag handle stands, c) else none
    else none

/-- Reads a directive and the rest of its line. -/
def directive (c : Cursor) : Option (Directive × Cursor) :=
  let (word, c) := name c.skip
  let c' := c.skipWhile isBlank
  let read :=
    if blankFollows c.rest = false then none
    else if word = "YAML" then versionDirective c'
    else if word = "TAG" then tagDirective c'
    else none
  match read with
  | none => none
  | some (d, c) =>
    let c := c.skipWhile isBlank
    let c := if c.at? '#' then c.skipWhile (!isBreak ·) else c
    if c.rest = [] ∨ c.atBreak = true then some (d, c.skipBreak) else none

end Gatehouse.Yaml
