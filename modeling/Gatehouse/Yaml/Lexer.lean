import Gatehouse.Yaml.Resolution
import Gatehouse.Yaml.Scalar
import Gatehouse.Yaml.Tag

/-!
# Tokens of YAML texts

Tokens name the structure that a text spells by indentation or by brackets. A mapping key is
recognised only at the colon behind it, so the lexer remembers where keys may have begun and
inserts their tokens later. A text may stop being readable; then the tokens up to there are
what a reader can still use, without those that might have become keys.

Indentation is counted so that zero is outside of all blocks, and a block whose items begin in
column `n` has the indentation `n + 1`.
-/

namespace Gatehouse.Yaml

/-- A token. -/
inductive Token where
  | documentStart
  | documentEnd
  | streamEnd
  | blockSequence
  | blockMapping
  | blockEnd
  | flowSequence
  | flowSequenceEnd
  | flowMapping
  | flowMappingEnd
  | blockEntry
  | flowEntry
  | key
  | value
  | anchor (name : String)
  | alias (name : String)
  | tag (t : Tag)
  | directive (d : Directive)
  | scalar (style : Style) (text : String)
  deriving DecidableEq, Repr

/-- A place where a mapping key may have begun. -/
structure KeyStart where
  /-- Whether the text is only readable if it is one. -/
  required : Bool
  /-- The number of tokens before it. -/
  token : Nat
  index : Nat
  line : Nat
  column : Nat

/-- The state of the lexer between two tokens. -/
structure Lexer where
  cursor : Cursor
  tokens : Array Token
  /-- The indentation of the innermost block. -/
  indent : Nat
  /-- The indentations of the blocks around it, innermost first. -/
  outer : List Nat
  /-- Where a key may have begun, for each open flow collection and the text around them,
  innermost first. -/
  keys : List (Option KeyStart)
  /-- Whether a key may begin here. -/
  keyAllowed : Bool
  /-- The number of characters in front of the first one that cannot be looked at. -/
  visible : Nat
  finished : Bool

namespace Lexer

/-- The lexer before the first token of a text of which so many characters can be looked at. -/
def start (cs : List Char) (visible : Nat) : Lexer :=
  { cursor := .start cs, tokens := #[], indent := 0, outer := [], keys := [none]
    keyAllowed := true, visible, finished := false }

/-- Whether a flow collection is open. -/
def inFlow (l : Lexer) : Bool := 1 < l.keys.length

/-- Adds a token. -/
def emit (l : Lexer) (t : Token) : Lexer := { l with tokens := l.tokens.push t }

/-- Adds a token and moves on. -/
def emitAt (l : Lexer) (t : Token) (c : Cursor) : Lexer := { l.emit t with cursor := c }

/-- Whether the place cannot be a key any more: keys are shorter than a line and than 1024
characters. -/
def isStale (c : Cursor) (k : KeyStart) : Bool := k.line < c.line || k.index + 1024 < c.index

/-- Forgets the places that cannot be keys any more; fails if one of them has to be. -/
def dropStale (l : Lexer) : Option Lexer :=
  if l.keys.any fun k => k.any fun k => isStale l.cursor k && k.required then none
  else some { l with keys := l.keys.map fun k => k.filter fun k => !isStale l.cursor k }

/-- The number of tokens that no later token can precede. -/
def settled (l : Lexer) : Nat :=
  l.keys.foldl (fun n k => match k with
    | some k => min n k.token
    | none => n) l.tokens.size

/-- Forgets the place of the innermost collection; fails if it has to be a key. -/
def forgetKey (l : Lexer) : Option Lexer :=
  match l.keys with
  | some k :: rest => if k.required then none else some { l with keys := none :: rest }
  | _ => some l

/-- Remembers that a key may begin here, if one may. -/
def rememberKey (l : Lexer) : Option Lexer :=
  if l.keyAllowed then
    match l.forgetKey with
    | none => none
    | some l =>
      let c := l.cursor
      let required := !l.inFlow && l.indent == c.column + 1
      some { l with keys := some ⟨required, l.tokens.size, c.index, c.line, c.column⟩ ::
        l.keys.tail }
  else some l

/-- Ends the blocks that are indented more. -/
def unindent (l : Lexer) (indent : Nat) : Lexer :=
  if l.inFlow then l
  else
    let ended := (l.indent :: l.outer).takeWhile (indent < ·)
    let kept := (l.indent :: l.outer).dropWhile (indent < ·)
    { l with
      tokens := ended.foldl (fun ts _ => ts.push .blockEnd) l.tokens
      indent := kept.headD 0
      outer := kept.tail }

/-- Begins a block at a column, unless the innermost one is indented as much. Its token goes
before the tokens from `place` on. -/
def indentAt (l : Lexer) (column : Nat) (t : Token) (place : Nat) : Lexer :=
  if !l.inFlow && l.indent < column + 1 then
    { l with
      tokens := l.tokens.insertIdxIfInBounds place t
      indent := column + 1
      outer := l.indent :: l.outer }
  else l

/-- Skips blanks, comments and line breaks. A line break outside of flow collections lets a key
begin; a tab is a blank only where none can. A byte order mark may stand at the front of a line
and takes up a column there. -/
def toToken : Nat → Lexer → Lexer
  | 0, l => l
  | fuel + 1, l =>
    let c := l.cursor
    let c := if c.column == 0 && c.at? '\ufeff' then c.skip else c
    let tabs := l.inFlow || !l.keyAllowed
    let c := c.skipWhile fun ch => ch == ' ' || (tabs && ch == '\t')
    let c := if c.at? '#' then c.skipWhile (!isBreak ·) else c
    if c.atBreak then
      toToken fuel { l with cursor := c.skipBreak, keyAllowed := l.keyAllowed || !l.inFlow }
    else { l with cursor := c }

/-- Ends the text: all blocks end. -/
def fetchEnd (l : Lexer) : Option Lexer :=
  (l.unindent 0).forgetKey.map fun l =>
    { l.emit .streamEnd with keyAllowed := false, finished := true }

/-- Reads the mark of a document. -/
def fetchDocumentMark (t : Token) (l : Lexer) : Option Lexer :=
  (l.unindent 0).forgetKey.map fun l =>
    { l.emitAt t (l.cursor.skipMany 3) with keyAllowed := false }

/-- Reads an opening bracket. -/
def fetchFlowStart (t : Token) (l : Lexer) : Option Lexer :=
  l.rememberKey.map fun l =>
    { l.emitAt t l.cursor.skip with keys := none :: l.keys, keyAllowed := true }

/-- Reads a closing bracket. -/
def fetchFlowEnd (t : Token) (l : Lexer) : Option Lexer :=
  l.forgetKey.map fun l =>
    { l.emitAt t l.cursor.skip with
      keys := if l.inFlow then l.keys.tail else l.keys, keyAllowed := false }

/-- Reads a comma. -/
def fetchFlowEntry (l : Lexer) : Option Lexer :=
  l.forgetKey.map fun l => { l.emitAt .flowEntry l.cursor.skip with keyAllowed := true }

/-- Reads the dash of an item. -/
def fetchBlockEntry (l : Lexer) : Option Lexer :=
  if !l.inFlow && !l.keyAllowed then none
  else
    (l.indentAt l.cursor.column .blockSequence l.tokens.size).forgetKey.map fun l =>
      { l.emitAt .blockEntry l.cursor.skip with keyAllowed := true }

/-- Reads the question mark of a key. -/
def fetchKey (l : Lexer) : Option Lexer :=
  if !l.inFlow && !l.keyAllowed then none
  else
    (l.indentAt l.cursor.column .blockMapping l.tokens.size).forgetKey.map fun l =>
      { l.emitAt .key l.cursor.skip with keyAllowed := !l.inFlow }

/-- Reads the colon of a value. What stands before it becomes a key if it may be one. -/
def fetchValue (l : Lexer) : Option Lexer :=
  match l.keys with
  | some k :: rest =>
    let l := { l with tokens := l.tokens.insertIdxIfInBounds k.token .key, keys := none :: rest }
    let l := l.indentAt k.column .blockMapping k.token
    some { l.emitAt .value l.cursor.skip with keyAllowed := false }
  | _ =>
    if !l.inFlow && !l.keyAllowed then none
    else
      let l := l.indentAt l.cursor.column .blockMapping l.tokens.size
      some { l.emitAt .value l.cursor.skip with keyAllowed := !l.inFlow }

/-- Whether the name of an anchor may end before the text. -/
def nameEnds (cs : List Char) : Bool :=
  blankFollows cs || cs.head?.any ['?', ':', ',', ']', '}', '%', '@', '\x60'].contains

/-- Reads an anchor or an alias. -/
def fetchName (make : String → Token) (l : Lexer) : Option Lexer :=
  match l.rememberKey with
  | none => none
  | some l =>
    let (word, c) := name l.cursor.skip
    if word = "" ∨ nameEnds c.rest = false then none
    else some { l.emitAt (make word) c with keyAllowed := false }

/-- Reads a tag. -/
def fetchTag (l : Lexer) : Option Lexer :=
  match l.rememberKey with
  | none => none
  | some l =>
    match tag l.cursor with
    | none => none
    | some (t, c) =>
      if blankFollows c.rest || (l.inFlow && c.at? ',') then
        some { l.emitAt (.tag t) c with keyAllowed := false }
      else none

/-- Reads a directive. All blocks end before it. -/
def fetchDirective (l : Lexer) : Option Lexer :=
  match (l.unindent 0).forgetKey with
  | none => none
  | some l =>
    (directive l.cursor).map fun r =>
      { l.emitAt (.directive r.1) r.2 with keyAllowed := false }

/-- Reads a block scalar. -/
def fetchBlockScalar (literal : Bool) (l : Lexer) : Option Lexer :=
  match l.forgetKey with
  | none => none
  | some l =>
    (block literal l.indent l.cursor).map fun r =>
      { l.emitAt (.scalar (if literal then .literal else .other) r.1) r.2 with keyAllowed := true }

/-- Reads a scalar between quotes. -/
def fetchQuoted (quote : Char) (l : Lexer) : Option Lexer :=
  match l.rememberKey with
  | none => none
  | some l =>
    (quoted quote l.cursor).map fun r =>
      { l.emitAt (.scalar .other r.1) r.2 with keyAllowed := false }

/-- Reads a plain scalar. -/
def fetchPlain (l : Lexer) : Option Lexer :=
  match l.rememberKey with
  | none => none
  | some l =>
    (plain l.inFlow l.indent l.cursor).map fun p =>
      { l.emitAt (.scalar .plain p.text) p.cursor with keyAllowed := p.broken }

/-- Whether a plain scalar may begin with the characters. -/
def beginsPlain (flow : Bool) (ch : Char) (rest : List Char) : Bool :=
  let indicators := ['-', '?', ':', ',', '[', ']', '{', '}', '#', '&', '*', '!', '|', '>', '\'',
    '"', '%', '@', '\x60']
  if blankFollows [ch] then false
  else if indicators.contains ch then
    (ch == '-' && !(rest.head?.any isBlank)) ||
      (!flow && (ch == '?' || ch == ':') && !blankFollows rest)
  else true

/-- Reads the token at the cursor. -/
def fetchToken (l : Lexer) : Option Lexer :=
  let c := l.cursor
  match c.rest with
  | [] => l.fetchEnd
  | ch :: rest =>
    let spaced := l.inFlow || blankFollows rest
    if c.column == 0 && ch == '%' then l.fetchDirective
    else if c.atMark '-' then l.fetchDocumentMark .documentStart
    else if c.atMark '.' then l.fetchDocumentMark .documentEnd
    else if ch == '[' then l.fetchFlowStart .flowSequence
    else if ch == '{' then l.fetchFlowStart .flowMapping
    else if ch == ']' then l.fetchFlowEnd .flowSequenceEnd
    else if ch == '}' then l.fetchFlowEnd .flowMappingEnd
    else if ch == ',' then l.fetchFlowEntry
    else if ch == '-' && blankFollows rest then l.fetchBlockEntry
    else if ch == '?' && spaced then l.fetchKey
    else if ch == ':' && spaced then l.fetchValue
    else if ch == '*' then l.fetchName .alias
    else if ch == '&' then l.fetchName .anchor
    else if ch == '!' then l.fetchTag
    else if ch == '|' && !l.inFlow then l.fetchBlockScalar true
    else if ch == '>' && !l.inFlow then l.fetchBlockScalar false
    else if ch == '\'' then l.fetchQuoted '\''
    else if ch == '"' then l.fetchQuoted '"'
    else if beginsPlain l.inFlow ch rest then l.fetchPlain
    else none

/-- Fails if so many characters behind the cursor cannot all be looked at. The end of the text
can always be. -/
def lookAhead (n : Nat) (l : Lexer) : Option Lexer :=
  if l.cursor.index + min n l.cursor.rest.length ≤ l.visible then some l else none

/-- Reads the next token, behind blanks and the ends of blocks. What kind of token it is shows
in its first four characters. -/
def fetch (l : Lexer) : Option Lexer :=
  match (toToken (l.cursor.rest.length + 1) l).dropStale with
  | none => none
  | some l =>
    match l.lookAhead 4 with
    | none => none
    | some l =>
      let l := if l.cursor.rest = [] then l else l.unindent (l.cursor.column + 1)
      l.fetchToken.bind (lookAhead 0)

/-- Reads tokens until the text ends or stops being readable. -/
def run : Nat → Nat → Lexer → List Token
  | 0, settled, l => l.tokens.toList.take settled
  | fuel + 1, settled, l =>
    if l.finished then l.tokens.toList
    else
      match l.dropStale with
      | none => l.tokens.toList.take settled
      | some l =>
        match l.fetch with
        | none => l.tokens.toList.take l.settled
        | some next => run fuel l.settled next

end Lexer

/-- Whether a YAML text may hold the character. -/
def isReadable (c : Char) : Bool :=
  c == '\t' || c == '\n' || c == '\r' || c == '\u0085' || (' ' ≤ c && c ≤ '~') ||
    ('\u00a0' ≤ c && c ≤ '\ufffd') || 0x10000 ≤ c.toNat

/-- The number of bytes of a text that are looked at together. -/
def pieceSize : Nat := 16384

/-- The number of characters that can be looked at. A text is looked at in pieces, each of as
many characters as fit into `pieceSize` bytes, and all of a piece must be readable. The piece
began at the character `piece` and has `bytes` bytes so far; `index` characters are before. -/
def visibleFrom (index piece bytes : Nat) : List Char → Nat
  | [] => index
  | c :: rest =>
    let whole := pieceSize < bytes + c.utf8Size
    let piece := if whole then index else piece
    if isReadable c then
      visibleFrom (index + 1) piece ((if whole then 0 else bytes) + c.utf8Size) rest
    else piece

/-- The tokens of a text, up to the place where it stops being readable. -/
def tokens (cs : List Char) : List Token :=
  Lexer.run (2 * cs.length + 2) 0 (.start cs (visibleFrom 0 0 0 cs))

end Gatehouse.Yaml
