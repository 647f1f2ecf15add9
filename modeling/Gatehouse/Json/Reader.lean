import Gatehouse.Json.Magnitude
import Gatehouse.Json.Value
import Gatehouse.Text.Numeral

/-!
# Reading JSON texts

`Document.read` turns a text into a document tree. Blanks are space, tab, line feed and
carriage return; strings hold no raw control characters and no half of a surrogate pair;
numbers have no leading zeros and must not exceed the range of double precision.
-/

namespace Gatehouse.Json

/-- Whether the character may stand between tokens. -/
def isSpace (c : Char) : Bool := c == ' ' || c == '\t' || c == '\n' || c == '\r'

/-- The text without the blanks at its front. -/
def skipSpace (cs : List Char) : List Char := cs.dropWhile isSpace

/-- The value of four hexadecimal digits. -/
def hex4? (a b c d : Char) : Option Nat := Text.readNumeral? 16 [a, b, c, d]

/-- What is wrong with a `\u` escape whose four digits are not all there: four bytes that are
not digits are malformed, fewer are the end of the text. -/
def shortEscape (cs : List Char) : Break :=
  if (String.ofList cs).utf8ByteSize < 4 then .unfinished else .malformed

/-- The character that a one-letter escape stands for. -/
def escaped? : Char → Option Char
  | '"' => some '"'
  | '\\' => some '\\'
  | '/' => some '/'
  | 'b' => some '\x08'
  | 'f' => some '\x0c'
  | 'n' => some '\n'
  | 'r' => some '\r'
  | 't' => some '\t'
  | _ => none

/-- Whether the code unit is the first of a surrogate pair. -/
def isHighSurrogate (n : Nat) : Bool := 0xd800 ≤ n && n ≤ 0xdbff

/-- Whether the code unit is the second of a surrogate pair. -/
def isLowSurrogate (n : Nat) : Bool := 0xdc00 ≤ n && n ≤ 0xdfff

/-- The code point of a surrogate pair. -/
def surrogatePair (high low : Nat) : Nat := 0x10000 + (high - 0xd800) * 0x400 + (low - 0xdc00)

/-- Puts a character before the rest of a string. -/
def consChar (c : Char) :
    Except Break (List Char × List Char) → Except Break (List Char × List Char)
  | .ok (s, rest) => .ok (c :: s, rest)
  | .error b => .error b

/-- Reads a string behind its opening quote. -/
def scanString : List Char → Except Break (List Char × List Char)
  | [] => .error .unfinished
  | '"' :: rest => .ok ([], rest)
  | ['\\'] => .error .unfinished
  | '\\' :: 'u' :: a :: b :: c :: d :: rest =>
    match hex4? a b c d with
    | none => .error .malformed
    | some high =>
      if isLowSurrogate high then .error .malformed
      else if isHighSurrogate high then
        match rest with
        | [] => .error .unfinished
        | ['\\'] => .error .unfinished
        | '\\' :: 'u' :: e :: f :: g :: h :: rest =>
          match hex4? e f g h with
          | none => .error .malformed
          | some low =>
            if isLowSurrogate low then
              consChar (Char.ofNat (surrogatePair high low)) (scanString rest)
            else .error .malformed
        | '\\' :: 'u' :: short => .error (shortEscape short)
        | _ => .error .malformed
      else consChar (Char.ofNat high) (scanString rest)
  | '\\' :: 'u' :: short => .error (shortEscape short)
  | '\\' :: c :: rest =>
    match escaped? c with
    | some e => consChar e (scanString rest)
    | none => .error .malformed
  | c :: rest => if c < ' ' then .error .malformed else consChar c (scanString rest)

/-- Whether the character is a decimal digit. -/
def isDigit (c : Char) : Bool := '0' ≤ c && c ≤ '9'

/-- The break at a place where a digit must stand. -/
def noDigit : List Char → Break
  | [] => .unfinished
  | _ => .malformed

/-- Reads the digits behind a decimal point, if there is one. -/
def scanFraction (cs : List Char) : Except Break (Option (List Char) × List Char) :=
  match cs with
  | '.' :: rest =>
    match rest.takeWhile isDigit with
    | [] => .error (noDigit rest)
    | digits => .ok (some digits, rest.dropWhile isDigit)
  | cs => .ok (none, cs)

/-- Reads an exponent behind its letter. -/
def scanExponentDigits (negative : Bool) (cs : List Char) :
    Except Break (Option Int × List Char) :=
  match cs.takeWhile isDigit with
  | [] => .error (noDigit cs)
  | digits =>
    let n : Int := digitsValue digits
    .ok (some (if negative then -n else n), cs.dropWhile isDigit)

/-- Reads an exponent, if there is one. -/
def scanExponent (cs : List Char) : Except Break (Option Int × List Char) :=
  match cs with
  | c :: rest =>
    if c = 'e' ∨ c = 'E' then
      match rest with
      | '-' :: rest => scanExponentDigits true rest
      | '+' :: rest => scanExponentDigits false rest
      | rest => scanExponentDigits false rest
    else .ok (none, cs)
  | [] => .ok (none, [])

/-- Reads a number behind its sign. -/
def scanUnsigned (negative : Bool) (cs : List Char) : Except Break (Value × List Char) := do
  let whole := cs.takeWhile isDigit
  if whole = [] then throw (noDigit cs)
  if whole.head? = some '0' ∧ 1 < whole.length then throw .malformed
  let (fraction, rest) ← scanFraction (cs.dropWhile isDigit)
  let (exponent, rest) ← scanExponent rest
  let magnitude := Magnitude.ofDigits whole (fraction.getD []) (exponent.getD 0)
  if magnitude.overflows then throw .malformed
  if negative || fraction.isSome || exponent.isSome then return (.otherNumber, rest)
  return (.natural (digitsValue whole), rest)

/-- Reads a number. -/
def scanNumber (cs : List Char) : Except Break (Value × List Char) :=
  match cs with
  | '-' :: rest => scanUnsigned true rest
  | cs => scanUnsigned false cs

/-- Reads the rest of a word that stands for a value. -/
def scanWord (v : Value) : List Char → List Char → Except Break (Value × List Char)
  | [], rest => .ok (v, rest)
  | _ :: _, [] => .error .unfinished
  | w :: word, c :: rest => if w = c then scanWord v word rest else .error .malformed

/-- A value that ends the readable text when it is broken. -/
def ofScan : Except Break (Value × List Char) → Value × Option (List Char)
  | .ok (v, rest) => (v, some rest)
  | .error b => (.broken b, none)

mutual

/-- Reads a value behind blanks, and gives the text behind it unless the value is broken. -/
def readValue : Nat → List Char → Value × Option (List Char)
  | 0, _ => (.broken .malformed, none)
  | fuel + 1, cs =>
    match skipSpace cs with
    | [] => (.broken .unfinished, none)
    | '"' :: rest => ofScan ((scanString rest).map fun r => (.text (String.ofList r.1), r.2))
    | '[' :: rest =>
      let (items, tail, rest) := readItems fuel true rest
      (.list items tail, rest)
    | '{' :: rest =>
      let (entries, tail, rest) := readEntries fuel true rest
      (.object entries tail, rest)
    | 'n' :: rest => ofScan (scanWord .null ['u', 'l', 'l'] rest)
    | 't' :: rest => ofScan (scanWord (.bool true) ['r', 'u', 'e'] rest)
    | 'f' :: rest => ofScan (scanWord (.bool false) ['a', 'l', 's', 'e'] rest)
    | c :: rest =>
      if c = '-' ∨ isDigit c then ofScan (scanNumber (c :: rest)) else (.broken .malformed, none)

/-- Reads a value and the items behind it. -/
def readItem : Nat → List Char → List Value × Tail × Option (List Char)
  | 0, _ => ([], .broken .malformed, none)
  | fuel + 1, cs =>
    match readValue fuel cs with
    | (v, none) => ([v], .broken .malformed, none)
    | (v, some rest) =>
      let (items, tail, rest) := readItems fuel false rest
      (v :: items, tail, rest)

/-- Reads the items of a list and its closing bracket. -/
def readItems : Nat → Bool → List Char → List Value × Tail × Option (List Char)
  | 0, _, _ => ([], .broken .malformed, none)
  | fuel + 1, first, cs =>
    match skipSpace cs with
    | [] => ([], .broken .unfinished, none)
    | ']' :: rest => ([], .closed, some rest)
    | c :: rest =>
      if first then readItem fuel (c :: rest)
      else if c = ',' then
        match skipSpace rest with
        | [] => ([], .brokenAfterComma .unfinished, none)
        | ']' :: _ => ([], .brokenAfterComma .malformed, none)
        | rest => readItem fuel rest
      else ([], .broken .malformed, none)

/-- Reads a key, its value and the entries behind it. -/
def readEntry : Nat → List Char → List (String × Value) × Tail × Option (List Char)
  | 0, _ => ([], .broken .malformed, none)
  | fuel + 1, cs =>
    match cs with
    | '"' :: rest =>
      match scanString rest with
      | .error b => ([], .broken b, none)
      | .ok (key, rest) =>
        match skipSpace rest with
        | [] => ([(String.ofList key, .broken .unfinished)], .broken .malformed, none)
        | ':' :: rest =>
          match readValue fuel rest with
          | (v, none) => ([(String.ofList key, v)], .broken .malformed, none)
          | (v, some rest) =>
            let (entries, tail, rest) := readEntries fuel false rest
            ((String.ofList key, v) :: entries, tail, rest)
        | _ => ([(String.ofList key, .broken .malformed)], .broken .malformed, none)
    | _ => ([], .broken .malformed, none)

/-- Reads the entries of an object and its closing bracket. -/
def readEntries : Nat → Bool → List Char → List (String × Value) × Tail × Option (List Char)
  | 0, _, _ => ([], .broken .malformed, none)
  | fuel + 1, first, cs =>
    match skipSpace cs with
    | [] => ([], .broken .unfinished, none)
    | '}' :: rest => ([], .closed, some rest)
    | c :: rest =>
      if first then readEntry fuel (c :: rest)
      else if c = ',' then
        match skipSpace rest with
        | [] => ([], .brokenAfterComma .unfinished, none)
        | rest => readEntry fuel rest
      else ([], .broken .malformed, none)

end

/-- Reads a whole text. Each nested call is on a shorter text or follows one that was, so three
steps for each character are enough. -/
def Document.read (s : String) : Document :=
  let cs := s.toList
  match readValue (3 * cs.length + 3) cs with
  | (root, some rest) => ⟨root, (skipSpace rest).isEmpty⟩
  | (root, none) => ⟨root, false⟩

end Gatehouse.Json
