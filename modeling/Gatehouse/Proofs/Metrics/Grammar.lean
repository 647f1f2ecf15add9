import Mathlib.Data.Nat.Init

/-!
# The text format of metrics

A line of metrics gives a type to a name, or a value to a name with labels, and each line ends with
a line feed. A name has letters, digits and underscores and no digit in front; the name of a metric
may have colons as well. Label values stand between quotes, and a backslash there is read with what
follows it. Values are whole numbers here, and a line holds one blank in front of its value.
-/

namespace Gatehouse.Exposition

/-- What a line says. -/
inductive Line where
  /-- The values of a name are of a type. -/
  | type (name kind : String)
  /-- A name with labels has a value. -/
  | sample (name : String) (labels : List (String × String)) (value : Int)
  deriving DecidableEq, Repr

/-- Whether the character may stand in the name of a label. -/
def isLabelChar (c : Char) : Bool := c.isAlphanum || c == '_'

/-- Whether the character may stand in the name of a metric. -/
def isMetricChar (c : Char) : Bool := isLabelChar c || c == ':'

/-- Whether the characters make a name out of those that are allowed. -/
def isName (allowed : Char → Bool) : List Char → Bool
  | [] => false
  | c :: cs => !c.isDigit && (c :: cs).all allowed

/-- The name of a label. -/
def IsLabelName (s : String) : Prop := isName isLabelChar s.toList = true

/-- The name of a metric. -/
def IsMetricName (s : String) : Prop := isName isMetricChar s.toList = true

instance (s : String) : Decidable (IsLabelName s) := inferInstanceAs (Decidable (_ = true))

instance (s : String) : Decidable (IsMetricName s) := inferInstanceAs (Decidable (_ = true))

/-- Reads a name as far as it goes. -/
def readName? (allowed : Char → Bool) (cs : List Char) : Option (String × List Char) :=
  if isName allowed (cs.takeWhile allowed) then
    some (String.ofList (cs.takeWhile allowed), cs.dropWhile allowed)
  else none

/-- The character that is meant by one behind a backslash. -/
def unescape? : Char → Option Char
  | '\\' => some '\\'
  | '"' => some '"'
  | 'n' => some '\n'
  | _ => none

/-- Reads a label value behind its first quote, up to the one that ends it. -/
def readQuoted? : List Char → Option (List Char × List Char)
  | [] => none
  | '"' :: rest => some ([], rest)
  | '\n' :: _ => none
  | ['\\'] => none
  | '\\' :: c :: rest =>
    (unescape? c).bind fun d ↦ (readQuoted? rest).map fun r ↦ (d :: r.1, r.2)
  | c :: rest => (readQuoted? rest).map fun r ↦ (c :: r.1, r.2)

/-- Reads a label with its value. -/
def readLabel? (cs : List Char) : Option ((String × String) × List Char) :=
  match readName? isLabelChar cs with
  | some (name, '=' :: '"' :: rest) =>
    (readQuoted? rest).map fun r ↦ ((name, String.ofList r.1), r.2)
  | _ => none

theorem length_readQuoted {cs v rest : List Char} (h : readQuoted? cs = some (v, rest)) :
    rest.length < cs.length := by
  fun_induction readQuoted? cs generalizing v with
  | case1 => cases h
  | case2 rest => cases h; exact Nat.lt_succ_self _
  | case3 => cases h
  | case4 => cases h
  | case5 c rest ih =>
    obtain ⟨d, -, h⟩ := Option.bind_eq_some_iff.mp h
    obtain ⟨r, read, same⟩ := Option.map_eq_some_iff.mp h
    cases same
    exact Nat.lt_succ_of_lt (Nat.lt_succ_of_lt (ih read))
  | case6 c rest _ _ _ _ ih =>
    obtain ⟨r, read, same⟩ := Option.map_eq_some_iff.mp h
    cases same
    exact Nat.lt_succ_of_lt (ih read)

theorem length_readName {allowed : Char → Bool} {cs rest : List Char} {name : String}
    (h : readName? allowed cs = some (name, rest)) : rest.length ≤ cs.length := by
  rw [readName?] at h
  split at h
  · obtain ⟨-, rfl⟩ := Prod.mk.inj (Option.some.inj h)
    exact (List.dropWhile_suffix allowed).length_le
  · cases h

theorem length_readLabel {cs rest : List Char} {p : String × String}
    (h : readLabel? cs = some (p, rest)) : rest.length < cs.length := by
  rw [readLabel?.eq_def] at h
  split at h
  · next named =>
    obtain ⟨r, read, same⟩ := Option.map_eq_some_iff.mp h
    cases same
    have value := length_readQuoted read
    have name := length_readName named
    simp only [List.length_cons] at name
    omega
  · cases h

/-- Reads labels behind their opening brace, up to the closing one. A comma may stand behind the
last of them. -/
def readLabels? (cs : List Char) : Option (List (String × String) × List Char) :=
  match _h : readLabel? cs with
  | some (p, ',' :: rest) => (readLabels? rest).map fun r ↦ (p :: r.1, r.2)
  | some (p, '}' :: rest) => some ([p], rest)
  | some _ => none
  | none =>
    match cs with
    | '}' :: rest => some ([], rest)
    | _ => none
termination_by cs.length
decreasing_by
  exact Nat.lt_of_succ_lt (length_readLabel _h)

/-- Reads a name with its labels, if it has any. -/
def readSeries? (cs : List Char) : Option (String × List (String × String) × List Char) :=
  match readName? isMetricChar cs with
  | some (name, '{' :: rest) => (readLabels? rest).map fun r ↦ (name, r)
  | some (name, rest) => some (name, [], rest)
  | none => none

/-- Reads digits as a number. -/
def readNatural? (cs : List Char) : Option Nat :=
  if cs ≠ [] ∧ cs.all Char.isDigit then some (Nat.ofDigitChars 10 cs 0) else none

/-- Reads digits, or digits behind a minus sign, as a number. -/
def readValue? : List Char → Option Int
  | '-' :: cs => (readNatural? cs).map fun n ↦ -(n : Int)
  | cs => (readNatural? cs).map fun n ↦ (n : Int)

/-- The types that a metric can have. -/
def kinds : List String := ["counter", "gauge", "histogram", "summary", "untyped"]

/-- Reads a name and its type. -/
def readType? (cs : List Char) : Option Line :=
  match readName? isMetricChar cs with
  | some (name, ' ' :: kind) =>
    if String.ofList kind ∈ kinds then some (.type name (String.ofList kind)) else none
  | _ => none

/-- Reads a name with its labels and its value. -/
def readSample? (cs : List Char) : Option Line :=
  match readSeries? cs with
  | some (name, labels, ' ' :: value) => (readValue? value).map (.sample name labels)
  | _ => none

/-- Reads a line. -/
def readLine? : List Char → Option Line
  | '#' :: ' ' :: 'T' :: 'Y' :: 'P' :: 'E' :: ' ' :: rest => readType? rest
  | cs => readSample? cs

/-- Reads the lines of a text, which end with line feeds; nothing stands behind the last of them. -/
def readText? (s : String) : Option (List Line) :=
  let pieces := s.toList.splitOn '\n'
  if pieces.getLast? = some [] then pieces.dropLast.mapM readLine? else none

end Gatehouse.Exposition
