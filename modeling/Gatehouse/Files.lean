/-!
# Files in a directory

A set of files below one directory, and how a path leads to one of them. Paths are followed
step by step: every step but the last has to reach a directory, two points lead back, and what
lies outside of the directory cannot be read.
-/

namespace Gatehouse

/-- Why a file could not be read as text. -/
inductive ReadError where
  | notFound
  | notDirectory
  | isDirectory
  | nameTooLong
  /-- The path holds a NUL character. -/
  | nulInPath
  /-- The contents are not UTF-8. -/
  | notText
  /-- Any other reason, in words. -/
  | other (text : String)
  deriving DecidableEq, Repr

/-- The reason in words. -/
def ReadError.message : ReadError → String
  | .notFound => "No such file or directory (os error 2)"
  | .notDirectory => "Not a directory (os error 20)"
  | .isDirectory => "Is a directory (os error 21)"
  | .nameTooLong => "File name too long (os error 36)"
  | .nulInPath => "file name contained an unexpected NUL byte"
  | .notText => "stream did not contain valid UTF-8"
  | .other text => text

/-- Files by the steps from the directory to them. -/
structure Files where
  entries : List (List String × ByteArray)

namespace Files

/-- A place that steps lead to. -/
inductive Place where
  /-- A directory, by the steps to it. -/
  | directory (steps : List String)
  /-- Outside of the directory. -/
  | outside
  /-- A file. -/
  | file (contents : ByteArray)

/-- The steps of a path. -/
def stepsOf (path : String) : List String := (path.toList.splitOn '/').map String.ofList

/-- The files with these paths. -/
def ofList (files : List (String × ByteArray)) : Files :=
  ⟨files.map fun f => ((stepsOf f.1).filter fun s => s ≠ "" ∧ s ≠ ".", f.2)⟩

/-- What has a name in a directory. -/
def child (fs : Files) (steps : List String) (name : String) : Except ReadError Place :=
  let there := steps ++ [name]
  match fs.entries.find? fun e => e.1 == there with
  | some e => .ok (.file e.2)
  | none =>
    if fs.entries.any fun e => there.isPrefixOf e.1 then .ok (.directory there)
    else .error .notFound

/-- The longest name of a step in bytes. -/
def maxName : Nat := 255

/-- The shortest path in bytes that is too long. -/
def pathLimit : Nat := 4096

/-- Takes one step. -/
def step (fs : Files) (place : Place) (name : String) : Except ReadError Place :=
  match place with
  | .file _ => .error .notDirectory
  | .outside =>
    if name = "" ∨ name = "." ∨ name = ".." then .ok .outside
    else if maxName < name.utf8ByteSize then .error .nameTooLong
    else .error .notFound
  | .directory steps =>
    if name = "" ∨ name = "." then .ok place
    else if name = ".." then .ok (if steps = [] then .outside else .directory steps.dropLast)
    else if maxName < name.utf8ByteSize then .error .nameTooLong
    else fs.child steps name

/-- Takes steps one after another. -/
def walk (fs : Files) (place : Place) : List String → Except ReadError Place
  | [] => .ok place
  | name :: rest =>
    match fs.step place name with
    | .error e => .error e
    | .ok place => fs.walk place rest

/-- The bytes of the file that a path leads to. -/
def readBytes (fs : Files) (path : String) : Except ReadError ByteArray :=
  if '\x00' ∈ path.toList then .error .nulInPath
  else if path = "" then .error .notFound
  else if pathLimit ≤ path.utf8ByteSize then .error .nameTooLong
  else
    match fs.walk (if path.toList.head? = some '/' then .outside else .directory [])
        (stepsOf path) with
    | .error e => .error e
    | .ok (.file contents) => .ok contents
    | .ok _ => .error .isDirectory

/-- The text that bytes hold. -/
def decode (bytes : ByteArray) : Except ReadError String :=
  match String.fromUTF8? bytes with
  | some s => .ok s
  | none => .error .notText

/-- The text of the file that a path leads to. -/
def readText (fs : Files) (path : String) : Except ReadError String :=
  (fs.readBytes path).bind decode

end Files

end Gatehouse
