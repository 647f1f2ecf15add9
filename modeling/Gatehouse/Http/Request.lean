import Gatehouse.Address
import Gatehouse.Metadata
import Gatehouse.Stream.Outbox

/-!
# HTTP requests

A request as the gateway sees it: the path and the query of its target are kept as they were
sent, and a fragment is no part of either.
-/

namespace Gatehouse.Http

/-- The target of a request. -/
structure Target where
  path : String
  query : Option String
  deriving DecidableEq, Repr

/-- Whether the character may stand in the scheme of a full address. -/
def isSchemeChar (c : Char) : Bool := c.isAlphanum || c == '+' || c == '-' || c == '.'

/-- Whether the character ends the host of a full address. -/
def endsHost (c : Char) : Bool := c == '/' || c == '?' || c == '#'

/-- The part of a target behind its scheme and its host. Most targets have neither. -/
def afterHost (cs : List Char) : List Char :=
  match cs.dropWhile isSchemeChar with
  | ':' :: '/' :: '/' :: rest => rest.dropWhile fun c => !endsHost c
  | _ => cs

/-- The path of a target, at least a slash. -/
def pathOf (cs : List Char) : String :=
  match cs.takeWhile (· != '?') with
  | [] => "/"
  | path => String.ofList path

/-- The target that a text names: the path ends at a question mark, and all at a number sign. -/
def Target.ofText (s : String) : Target :=
  let cs := (afterHost s.toList).takeWhile (· != '#')
  match cs.dropWhile (· != '?') with
  | [] => ⟨pathOf cs, none⟩
  | _ :: query => ⟨pathOf cs, some (String.ofList query)⟩

/-- One request. -/
structure Request where
  method : String
  target : Target
  headers : List Header
  /-- The address it came from, when that is known. -/
  peer : Option Address
  body : ByteArray
  /-- Whether it is a valid request to switch to a web socket. -/
  upgrade : Bool
  /-- What a web socket over its connection is like. -/
  socket : Socket

/-- A header's value without the blanks around it, as it arrives over a connection. -/
def trimValue (value : List UInt8) : List UInt8 :=
  let isBlank := fun b : UInt8 => b == 0x20 || b == 0x09
  ((value.dropWhile isBlank).reverse.dropWhile isBlank).reverse

/-- Headers as they arrive over a connection. -/
def trimHeaders (headers : List Header) : List Header :=
  headers.map fun h => { h with value := trimValue h.value }

end Gatehouse.Http
