import Gatehouse.Address

/-!
# Reading socket addresses

`Address.read?` accepts a text that is a socket address from its first to its last character:
four decimal octets without leading zeros, or an address of version 6 in brackets, then a
colon and the port.
-/

namespace Gatehouse.Address

/-- Steps over one given character. -/
def literal (c : Char) : List Char → Option (List Char)
  | d :: rest => if d = c then some rest else none
  | [] => none

/-- Reads all digits at the front as a number of at most `bound`. -/
def number (base : Nat) (maxDigits : Option Nat) (leadingZeros : Bool) (bound : Nat)
    (cs : List Char) : Option (Nat × List Char) :=
  let isDigit := fun c => (Text.digit? base c).isSome
  let digits := cs.takeWhile isDigit
  let short := match maxDigits with
    | some most => decide (digits.length ≤ most)
    | none => true
  let plain := leadingZeros || digits.length ≤ 1 || digits.head? != some '0'
  if short && plain then
    match Text.readNumeral? base digits with
    | some n => if n ≤ bound then some (n, cs.dropWhile isDigit) else none
    | none => none
  else none

/-- Reads an octet. -/
def octet (cs : List Char) : Option (UInt8 × List Char) :=
  (number 10 (some 3) false 255 cs).map fun r => (r.1.toUInt8, r.2)

/-- Reads a point and an octet. -/
def nextOctet (cs : List Char) : Option (UInt8 × List Char) := (literal '.' cs).bind octet

/-- Reads an address of version 4. -/
def ipv4 (cs : List Char) : Option (Ipv4 × List Char) := do
  let (a, cs) ← octet cs
  let (b, cs) ← nextOctet cs
  let (c, cs) ← nextOctet cs
  let (d, cs) ← nextOctet cs
  some (⟨a, b, c, d⟩, cs)

/-- Steps over the colon that stands before every group but the first. -/
def separator (first : Bool) (cs : List Char) : Option (List Char) :=
  if first then some cs else literal ':' cs

/-- Reads at most `room` groups. An address of version 4 may stand for the last two; the flag
tells whether one did. -/
def groups (first : Bool) : Nat → List Char → List UInt16 × Bool × List Char
  | 0, cs => ([], false, cs)
  | room + 1, cs =>
    match if 0 < room then (separator first cs).bind ipv4 else none with
    | some (ip, rest) =>
      ([ip.a.toUInt16 * 256 + ip.b.toUInt16, ip.c.toUInt16 * 256 + ip.d.toUInt16], true, rest)
    | none =>
      match (separator first cs).bind (number 16 (some 4) true 0xffff) with
      | some (g, rest) =>
        let (gs, dotted, rest) := groups false room rest
        (g.toUInt16 :: gs, dotted, rest)
      | none => ([], false, cs)

/-- The address of version 6 with these groups, when there are eight. -/
def ofGroups? (gs : List UInt16) : Option Ipv6 :=
  if h : gs.length = 8 then some ⟨gs, h⟩ else none

/-- Reads an address of version 6. Two colons stand for at least one zero group. -/
def ipv6 (cs : List Char) : Option (Ipv6 × List Char) := do
  let (head, dotted, rest) := groups true 8 cs
  if head.length = 8 then return (← ofGroups? head, rest)
  if dotted then none
  let rest ← literal ':' rest
  let rest ← literal ':' rest
  let (tail, _, rest) := groups true (8 - (head.length + 1)) rest
  let zeros := List.replicate (8 - head.length - tail.length) 0
  return (← ofGroups? (head ++ zeros ++ tail), rest)

/-- Reads a colon and a port. -/
def port (cs : List Char) : Option (UInt16 × List Char) := do
  let rest ← literal ':' cs
  let (n, rest) ← number 10 none true 0xffff rest
  some (n.toUInt16, rest)

/-- Reads the scope after a percent sign, if there is one. -/
def scope (cs : List Char) : UInt32 × List Char :=
  match (literal '%' cs).bind (number 10 none true 0xffffffff) with
  | some (n, rest) => (n.toUInt32, rest)
  | none => (0, cs)

/-- Reads an address of version 4 with its port. -/
def socketV4 (cs : List Char) : Option (Address × List Char) := do
  let (ip, rest) ← ipv4 cs
  let (p, rest) ← port rest
  some (.v4 ip p, rest)

/-- Reads a bracketed address of version 6 with its port. -/
def socketV6 (cs : List Char) : Option (Address × List Char) := do
  let rest ← literal '[' cs
  let (ip, rest) ← ipv6 rest
  let (s, rest) := scope rest
  let rest ← literal ']' rest
  let (p, rest) ← port rest
  some (.v6 ip s p, rest)

/-- The address that the whole text denotes. -/
def read? (s : String) : Option Address :=
  match (socketV4 s.toList).orElse fun _ => socketV6 s.toList with
  | some (address, []) => some address
  | _ => none

end Gatehouse.Address
