import Gatehouse.Text.Numeral

/-!
# Socket addresses

An Internet address of version 4 or 6 with a port. Addresses of version 6 print with their
longest run of zero groups left out, and with the scope when it is not zero.
-/

namespace Gatehouse

/-- An address of version 4. -/
structure Ipv4 where
  a : UInt8
  b : UInt8
  c : UInt8
  d : UInt8
  deriving DecidableEq, Repr

/-- An address of version 6: eight groups of sixteen bits. -/
structure Ipv6 where
  groups : List UInt16
  length_eq : groups.length = 8
  deriving DecidableEq, Repr

/-- An Internet address with a port. -/
inductive Address where
  | v4 (ip : Ipv4) (port : UInt16)
  | v6 (ip : Ipv6) (scope : UInt32) (port : UInt16)
  deriving DecidableEq, Repr

/-- Four decimal octets between points. -/
def Ipv4.text (ip : Ipv4) : String :=
  ".".intercalate ([ip.a, ip.b, ip.c, ip.d].map fun o => Text.decimal o.toNat)

namespace Ipv6

/-- Groups in lower-case hexadecimal digits between colons. -/
def groupsText (gs : List UInt16) : String :=
  ":".intercalate (gs.map fun g => String.ofList (Text.hexNumeral g.toNat))

/-- The number of zero groups at the front. -/
def zeroRun (gs : List UInt16) : Nat := (gs.takeWhile (· == 0)).length

/-- Start and length of the longest run of zero groups from place `at` on; the first of equals. -/
def longestRun (start : Nat) : List UInt16 → Nat × Nat
  | [] => (start, 0)
  | g :: gs =>
    let here := zeroRun (g :: gs)
    let later := longestRun (start + 1) gs
    if later.2 ≤ here then (start, here) else later

/-- The address of version 4 that the address stands for, when it begins with `::ffff`. -/
def mapped? (ip : Ipv6) : Option Ipv4 :=
  match ip.groups with
  | [0, 0, 0, 0, 0, 0xffff, hi, lo] =>
    some ⟨(hi >>> 8).toUInt8, hi.toUInt8, (lo >>> 8).toUInt8, lo.toUInt8⟩
  | _ => none

/-- The printed address: a run of at least two zero groups is left out. -/
def text (ip : Ipv6) : String :=
  match ip.mapped? with
  | some v4 => "::ffff:" ++ v4.text
  | none =>
    let run := longestRun 0 ip.groups
    if 2 ≤ run.2 then
      groupsText (ip.groups.take run.1) ++ "::" ++ groupsText (ip.groups.drop (run.1 + run.2))
    else groupsText ip.groups

end Ipv6

/-- The printed address with its port. -/
def Address.text : Address → String
  | .v4 ip port => ip.text ++ ":" ++ Text.decimal port.toNat
  | .v6 ip scope port =>
    let zone := if scope = 0 then "" else "%" ++ Text.decimal scope.toNat
    "[" ++ ip.text ++ zone ++ "]:" ++ Text.decimal port.toNat

end Gatehouse
