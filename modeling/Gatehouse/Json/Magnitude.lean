/-!
# Magnitudes of decimal numbers

A number in a text has a magnitude: a significand of at most 64 bits and a power of ten. Digits
behind those that fit into the significand scale it and are not rounded in.

A magnitude is out of range when its double is infinite. That double is a product of two, the
nearest to the significand and the nearest to the power, so close to the largest double the
range is not that of the exact value: `17976931348623158e292` is beyond it and
`179769313486231581e291` is not.
-/

namespace Gatehouse.Json

/-- The value of a decimal digit. -/
def digitValue (c : Char) : Nat := c.toNat - '0'.toNat

/-- The number that decimal digits denote; the empty text denotes zero. -/
def digitsValue (cs : List Char) : Nat := cs.foldl (fun n c => n * 10 + digitValue c) 0

/-- Of the numbers with at most 53 significant bits the nearest to `n`; of two that are equally
near, the one whose last significant bit is zero. -/
def nearestDouble (n : Nat) : Nat :=
  let unit := Nat.pow 2 (n.log2 - 52)
  let units := n / unit
  let excess := 2 * (n % unit)
  if excess < unit ∨ (excess = unit ∧ units % 2 = 0) then units * unit else (units + 1) * unit

/-- A number of at most 53 bits is its own nearest double. -/
theorem nearestDouble_of_log2_le {n : Nat} (h : n.log2 ≤ 52) : nearestDouble n = n := by
  have hz : n.log2 - 52 = 0 := by omega
  simp [nearestDouble, hz, Nat.mod_one]

/-- The smallest number whose nearest double is infinite. -/
def doubleLimit : Nat := Nat.pow 2 1024 - Nat.pow 2 970

/-- The largest power of ten below `doubleLimit`. -/
def maxPower : Nat := 308

/-- Puts digits behind a significand while it keeps to 64 bits, and gives the digits left over. -/
def extend (significand : Nat) : List Char → Nat × List Char
  | [] => (significand, [])
  | c :: rest =>
    let extended := significand * 10 + digitValue c
    if extended < UInt64.size then extend extended rest else (significand, c :: rest)

/-- What a number's digits and exponent say about its size. -/
structure Magnitude where
  significand : Nat
  exponent : Int
  deriving DecidableEq, Repr

/-- The magnitude of a number with the digits before and behind its point and the exponent that
is written behind them. A digit of the whole part that is left over raises the exponent; one of
the fraction does not count. -/
def Magnitude.ofDigits (whole fraction : List Char) (written : Int) : Magnitude :=
  let (significand, skipped) := extend 0 whole
  let (significand, dropped) := extend significand fraction
  ⟨significand, written + skipped.length - (fraction.length - dropped.length : Nat)⟩

/-- Whether the double of the magnitude is infinite. -/
def Magnitude.overflows (m : Magnitude) : Bool :=
  if m.significand = 0 ∨ m.exponent < 0 then false
  else if (maxPower : Int) < m.exponent then true
  else
    doubleLimit ≤ nearestDouble m.significand * nearestDouble (Nat.pow 10 m.exponent.toNat)

end Gatehouse.Json
