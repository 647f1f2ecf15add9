import Gatehouse.Text.Ranges

/-!
# Blank and control characters

`isBlank` is the Unicode property `White_Space`; `isControl` is the general category of
control characters. A method path holds neither.
-/

namespace Gatehouse.Text

/-- Code points with the property `White_Space`. -/
def blanks : Ranges :=
  [(0x9, 0xd), (0x20, 0x20), (0x85, 0x85), (0xa0, 0xa0), (0x1680, 0x1680), (0x2000, 0x200a),
   (0x2028, 0x2029), (0x202f, 0x202f), (0x205f, 0x205f), (0x3000, 0x3000)]

/-- Code points of control characters. -/
def controls : Ranges := [(0x0, 0x1f), (0x7f, 0x9f)]

/-- Whether the character is white space in the sense of Unicode. -/
def isBlank (c : Char) : Bool := blanks.contains c.toNat

/-- Whether the character is a control character. -/
def isControl (c : Char) : Bool := controls.contains c.toNat

end Gatehouse.Text
