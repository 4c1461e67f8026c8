import Gatehouse.Unicode.Category

/-!
# Characters that can be seen

A character is seen by itself unless its category says that it has no shape of its own, or it is a
mark that is drawn over the character before it.
-/

namespace Gatehouse.Unicode

/-- Control and format characters, blanks, and code points that are private or not assigned. -/
def shapelessRanges : Ranges := categoryRanges ["Cc", "Cf", "Cs", "Co", "Cn", "Zl", "Zp", "Zs"]

/-- The property Grapheme_Extend. -/
def extendingRanges : Ranges := categoryRanges ["Mn", "Me"] ++
  readRanges "9be 9d7 b3e b57 bbe bd7 cc0 cc2 cc7-cc8 cca-ccb cd5-cd6 d3e d57 dcf ddf 1b35 1b3b
1b3d 1b43-1b44 1baa 1bf2-1bf3 200c 302e-302f a953 a9c0 ff9e-ff9f 111c0 11235 1133e 1134d 11357
113b8 113c2 113c5 113c7-113c9 113cf 114b0 114bd 115af 116b6 11930 1193d 16ff0-16ff1 1d165-1d166
1d16d-1d172 e0020-e007f"

/-- Whether a character is seen by itself; the space is. -/
def isVisible (c : Char) : Bool :=
  if c.toNat < 0x7F then 0x20 ≤ c.toNat
  else !shapelessRanges.contains c && !extendingRanges.contains c

end Gatehouse.Unicode
