import Pipework.Text.Runs

/-!
# Blanks around a numeral

The characters that may stand before and after a numeral: tab, line feed, vertical tab, form feed, carriage
return, space, and the blanks that Unicode has outside ASCII. The ASCII separators `U+001C` to `U+001F` are
not among them.
-/

namespace Pipework.Text

/-- The blanks, as runs of code points. -/
def blankRuns : Runs :=
  [(0x09, 0x0D), (0x20, 0x20), (0x85, 0x85), (0xA0, 0xA0), (0x1680, 0x1680), (0x2000, 0x200A),
   (0x2028, 0x2029), (0x202F, 0x202F), (0x205F, 0x205F), (0x3000, 0x3000)]

def isBlank (c : Char) : Bool := blankRuns.contains c

/-- A text without the blanks at its two ends. -/
def trim (cs : List Char) : List Char :=
  ((cs.dropWhile isBlank).reverse.dropWhile isBlank).reverse

end Pipework.Text
