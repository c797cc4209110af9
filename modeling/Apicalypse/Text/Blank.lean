import Apicalypse.Text.Ranges

/-!
# Blank characters

The characters with the property `White_Space`, and cutting them off at both ends of a text.
-/

namespace Apicalypse.Text

/-- Characters with the property `White_Space`. -/
def blankRanges : Ranges := [
    (0x0009, 0x000D), (0x0020, 0x0020), (0x0085, 0x0085), (0x00A0, 0x00A0), (0x1680, 0x1680),
    (0x2000, 0x200A), (0x2028, 0x2029), (0x202F, 0x202F), (0x205F, 0x205F), (0x3000, 0x3000)]

/-- A space, tab, line break or other blank of any script. -/
def isBlank (c : Char) : Bool := blankRanges.contains c

/-- A text without the blanks at its start. -/
def trimStart (cs : List Char) : List Char := cs.dropWhile isBlank

/-- A text without the blanks at its end. -/
def trimEnd (cs : List Char) : List Char := (cs.reverse.dropWhile isBlank).reverse

/-- A text without the blanks at its start and at its end. -/
def trim (cs : List Char) : List Char := trimEnd (trimStart cs)

end Apicalypse.Text
