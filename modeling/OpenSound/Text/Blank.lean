import OpenSound.Text.Ranges

/-!
# Blank characters

The characters with the Unicode property of white space, and cutting them off a text.
-/

namespace OpenSound.Text

/-- The code points with the property of white space. -/
def blankRanges : Ranges := [
  (0x9, 0xd), (0x20, 0x20), (0x85, 0x85), (0xa0, 0xa0), (0x1680, 0x1680), (0x2000, 0x200a),
  (0x2028, 0x2029), (0x202f, 0x202f), (0x205f, 0x205f), (0x3000, 0x3000)]

/-- Whether the character is white space. -/
def isBlank (c : Char) : Bool := blankRanges.contains c

/-- The text without the blanks at its start and its end. -/
def trim (text : List Char) : List Char :=
  ((text.dropWhile isBlank).reverse.dropWhile isBlank).reverse

end OpenSound.Text
