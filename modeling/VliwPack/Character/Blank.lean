import VliwPack.Character.Ranges

/-! # Blank characters

A character is blank when it has the property White_Space.
-/

namespace VliwPack.Character

/-- The blank characters. -/
def blankRanges : Ranges :=
  [(0x9, 0xD), (0x20, 0x20), (0x85, 0x85), (0xA0, 0xA0), (0x1680, 0x1680), (0x2000, 0x200A),
    (0x2028, 0x2029), (0x202F, 0x202F), (0x205F, 0x205F), (0x3000, 0x3000)]

/-- The character is blank. -/
def isBlank (c : Char) : Bool := blankRanges.contains c

/-- A text without the blanks before it and after it. -/
def trimBlanks (text : List Char) : List Char :=
  ((text.dropWhile isBlank).reverse.dropWhile isBlank).reverse

end VliwPack.Character
