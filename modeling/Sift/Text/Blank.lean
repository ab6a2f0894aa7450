import Sift.Text.CharTable

/-!
# Blank text

The blanks are the characters with the property `White_Space` of the Unicode standard: the six
controls, the plain space, and the typographic spaces. A text is blank when it holds nothing else,
the empty text included.
-/

namespace Sift.Text

/-- The ranges of the property `White_Space`. -/
def blankTable : CharTable :=
  [(0x9, 0xD), (0x20, 0x20), (0x85, 0x85), (0xA0, 0xA0), (0x1680, 0x1680), (0x2000, 0x200A),
    (0x2028, 0x2029), (0x202F, 0x202F), (0x205F, 0x205F), (0x3000, 0x3000)]

/-- Whether a text has no character other than blanks. -/
def isBlank (s : String) : Bool :=
  s.toList.all blankTable.has

@[simp] theorem isBlank_empty : isBlank "" = true := by simp [isBlank]

end Sift.Text
