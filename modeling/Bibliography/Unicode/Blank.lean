import Bibliography.Unicode.CharSet

/-! # Blank characters

The property White_Space. Trimming and splitting into words go by it.
-/

namespace Bibliography.Unicode
set_option autoImplicit false

/-- The characters with the property White_Space. -/
def blanks : CharSet where
  ranges := [
    (0x9, 0xD), (0x20, 0x20), (0x85, 0x85), (0xA0, 0xA0), (0x1680, 0x1680), (0x2000, 0x200A),
    (0x2028, 0x2029), (0x202F, 0x202F), (0x205F, 0x205F), (0x3000, 0x3000)
  ]

/-- A blank separates words and is trimmed from the ends of a text. -/
def isBlank (c : Char) : Bool := blanks.contains c

end Bibliography.Unicode
