set_option autoImplicit false

/-! # Blank text

A character is blank when Unicode gives it the property `White_Space`; a text is blank when it holds
no other characters. -/

namespace ComponentSpec.Text

/-- The code points of the property `White_Space`, as closed ranges. -/
def blankRanges : List (Nat × Nat) :=
  [(0x9, 0xd), (0x20, 0x20), (0x85, 0x85), (0xa0, 0xa0), (0x1680, 0x1680), (0x2000, 0x200a),
    (0x2028, 0x2029), (0x202f, 0x202f), (0x205f, 0x205f), (0x3000, 0x3000)]

/-- Whether `n` lies in one of the closed ranges. -/
def inRanges (ranges : List (Nat × Nat)) (n : Nat) : Bool :=
  ranges.any fun (lo, hi) => lo ≤ n && n ≤ hi

/-- A character with the property `White_Space`. -/
def isBlankChar (c : Char) : Bool :=
  inRanges blankRanges c.toNat

/-- A text without a character to be seen. -/
def isBlank (s : String) : Bool :=
  s.toList.all isBlankChar

theorem isBlank_empty : isBlank "" = true := rfl

end ComponentSpec.Text
