/-!
Blank characters: the 25 code points of the Unicode property White_Space.
-/

namespace QueryAlgebra

/-- First and last code point of each run of White_Space characters. -/
def blankRanges : List (Nat × Nat) :=
  [(0x09, 0x0D), (0x20, 0x20), (0x85, 0x85), (0xA0, 0xA0), (0x1680, 0x1680), (0x2000, 0x200A),
   (0x2028, 0x2029), (0x202F, 0x202F), (0x205F, 0x205F), (0x3000, 0x3000)]

def isBlank (c : Char) : Bool :=
  blankRanges.any fun (first, last) => first ≤ c.toNat && c.toNat ≤ last

/-- A text is blank when no character of it is visible; the empty text is. -/
def isBlankText (text : String) : Bool :=
  text.toList.all isBlank

def skipBlanks (text : List Char) : List Char :=
  text.dropWhile isBlank

example : (blankRanges.map fun (first, last) => last + 1 - first).sum = 25 := by decide

end QueryAlgebra
