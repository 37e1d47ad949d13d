import Transducer.Word.Ranges

/-!
White space: the characters of the Unicode property White_Space. It covers line and paragraph
separators and the no-break spaces, but not the zero-width marks.
-/

namespace Transducer

/-- Ranges of the property White_Space. -/
def blankRanges : List (Nat × Nat) :=
  [(0x9, 0xd), (0x20, 0x20), (0x85, 0x85), (0xa0, 0xa0), (0x1680, 0x1680), (0x2000, 0x200a),
   (0x2028, 0x2029), (0x202f, 0x202f), (0x205f, 0x205f), (0x3000, 0x3000)]

/-- A blank separates words and is never part of one. -/
def isBlank (c : Char) : Bool := inRanges blankRanges c

end Transducer
