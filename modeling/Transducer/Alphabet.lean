import Transducer.Word

/-!
The alphabets of the line format: which characters may stand in a label, which ones end a token, and
which words can be written as a label, as a match token or as an emit token.
-/

namespace Transducer

/-- Labels are made of ASCII letters and digits, the dollar sign and the underscore. -/
def isLabelChar (c : Char) : Bool := c.isAlphanum || c == '$' || c == '_'

/-- A separator ends a token. -/
def isSeparator (c : Char) : Bool := isBlank c || c == ','

/-- A match token also ends at the bar in front of an emit token. -/
def isTokenChar (c : Char) : Bool := !isSeparator c && c != '|'

/-- An emit token may hold bars. -/
def isEmitChar (c : Char) : Bool := !isSeparator c

theorem toNat_of_isLabelChar {c : Char} (h : isLabelChar c = true) :
    35 < c.toNat ∧ c.toNat < 123 ∧ c.toNat ≠ 44 ∧ c.toNat ≠ 58 ∧ c.toNat ≠ 91 ∧ c.toNat ≠ 93 := by
  delta isLabelChar Char.isAlphanum Char.isAlpha Char.isUpper Char.isLower Char.isDigit at h
  simp only [Bool.or_eq_true, Bool.and_eq_true, decide_eq_true_eq, beq_iff_eq, ge_iff_le,
    UInt32.le_iff_toNat_le] at h
  rcases h with (((h | h) | h) | rfl) | rfl
  · have h1 : 65 ≤ c.toNat := h.1
    have h2 : c.toNat ≤ 90 := h.2
    omega
  · have h1 : 97 ≤ c.toNat := h.1
    have h2 : c.toNat ≤ 122 := h.2
    omega
  · have h1 : 48 ≤ c.toNat := h.1
    have h2 : c.toNat ≤ 57 := h.2
    omega
  · decide
  · decide

theorem isBlank_of_isLabelChar {c : Char} (h : isLabelChar c = true) : isBlank c = false := by
  have hn := toNat_of_isLabelChar h
  simp [isBlank, blankRanges, inRanges]
  omega

theorem isEmitChar_of_isTokenChar {c : Char} (h : isTokenChar c = true) : isEmitChar c = true := by
  simp only [isTokenChar, Bool.and_eq_true] at h
  exact h.1

namespace Word

/-- A label is a non-empty run of label characters. -/
def isLabel (w : Word) : Bool := !w.isEmpty && w.all isLabelChar

/-- A match token can be written if it is not empty and nothing in it would end it. -/
def isToken (w : Word) : Bool := !w.isEmpty && w.all isTokenChar

/-- An emit token can be written if nothing in it would end it. It may be empty. -/
def isEmit (w : Word) : Bool := w.all isEmitChar

end Word

end Transducer
