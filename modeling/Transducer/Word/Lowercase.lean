import Transducer.Word
import Transducer.Word.Lowercase.Table

/-!
Small letters, by the full mapping of Unicode. It can lengthen a word, and it looks at the
neighbours of one letter: a capital sigma becomes the final sigma at the end of a word.
-/

namespace Transducer.Lowercase

def isCased (c : Char) : Bool := inRanges casedRanges c

def isIgnorable (c : Char) : Bool := inRanges ignorableRanges c

/-- The next character that counts is a letter with case. -/
def meetsCased (w : Word) : Bool := (w.dropWhile isIgnorable).head?.any isCased

/-- The small form of a letter that does not depend on its neighbours. -/
def ofChar (c : Char) : Word :=
  if c = '\u0130' then ['i', '\u0307']
  else [((capitals.findSome? (·.small? c.toNat)).map Char.ofNat).getD c]

/-- The small form of a letter between the characters `before` it, nearest first, and those `after`
it. -/
def ofCharBetween (before : Word) (c : Char) (after : Word) : Word :=
  if c = '\u03a3' then
    if meetsCased before && !meetsCased after then ['\u03c2'] else ['\u03c3']
  else ofChar c

def after (before : Word) : Word → Word
  | [] => []
  | c :: w => ofCharBetween before c w ++ after (c :: before) w

end Lowercase

/-- The word in small letters. -/
def Word.lowercase (w : Word) : Word := Lowercase.after [] w

namespace Lowercase

theorem ofChar_of_ascii {c : Char} (h : c.toNat < 128) : ofChar c = [c.toLower] := by
  have hall : ∀ n < 128, ofChar (Char.ofNat n) = [(Char.ofNat n).toLower] := by decide +kernel
  simpa using hall c.toNat h

theorem after_of_ascii {w : Word} (h : ∀ c ∈ w, c.toNat < 128) (before : Word) :
    after before w = w.map Char.toLower := by
  induction w generalizing before with
  | nil => rfl
  | cons c w ih =>
    obtain ⟨hc, hw⟩ := List.forall_mem_cons.mp h
    have hsigma : c ≠ '\u03a3' := by
      rintro rfl
      exact absurd hc (by decide)
    rw [after, ofCharBetween, if_neg hsigma, ofChar_of_ascii hc, ih hw]
    rfl

end Lowercase

/-- In a word of ASCII characters the small letters are those of ASCII. -/
theorem Word.lowercase_of_ascii {w : Word} (h : ∀ c ∈ w, c.toNat < 128) :
    w.lowercase = w.map Char.toLower :=
  Lowercase.after_of_ascii h []

end Transducer
