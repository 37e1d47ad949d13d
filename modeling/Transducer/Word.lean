import Transducer.Word.Blank

/-!
Words over the characters, as in the theory of automata: labels, tokens, inputs, lines and whole
documents are all words. The module holds what is common to them: length in bytes, cutting at
blanks and cutting into lines.
-/

namespace Transducer

/-- A word over the characters. -/
abbrev Word := List Char

namespace Word

def text (w : Word) : String := String.ofList w

/-- The number of bytes of the word in UTF-8. -/
def bytes : Word → Nat
  | [] => 0
  | c :: w => c.utf8Size + bytes w

@[simp] theorem bytes_nil : bytes [] = 0 := rfl

@[simp] theorem bytes_cons (c : Char) (w : Word) : bytes (c :: w) = c.utf8Size + bytes w := rfl

@[simp] theorem bytes_append (v w : Word) : bytes (v ++ w) = bytes v + bytes w := by
  induction v with
  | nil => simp
  | cons c v ih => simp [ih, Nat.add_assoc]

theorem bytes_eq_zero_iff {w : Word} : bytes w = 0 ↔ w = [] := by
  cases w with
  | nil => simp
  | cons c w =>
    have hpos := c.utf8Size_pos
    simp only [bytes_cons, List.cons_ne_nil, iff_false]
    omega

def trimStart (w : Word) : Word := w.dropWhile isBlank

def trimEnd (w : Word) : Word := (w.reverse.dropWhile isBlank).reverse

def trim (w : Word) : Word := trimEnd (trimStart w)

/-- A word of blanks only, or empty. -/
def isBlank (w : Word) : Bool := w.all Transducer.isBlank

/-- The maximal runs of characters that are not blank, in order. -/
def words : Word → List Word
  | [] => []
  | c :: w =>
    if Transducer.isBlank c then words w
    else (c :: w.takeWhile (!Transducer.isBlank ·)) :: words (w.dropWhile (!Transducer.isBlank ·))
termination_by w => w.length
decreasing_by
  · simp
  · have := (List.dropWhile_suffix (l := w) (!Transducer.isBlank ·)).length_le
    simp only [List.length_cons]
    omega

/-- The lines of a document. A line ends at a line feed, with one carriage return before it dropped;
a last line without an end counts if it is not empty. -/
def lines : Word → List Word
  | [] => []
  | '\r' :: '\n' :: w => [] :: lines w
  | '\n' :: w => [] :: lines w
  | c :: w =>
    match lines w with
    | [] => [[c]]
    | l :: ls => (c :: l) :: ls

/-- Writes a separator between words. -/
def join (separator : Word) : List Word → Word
  | [] => []
  | [w] => w
  | w :: v :: ws => w ++ separator ++ join separator (v :: ws)

end Word

end Transducer
