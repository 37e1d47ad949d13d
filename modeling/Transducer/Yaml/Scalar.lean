import Transducer.Digit
import Transducer.Yaml.Source

/-!
Scalars, the texts in a YAML file. A scalar may go on over several lines: a single line end in it
stands for a space, and of several all but the first are kept. The module holds what the reader of
tokens has to know about that, and about escapes.
-/

namespace Transducer.Yaml

/-- Text that stands as it is may also be a number or a truth value; text between quotes is only
ever text. -/
inductive Style where
  | plain
  | quoted
  deriving DecidableEq, Repr

structure Scalar where
  style : Style
  text : Word
  deriving DecidableEq, Repr

/-- The scalar where nothing is written. -/
def Scalar.empty : Scalar := ⟨.plain, []⟩

/-- Blanks and line ends that have been read but turn out to be part of a scalar only if more of it
follows. Words are kept with their last character first. -/
inductive Gap where
  | spaces (w : Word)
  /-- The first line end, which is missing if it was escaped, and those behind it. Blanks around
  line ends do not count. -/
  | lines (first : Option Char) (more : Word)
  deriving DecidableEq, Repr

namespace Gap

def none : Gap := spaces []

def isNone : Gap → Bool
  | spaces [] => true
  | _ => false

/-- The gap reaches into another line. -/
def isBroken : Gap → Bool
  | spaces _ => false
  | lines .. => true

def addSpace (c : Char) : Gap → Gap
  | spaces w => spaces (c :: w)
  | g => g

def addLineEnd (c : Char) : Gap → Gap
  | spaces _ => lines (some c) []
  | lines first more => lines first (c :: more)

/-- What the gap stands for in a scalar. A single line feed is a space, and the first of several is
dropped; a separator is kept. -/
def folded : Gap → Word
  | spaces w => w
  | lines (some '\n') [] => [' ']
  | lines (some '\n') more => more
  | lines (some c) more => more ++ [c]
  | lines .none more => more

end Gap

/-- A scalar as far as it has been read, its last character first, and the gap behind it. -/
structure Draft where
  text : Word
  gap : Gap
  deriving DecidableEq, Repr

namespace Draft

def empty : Draft := ⟨[], Gap.none⟩

/-- Takes the gap into the text. -/
def joined (d : Draft) : Word := d.gap.folded ++ d.text

def push (d : Draft) (c : Char) : Draft := ⟨c :: d.joined, Gap.none⟩

def space (d : Draft) (c : Char) : Draft := { d with gap := d.gap.addSpace c }

def lineEnd (d : Draft) (c : Char) : Draft := { d with gap := d.gap.addLineEnd c }

/-- Goes on in the next line as if the line end were not there. -/
def continued (d : Draft) : Draft := ⟨d.joined, .lines .none []⟩

/-- The scalar, if it ends in front of the gap. -/
def plain (d : Draft) : Scalar := ⟨.plain, d.text.reverse⟩

/-- The scalar, if a quote behind the gap ends it. -/
def quoted (d : Draft) : Scalar := ⟨.quoted, d.joined.reverse⟩

end Draft

/-- The letters of escapes with the characters they stand for. -/
def escapes : List (Char × Char) :=
  [('0', '\x00'), ('a', '\x07'), ('b', '\x08'), ('t', '\t'), ('\t', '\t'), ('n', '\n'),
    ('v', '\x0b'), ('f', '\x0c'), ('r', '\r'), ('e', '\x1b'), (' ', ' '), ('"', '"'), ('/', '/'),
    ('\\', '\\'), ('N', '\x85'), ('_', '\xa0'), ('L', '\u2028'), ('P', '\u2029')]

/-- The character a letter stands for in an escape. -/
def escape? (letter : Char) : Option Char := (escapes.find? (·.1 == letter)).map Prod.snd

/-- The number of digits behind a letter that gives a character by its number. -/
def codeLength? (letter : Char) : Option Nat :=
  if letter = 'x' then some 2
  else if letter = 'u' then some 4
  else if letter = 'U' then some 8
  else none

/-- The character with a number. Half a pair of UTF-16 is no character. -/
def ofCode? (n : Nat) : Option Char := if n.isValidChar then some (Char.ofNat n) else none

/-- Characters that end a plain scalar within brackets. -/
def isBracketing (c : Char) : Bool := [',', '[', ']', '{', '}'].contains c

/-- Characters that mean something else where a scalar begins. -/
def isIndicator (c : Char) : Bool :=
  isBracketing c || ['#', '&', '*', '!', '|', '>', '\'', '"', '%', '@', '\x60'].contains c

/-- Characters that mean something only in front of a blank. -/
def isHalfIndicator (c : Char) : Bool := c == '-' || c == '?' || c == ':'

/-- A plain scalar can begin here. Within brackets the question mark and the colon always have a
meaning of their own. -/
def beginsPlain (inFlow : Bool) (w : Word) : Bool :=
  match w with
  | [] => false
  | c :: w =>
    if isHalfIndicator c then !isClear w && (c == '-' || !inFlow)
    else !(isSpace c || isLineEnd c || isIndicator c)

/-- A plain scalar ends here: at a colon that nothing follows directly, or within brackets where
they go on. -/
def endsPlain (inFlow : Bool) (c : Char) (w : Word) : Bool :=
  (c == ':' && isClear w) || (inFlow && isBracketing c)

/-- Within brackets a colon in a plain scalar may not stand directly in front of a bracket, a comma
or a question mark. -/
def isMisplacedColon (inFlow : Bool) (c : Char) (w : Word) : Bool :=
  inFlow && c == ':' && w.head?.any fun d => isBracketing d || d == '?'

end Transducer.Yaml
