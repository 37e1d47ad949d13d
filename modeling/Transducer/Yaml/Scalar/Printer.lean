import Transducer.Yaml.Scalar

/-!
Writing a text as a scalar on one line. Other printers choose other quotes, or quote a plain text that
reads like a number; no result depends on what is written of a text that is not written as it is.
-/

namespace Transducer.Yaml

/-- The character stands for itself within a line. -/
def isOrdinary (c : Char) : Bool := isAllowed c && !isLineEnd c && c != '\r' && c != '\x85'

/-- Nothing in a plain scalar would end it early. -/
def staysPlain (behindSpace : Bool) : Word → Bool
  | [] => true
  | c :: w =>
    isOrdinary c && !(behindSpace && c == '#') && !endsPlain false c w && staysPlain (isSpace c) w

/-- The text reads back as a plain scalar if it is written as it is. -/
def isPlain (w : Word) : Bool :=
  beginsPlain false w && staysPlain false w && !w.getLast?.any isSpace

/-- The escape that gives a character by its number. -/
def codeEscape (c : Char) : Word :=
  '\\' :: 'U' :: [7, 6, 5, 4, 3, 2, 1, 0].map fun i => Nat.digitChar (c.toNat / Nat.pow 16 i % 16)

/-- Writes a character for use between quotes. -/
def quoteChar (c : Char) : Word :=
  if c = '"' ∨ c = '\\' then ['\\', c] else if isOrdinary c then [c] else codeEscape c

/-- Writes a text as it is if it then reads back, and between quotes otherwise. -/
def write (w : Word) : Word := if isPlain w then w else '"' :: w.flatMap quoteChar ++ ['"']

end Transducer.Yaml
