import Transducer.Word

/-!
The text of a YAML file: which characters may stand in it and which of them end a line.
-/

namespace Transducer.Yaml

/-- Within a line only spaces and tabs are blank. -/
def isSpace (c : Char) : Bool := c == ' ' || c == '\t'

/-- What ends a line of a uniform text: the line feed and the two separators of Unicode. -/
def isLineEnd (c : Char) : Bool := c == '\n' || c == '\u2028' || c == '\u2029'

/-- Control characters may not stand in a file, apart from tabs and line ends; nor may the last two
numbers of the basic plane, which are no characters. -/
def isAllowed (c : Char) : Bool :=
  let n := c.toNat
  n == 0x09 || n == 0x0a || n == 0x0d || (0x20 ≤ n && n ≤ 0x7e) || n == 0x85 ||
    (0xa0 ≤ n && n ≤ 0xfffd) || 0x10000 ≤ n

/-- The text with a line feed for each carriage return, with or without a line feed behind it, and
for each next-line character. -/
def uniform : Word → Word
  | [] => []
  | '\r' :: '\n' :: w => '\n' :: uniform w
  | '\r' :: w => '\n' :: uniform w
  | '\x85' :: w => '\n' :: uniform w
  | c :: w => c :: uniform w

/-- The text of a file in uniform lines, unless a character in it may not be there. -/
def source? (text : Word) : Option Word := if text.all isAllowed then some (uniform text) else none

/-- Nothing stands directly in front: a blank, a line end or the end of the text. -/
def isClear (w : Word) : Bool :=
  match w with
  | [] => true
  | c :: _ => isSpace c || isLineEnd c

end Transducer.Yaml
