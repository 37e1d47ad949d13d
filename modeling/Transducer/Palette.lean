import Transducer.Word

/-!
Colours on a terminal. A painted text stands between a code that turns a style on and one that turns
all styles off; where the text itself turns them off, the style is turned on again.
-/

namespace Transducer

inductive Style where
  | bold
  | dimmed
  | red
  | green
  | yellow
  | cyan
  | boldCyan
  deriving DecidableEq, Repr

/-- The number of a style, or its numbers. -/
def Style.code : Style → String
  | bold => "1"
  | dimmed => "2"
  | red => "31"
  | green => "32"
  | yellow => "33"
  | cyan => "36"
  | boldCyan => "1;36"

/-- Whether there are colours. -/
inductive Palette where
  | monochrome
  | colored
  deriving DecidableEq, Repr

namespace Palette

/-- Puts `start` behind every code in a text that turns styles off. -/
def resume (start : Word) : Word → Word
  | [] => []
  | '\x1b' :: '[' :: '0' :: 'm' :: w => "\x1b[0m".toList ++ start ++ resume start w
  | c :: w => c :: resume start w

def paint (p : Palette) (style : Style) (text : String) : String :=
  match p with
  | monochrome => text
  | colored =>
    let start := s!"\x1b[{style.code}m"
    start ++ String.ofList (resume start.toList text.toList) ++ "\x1b[0m"

end Palette

end Transducer
