import Transducer.Digit
import Transducer.Word

/-!
Numbers in settings. They count steps and have to fit into 64 bits.
-/

namespace Transducer.Numeral

/-- Numbers have to be less than this. -/
def bound : Nat := UInt64.size

/-- The value of a row of digits that comes after digits of the value `n`. -/
def valueAfter? (base n : Nat) : Word → Option Nat
  | [] => some n
  | c :: w => ((Digit.value? c).filter (· < base)).bind fun d => valueAfter? base (n * base + d) w

/-- A number in some base, without a sign. -/
def inBase? (base : Nat) (w : Word) : Option Nat :=
  if w.isEmpty then none else (valueAfter? base 0 w).filter (· < bound)

/-- The word without a plus sign in front. -/
def dropPlus : Word → Word
  | '+' :: w => w
  | w => w

/-- A decimal number, perhaps with a plus sign. -/
def decimal? (w : Word) : Option Nat := inBase? 10 (dropPlus w)

/-- More than one digit, the first of them zero. -/
def hasLeadingZero : Word → Bool
  | '0' :: c :: w => (c :: w).all Char.isDigit
  | _ => false

/-- A number in decimal without superfluous zeros, or marked as hexadecimal, octal or binary. -/
def literal? (w : Word) : Option Nat :=
  match dropPlus w with
  | '0' :: 'x' :: digits => inBase? 16 digits
  | '0' :: 'o' :: digits => inBase? 8 digits
  | '0' :: 'b' :: digits => inBase? 2 digits
  | digits => if hasLeadingZero digits then none else inBase? 10 digits

def toWord (n : Nat) : Word := Nat.toDigits 10 n

end Transducer.Numeral
