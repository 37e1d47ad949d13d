import Transducer.Digit
import Transducer.Word

/-!
Text between quotes. `escape` writes a word so that it can stand between quotes; `unescape?` reads
what stands there. A reader accepts more than is ever written: every character may be given by its
number in UTF-16, and those beyond the basic plane are then given by two numbers.
-/

namespace Transducer.Quoted

/-- The characters with a short escape, each with the letter that stands for it. -/
def shortEscapes : List (Char × Char) :=
  [('"', '"'), ('\\', '\\'), ('\n', 'n'), ('\r', 'r'), ('\t', 't'), ('\x08', 'b'), ('\x0c', 'f')]

/-- The character a letter stands for. A slash may be escaped but never is. -/
def shortEscape? (e : Char) : Option Char :=
  if e = '/' then some '/' else (shortEscapes.find? (·.2 == e)).map Prod.fst

/-- Control characters may not stand as they are. -/
def isControl (c : Char) : Bool := c.toNat < 0x20

def escapeChar (c : Char) : Word :=
  match shortEscapes.find? (·.1 == c) with
  | some (_, e) => ['\\', e]
  | none =>
    if isControl c then
      ['\\', 'u', '0', '0', Nat.digitChar (c.toNat / 16), Nat.digitChar (c.toNat % 16)]
    else [c]

/-- Writes a word for use between quotes. -/
def escape (w : Word) : Word := w.flatMap escapeChar

def hex4? (a b c d : Char) : Option Nat := do
  return (((← Digit.value? a) * 16 + (← Digit.value? b)) * 16 + (← Digit.value? c)) * 16 +
    (← Digit.value? d)

/-- Cuts a text at its closing quote, if it has one and nothing in front of it is out of place. The
first part is left as it was written. -/
def close? : Word → Option (Word × Word)
  | [] => none
  | '"' :: r => some ([], r)
  | '\\' :: 'u' :: a :: b :: c :: d :: r =>
    if (hex4? a b c d).isSome then
      (close? r).map fun (raw, r) => ('\\' :: 'u' :: a :: b :: c :: d :: raw, r)
    else none
  | '\\' :: e :: r =>
    if (shortEscape? e).isSome then (close? r).map fun (raw, r) => ('\\' :: e :: raw, r) else none
  | c :: r => if isControl c then none else (close? r).map fun (raw, r) => (c :: raw, r)

theorem length_close {s raw r : Word} (h : close? s = some (raw, r)) : r.length < s.length := by
  fun_induction close? s generalizing raw r with
  | case1 => simp at h
  | case2 => simp_all
  | case3 a b c d s _ ih =>
    obtain ⟨⟨v, u⟩, hv, hu⟩ := Option.map_eq_some_iff.1 h
    simp only [Prod.mk.injEq] at hu
    have := ih hv
    simp only [List.length_cons, ← hu.2]
    omega
  | case4 => simp at h
  | case5 e s _ _ ih =>
    obtain ⟨⟨v, u⟩, hv, hu⟩ := Option.map_eq_some_iff.1 h
    simp only [Prod.mk.injEq] at hu
    have := ih hv
    simp only [List.length_cons, ← hu.2]
    omega
  | case6 => simp at h
  | case7 => simp at h
  | case8 c s _ _ _ _ ih =>
    obtain ⟨⟨v, u⟩, hv, hu⟩ := Option.map_eq_some_iff.1 h
    simp only [Prod.mk.injEq] at hu
    have := ih hv
    simp only [List.length_cons, ← hu.2]
    omega

/-- What is written stands for a character or for one number of UTF-16. -/
inductive Piece where
  | char (c : Char)
  | unit (n : Nat)

/-- Resolves the escapes of a text one by one. -/
def pieces? : Word → Option (List Piece)
  | [] => some []
  | '\\' :: 'u' :: a :: b :: c :: d :: r => do
    let n ← hex4? a b c d
    return .unit n :: (← pieces? r)
  | '\\' :: e :: r => do
    let c ← shortEscape? e
    return .char c :: (← pieces? r)
  | c :: r => (pieces? r).map (.char c :: ·)

/-- The first of the two numbers of a character beyond the basic plane. -/
def isLeading (n : Nat) : Bool := 0xd800 ≤ n && n < 0xdc00

/-- The second of them. -/
def isTrailing (n : Nat) : Bool := 0xdc00 ≤ n && n < 0xe000

/-- Joins the numbers of UTF-16 to characters. Half a pair is no character. -/
def characters? : List Piece → Option Word
  | [] => some []
  | .char c :: ps => (characters? ps).map (c :: ·)
  | .unit n :: .unit m :: ps =>
    if isLeading n then
      if isTrailing m then
        (characters? ps).map (Char.ofNat (0x10000 + (n - 0xd800) * 0x400 + (m - 0xdc00)) :: ·)
      else none
    else if isTrailing n then none
    else (characters? (.unit m :: ps)).map (Char.ofNat n :: ·)
  | .unit n :: ps =>
    if isLeading n || isTrailing n then none else (characters? ps).map (Char.ofNat n :: ·)

/-- Reads what stands between quotes. -/
def unescape? (raw : Word) : Option Word := (pieces? raw).bind characters?

end Transducer.Quoted
