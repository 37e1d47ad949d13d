import Transducer.Json.Quoted

/-!
The lexemes of JSON: brackets, separators, quoted texts and bare words, which are the three keywords
and the numbers. A bare word is always read to its end, so one lexeme never hides in another.
-/

namespace Transducer.Json

inductive Lexeme where
  | openArray
  | closeArray
  | openObject
  | closeObject
  | colon
  | comma
  | null
  | bool (b : Bool)
  | number (literal : Word)
  | string (raw : Word)
  deriving DecidableEq, Repr

namespace Lexeme

/-- The blanks of JSON are those of a typewriter. -/
def isBlank (c : Char) : Bool := c == ' ' || c == '\n' || c == '\r' || c == '\t'

/-- The characters of keywords and numbers. -/
def isBare (c : Char) : Bool := c.isAlphanum || c == '+' || c == '-' || c == '.'

def isDigits (w : Word) : Bool := !w.isEmpty && w.all Char.isDigit

/-- What may follow the whole part of a number: a sign and digits after the mark of the exponent. -/
def isExponent (w : Word) : Bool :=
  match w with
  | [] => true
  | 'e' :: '+' :: r | 'e' :: '-' :: r | 'E' :: '+' :: r | 'E' :: '-' :: r => isDigits r
  | 'e' :: r | 'E' :: r => isDigits r
  | _ => false

/-- The part of a number from its point on. -/
def isFraction (w : Word) : Bool :=
  match w with
  | '.' :: r => isDigits (r.takeWhile Char.isDigit) && isExponent (r.dropWhile Char.isDigit)
  | _ => isExponent w

/-- A number without its sign. Only zero itself begins with a zero. -/
def isMagnitude (w : Word) : Bool :=
  match w with
  | '0' :: r => isFraction r
  | _ => isDigits (w.takeWhile Char.isDigit) && isFraction (w.dropWhile Char.isDigit)

def isNumber (w : Word) : Bool :=
  match w with
  | '-' :: r => isMagnitude r
  | _ => isMagnitude w

def bare? (w : Word) : Option Lexeme :=
  if w = "null".toList then some .null
  else if w = "true".toList then some (.bool true)
  else if w = "false".toList then some (.bool false)
  else if isNumber w then some (.number w)
  else none

/-- The first lexeme of a text that does not begin with a blank. -/
def first? (s : Word) : Option (Lexeme × Word) :=
  match s with
  | '[' :: r => some (.openArray, r)
  | ']' :: r => some (.closeArray, r)
  | '{' :: r => some (.openObject, r)
  | '}' :: r => some (.closeObject, r)
  | ':' :: r => some (.colon, r)
  | ',' :: r => some (.comma, r)
  | '"' :: r => (Quoted.close? r).map fun (raw, r) => (.string raw, r)
  | s => (bare? (s.takeWhile isBare)).map (·, s.dropWhile isBare)

theorem bare?_nil : bare? [] = none := by decide

theorem length_first {s r : Word} {l : Lexeme} (h : first? s = some (l, r)) :
    r.length < s.length := by
  unfold first? at h
  split at h
  case h_7 =>
    obtain ⟨⟨raw, u⟩, hc, hu⟩ := Option.map_eq_some_iff.1 h
    simp only [Prod.mk.injEq] at hu
    have := Quoted.length_close hc
    simp only [List.length_cons, ← hu.2]
    omega
  case h_8 =>
    obtain ⟨b, hb, hu⟩ := Option.map_eq_some_iff.1 h
    simp only [Prod.mk.injEq] at hu
    have hne : s.takeWhile isBare ≠ [] := by
      intro hnil
      simp [hnil, bare?_nil] at hb
    have hlen := congrArg List.length (List.takeWhile_append_dropWhile (p := isBare) (l := s))
    rw [List.length_append] at hlen
    have := List.length_pos_iff.mpr hne
    rw [← hu.2]
    omega
  all_goals
    simp only [Option.some.injEq, Prod.mk.injEq] at h
    simp [← h.2]

end Lexeme

/-- The lexemes of a text, if it has no other parts than lexemes and blanks. -/
def lexemes? (s : Word) : Option (List Lexeme) :=
  match s with
  | [] => some []
  | c :: t =>
    if Lexeme.isBlank c then lexemes? t
    else
      match h : Lexeme.first? (c :: t) with
      | none => none
      | some (l, r) =>
        have := Lexeme.length_first h
        (lexemes? r).map (l :: ·)
termination_by s.length
decreasing_by
  · exact Nat.lt_succ_self _
  · assumption

end Transducer.Json
