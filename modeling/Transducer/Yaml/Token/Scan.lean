import Transducer.Yaml.Token

/-!
How far the reader of tokens has come. That something is a key shows only at the colon behind it.
Until then it is remembered where a key may have begun; if the colon comes, the tokens that announce
a key are put in at that place.
-/

namespace Transducer.Yaml

/-- Where a character stands. Lines and columns count from zero. -/
structure Place where
  line : Nat
  column : Nat
  /-- The number of bytes in front of it in its line. -/
  bytes : Nat
  deriving DecidableEq, Repr

/-- The place behind a character. -/
def Place.after (p : Place) (c : Char) : Place :=
  if isLineEnd c then ⟨p.line + 1, 0, 0⟩ else ⟨p.line, p.column + 1, p.bytes + c.utf8Size⟩

/-- Where a key may have begun. -/
structure Candidate where
  place : Place
  /-- The number of tokens in front of it. -/
  count : Nat
  /-- Nothing but a key can stand there. -/
  required : Bool
  deriving DecidableEq, Repr

/-- A key has to lie within one line and within this many bytes. -/
def Candidate.reach : Nat := 1024

/-- It is too late for a colon. -/
def Candidate.isStale (k : Candidate) (now : Place) : Bool :=
  k.place.line < now.line || k.place.bytes + reach < now.bytes

/-- What the next character is part of. -/
inductive Mode where
  | between
  | comment
  /-- A marker of which `left` characters are to come. -/
  | marker (left : Nat)
  | plain (d : Draft)
  /-- Text up to the quote. -/
  | quoted (quote : Char) (d : Draft)
  /-- The second of two single quotes that stand for one. -/
  | doubled (d : Draft)
  /-- An escape, behind its backslash. -/
  | escape (d : Draft)
  /-- An escape that gives a character by its number, of which `left` digits are to come. -/
  | code (d : Draft) (left value : Nat)
  deriving DecidableEq, Repr

/-- How far the reader has come. -/
structure Scan where
  place : Place
  mode : Mode
  /-- The columns of the lists and mappings open by indentation, the innermost first. -/
  columns : List Nat
  /-- Where a key may have begun, within the innermost brackets. -/
  candidate : Option Candidate
  /-- The same for what lies outside of them, the innermost first. -/
  outer : List (Option Candidate)
  /-- A key may begin here. -/
  keyAllowed : Bool
  /-- The tokens read, the latest first. -/
  tokens : List Token
  deriving DecidableEq, Repr

namespace Scan

def start : Scan := ⟨⟨0, 0, 0⟩, .between, [], none, [], true, []⟩

/-- The reader is within brackets, where indentation does not count. -/
def inFlow (s : Scan) : Bool := !s.outer.isEmpty

/-- The least column that lies within what is open by indentation. -/
def margin (s : Scan) : Nat :=
  match s.columns with
  | [] => 0
  | i :: _ => i + 1

def add (s : Scan) (t : Token) : Scan := { s with tokens := t :: s.tokens }

/-- Forgets the candidates for which it is too late. One that had to be a key makes the text
unreadable. -/
def forgetStale? (s : Scan) : Option Scan :=
  if (s.candidate :: s.outer).any (·.any fun k => k.isStale s.place && k.required) then none
  else
    let fresh (k : Option Candidate) := k.filter (!·.isStale s.place)
    some { s with candidate := fresh s.candidate, outer := s.outer.map fresh }

/-- Closes what is open by indentation and lies further in than `keep` wants. -/
def close (s : Scan) (keep : Nat → Bool) : Scan :=
  if s.inFlow then s
  else
    let closed := s.columns.takeWhile (!keep ·)
    { s with
      columns := s.columns.dropWhile (!keep ·)
      tokens := List.replicate closed.length .closeBlock ++ s.tokens }

/-- Opens a list or a mapping at a column, if that lies within what is open. -/
def openBlock (s : Scan) (column : Nat) (t : Token) : Scan :=
  if !s.inFlow && s.margin ≤ column then
    { s with columns := column :: s.columns, tokens := t :: s.tokens }
  else s

/-- Gives up the candidate, unless it has to be a key. -/
def giveUp? (s : Scan) : Option Scan :=
  if s.candidate.any (·.required) then none else some { s with candidate := none }

/-- Makes the place of the reader the candidate, if a key may begin there. What stands in the column
of an open mapping has to be a key. -/
def nominate? (s : Scan) : Option Scan :=
  if s.keyAllowed then do
    let required := !s.inFlow && s.columns.head? == some s.place.column
    return { ← s.giveUp? with candidate := some ⟨s.place, s.tokens.length, required⟩ }
  else some s

/-- Announces a key at the candidate. The mapping it lies in opens there if need be. -/
def announce (s : Scan) (k : Candidate) : Scan :=
  let later := s.tokens.length - k.count
  let opened := { s with tokens := s.tokens.drop later }.openBlock k.place.column .openBlockMap
  { opened with tokens := s.tokens.take later ++ .key :: opened.tokens }

end Scan

end Transducer.Yaml
