import Transducer.Alphabet
import Transducer.Clause

/-!
A line read by bytes. The scanner holds a byte position of the line, moves it over the characters it
has looked at, and cuts words out of the line between two positions. A position inside a character
or behind the end of the line is no position at all: a scan that came to one would give no answer.
Nor would a loop that took more turns than a line has characters.
-/

namespace Transducer

/-- The two parts of a word at a byte position, if the position is in the word and not inside a
character. -/
def Word.splitAtByte? : Word → Nat → Option (Word × Word)
  | w, 0 => some ([], w)
  | [], _ + 1 => none
  | c :: w, n + 1 =>
    if c.utf8Size ≤ n + 1 then
      (Word.splitAtByte? w (n + 1 - c.utf8Size)).map fun (v, r) => (c :: v, r)
    else none

namespace Word

theorem splitAtByte?_append (v r : Word) : (v ++ r).splitAtByte? v.bytes = some (v, r) := by
  induction v with
  | nil => cases r <;> rfl
  | cons c v ih =>
    have hpos := c.utf8Size_pos
    obtain ⟨n, hn⟩ : ∃ n, bytes (c :: v) = n + 1 :=
      Nat.exists_eq_succ_of_ne_zero (by rw [bytes_cons]; omega)
    have hsize : n + 1 - c.utf8Size = bytes v := by
      rw [← hn, bytes_cons, Nat.add_sub_cancel_left]
    have hle : c.utf8Size ≤ n + 1 := by
      rw [← hn, bytes_cons]
      exact Nat.le_add_right _ _
    rw [hn, List.cons_append, splitAtByte?, if_pos hle, hsize, ih]
    rfl

theorem splitAtByte?_eq_some_iff {w v r : Word} {n : Nat} :
    w.splitAtByte? n = some (v, r) ↔ w = v ++ r ∧ v.bytes = n := by
  constructor
  · intro h
    induction w, n using Word.splitAtByte?.induct generalizing v with
    | case1 w =>
      cases w <;> cases h <;> exact ⟨rfl, rfl⟩
    | case2 => cases h
    | case3 c w n hle ih =>
      rw [splitAtByte?, if_pos hle] at h
      obtain ⟨⟨v, r⟩, hsplit, h⟩ := Option.map_eq_some_iff.mp h
      cases h
      obtain ⟨rfl, hbytes⟩ := ih hsplit
      refine ⟨rfl, ?_⟩
      rw [bytes_cons, hbytes]
      omega
    | case4 c w n hgt =>
      rw [splitAtByte?, if_neg hgt] at h
      cases h
  · intro h
    obtain ⟨rfl, rfl⟩ := h
    exact splitAtByte?_append v r

theorem splitAtByte?_append_append (v w r : Word) :
    (v ++ (w ++ r)).splitAtByte? (v.bytes + w.bytes) = some (v ++ w, r) := by
  rw [← List.append_assoc, ← bytes_append, splitAtByte?_append]

end Word

/-- A scan goes from one byte position to another, or fails at one, or gives no answer. -/
abbrev Scan (α : Type) : Type := StateT Nat (ExceptT Nat Option) α

namespace Scanner

variable (line : Word)

/-- The text from the position on. -/
def rest : Scan Word := do
  let (_, r) ← line.splitAtByte? (← get)
  return r

/-- The text from an earlier position up to this one. -/
def since (start : Nat) : Scan Word := do
  let (v, _) ← line.splitAtByte? (← get)
  let (_, w) ← v.splitAtByte? start
  return w

/-- Moves the position, which has to be between two characters again. -/
def advance (n : Nat) : Scan Unit := do
  let pos := (← get) + n
  let _ ← line.splitAtByte? pos
  set pos

def fail {α : Type} : Scan α := do throw (← get)

def noAnswer {α : Type} : Scan α := liftM (none : Option α)

/-- The turns that a loop may take. -/
def turns : Nat := line.length + 2

def atEnd : Scan Bool := return line.bytes ≤ (← get)

def peek : Scan (Option Char) := return (← rest line).head?

/-- The text goes on with the word. -/
def sees (w : Word) : Scan Bool := return w.isPrefixOf (← rest line)

/-- The text goes on with the keyword, in any case. As many bytes are compared as the keyword has,
if they are whole characters. -/
def seesKeyword (k : Word) : Scan Bool := do
  match (← rest line).splitAtByte? k.bytes with
  | some (w, _) => return w.map Char.toLower = k.map Char.toLower
  | none => return false

def skipWhile (p : Char → Bool) : Nat → Scan Unit
  | 0 => noAnswer
  | n + 1 => do
    match ← peek line with
    | some c =>
      if p c then
        advance line c.utf8Size
        skipWhile p n
    | none => return

def skipBlanks : Scan Unit := skipWhile line isBlank (turns line)

/-- A run of characters of a class, which may be empty. -/
def run (p : Char → Bool) : Scan Word := do
  let start ← get
  skipWhile line p (turns line)
  since line start

def label : Scan Word := do
  let start ← get
  skipWhile line isLabelChar (turns line)
  if (← get) = start then fail else since line start

def token : Scan Word := do
  let w ← run line isTokenChar
  if w.isEmpty then fail else return w

/-- The keyword at the position. -/
def keyword : Scan Role := do
  if ← seesKeyword line "START".toList then return .start
  else if ← seesKeyword line "ACCEPT".toList then return .accept
  else fail

/-- The inside of a role block, in which a role was found before. -/
def roleBlock : Nat → Role → Scan Role
  | 0, _ => noAnswer
  | n + 1, role => do
    skipBlanks line
    if (← peek line) = some ']' then
      advance line 1
      return role
    else
      let found ← keyword line
      if role ≠ .ordinary then fail
      else
        advance line ((found.keyword.map Word.bytes).getD 0)
        roleBlock n found

def role : Scan Role := do
  if (← peek line) = some '[' then
    advance line 1
    roleBlock line (turns line) .ordinary
  else return .ordinary

def colon : Scan Unit := do
  if (← peek line) = some ':' then advance line 1 else fail

def doubleColon : Scan Unit := do
  if ← sees line [':', ':'] then advance line 2 else fail

/-- The end of a clause. The first clause tells whether all of them emit. -/
def emission (known : Option Bool) : Scan (Option Word) := do
  let bar : Bool := (← peek line) = some '|'
  if known.getD bar ≠ bar then fail
  else if bar then
    advance line 1
    let e ← run line isEmitChar
    skipBlanks line
    return some e
  else return none

def clause (known : Option Bool) : Scan Clause := do
  let target ← label line
  skipBlanks line
  colon line
  skipBlanks line
  let token ← token line
  skipBlanks line
  let emit? ← emission line known
  return ⟨target, token, emit?⟩

def clauses : Nat → Option Bool → Scan (List Clause)
  | 0, _ => noAnswer
  | n + 1, known => do
    if ← atEnd line then return []
    else
      let c ← clause line known
      if (← peek line) = some ',' then
        advance line 1
        skipBlanks line
        return c :: (← clauses n (some c.emit?.isSome))
      else return [c]

/-- Scans a whole line. What is left behind the last clause is cut off, too. -/
def state : Scan State := do
  skipBlanks line
  let role ← role line
  skipBlanks line
  let label ← label line
  skipBlanks line
  doubleColon line
  skipBlanks line
  let clauses ← clauses line (turns line) none
  let _ ← rest line
  return ⟨label, role, .ofClauses clauses⟩

/-- Scans a line from its beginning. The position of a failure is told in characters, which are
counted in the part of the line in front of it. -/
def parse : Option (Except Nat State) :=
  match ((state line).run 0).run with
  | none => none
  | some (.ok (s, _)) => some (.ok s)
  | some (.error pos) => (line.splitAtByte? pos).map fun (v, _) => .error v.length

end Scanner

end Transducer
