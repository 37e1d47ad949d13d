import Transducer.State

/-!
Clauses: a transition together with the token it emits. A table is a list of clauses read column by
column; where the emit column runs out, a clause emits nothing.
-/

namespace Transducer

/-- On `token` move to `target`, and write `emit?` if there is one. -/
structure Clause where
  target : Word
  token : Word
  emit? : Option Word
  deriving DecidableEq, Repr

namespace Clause

def transition (c : Clause) : Transition := ⟨c.token, c.target⟩

/-- The clause can be taken on input that begins with its token. The empty token never applies, so
every step consumes input. -/
def applies (input : Word) (c : Clause) : Bool := !c.token.isEmpty && c.token.isPrefixOf input

/-- Pairs transitions with a column of emit tokens, as far as it reaches. -/
def pair : List Transition → List Word → List Clause
  | [], _ => []
  | t :: ts, [] => ⟨t.target, t.token, none⟩ :: pair ts []
  | t :: ts, e :: es => ⟨t.target, t.token, some e⟩ :: pair ts es

@[simp] theorem length_pair (ts : List Transition) (es : List Word) :
    (pair ts es).length = ts.length := by
  induction ts generalizing es with
  | nil => rfl
  | cons t ts ih => cases es <;> simp [pair, ih]

@[simp] theorem map_transition_pair (ts : List Transition) (es : List Word) :
    (pair ts es).map transition = ts := by
  induction ts generalizing es with
  | nil => rfl
  | cons t ts ih => cases es <;> simp [pair, transition, ih]

theorem emit?_pair (ts : List Transition) (es : List Word) (i : Nat) :
    (pair ts es)[i]?.bind emit? = if i < ts.length then es[i]? else none := by
  induction ts generalizing es i with
  | nil => simp [pair]
  | cons t ts ih => cases es <;> cases i <;> simp [pair, ih]

end Clause

namespace Table

/-- The rows of a table. -/
def clauses : Table → List Clause
  | plain ts => Clause.pair ts []
  | emitting ts es => Clause.pair ts es

@[simp] theorem length_clauses (t : Table) : t.clauses.length = t.transitions.length := by
  cases t <;> simp [clauses, transitions]

@[simp] theorem map_transition_clauses (t : Table) :
    t.clauses.map Clause.transition = t.transitions := by
  cases t <;> simp [clauses, transitions]

theorem emit?_clauses (t : Table) {i : Nat} (h : i < t.transitions.length) :
    t.clauses[i]?.bind Clause.emit? = t.emit? i := by
  cases t with
  | plain ts =>
    have h : i < ts.length := h
    rw [clauses, Clause.emit?_pair, if_pos h]
    rfl
  | emitting ts es =>
    have h : i < ts.length := h
    rw [clauses, Clause.emit?_pair, if_pos h]
    rfl

/-- The table with the given rows. The first row decides whether it has an emit column. -/
def ofClauses (cs : List Clause) : Table :=
  if cs.head?.any (·.emit?.isSome) then
    emitting (cs.map Clause.transition) (cs.filterMap Clause.emit?)
  else plain (cs.map Clause.transition)

@[simp] theorem transitions_ofClauses (cs : List Clause) :
    (ofClauses cs).transitions = cs.map Clause.transition := by
  unfold ofClauses
  split <;> rfl

end Table

namespace State

def clauses (s : State) : List Clause := s.table.clauses

/-- The first transition, in order, that the input allows. This is the first match and not the
longest. -/
def next? (s : State) (input : Word) : Option Clause := s.clauses.find? (Clause.applies input)

def choice? (s : State) (input : Word) : Option Nat := s.clauses.findIdx? (Clause.applies input)

end State

end Transducer
