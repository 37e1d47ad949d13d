import Transducer.Word

/-!
States of a transducer. A state has a label, a role and an ordered table of transitions. A table
either emits nothing, or keeps a column of emit tokens beside its transitions; the column is kept as
given, so it may be shorter or longer than the list of transitions.
-/

namespace Transducer

/-- What a state is for. No state is both a start and an accepting state. -/
inductive Role where
  | ordinary
  | start
  | accept
  deriving DecidableEq, Repr

/-- The keyword of a role in a line. -/
def Role.keyword : Role → Option Word
  | .ordinary => none
  | .start => some "START".toList
  | .accept => some "ACCEPT".toList

/-- On input that begins with `token`, move to the state labelled `target`. -/
structure Transition where
  token : Word
  target : Word
  deriving DecidableEq, Repr

/-- Transitions in order of preference, with or without a column of emit tokens. -/
inductive Table where
  | plain (transitions : List Transition)
  | emitting (transitions : List Transition) (emits : List Word)
  deriving DecidableEq, Repr

namespace Table

def transitions : Table → List Transition
  | plain ts => ts
  | emitting ts _ => ts

/-- The emit column, if the table has one. -/
def emits? : Table → Option (List Word)
  | plain _ => none
  | emitting _ es => some es

/-- The emit token of the transition at an index, if there is one. -/
def emit? (t : Table) (index : Nat) : Option Word := t.emits?.bind (·[index]?)

/-- The emit column, if there is one, lines up with the transitions. -/
def isBalanced : Table → Bool
  | plain _ => true
  | emitting ts es => ts.length == es.length

end Table

structure State where
  label : Word
  role : Role
  table : Table
  deriving DecidableEq, Repr

namespace State

def transitions (s : State) : List Transition := s.table.transitions

def tokens (s : State) : List Word := s.transitions.map Transition.token

def isStart (s : State) : Bool := s.role == .start

def isAccept (s : State) : Bool := s.role == .accept

end State

end Transducer
