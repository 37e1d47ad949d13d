import Transducer.Diagnosis

/-!
Why a machine could not be built or a run could not be finished.
-/

namespace Transducer

inductive Fault where
  /-- A line could not be read past a character. -/
  | parse (line offset : Nat)
  | duplicateState (label : Word)
  /-- A line of a document repeats a label. -/
  | duplicateLine (label : Word) (line : Nat)
  | invalidLabel (label : Word)
  /-- The columns of a state differ in length. -/
  | unbalanced (label : Word)
  | noStartState
  /-- A run was sent to a label that no state has. -/
  | unknownState (label : Word)
  | invalidMachine (diagnosis : Diagnosis)
  /-- A text is not JSON, or does not hold columns. -/
  | json
  deriving DecidableEq, Repr

namespace Fault

/-- The group a fault belongs to. -/
def code : Fault → String
  | parse _ _ => "PARSE_ERROR"
  | duplicateState _ | duplicateLine _ _ => "DUPLICATE_STATE"
  | invalidLabel _ => "INVALID_LABEL"
  | unbalanced _ | json => "BAD_REQUEST"
  | noStartState => "NO_START_STATE"
  | unknownState _ => "UNKNOWN_STATE"
  | invalidMachine _ => "INVALID_MACHINE"

def message : Fault → String
  | parse line offset => s!"parse error on line {line} at offset {offset}"
  | duplicateState l => s!"state already exists: {l.text}"
  | duplicateLine l line => s!"duplicate state {l.text} on line {line}"
  | invalidLabel l => s!"invalid state label: '{l.text}'"
  | unbalanced l => s!"state {l.text}: input and connection lists differ in length"
  | noStartState => "machine has no starting state"
  | unknownState l => s!"unknown state: {l.text}"
  | invalidMachine d => s!"invalid machine: {d.message}"
  | json => "JSON error:"

end Fault

end Transducer
