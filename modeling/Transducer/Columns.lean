import Transducer.Alphabet
import Transducer.Machine

/-!
The column form of states, for exchange with other tools: `input[i]` leads to `conns[i]`, and where
there is a column of output, `output[i]` is emitted. Columns are free to disagree; a state is made
only of those whose label is one and whose transitions line up.
-/

namespace Transducer

structure Columns where
  label : Word
  role : Role
  input : List Word
  conns : List Word
  output : Option (List Word)
  deriving DecidableEq, Repr

namespace Columns

/-- The state that the columns describe. -/
def state (c : Columns) : Except Fault State :=
  if !c.label.isLabel then .error (.invalidLabel c.label)
  else if c.input.length != c.conns.length then .error (.unbalanced c.label)
  else
    let transitions := (c.input.zip c.conns).map fun (token, target) => ⟨token, target⟩
    .ok ⟨c.label, c.role,
      match c.output with
      | none => .plain transitions
      | some emits => .emitting transitions emits⟩

/-- Adds the states of columns one after another, up to the first that cannot be added. -/
def addTo (m : Machine) : List Columns → Except Fault Machine
  | [] => .ok m
  | c :: cs => do
    let s ← c.state
    addTo (← m.add s) cs

end Columns

def State.columns (s : State) : Columns where
  label := s.label
  role := s.role
  input := s.tokens
  conns := s.transitions.map Transition.target
  output := s.table.emits?

namespace Machine

def ofColumns (cs : List Columns) : Except Fault Machine := Columns.addTo empty cs

def columns (m : Machine) : List Columns := m.states.map State.columns

end Machine

end Transducer
