import Transducer.Clause

/-!
The line of a state: `[START] S0 :: S0: 0, S1: 1|x`. The role block is left out for an ordinary
state, and a clause has a bar only if it has an emit token.
-/

namespace Transducer

namespace Clause

/-- What stands behind the token of a clause. -/
def emission (c : Clause) : Word :=
  match c.emit? with
  | none => []
  | some e => '|' :: e

/-- A clause as it stands in a line. -/
def line (c : Clause) : Word := c.target ++ ':' :: ' ' :: c.token ++ c.emission

end Clause

namespace State

/-- What stands in front of the label. -/
def heading (s : State) : Word :=
  match s.role.keyword with
  | none => []
  | some k => '[' :: k ++ [']', ' ']

def line (s : State) : Word :=
  let start := s.heading ++ s.label ++ [' ', ':', ':']
  match s.clauses with
  | [] => start
  | cs => start ++ ' ' :: Word.join [',', ' '] (cs.map Clause.line)

end State

end Transducer
