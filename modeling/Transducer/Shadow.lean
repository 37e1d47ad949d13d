import Transducer.Machine

/-!
Shadowed transitions. As the first match is taken, a transition whose token begins with an earlier
token of the same state can never be taken.
-/

namespace Transducer

/-- The transition on `token` out of `state` is never taken, because `shadowedBy` matches first. -/
structure Shadow where
  state : Word
  token : Word
  shadowedBy : Word
  deriving DecidableEq, Repr

namespace Shadow

def message (s : Shadow) : String :=
  s!"State {s.state.text}: input \"{s.token.text}\" is unreachable, " ++
    s!"\"{s.shadowedBy.text}\" always matches first"

end Shadow

namespace State

/-- The first of the earlier tokens that begins `token`. Empty tokens neither cast a shadow nor lie
in one. -/
def shadowOf? (earlier : List Word) (token : Word) : Option Word :=
  if token.isEmpty then none else earlier.find? fun e => !e.isEmpty && e.isPrefixOf token

/-- The shadowed ones among `tokens`, which come after the `earlier` ones, each with what shadows
it. -/
def shadowsAfter (earlier : List Word) : List Word → List (Word × Word)
  | [] => []
  | t :: ts =>
    ((shadowOf? earlier t).map (t, ·)).toList ++ shadowsAfter (earlier ++ [t]) ts

/-- The shadowed transitions of a state, in order. -/
def shadows (s : State) : List Shadow :=
  (shadowsAfter [] s.tokens).map fun (t, e) => ⟨s.label, t, e⟩

end State

def Machine.shadows (m : Machine) : List Shadow := m.states.flatMap State.shadows

end Transducer
