import Transducer.Alphabet
import Transducer.Machine

/-!
The structural check of a machine. States are looked at in order, and in each the label comes first,
then a second start, the emit column, the number of transitions, the tokens and the targets. What is
missing from the machine as a whole is asked last.
-/

namespace Transducer

namespace State

/-- The first match token that cannot be written, or else the first emit token that cannot. -/
def badToken? (s : State) : Option Word :=
  s.tokens.find? (!·.isToken) <|> (s.table.emits?.getD []).find? (!·.isEmit)

/-- The first target that is none of the labels. -/
def badTarget? (labels : List Word) (s : State) : Option Word :=
  (s.transitions.map Transition.target).find? (!labels.contains ·)

/-- The first fault of a state in a machine with the given labels, where `started` tells whether a
start state came before it. -/
def fault? (labels : List Word) (started : Bool) (s : State) : Option Diagnosis :=
  if !s.label.isLabel then some (.invalidLabel s.label)
  else if s.isStart && started then some (.multipleStart s.label)
  else if !s.table.isBalanced then some (.unbalanced s.label)
  else if s.transitions.isEmpty then some (.noTransitions s.label)
  else
    match s.badToken? with
    | some t => some (.invalidToken s.label t)
    | none => (s.badTarget? labels).map (.unknownTarget s.label)

end State

namespace Machine

/-- The first fault of the states, in order. -/
def firstFault? (labels : List Word) (started : Bool) : List State → Option Diagnosis
  | [] => none
  | s :: ss => s.fault? labels started <|> firstFault? labels (started || s.isStart) ss

/-- Checks a machine. -/
def diagnose (m : Machine) : Diagnosis :=
  match firstFault? m.labels false m.states with
  | some d => d
  | none =>
    if !m.states.any State.isStart then .noStart
    else if !m.states.any State.isAccept then .noAccept
    else .ok

end Machine

end Transducer
