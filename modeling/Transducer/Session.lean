import Transducer.Clause
import Transducer.Validity

/-!
Runs. A session is a run that can be watched between its steps: it knows the current state, what it
has consumed of its input and what remains, and what it has written. A step takes the first
transition that the remaining input allows. The run halts at the end of its input, or where no
transition applies; it fails where a transition leads to a label that no state has.
-/

namespace Transducer

/-- Why a run stopped. -/
inductive Halt where
  | endOfInput
  /-- None of the `attempted` tokens begins the `remaining` input. -/
  | stuck (remaining : Word) (attempted : List Word)
  deriving DecidableEq, Repr

namespace Halt

def isStuck : Halt → Bool
  | endOfInput => false
  | stuck _ _ => true

def message : Halt → String
  | endOfInput => "End Of Input"
  | stuck remaining attempted =>
    let tokens := ",".intercalate (attempted.map fun t => s!"\"{t.text}\"")
    s!"No inputs from string \"{remaining.text}\" matching [{tokens}]"

end Halt

/-- The result of a finished run. -/
structure Outcome where
  accepted : Bool
  finalState : Word
  output : Word
  transitions : Nat
  halt : Halt
  /-- The labels visited, the start first, if they were recorded. -/
  history : Option (List Word)
  deriving DecidableEq, Repr

def Outcome.message (o : Outcome) : String := o.halt.message

/-- What is visible of a run between two steps. -/
structure Snapshot where
  done : Bool
  state : Word
  output : Word
  transitions : Nat
  /-- The number of bytes consumed. -/
  position : Nat
  /-- Empty while the run goes on. -/
  message : String
  history : Option (List Word)
  deriving DecidableEq, Repr

structure Session where
  machine : Machine
  state : State
  consumed : Word
  remaining : Word
  output : Word
  transitions : Nat
  history : Option (List Word)
  halt : Option Halt

namespace Session

/-- The whole input. -/
def input (s : Session) : Word := s.consumed ++ s.remaining

def position (s : Session) : Nat := s.consumed.bytes

def isDone (s : Session) : Bool := s.halt.isSome

/-- The input was consumed to its end, and that end is an accepting state. -/
def accepted (s : Session) : Bool := s.halt == some .endOfInput && s.state.isAccept

def snapshot (s : Session) : Snapshot where
  done := s.isDone
  state := s.state.label
  output := s.output
  transitions := s.transitions
  position := s.position
  message := (s.halt.map Halt.message).getD ""
  history := s.history

def take (s : Session) (c : Clause) (next : State) : Session :=
  { s with
    state := next
    consumed := s.consumed ++ c.token
    remaining := s.remaining.drop c.token.length
    output := s.output ++ c.emit?.getD []
    transitions := s.transitions + 1
    history := s.history.map (· ++ [next.label]) }

/-- Takes at most one transition, and tells whether it took one. A run that has halted stays as it
is, and so does one whose next transition leads nowhere. -/
def step (s : Session) : Except Fault Bool × Session :=
  if s.isDone then (.ok false, s)
  else if s.remaining.isEmpty then (.ok false, { s with halt := some .endOfInput })
  else
    match s.state.next? s.remaining with
    | none => (.ok false, { s with halt := some (.stuck s.remaining s.state.tokens) })
    | some c =>
      match s.machine.get? c.target with
      | none => (.error (.unknownState c.target), s)
      | some next => (.ok true, s.take c next)

/-- A step never changes the input as a whole. -/
theorem input_step (s : Session) : s.step.2.input = s.input := by
  unfold step
  split
  · rfl
  split
  · rfl
  split
  · rfl
  · rename_i c hc
    split
    · rfl
    · have happ := List.find?_some hc
      simp only [Clause.applies, Bool.and_eq_true, List.isPrefixOf_iff_prefix] at happ
      obtain ⟨r, hr⟩ := happ.2
      simp only [input, take, List.append_assoc, ← hr, List.drop_left]

/-- A step that takes a transition consumes input. -/
theorem length_remaining_step {s t : Session} (h : s.step = (.ok true, t)) :
    t.remaining.length < s.remaining.length := by
  unfold step at h
  split at h
  · simp at h
  split at h
  · simp at h
  split at h
  · simp at h
  · rename_i _ hempty _ c hc
    split at h
    · simp at h
    · simp only [Prod.mk.injEq, true_and] at h
      subst h
      have happ := List.find?_some hc
      simp only [Clause.applies, Bool.and_eq_true, Bool.not_eq_true', List.isEmpty_eq_false_iff]
        at happ
      have htoken := List.length_pos_iff.mpr happ.1
      simp only [List.isEmpty_iff] at hempty
      have hrest := List.length_pos_iff.mpr hempty
      simp only [take, List.length_drop]
      omega

/-- The result of a run, where it stands. A run that was not stopped is taken to be at its end. -/
def outcome (s : Session) : Outcome where
  accepted := s.accepted
  finalState := s.state.label
  output := s.output
  transitions := s.transitions
  halt := s.halt.getD .endOfInput
  history := s.history

/-- Steps to the end of the run. -/
def finish (s : Session) : Except Fault Outcome :=
  match h : s.step with
  | (.error e, _) => .error e
  | (.ok false, t) => .ok t.outcome
  | (.ok true, t) =>
    have := length_remaining_step h
    t.finish
termination_by s.remaining.length

end Session

namespace Machine

def session (m : Machine) (input : Word) (history : Bool) : Except Fault Session :=
  match m.start? with
  | none => .error .noStartState
  | some q =>
    .ok {
      machine := m
      state := q
      consumed := []
      remaining := input
      output := []
      transitions := 0
      history := if history then some [q.label] else none
      halt := none }

def execute (m : Machine) (input : Word) (history : Bool) : Except Fault Outcome :=
  (m.session input history).bind Session.finish

/-- Refuses a machine that is not sound. -/
def ensureSound (m : Machine) : Except Fault Unit :=
  if m.diagnose.isOk then .ok () else .error (.invalidMachine m.diagnose)

/-- Starts a run of a machine that has passed its check. -/
def sessionChecked (m : Machine) (input : Word) (history : Bool) : Except Fault Session :=
  m.ensureSound.bind fun _ => m.session input history

/-- Runs a machine that has passed its check. -/
def executeChecked (m : Machine) (input : Word) (history : Bool) : Except Fault Outcome :=
  m.ensureSound.bind fun _ => m.execute input history

end Machine

end Transducer
