import Transducer.Proofs.Execution
import Transducer.Proofs.Line.Scanner

/-!
A run by bytes. A cursor knows of the input only how many bytes of it are behind, cuts the input at
that position before each step, and changes its parts one by one. Wherever a run may have got to,
the position lies between two characters, and the cursor answers as the session of the run does.
-/

namespace Transducer

structure Cursor where
  machine : Machine
  state : State
  position : Nat
  output : Word
  transitions : Nat
  history : Option (List Word)
  halt : Option Halt

namespace Cursor

/-- An action answers or fails, and what it changed before it failed stays changed. It comes to
nothing at a position inside a character or behind the end of the input, or at a number that no
transition of the state has. -/
abbrev Action (α : Type) : Type := ExceptT Fault (StateT Cursor Option) α

/-- Halts the run. -/
def stop (why : Halt) : Action Bool := do
  modify fun c => { c with halt := some why }
  return false

/-- Takes the transition of a number, if there is a state for it to lead to. -/
def follow (state : State) (index : Nat) : Action Bool := do
  let t ← state.transitions[index]?
  match (← get).machine.get? t.target with
  | none => throw (.unknownState t.target)
  | some next =>
    if let some e := state.table.emit? index then
      modify fun c => { c with output := c.output ++ e }
    modify fun c => { c with position := c.position + t.token.bytes }
    modify fun c => { c with transitions := c.transitions + 1 }
    modify fun c => { c with history := c.history.map (· ++ [next.label]) }
    modify fun c => { c with state := next }
    return true

/-- Takes at most one transition, and tells whether it took one. -/
def advance (input : Word) : Action Bool := do
  let c ← get
  if c.halt.isSome then return false
  let (_, rest) ← input.splitAtByte? c.position
  if rest.isEmpty then stop .endOfInput
  else
    match c.state.choice? rest with
    | none => stop (.stuck rest c.state.tokens)
    | some index => follow c.state index

/-- The result of a run at its end. -/
def outcome (c : Cursor) : Outcome where
  accepted := c.halt == some .endOfInput && c.state.isAccept
  finalState := c.state.label
  output := c.output
  transitions := c.transitions
  halt := c.halt.getD .endOfInput
  history := c.history

/-- Advances until the run takes no transition, and gives its result. It comes to nothing if that
takes too many turns. -/
def toEnd (input : Word) : Nat → Action Outcome
  | 0 => liftM (none : Option Outcome)
  | n + 1 => do
    if ← advance input then toEnd input n
    else return (← get).outcome

/-- What an action on the cursor comes to: its answer or its failure, and the cursor after it. -/
def perform {α : Type} (c : Cursor) (a : Action α) : Option (Except Fault α × Cursor) := a.run.run c

/-- The cursor after a number of steps, whatever they answer. -/
def after? (c : Cursor) (input : Word) : Nat → Option Cursor
  | 0 => some c
  | n + 1 => (c.after? input n).bind fun d => (d.perform (advance input)).map Prod.snd

variable {α β : Type} {c d : Cursor} {state q : State} {index : Nat} {t : Transition}
  {input : Word}

theorem perform_bind {x : Action α} {g : α → Action β} {a : α}
    (h : c.perform x = some (.ok a, d)) : c.perform (x >>= g) = d.perform (g a) := by
  simp only [perform] at h
  simp [perform, ExceptT.run_bind, StateT.run_bind, h]

theorem perform_bind_of_error {x : Action α} {g : α → Action β} {f : Fault}
    (h : c.perform x = some (.error f, d)) : c.perform (x >>= g) = some (.error f, d) := by
  simp only [perform] at h
  simp [perform, ExceptT.run_bind, StateT.run_bind, h]

theorem perform_get (c : Cursor) : c.perform get = some (.ok c, c) := rfl

theorem perform_lift (c : Cursor) (a : α) : c.perform (liftM (some a)) = some (.ok a, c) := rfl

theorem perform_follow_of_lost (ht : state.transitions[index]? = some t)
    (hg : c.machine.get? t.target = none) :
    c.perform (follow state index) = some (.error (.unknownState t.target), c) := by
  rw [follow, ht, perform_bind (c.perform_lift t), perform_bind c.perform_get, hg]
  rfl

theorem perform_follow_of_taken (ht : state.transitions[index]? = some t)
    (hg : c.machine.get? t.target = some q) :
    c.perform (follow state index) = some (.ok true, { c with
      state := q
      position := c.position + t.token.bytes
      output := c.output ++ (state.table.emit? index).getD []
      transitions := c.transitions + 1
      history := c.history.map (· ++ [q.label]) }) := by
  rw [follow, ht, perform_bind (c.perform_lift t), perform_bind c.perform_get, hg]
  cases state.table.emit? index with
  | none =>
    rw [Option.getD_none, List.append_nil]
    rfl
  | some e => rfl

theorem perform_advance_of_halted (h : c.halt.isSome = true) :
    c.perform (advance input) = some (.ok false, c) := by
  rw [advance, perform_bind c.perform_get, if_pos h]
  rfl

theorem perform_toEnd_of_error {f : Fault} (h : c.perform (advance input) = some (.error f, d))
    (n : Nat) : c.perform (toEnd input (n + 1)) = some (.error f, d) :=
  perform_bind_of_error h

theorem perform_toEnd_of_halt (h : c.perform (advance input) = some (.ok false, d)) (n : Nat) :
    c.perform (toEnd input (n + 1)) = some (.ok d.outcome, d) :=
  perform_bind h

theorem perform_toEnd_of_taken (h : c.perform (advance input) = some (.ok true, d)) (n : Nat) :
    c.perform (toEnd input (n + 1)) = d.perform (toEnd input n) :=
  perform_bind h

end Cursor

/-- The cursor of a run that is at its beginning. -/
def Machine.cursor (m : Machine) (history : Bool) : Except Fault Cursor :=
  match m.start? with
  | none => .error .noStartState
  | some q =>
    .ok {
      machine := m
      state := q
      position := 0
      output := []
      transitions := 0
      history := if history then some [q.label] else none
      halt := none }

/-- Runs the machine by bytes. Each turn but the last uses up some of the input, so there are more
turns than the run can take. -/
def Machine.executeByBytes (m : Machine) (input : Word) (history : Bool) :
    Option (Except Fault Outcome) :=
  match m.cursor history with
  | .error f => some (.error f)
  | .ok c => (c.perform (Cursor.toEnd input (input.length + 1))).map Prod.fst

namespace Session

/-- What a cursor knows of the session. -/
def cursor (s : Session) : Cursor where
  machine := s.machine
  state := s.state
  position := s.position
  output := s.output
  transitions := s.transitions
  history := s.history
  halt := s.halt

theorem splitAtByte?_position (s : Session) :
    s.input.splitAtByte? s.position = some (s.consumed, s.remaining) :=
  Word.splitAtByte?_append s.consumed s.remaining

theorem cursor_take (s : Session) (c : Clause) (q : State) :
    (s.take c q).cursor = { s.cursor with
      state := q
      position := s.position + c.token.bytes
      output := s.output ++ c.emit?.getD []
      transitions := s.transitions + 1
      history := s.history.map (· ++ [q.label]) } := by
  simp [cursor, take, position]

open Cursor

/-- The input can be cut where the cursor stands, and behind the cut is what remains of it. -/
theorem perform_advance_of_cut {s : Session} (h : s.isDone = false) :
    s.cursor.perform (advance s.input) = s.cursor.perform (
      if s.remaining.isEmpty then stop .endOfInput else
        match s.state.choice? s.remaining with
        | none => stop (.stuck s.remaining s.state.tokens)
        | some index => follow s.state index) := by
  have hgoes : ¬ s.cursor.halt.isSome = true := Bool.eq_false_iff.mp h
  have hcut : s.input.splitAtByte? s.cursor.position = _ := s.splitAtByte?_position
  rw [advance, perform_bind s.cursor.perform_get, if_neg hgoes, hcut,
    perform_bind (s.cursor.perform_lift _)]
  rfl

/-- A step of the cursor is a step of the session. -/
theorem perform_advance (s : Session) :
    s.cursor.perform (advance s.input) = some (s.step.1, s.step.2.cursor) := by
  generalize hr : s.step = r
  cases stepped_of_eq hr with
  | done h => exact perform_advance_of_halted h
  | atEnd h hrest =>
    rw [perform_advance_of_cut h, hrest]
    rfl
  | stuck h hrest hn =>
    have hnone := State.choice?_eq_none_iff.mpr (State.next?_eq_none_iff.mp hn)
    rw [perform_advance_of_cut h, if_neg (by simpa using hrest), hnone]
    rfl
  | lost h hrest c hn hg =>
    obtain ⟨i, t, hch, rfl⟩ := State.next?_eq_some_iff.mp hn
    have hsome := State.choice?_eq_some_iff.mpr ⟨t, hch⟩
    rw [perform_advance_of_cut h, if_neg (by simpa using hrest), hsome]
    exact perform_follow_of_lost hch.here hg
  | taken h hrest c q hn hg =>
    obtain ⟨i, t, hch, rfl⟩ := State.next?_eq_some_iff.mp hn
    have hsome := State.choice?_eq_some_iff.mpr ⟨t, hch⟩
    rw [perform_advance_of_cut h, if_neg (by simpa using hrest), hsome]
    simp only [cursor_take]
    exact perform_follow_of_taken hch.here hg

/-- However far a session has come, the cursor of the run has come as far. -/
theorem after?_cursor (s : Session) (k : Nat) :
    s.cursor.after? s.input k = some (s.after k).cursor := by
  induction k with
  | zero => rfl
  | succ k ih =>
    rw [Cursor.after?, ih, ← s.input_after k, Option.bind_some, perform_advance]
    rfl

end Session

namespace Machine

open Session

variable {m : Machine} {w : Word} {recorded : Bool} {s : Session}

theorem input_of_session (h : m.session w recorded = .ok s) : s.input = w := by
  obtain ⟨q, -, rfl⟩ := initial_of_session h
  rfl

theorem cursor_of_session (h : m.session w recorded = .ok s) :
    m.cursor recorded = .ok s.cursor := by
  obtain ⟨q, hq, rfl⟩ := initial_of_session h
  rw [cursor, firstStart_iff.mp hq]
  rfl

/-- The cursor of a run answers each step as the session does, and goes on with it. -/
theorem perform_advance_of_session (h : m.session w recorded = .ok s) (k : Nat) :
    (s.after k).cursor.perform (Cursor.advance w) =
      some ((s.after k).step.1, (s.after (k + 1)).cursor) := by
  rw [← input_of_session h, ← s.input_after k]
  exact (s.after k).perform_advance

end Machine

end Transducer
