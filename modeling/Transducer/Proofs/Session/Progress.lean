import Transducer.Proofs.Session.Batch
import Transducer.Proofs.Session.Cursor

/-!
Progress. A step that takes a transition moves on by the whole characters of its token, of which
there is at least one. So a run never takes more transitions than its input has characters, and it
stops, on whatever machine.
-/

namespace Transducer

namespace Session

/-- Where a session stands on the input of its run. -/
structure Stands (s : Session) (input : Word) (recorded : Bool) : Prop where
  parts : input = s.consumed ++ s.remaining
  position : s.position = s.consumed.bytes
  cut : input.splitAtByte? s.position = some (s.consumed, s.remaining)
  transitions : s.transitions ≤ s.consumed.length
  history : s.history.map List.length = if recorded then some (s.transitions + 1) else none

/-- The step from the one session to the other takes the transition `t` at the index. -/
structure Takes (s : Session) (index : Nat) (t : Transition) (u : Session) : Prop where
  chosen : s.state.Chooses s.remaining index t
  target : u.state ∈ s.machine.states ∧ u.state.label = t.target
  remaining : s.remaining = t.token ++ u.remaining
  position : u.position = s.position + t.token.bytes
  further : s.position < u.position
  transitions : u.transitions = s.transitions + 1
  output : u.output = s.output ++ (s.state.table.emit? index).getD []
  history : u.history = s.history.map (· ++ [t.target])

/-- Steps to the end of the run, but gives up after a number of steps. -/
def finishWithin (s : Session) : Nat → Option (Except Fault Outcome)
  | 0 => none
  | n + 1 =>
    match s.step with
    | (.error f, _) => some (.error f)
    | (.ok false, t) => some (.ok t.outcome)
    | (.ok true, t) => t.finishWithin n

variable {s u : Session} {w : Word} {recorded : Bool} {n : Nat}

theorem takes_of_taken (h : s.step = (.ok true, u)) : ∃ index t, s.Takes index t u := by
  cases stepped_of_eq h with
  | taken _ _ c q hn hg =>
    obtain ⟨index, t, hch, rfl⟩ := State.next?_eq_some_iff.mp hn
    obtain ⟨hne, r, hr⟩ := hch.fits
    obtain ⟨hq, hlabel⟩ := Machine.get?_eq_some_iff.mp hg
    have hposition : (s.take (s.state.row index t) q).position = s.position + t.token.bytes :=
      Word.bytes_append s.consumed t.token
    have hpos : 0 < t.token.bytes := Nat.pos_of_ne_zero (mt Word.bytes_eq_zero_iff.mp hne)
    refine ⟨index, t, hch, ⟨hq, hlabel⟩, ?_, hposition, by omega, rfl, rfl, ?_⟩
    · simp [take, State.row, ← hr]
    · rw [take, hlabel]
      rfl

theorem Stands.step (h : s.Stands w recorded) : s.step.2.Stands w recorded := by
  have hinput := s.input_step
  generalize hr : s.step = r at hinput
  cases stepped_of_eq hr with
  | done | lost => exact h
  | atEnd | stuck => exact ⟨h.parts, h.position, h.cut, h.transitions, h.history⟩
  | taken _ _ c q =>
    have hw : (s.take c q).input = w := hinput.trans h.parts.symm
    -- what is taken off the remaining input is added to the consumed, at least a character of it
    have hlength := congrArg List.length hinput
    have hshorter := length_remaining_step hr
    have htransitions := h.transitions
    simp only [input, List.length_append] at hlength
    refine ⟨hw.symm, rfl, hw ▸ (s.take c q).splitAtByte?_position, ?_, ?_⟩
    · simp only [take] at hlength hshorter ⊢
      omega
    · have hlonger : (s.take c q).history.map List.length =
          (s.history.map List.length).map (· + 1) := by simp [take, Function.comp_def]
      rw [hlonger, h.history]
      cases recorded <;> rfl

theorem Stands.after (h : s.Stands w recorded) (k : Nat) : (s.after k).Stands w recorded := by
  induction k with
  | zero => exact h
  | succ k ih => exact ih.step

/-- Steps that take a transition are counted. -/
theorem transitions_after (htook : ∀ i < n, (s.after i).step.1 = .ok true) :
    (s.after n).transitions = s.transitions + n := by
  induction n with
  | zero => rfl
  | succ n ih =>
    have hlast : (s.after n).step = (.ok true, s.after (n + 1)) :=
      Prod.ext (htook n (by omega)) rfl
    rw [transitions_of_taken hlast, ih fun i hi => htook i (by omega), Nat.add_assoc]

/-- Not every step takes a transition: there would be more of them than the input has characters. -/
theorem Stands.exists_stop (h : s.Stands w recorded) :
    ∃ n ≤ w.length, (s.after n).step.1 = .ok false ∨
      ∃ l, (s.after n).step.1 = .error (.unknownState l) := by
  by_cases htook : ∀ i < w.length + 1, (s.after i).step.1 = .ok true
  · have hafter := h.after (w.length + 1)
    have hcount := hafter.transitions
    have hlength := congrArg List.length hafter.parts
    rw [transitions_after htook] at hcount
    rw [List.length_append] at hlength
    omega
  · obtain ⟨i, hi, hne⟩ : ∃ i, i < w.length + 1 ∧ (s.after i).step.1 ≠ .ok true := by
      simpa using htook
    exact ⟨i, by omega, (s.after i).answers.resolve_left hne⟩

/-- A run comes to its end before it has made more steps than there are characters left. -/
theorem finishWithin_of_lt (h : s.remaining.length < n) : s.finishWithin n = some s.finish := by
  induction n generalizing s with
  | zero => omega
  | succ n ih =>
    rcases hst : s.step with ⟨r, t⟩
    match r with
    | .error f => simp only [finishWithin, hst, finish_of_error hst]
    | .ok false => simp only [finishWithin, hst, finish_of_halt hst]
    | .ok true =>
      have hshorter := length_remaining_step hst
      have hrest : t.finishWithin n = some t.finish := ih (by omega)
      simp only [finishWithin, hst, finish_of_taken hst, hrest]

/-- The turns of the cursor are the steps of the session. -/
theorem perform_toEnd (s : Session) (n : Nat) :
    (s.cursor.perform (Cursor.toEnd s.input n)).map Prod.fst = s.finishWithin n := by
  induction n generalizing s with
  | zero => rfl
  | succ n ih =>
    have hadvance := s.perform_advance
    have hinput := s.input_step
    rcases hst : s.step with ⟨r, t⟩
    rw [hst] at hadvance hinput
    match r with
    | .error f =>
      simp only [Cursor.perform_toEnd_of_error hadvance, finishWithin, hst]
      rfl
    | .ok false =>
      simp only [Cursor.perform_toEnd_of_halt hadvance, finishWithin, hst]
      rfl
    | .ok true =>
      simp only [Cursor.perform_toEnd_of_taken hadvance, finishWithin, hst]
      rw [← ih t, hinput]

theorem Stands.finishWithin (h : s.Stands w recorded) :
    s.finishWithin (w.length + 1) = some s.finish := by
  have hlength := congrArg List.length h.parts
  rw [List.length_append] at hlength
  exact finishWithin_of_lt (by omega)

end Session

namespace Machine

open Session

variable {m : Machine} {w : Word} {recorded : Bool} {s : Session}

theorem stands_of_session (h : m.session w recorded = .ok s) : s.Stands w recorded := by
  obtain ⟨q, -, rfl⟩ := initial_of_session h
  refine ⟨rfl, rfl, (initial m q w recorded).splitAtByte?_position, Nat.le_refl 0, ?_⟩
  cases recorded <;> rfl

/-- Running the machine by bytes always comes to an end, which is that of the run in one go. -/
theorem executeByBytes_eq (m : Machine) (w : Word) (recorded : Bool) :
    m.executeByBytes w recorded = some (m.execute w recorded) := by
  rcases m.firstStart_or with hno | ⟨q, hq⟩
  · rw [executeByBytes, cursor, start?_eq_none_iff.mpr hno, execute, session_of_no_start hno]
    rfl
  · have hs := session_of_firstStart hq w recorded
    have hturns := (initial m q w recorded).perform_toEnd (w.length + 1)
    rw [input_of_session hs, (stands_of_session hs).finishWithin] at hturns
    rw [executeByBytes, cursor_of_session hs, execute_of_firstStart hq]
    exact hturns

/-- Every run makes progress and stops. At any step the session stands between two characters of its
input, behind at least as many of them as it has taken transitions. A step that takes a transition
moves on by the bytes of its token, counts one more, writes behind what was written, and adds to the
history, if there is one, the state it leads to. Among the first steps, one more than the input has
characters, there is one that takes none, so running to the end comes to an end from any point. A
cursor that cuts the input at its position before each step always can, and it is where the session
is; advancing it to the end gives the result of the run in one go. -/
theorem every_run_stops (h : m.session w recorded = .ok s) :
    (∀ k, (s.after k).Stands w recorded) ∧
    (∀ k u, (s.after k).step = (.ok true, u) → ∃ index t, (s.after k).Takes index t u) ∧
    (∃ n ≤ w.length, (s.after n).step.1 = .ok false ∨
      ∃ l, (s.after n).step.1 = .error (.unknownState l)) ∧
    (∀ k, (s.after k).finishWithin (w.length + 1) = some (s.after k).finish) ∧
    s.finishWithin (w.length + 1) = some (m.execute w recorded) ∧
    m.executeByBytes w recorded = some (m.execute w recorded) ∧
    ∃ c, m.cursor recorded = .ok c ∧ ∀ k, c.after? w k = some (s.after k).cursor ∧
      (s.after k).cursor.perform (Cursor.advance w) =
        some ((s.after k).step.1, (s.after (k + 1)).cursor) := by
  have hstands := stands_of_session h
  refine ⟨hstands.after, fun _ _ => takes_of_taken, hstands.exists_stop,
    fun k => (hstands.after k).finishWithin, ?_, m.executeByBytes_eq w recorded, s.cursor,
    cursor_of_session h, ?_⟩
  · rw [execute_of_session h]
    exact hstands.finishWithin
  · intro k
    refine ⟨?_, perform_advance_of_session h k⟩
    rw [← input_of_session h]
    exact s.after?_cursor k

/-- A state with an empty token, a loop on a character of two bytes and a way that leads nowhere. -/
def maze : Machine where
  states := [
    ⟨['A'], .start, .emitting [⟨[], ['A']⟩, ⟨['é'], ['A']⟩, ⟨['x'], ['B']⟩] [['u'], ['v']]⟩]
  distinct := by decide

theorem maze_left : ∃ s, maze.session ['é', 'x'] true = .ok s ∧
    (s.after 1).Stands ['é', 'x'] true ∧ (s.after 1).position = 2 ∧
    (∃ index t, s.Takes index t (s.after 1)) ∧
    maze.execute ['é', 'x'] true = .error (.unknownState ['B']) := by
  obtain ⟨s, hs⟩ : ∃ s, maze.session ['é', 'x'] true = .ok s := ⟨_, rfl⟩
  obtain ⟨hstands, htakes, -, -, hfinish, -⟩ := every_run_stops hs
  cases hs
  exact ⟨_, rfl, hstands 1, by decide, htakes 0 _ rfl, Option.some.inj (hfinish.symm.trans rfl)⟩

end Machine

end Transducer
