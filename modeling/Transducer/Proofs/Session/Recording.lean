import Transducer.Proofs.Execution

/-!
Recording. The history of a run is written and never read: a session that does not record takes the
same steps as one that does and is, at every step, that session with its history left out. Where
there is a history, it only grows, and it tells the way from the first state to the current one.
-/

namespace Transducer

/-- The labels lead from the one to the other, with as many transitions between them. -/
structure Chronicle (origin : Word) (visited : List Word) (taken : Nat) (current : Word) :
    Prop where
  begins : visited.head? = some origin
  length : visited.length = taken + 1
  ends : visited.getLast? = some current

def Outcome.unrecorded (o : Outcome) : Outcome := { o with history := none }

namespace Session

variable {s : Session} {origin : Word} {visited : List Word}

def unrecorded (s : Session) : Session := { s with history := none }

/-- The history does not decide anything that a step does. -/
theorem step_unrecorded (s : Session) :
    s.unrecorded.step = (s.step.1, s.step.2.unrecorded) := by
  generalize hr : s.step = r
  cases stepped_of_eq hr with
  | done h => exact step_done h
  | atEnd h hrest => exact (Stepped.atEnd (s := s.unrecorded) h hrest).eq
  | stuck h hrest hn => exact (Stepped.stuck (s := s.unrecorded) h hrest hn).eq
  | lost h hrest c hn hg => exact (Stepped.lost (s := s.unrecorded) h hrest c hn hg).eq
  | taken h hrest c q hn hg => exact (Stepped.taken (s := s.unrecorded) h hrest c q hn hg).eq

theorem after_unrecorded (s : Session) (k : Nat) :
    s.unrecorded.after k = (s.after k).unrecorded := by
  induction k with
  | zero => rfl
  | succ k ih => rw [after, after, ih, step_unrecorded]

theorem finish_unrecorded (s : Session) :
    s.unrecorded.finish = s.finish.map Outcome.unrecorded := by
  induction hn : s.remaining.length using Nat.strongRecOn generalizing s with
  | ind n ih =>
    have hst' := s.step_unrecorded
    rcases hst : s.step with ⟨r, t⟩
    rw [hst] at hst'
    match r with
    | .error f =>
      rw [finish_of_error hst', finish_of_error hst]
      rfl
    | .ok false =>
      rw [finish_of_halt hst', finish_of_halt hst]
      rfl
    | .ok true =>
      rw [finish_of_taken hst', finish_of_taken hst]
      exact ih _ (hn ▸ length_remaining_step hst) t rfl

/-- The session has recorded its way from the state of a label. -/
structure Records (s : Session) (origin : Word) (visited : List Word) : Prop where
  history : s.history = some visited
  chronicle : Chronicle origin visited s.transitions s.state.label

/-- A step adds the state it leads to, if it leads to one, behind what was recorded. -/
theorem Records.step (h : s.Records origin visited) :
    ∃ more, s.step.2.Records origin (visited ++ more) := by
  obtain ⟨hhistory, hbegins, hlength, hends⟩ := h
  have hkept : s.Records origin (visited ++ []) := by
    rw [List.append_nil]
    exact ⟨hhistory, hbegins, hlength, hends⟩
  generalize hr : s.step = r
  cases stepped_of_eq hr with
  | done | lost => exact ⟨[], hkept⟩
  | atEnd | stuck => exact ⟨[], hkept.history, hkept.chronicle⟩
  | taken _ _ c q =>
    refine ⟨[q.label], ?_, ?_, ?_, ?_⟩
    · simp [take, hhistory]
    · simp [List.head?_append, hbegins]
    · simp [take, hlength]
    · simp [take]

theorem Records.after (h : s.Records origin visited) (n : Nat) :
    ∃ more, (s.after n).Records origin (visited ++ more) := by
  induction n with
  | zero => exact ⟨[], by rwa [List.append_nil]⟩
  | succ n ih =>
    obtain ⟨more, hmore⟩ := ih
    obtain ⟨last, hlast⟩ := hmore.step
    exact ⟨more ++ last, by rwa [List.append_assoc] at hlast⟩

theorem records_initial (m : Machine) (q : State) (w : Word) :
    (initial m q w true).Records q.label [q.label] :=
  ⟨rfl, rfl, rfl, rfl⟩

/-- A run that ends well has in its result what was recorded up to the end. -/
theorem Records.finish {o : Outcome} (h : s.Records origin visited) (ho : s.finish = .ok o) :
    ∃ all, o.history = some all ∧ Chronicle origin all o.transitions o.finalState := by
  obtain ⟨n, -, -, -, -, rfl⟩ := steps_of_finish ho
  obtain ⟨more, hall⟩ := h.after (n + 1)
  exact ⟨visited ++ more, hall.history, hall.chronicle⟩

end Session

namespace Machine

open Session

/-- Recording a run never influences it. With and without a history the machine answers with the
same fault, or with results that differ in nothing but the history: one has none, and that of the
other leads from the label of the start to that of the final state and is longer by one than the
number of transitions. A session is started in both cases or in neither. After any number of steps
the two answer the next step alike and differ in nothing but the history, also where they are seen
between steps; and what was recorded by then stays in its place however many steps follow. -/
theorem recording_changes_nothing (m : Machine) (w : Word) :
    ((∃ f, m.execute w false = .error f ∧ m.execute w true = .error f) ∨
      ∃ q o visited, m.FirstStart q ∧ m.execute w true = .ok o ∧
        m.execute w false = .ok { o with history := none } ∧ o.history = some visited ∧
        Chronicle q.label visited o.transitions o.finalState) ∧
    ((∃ f, m.session w false = .error f ∧ m.session w true = .error f) ∨
      ∃ q s t, m.FirstStart q ∧ m.session w false = .ok s ∧ m.session w true = .ok t ∧ ∀ k,
        (s.after k).step.1 = (t.after k).step.1 ∧
        s.after k = { t.after k with history := none } ∧
        (s.after k).snapshot = { (t.after k).snapshot with history := none } ∧
        ∃ visited, (t.after k).history = some visited ∧
          Chronicle q.label visited (t.after k).transitions (t.after k).state.label ∧
          ∀ n, ∃ more, (t.after (k + n)).history = some (visited ++ more)) := by
  rcases m.firstStart_or with hno | ⟨q, hq⟩
  · have hfault (recorded : Bool) : m.execute w recorded = .error .noStartState := by
      rw [execute, session_of_no_start hno]
      rfl
    exact ⟨.inl ⟨_, hfault false, hfault true⟩,
      .inl ⟨_, session_of_no_start hno w false, session_of_no_start hno w true⟩⟩
  have hbegun := records_initial m q w
  have hplain : initial m q w false = (initial m q w true).unrecorded := rfl
  refine ⟨?_, .inr ⟨q, _, _, hq, session_of_firstStart hq w false,
    session_of_firstStart hq w true, fun k => ?_⟩⟩
  · rw [execute_of_firstStart hq, execute_of_firstStart hq, hplain, finish_unrecorded]
    cases hfinish : (initial m q w true).finish with
    | error f => exact .inl ⟨f, rfl, rfl⟩
    | ok o =>
      obtain ⟨visited, hvisited, hchronicle⟩ := hbegun.finish hfinish
      exact .inr ⟨q, o, visited, hq, rfl, rfl, hvisited, hchronicle⟩
  · obtain ⟨more, hmore⟩ := hbegun.after k
    have hsame : (initial m q w false).after k = ((initial m q w true).after k).unrecorded := by
      rw [hplain, after_unrecorded]
    rw [hsame, step_unrecorded]
    refine ⟨rfl, rfl, rfl, _, hmore.history, hmore.chronicle, fun n => ?_⟩
    obtain ⟨later, hlater⟩ := hmore.after n
    rw [after_add]
    exact ⟨later, hlater.history⟩

end Machine

end Transducer
