import Transducer.Proofs.Session.Step

/-!
A run step by step and a run in one go. However many steps a session has taken, and whatever they
answered, running it to its end gives what the machine answers in one go; and a session stepped to
its halt shows what that answer says.
-/

namespace Transducer

/-- The session is at its end, and what is visible of it is what the result says. -/
structure Session.Shows (s : Session) (o : Outcome) : Prop where
  done : s.isDone = true
  snapshotDone : s.snapshot.done = true
  state : s.snapshot.state = o.finalState
  output : s.snapshot.output = o.output
  transitions : s.snapshot.transitions = o.transitions
  message : s.snapshot.message = o.message
  history : s.snapshot.history = o.history
  accepted : s.accepted = o.accepted

theorem Session.shows_outcome {s : Session} (h : s.isDone = true) : s.Shows s.outcome := by
  obtain ⟨halt, hh⟩ := Option.isSome_iff_exists.mp h
  refine ⟨h, h, rfl, rfl, rfl, ?_, rfl, rfl⟩
  simp [snapshot, Outcome.message, outcome, hh]

namespace Machine

theorem execute_of_session {m : Machine} {w : Word} {recorded : Bool} {s : Session}
    (h : m.session w recorded = .ok s) : m.execute w recorded = s.finish := by
  rw [execute, h]
  rfl

theorem fault_of_session {m : Machine} {w : Word} {recorded : Bool} {f : Fault}
    (h : m.session w recorded = .error f) : f = .noStartState := by
  unfold session at h
  split at h
  · cases h
    rfl
  · cases h

theorem transitions_of_session {m : Machine} {w : Word} {recorded : Bool} {s : Session}
    (h : m.session w recorded = .ok s) : s.transitions = 0 := by
  unfold session at h
  split at h
  · cases h
  · cases h
    rfl

theorem isDone_of_session {m : Machine} {w : Word} {recorded : Bool} {s : Session}
    (h : m.session w recorded = .ok s) : s.isDone = false := by
  unfold session at h
  split at h
  · cases h
  · cases h
    rfl

/-- The session of a machine that gives a result takes as many transitions as that counts, then one
step that takes none, and is where the result says. -/
theorem steps_of_execute {m : Machine} {w : Word} {recorded : Bool} {s : Session} {o : Outcome}
    (hs : m.session w recorded = .ok s) (ho : m.execute w recorded = .ok o) :
    (∀ i < o.transitions, (s.after i).step.1 = .ok true) ∧
      (s.after o.transitions).step.1 = .ok false ∧
      (s.after (o.transitions + 1)).isDone = true ∧
      (s.after (o.transitions + 1)).outcome = o := by
  rw [execute_of_session hs] at ho
  obtain ⟨n, htrans, hsteps⟩ := Session.steps_of_finish ho
  rw [transitions_of_session hs, Nat.zero_add] at htrans
  rwa [htrans]

/-- Stepping and running in one go agree. A session cannot be started exactly if the machine answers
that it has no start state. Once started, it may take any number of steps first and then run to its
end: the answer is that of the machine. Where the machine gives a result, the session takes as many
transitions as that result counts, then answers that it took none, and now shows that result. -/
theorem session_agrees_with_execute (m : Machine) (w : Word) (recorded : Bool) :
    ((∃ f, m.session w recorded = .error f) ↔ m.execute w recorded = .error .noStartState) ∧
    ∀ s, m.session w recorded = .ok s →
      (∀ k, (s.after k).finish = m.execute w recorded) ∧
      ∀ o, m.execute w recorded = .ok o →
        (∀ i < o.transitions, (s.after i).step.1 = .ok true) ∧
        (s.after o.transitions).step.1 = .ok false ∧ (s.after (o.transitions + 1)).Shows o := by
  refine ⟨⟨?_, ?_⟩, ?_⟩
  · intro h
    obtain ⟨f, h⟩ := h
    rw [execute, h, fault_of_session h]
    rfl
  · intro h
    cases hs : m.session w recorded with
    | error f => exact ⟨f, rfl⟩
    | ok s =>
      rw [execute_of_session hs] at h
      obtain ⟨l, hl⟩ := Session.error_of_finish h
      cases hl
  · intro s hs
    refine ⟨fun k => (s.finish_after k).trans (execute_of_session hs).symm, ?_⟩
    intro o ho
    obtain ⟨hpre, hlast, hdone, hout⟩ := steps_of_execute hs ho
    have hshows := Session.shows_outcome hdone
    rw [hout] at hshows
    exact ⟨hpre, hlast, hshows⟩

end Machine

end Transducer
