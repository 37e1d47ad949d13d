import Transducer.Proofs.Session.Batch
import Transducer.Proofs.Validity

/-!
A machine that passes its check never fails. A session always stands at a state of its machine, so
its next target is one of the labels if every target of the machine is; the check asks for that, and
for a start state to begin at. Runs that are checked first are therefore free of these failures
altogether.
-/

namespace Transducer

/-- Every target is a label of the machine. -/
def Machine.Closed (m : Machine) : Prop :=
  ∀ s ∈ m.states, ∀ t ∈ s.transitions, t.target ∈ m.labels

theorem State.target_of_next? {q : State} {r : Word} {c : Clause} (h : q.next? r = some c) :
    ∃ t ∈ q.transitions, t.target = c.target := by
  have hc : c ∈ q.table.clauses := List.mem_of_find?_eq_some h
  refine ⟨c.transition, ?_, rfl⟩
  rw [transitions, ← Table.map_transition_clauses]
  exact List.mem_map_of_mem hc

namespace Session

/-- The current state belongs to the machine. -/
def Placed (s : Session) : Prop := s.state ∈ s.machine.states

/-- However many steps are taken, neither one more step nor the rest of the run fails. -/
structure NeverFails (s : Session) : Prop where
  step : ∀ k, ∃ took, (s.after k).step.1 = .ok took
  finish : ∀ k, ∃ o, (s.after k).finish = .ok o

theorem Placed.step {s : Session} (h : s.Placed) : s.step.2.Placed := by
  generalize hr : s.step = r
  cases stepped_of_eq hr with
  | done | atEnd | stuck | lost => exact h
  | taken _ _ c q _ hg => exact (Machine.get?_eq_some_iff.mp hg).1

theorem Placed.after {s : Session} (h : s.Placed) (k : Nat) : (s.after k).Placed := by
  induction k with
  | zero => exact h
  | succ k ih => exact ih.step

theorem machine_after (s : Session) (k : Nat) : (s.after k).machine = s.machine := by
  induction k with
  | zero => rfl
  | succ k ih => exact (machine_step _).trans ih

/-- On a closed machine a step leads nowhere but to a state. -/
theorem Placed.step_ok {s : Session} (h : s.Placed) (hm : s.machine.Closed) :
    ∃ took, s.step.1 = .ok took := by
  generalize hr : s.step = r
  cases stepped_of_eq hr with
  | done | atEnd | stuck => exact ⟨false, rfl⟩
  | taken => exact ⟨true, rfl⟩
  | lost _ _ c hn hg =>
    obtain ⟨t, ht, htarget⟩ := State.target_of_next? hn
    have hmem := hm s.state h t ht
    rw [htarget, ← Machine.has_iff, Machine.has_eq_isSome_get?, hg] at hmem
    cases hmem

/-- A run ends well if no step of it fails. Every step that is taken leaves less of the input. -/
theorem finish_ok {s : Session} (h : ∀ k, ∃ took, (s.after k).step.1 = .ok took) :
    ∃ o, s.finish = .ok o := by
  induction hn : s.remaining.length using Nat.strongRecOn generalizing s with
  | ind n ih =>
    obtain ⟨took, htook⟩ := h 0
    have hst : s.step = (.ok took, s.step.2) := Prod.ext htook rfl
    cases took with
    | false => exact ⟨_, finish_of_halt hst⟩
    | true =>
      have hrest (k : Nat) : ∃ took, (s.step.2.after k).step.1 = .ok took := by
        rw [← after_succ]
        exact h (k + 1)
      rw [finish_of_taken hst]
      exact ih _ (hn ▸ length_remaining_step hst) hrest rfl

theorem Placed.neverFails {s : Session} (h : s.Placed) (hm : s.machine.Closed) :
    s.NeverFails := by
  have hstep (k : Nat) : ∃ took, (s.after k).step.1 = .ok took :=
    (h.after k).step_ok (by rwa [machine_after])
  refine ⟨hstep, fun k => ?_⟩
  rw [finish_after]
  exact finish_ok hstep

end Session

namespace Machine

variable {m : Machine}

theorem closed_of_diagnose_ok (h : m.diagnose = .ok) : m.Closed := by
  intro s hs
  obtain ⟨b, hb⟩ := sound_of_firstFault? (firstFault?_of_diagnose_ok h) s hs
  exact hb.targets

theorem exists_start_of_diagnose_ok (h : m.diagnose = .ok) : ∃ q, m.start? = some q := by
  cases hstart : m.start? with
  | some q => exact ⟨q, rfl⟩
  | none =>
    have hany : m.states.any State.isStart = false := by
      simpa [start?, List.find?_eq_none] using hstart
    simp [diagnose, firstFault?_of_diagnose_ok h, hany] at h

theorem placed_of_session {w : Word} {recorded : Bool} {s : Session}
    (h : m.session w recorded = .ok s) : s.machine = m ∧ s.Placed := by
  unfold session at h
  split at h
  · cases h
  · rename_i q hq
    cases h
    exact ⟨rfl, List.mem_of_find?_eq_some hq⟩

/-- On a machine that passes its check a session can be started, and never fails. -/
theorem session_of_diagnose_ok (h : m.diagnose = .ok) (w : Word) (recorded : Bool) :
    ∃ s, m.session w recorded = .ok s ∧ s.NeverFails := by
  obtain ⟨q, hq⟩ := exists_start_of_diagnose_ok h
  cases hs : m.session w recorded with
  | error f => simp [session, hq] at hs
  | ok s =>
    obtain ⟨rfl, hplaced⟩ := placed_of_session hs
    exact ⟨s, rfl, hplaced.neverFails (closed_of_diagnose_ok h)⟩

theorem execute_of_diagnose_ok (h : m.diagnose = .ok) (w : Word) (recorded : Bool) :
    ∃ o, m.execute w recorded = .ok o := by
  obtain ⟨s, hs, hsafe⟩ := session_of_diagnose_ok h w recorded
  rw [execute_of_session hs]
  exact hsafe.finish 0

/-- An answer that is given only by a machine that passes its check. Any other machine is refused
with what the check finds, so that the failures of a run are never seen. -/
structure Guarded {α : Type} (m : Machine) (checked plain : Except Fault α) : Prop where
  refused : checked = .error (.invalidMachine m.diagnose) ↔ m.diagnose ≠ .ok
  passed : m.diagnose = .ok → checked = plain
  started : checked ≠ .error .noStartState
  known : ∀ l, checked ≠ .error (.unknownState l)

theorem ensureSound_of_ok (h : m.diagnose = .ok) : m.ensureSound = .ok () := by
  simp [ensureSound, h]

theorem ensureSound_of_not_ok (h : m.diagnose ≠ .ok) :
    m.ensureSound = .error (.invalidMachine m.diagnose) := by
  simp [ensureSound, h]

theorem guarded_of_ok {α : Type} {plain : Except Fault α}
    (h : m.diagnose = .ok → ∃ a, plain = .ok a) :
    m.Guarded (m.ensureSound.bind fun _ => plain) plain := by
  by_cases hd : m.diagnose = .ok
  · obtain ⟨a, rfl⟩ := h hd
    rw [ensureSound_of_ok hd]
    exact ⟨⟨nofun, fun hne => absurd hd hne⟩, fun _ => rfl, nofun, nofun⟩
  · rw [ensureSound_of_not_ok hd]
    exact ⟨⟨fun _ => hd, fun _ => rfl⟩, fun hok => absurd hok hd, nofun, nofun⟩

/-- A machine that passes its check answers every input, and can be stepped through it to any point
and from there to the end without a failure. Runs that ask for the check are refused on any other
machine and are the same on this one, so none of them fails either. -/
theorem never_fails_of_check (m : Machine) (w : Word) (recorded : Bool) :
    (m.diagnose = .ok → (∃ o, m.execute w recorded = .ok o) ∧
      ∃ s, m.session w recorded = .ok s ∧ s.NeverFails) ∧
    m.Guarded (m.executeChecked w recorded) (m.execute w recorded) ∧
    m.Guarded (m.sessionChecked w recorded) (m.session w recorded) ∧
    ∀ s, m.sessionChecked w recorded = .ok s → s.NeverFails := by
  have hexecute (h : m.diagnose = .ok) := execute_of_diagnose_ok h w recorded
  have hsession (h : m.diagnose = .ok) := session_of_diagnose_ok h w recorded
  have hstarts (h : m.diagnose = .ok) : ∃ s, m.session w recorded = .ok s :=
    (hsession h).imp fun _ hs => hs.1
  have hguarded : m.Guarded (m.sessionChecked w recorded) (m.session w recorded) :=
    guarded_of_ok hstarts
  refine ⟨fun h => ⟨hexecute h, hsession h⟩, guarded_of_ok hexecute, hguarded, ?_⟩
  intro s hs
  have hd : m.diagnose = .ok := by
    by_cases hd : m.diagnose = .ok
    · exact hd
    · rw [hguarded.refused.mpr hd] at hs
      cases hs
  obtain ⟨t, ht, hsafe⟩ := hsession hd
  rw [hguarded.passed hd, ht] at hs
  cases hs
  exact hsafe

end Machine

end Transducer
