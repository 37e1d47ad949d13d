import Transducer.Proofs.Session.Step
import Transducer.Session.Trace

/-!
Traces of a session that takes a number of steps. A limit that is not reached lets the trace go on
to the halt; one that is cuts it off there and leaves the session in the middle of its run.
-/

namespace Transducer.Session

variable {limit : Nat → Bool} {taken n : Nat} {s t : Session}

theorem traceAfter_of_limit (h : limit taken = true) :
    s.traceAfter limit taken = .ok ⟨[], some taken, s⟩ := by
  rw [traceAfter, if_pos h]

theorem traceAfter_of_halt (hl : limit taken = false) (h : s.step = (.ok false, t)) :
    s.traceAfter limit taken = .ok ⟨[t.snapshot], none, t⟩ := by
  rw [traceAfter, if_neg (by simp [hl])]
  split <;> simp_all

theorem traceAfter_of_taken (hl : limit taken = false) (h : s.step = (.ok true, t)) :
    s.traceAfter limit taken =
      (t.traceAfter limit (taken + 1)).map fun r =>
        { r with snapshots := t.snapshot :: r.snapshots } := by
  rw [traceAfter, if_neg (by simp [hl])]
  split <;> simp_all

/-- The snapshots after each of a number of steps. -/
def shots (s : Session) (n : Nat) : List Snapshot :=
  (List.range n).map fun i => (s.after (i + 1)).snapshot

theorem shots_succ (s : Session) (n : Nat) :
    s.shots (n + 1) = s.step.2.snapshot :: s.step.2.shots n := by
  rw [shots, List.range_succ_eq_map, List.map_cons, List.map_map]
  refine congrArg _ (List.map_congr_left fun i _ => ?_)
  exact congrArg snapshot (s.after_succ (i + 1))

theorem snapshot_cons_shots (s : Session) (n : Nat) :
    s.snapshot :: s.shots n = (List.range (n + 1)).map fun i => (s.after i).snapshot := by
  rw [List.range_succ_eq_map, List.map_cons, List.map_map]
  rfl

/-- As long as the limit is not reached, a trace goes through the steps that are taken. -/
theorem traceAfter_of_steps (htook : ∀ i < n, (s.after i).step.1 = .ok true)
    (hfree : ∀ i < n, limit (taken + i) = false) :
    s.traceAfter limit taken = ((s.after n).traceAfter limit (taken + n)).map fun r =>
      { r with snapshots := s.shots n ++ r.snapshots } := by
  induction n generalizing s taken with
  | zero => cases hr : s.traceAfter limit taken <;> simp [after, hr, shots, Except.map]
  | succ n ih =>
    have hstep : s.step = (.ok true, s.step.2) := Prod.ext (htook 0 (by omega)) rfl
    have htail : ∀ i < n, (s.step.2.after i).step.1 = .ok true := by
      intro i hi
      rw [← after_succ]
      exact htook (i + 1) (by omega)
    have hrest : ∀ i < n, limit (taken + 1 + i) = false := by
      intro i hi
      rw [Nat.add_assoc, Nat.add_comm 1 i]
      exact hfree (i + 1) (by omega)
    have hnow : limit taken = false := hfree 0 (by omega)
    rw [traceAfter_of_taken hnow hstep, ih htail hrest, after_succ, shots_succ, Nat.add_assoc,
      Nat.add_comm 1 n]
    cases (s.step.2.after n).traceAfter limit (taken + (n + 1)) <;> rfl

/-- A limit that is reached on the way cuts the trace off. -/
theorem trace_of_cut (htook : ∀ i < n, (s.after i).step.1 = .ok true)
    (hfree : ∀ i < n, limit i = false) (hcut : limit n = true) :
    s.trace limit =
      .ok ⟨(List.range (n + 1)).map fun i => (s.after i).snapshot, some n, s.after n⟩ := by
  have hsteps : s.traceAfter limit 0 = _ := traceAfter_of_steps htook (by simpa using hfree)
  rw [Nat.zero_add, traceAfter_of_limit hcut] at hsteps
  rw [trace, hsteps, ← snapshot_cons_shots]
  simp [Except.map]

/-- A limit that is not reached leaves the whole of the run, with its halt. -/
theorem trace_of_halt (htook : ∀ i < n, (s.after i).step.1 = .ok true)
    (hhalt : (s.after n).step.1 = .ok false) (hfree : ∀ i ≤ n, limit i = false) :
    s.trace limit =
      .ok ⟨(List.range (n + 2)).map fun i => (s.after i).snapshot, none, s.after (n + 1)⟩ := by
  have hsteps : s.traceAfter limit 0 = _ :=
    traceAfter_of_steps htook fun i hi => by simpa using hfree i (by omega)
  have hlast : (s.after n).step = (.ok false, s.after (n + 1)) := Prod.ext hhalt rfl
  rw [Nat.zero_add, traceAfter_of_halt (hfree n (by omega)) hlast] at hsteps
  have hshots : s.shots (n + 1) = s.shots n ++ [(s.after (n + 1)).snapshot] := by
    simp [shots, List.range_succ]
  rw [trace, hsteps, ← snapshot_cons_shots, hshots]
  rfl

end Transducer.Session
