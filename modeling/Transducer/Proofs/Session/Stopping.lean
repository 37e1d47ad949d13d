import Transducer.Proofs.Session.Progress

/-!
How a run stops. A session that has halted stays as it is. A step that fails leaves the session as
it was, so from then on it fails in the same way. A session has halted exactly if one of its steps
said that it took no transition.
-/

namespace Transducer

theorem Halt.message_ne_empty (h : Halt) : h.message ≠ "" := by
  cases h with
  | endOfInput =>
    change "End Of Input" ≠ ""
    simp
  | stuck remaining attempted =>
    change "No inputs from string \"" ++ remaining.text ++ "\" matching [" ++
      ",".intercalate (attempted.map fun t => "\"" ++ t.text ++ "\"") ++ "]" ≠ ""
    simp

namespace Session

variable {s : Session} {f : Fault}

theorem isDone_step : s.step.2.isDone = true ↔ s.step.1 = .ok false := by
  generalize hr : s.step = r
  cases stepped_of_eq hr with
  | done h => exact ⟨fun _ => rfl, fun _ => h⟩
  | atEnd | stuck => exact ⟨fun _ => rfl, fun _ => rfl⟩
  | lost h => simp [h]
  | taken h =>
    have hgoes : ¬ s.isDone = true := Bool.eq_false_iff.mp h
    exact ⟨fun hd => absurd hd hgoes, nofun⟩

theorem after_of_isDone (h : s.isDone = true) (n : Nat) : s.after n = s := by
  induction n with
  | zero => rfl
  | succ n ih => rw [after, ih, step_done h]

theorem step_of_error (h : s.step.1 = .error f) : s.step = (.error f, s) := by
  have hst : s.step = (.error f, s.step.2) := Prod.ext h rfl
  rw [hst, eq_of_error hst]

theorem after_of_error (h : s.step.1 = .error f) (n : Nat) : s.after n = s := by
  induction n with
  | zero => rfl
  | succ n ih => rw [after, ih, step_of_error h]

theorem isDone_of_error (h : s.step.1 = .error f) : s.isDone = false := by
  cases stepped_of_eq (step_of_error h) with
  | lost hd => exact hd

/-- A session has halted if some step said so, as the halt is never taken back. -/
theorem isDone_after_iff (h : s.isDone = false) (k : Nat) :
    (s.after k).isDone = true ↔ ∃ i < k, (s.after i).step.1 = .ok false := by
  constructor
  · intro hk
    cases k with
    | zero => exact absurd hk (by simp [after, h])
    | succ k => exact ⟨k, by omega, isDone_step.mp hk⟩
  · intro hi
    obtain ⟨i, hik, hfalse⟩ := hi
    obtain ⟨n, rfl⟩ : ∃ n, k = i + 1 + n := ⟨k - (i + 1), by omega⟩
    have hdone : (s.after (i + 1)).isDone = true := isDone_step.mpr hfalse
    rw [after_add, after_of_isDone hdone]
    exact hdone

/-- If the session has halted, it got stuck exactly if some of its input remains. -/
def Settled (s : Session) : Prop :=
  ∀ why, s.halt = some why → (why.isStuck = true ↔ s.remaining ≠ [])

theorem settled_of_isDone (h : s.isDone = false) : s.Settled := by
  intro why hwhy
  simp [isDone, hwhy] at h

theorem Settled.step (h : s.Settled) : s.step.2.Settled := by
  generalize hr : s.step = r
  cases stepped_of_eq hr with
  | done | lost => exact h
  | atEnd _ hrest =>
    intro why hwhy
    cases hwhy
    simp [Halt.isStuck, hrest]
  | stuck _ hrest =>
    intro why hwhy
    cases hwhy
    exact ⟨fun _ => hrest, fun _ => rfl⟩
  | taken hd => exact settled_of_isDone hd

theorem Settled.after (h : s.Settled) (k : Nat) : (s.after k).Settled := by
  induction k with
  | zero => exact h
  | succ k ih => exact ih.step

theorem halt_of_accepted (h : s.accepted = true) : s.halt = some .endOfInput := by
  simp only [accepted, Bool.and_eq_true, beq_iff_eq] at h
  exact h.1

theorem message_snapshot_eq_empty_iff : s.snapshot.message = "" ↔ s.isDone = false := by
  cases hh : s.halt with
  | none => simp [snapshot, isDone, hh]
  | some why => simp [snapshot, isDone, hh, why.message_ne_empty]

end Session

namespace Machine

open Session

variable {m : Machine} {w : Word} {recorded : Bool} {s : Session}

/-- Stopping is final and failing changes nothing, at any step of any run. Once a step has said that
it took no transition, the session has halted, and every later step says the same and leaves it as
it is. A step that fails for want of a state leaves the session as it was, not halted, even where
its parts are changed one by one; every later step and the run to the end fail in the same way. The
session has halted exactly if some step before said that it took no transition, and exactly then it
has a message; it accepts only if it has halted with nothing of the input left. -/
theorem stopping_is_final (h : m.session w recorded = .ok s) (k : Nat) :
    ((s.after k).step.1 = .ok false →
      (s.after (k + 1)).isDone = true ∧
      ∀ n, (s.after (k + 1 + n)).step.1 = .ok false ∧ s.after (k + 1 + n) = s.after (k + 1)) ∧
    (∀ f, (s.after k).step.1 = .error f →
      (∃ l, f = .unknownState l) ∧ s.after (k + 1) = s.after k ∧ (s.after k).isDone = false ∧
      (s.after k).cursor.perform (Cursor.advance w) = some (.error f, (s.after k).cursor) ∧
      ∀ n, (s.after (k + n)).step.1 = .error f ∧ (s.after (k + n)).finish = .error f) ∧
    ((s.after k).isDone = true ↔ ∃ i < k, (s.after i).step.1 = .ok false) ∧
    ((s.after k).accepted = true → (s.after k).isDone = true ∧ (s.after k).remaining = []) ∧
    ((s.after k).snapshot.message = "" ↔ (s.after k).isDone = false) := by
  have hbegun := isDone_of_session h
  refine ⟨?_, ?_, isDone_after_iff hbegun k, ?_, message_snapshot_eq_empty_iff⟩
  · intro hfalse
    have hdone : (s.after (k + 1)).isDone = true := isDone_step.mpr hfalse
    refine ⟨hdone, fun n => ?_⟩
    rw [after_add, after_of_isDone hdone]
    exact ⟨congrArg Prod.fst (step_done hdone), rfl⟩
  · intro f hf
    have hsame (n : Nat) : s.after (k + n) = s.after k := by
      rw [after_add, after_of_error hf]
    have hadvance := perform_advance_of_session h k
    rw [hf, hsame 1] at hadvance
    refine ⟨error_of_step (step_of_error hf), hsame 1, isDone_of_error hf, hadvance, fun n => ?_⟩
    rw [hsame]
    exact ⟨hf, finish_of_error (step_of_error hf)⟩
  · intro haccepted
    have hhalt := halt_of_accepted haccepted
    have hsettled := (settled_of_isDone hbegun).after k _ hhalt
    exact ⟨by simp [isDone, hhalt], by simpa [Halt.isStuck] using hsettled⟩

/-- On one input the maze is left where there is no state, on the other it comes to an end. -/
theorem maze_settled : ∃ s t, maze.session ['é', 'x'] true = .ok s ∧
    maze.session ['é', 'y'] false = .ok t ∧
    (s.after 1).step.1 = .error (.unknownState ['B']) ∧
    (∀ n, (s.after (1 + n)).finish = .error (.unknownState ['B'])) ∧
    (t.after 1).step.1 = .ok false ∧ ∀ n, t.after (2 + n) = t.after 2 := by
  obtain ⟨s, hs⟩ : ∃ s, maze.session ['é', 'x'] true = .ok s := ⟨_, rfl⟩
  obtain ⟨t, ht⟩ : ∃ t, maze.session ['é', 'y'] false = .ok t := ⟨_, rfl⟩
  obtain ⟨-, hfails, -⟩ := stopping_is_final hs 1
  obtain ⟨hstops, -⟩ := stopping_is_final ht 1
  have hlost : (s.after 1).step.1 = .error (.unknownState ['B']) := by
    cases hs
    rfl
  have hstuck : (t.after 1).step.1 = .ok false := by
    cases ht
    rfl
  obtain ⟨-, -, -, -, hlater⟩ := hfails _ hlost
  exact ⟨s, t, hs, ht, hlost, fun n => (hlater n).2, hstuck, fun n => ((hstops hstuck).2 n).2⟩

end Machine

end Transducer
