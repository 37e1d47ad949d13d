import Mathlib.Data.List.Infix
import Transducer.Proofs.Execution

/-!
What is seen of a run while it is watched: a snapshot of the beginning, one after each move, and one
of the halt. These are the snapshots of a session that steps through the run.
-/

namespace Transducer

namespace State

/-- What is seen of a run from the state once the moves are made. -/
def seen (q : State) (recorded : Bool) (moves : List Move) : Snapshot where
  done := false
  state := (moves.getLast?.elim q Move.target).label
  output := moves.flatMap Move.emitted
  transitions := moves.length
  position := Word.bytes (moves.flatMap (·.transition.token))
  message := ""
  history := if recorded then some (q.label :: moves.map (·.target.label)) else none

/-- What is seen of the whole run, up to the halt with its message. -/
def film (q : State) (recorded : Bool) (moves : List Move) (message : String) : List Snapshot :=
  moves.inits.map (q.seen recorded) ++
    [{ q.seen recorded moves with done := true, message := message }]

theorem length_film (q : State) (recorded : Bool) (moves : List Move) (message : String) :
    (q.film recorded moves message).length = moves.length + 2 := by
  simp [film]

theorem getElem?_film_of_le (q : State) (recorded : Bool) {moves : List Move} (message : String)
    {i : Nat} (h : i ≤ moves.length) :
    (q.film recorded moves message)[i]? = some (q.seen recorded (moves.take i)) := by
  have hi : i < moves.inits.length := by
    rw [List.length_inits]
    omega
  rw [film, List.getElem?_append_left (by simpa using hi), List.getElem?_map,
    List.getElem?_eq_getElem hi, List.getElem_inits]
  rfl

theorem getElem?_film_last (q : State) (recorded : Bool) (moves : List Move) (message : String) :
    (q.film recorded moves message)[moves.length + 1]? =
      some { q.seen recorded moves with done := true, message := message } := by
  rw [film, List.getElem?_append_right (by simp)]
  simp

end State

namespace Machine

variable {m : Machine} {q p : State} {w r : Word} {moves : List Move}

/-- A run stands at the target of its last move. -/
theorem Run.eq_target (h : m.Run q w moves p r) : p = moves.getLast?.elim q Move.target := by
  induction h with
  | stay => rfl
  | @move q s p i t w r moves hc hs hl tail ih =>
    cases moves with
    | nil => exact ih
    | cons v moves =>
      rw [List.getLast?_cons_cons, ih]
      cases h : (v :: moves).getLast? with
      | none => simp at h
      | some u => rfl

/-- The first moves of a run are a run. -/
theorem Run.exists_take (h : m.Run q w moves p r) (i : Nat) :
    ∃ p' r', m.Run q w (moves.take i) p' r' := by
  induction h generalizing i with
  | stay q r => exact ⟨q, r, by simpa using Run.stay q r⟩
  | @move q s p j t w r moves hc hs hl tail ih =>
    cases i with
    | zero => exact ⟨q, t.token ++ w, .stay _ _⟩
    | succ i =>
      obtain ⟨p', r', hrun⟩ := ih i
      exact ⟨p', r', .move hc hs hl hrun⟩

/-- The result of a run on the input together with what is seen of that run. -/
inductive Watched (m : Machine) (w : Word) (recorded : Bool) : Outcome → List Snapshot → Prop
  | run {q p : State} {moves : List Move} {r : Word} {o : Outcome} (hq : m.FirstStart q)
    (hrun : m.Run q w moves p r) (he : p.Halts r) (ho : o.Reports recorded q moves p r) :
    Watched m w recorded o (q.film recorded moves o.message)

variable {recorded : Bool} {o : Outcome} {snaps : List Snapshot}

theorem Watched.length (h : m.Watched w recorded o snaps) : snaps.length = o.transitions + 2 := by
  cases h with
  | run hq hrun he ho => rw [State.length_film, ho.transitions]

theorem exists_watched (h : m.execute w recorded = .ok o) :
    ∃ snaps, m.Watched w recorded o snaps := by
  have hanswer := m.answer_execute w recorded
  rw [h] at hanswer
  cases hanswer with
  | halted hq hrun he ho => exact ⟨_, .run hq hrun he ho⟩

end Machine

namespace Session

variable {m : Machine} {q p : State} {w r : Word} {moves : List Move}

theorem snapshot_along (m : Machine) (q : State) (w : Word) (recorded : Bool) (r : Word)
    (h : m.Run q w moves p r) :
    ((initial m q w recorded).along moves p r).snapshot = q.seen recorded moves := by
  have htransitions := Nat.zero_add moves.length
  cases recorded <;>
    simp [snapshot, along, initial, State.seen, position, isDone, htransitions, h.eq_target]

theorem snapshot_after_of_le (recorded : Bool) (h : m.Run q w moves p r) {i : Nat}
    (hi : i ≤ moves.length) :
    ((initial m q w recorded).after i).snapshot = q.seen recorded (moves.take i) := by
  obtain ⟨p', r', hrun⟩ := h.exists_take i
  have hafter := after_run (s := initial m q w recorded) hrun rfl rfl rfl
  rw [List.length_take_of_le hi] at hafter
  rw [hafter]
  exact snapshot_along m q w recorded r' hrun

theorem snapshot_after_halt (recorded : Bool) {o : Outcome} (h : m.Run q w moves p r)
    (he : p.Halts r) (ho : o.Reports recorded q moves p r) :
    ((initial m q w recorded).after (moves.length + 1)).snapshot =
      { q.seen recorded moves with done := true, message := o.message } := by
  have hafter := after_run (s := initial m q w recorded) h rfl rfl rfl
  have hstep := step_of_halts (s := (initial m q w recorded).along moves p r) rfl he
  rw [after, hafter, hstep, ← snapshot_along m q w recorded r h, Outcome.message, ho.halt]
  rfl

/-- A session that steps through a run shows what is seen of the run, one snapshot after another. -/
theorem watched_eq {recorded : Bool} {s : Session} {o : Outcome} {snaps : List Snapshot}
    (hs : m.session w recorded = .ok s) (h : m.Watched w recorded o snaps) :
    snaps = (List.range (o.transitions + 2)).map fun i => (s.after i).snapshot := by
  cases h with
  | @run q p moves r _ hq hrun he ho =>
    rw [Machine.session_of_firstStart hq] at hs
    cases hs
    apply List.ext_getElem
    · rw [State.length_film, ho.transitions, List.length_map, List.length_range]
    intro i hi _
    rw [State.length_film] at hi
    rw [← Option.some.injEq, ← List.getElem?_eq_getElem, List.getElem_map, List.getElem_range]
    by_cases hlast : i = moves.length + 1
    · subst hlast
      rw [State.getElem?_film_last, snapshot_after_halt recorded hrun he ho]
    · have hle : i ≤ moves.length := by omega
      rw [State.getElem?_film_of_le q recorded _ hle, snapshot_after_of_le recorded hrun hle]

end Session

end Transducer
