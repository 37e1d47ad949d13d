import Transducer.Session

/-!
Traces: the snapshots of a session step by step, perhaps cut off by a limit on the number of steps.
-/

namespace Transducer

/-- Snapshots in order, the number of steps after which a limit cut them off, and the session as it
was then. -/
structure Trace where
  snapshots : List Snapshot
  cutAfter : Option Nat
  last : Session

namespace Session

/-- The snapshots after each further step, where `taken` steps came before. -/
def traceAfter (limit : Nat → Bool) (taken : Nat) (s : Session) : Except Fault Trace :=
  if limit taken then .ok ⟨[], some taken, s⟩
  else
    match h : s.step with
    | (.error e, _) => .error e
    | (.ok false, t) => .ok ⟨[t.snapshot], none, t⟩
    | (.ok true, t) =>
      have := length_remaining_step h
      (traceAfter limit (taken + 1) t).map fun r =>
        { r with snapshots := t.snapshot :: r.snapshots }
termination_by s.remaining.length

/-- The snapshots of a session from where it stands. -/
def trace (limit : Nat → Bool) (s : Session) : Except Fault Trace :=
  (traceAfter limit 0 s).map fun r => { r with snapshots := s.snapshot :: r.snapshots }

end Session

end Transducer
