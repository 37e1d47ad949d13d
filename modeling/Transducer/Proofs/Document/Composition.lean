import Transducer.Proofs.Document.Lines
import Transducer.Proofs.Editing
import Transducer.Proofs.First
import Transducer.Proofs.Line.Padding

/-!
Documents that are put together. A lenient reading takes the states of the lines that can be read
and keeps the first of each label, so the reading of two documents one after the other is made of
their readings. That a line at the end of a document may end in a carriage return, which is dropped
once more lines follow, does not count.
-/

namespace Transducer

namespace Document

/-- The states of the lines that can be read, in order. -/
def readable (ls : List Word) : List State := ls.filterMap fun l => (State.parse l).toOption

theorem readable_cons (l : Word) (ls : List Word) :
    readable (l :: ls) = (State.parse l).toOption.toList ++ readable ls := by
  unfold readable
  rw [List.filterMap_cons]
  cases (State.parse l).toOption <;> rfl

end Document

open Document

namespace Machine

/-- A line is added to a machine if it can be read and its label is free. -/
theorem states_addIfPossible (m : Machine) (l : Word) : (m.addIfPossible l).states =
    m.states ++ (readable [l]).filter fun s => !m.has s.label := by
  rw [readable_cons]
  unfold addIfPossible
  cases State.parse l with
  | error offset => exact (List.append_nil _).symm
  | ok s =>
    by_cases hl : m.has s.label = true
    · simp [Except.toOption, readable, add_eq_error_iff.mpr ⟨hl, rfl⟩, hl]
    · obtain ⟨n, hn⟩ := exists_add (mt has_iff.mpr hl)
      simp [Except.toOption, readable, hn, states_add hn, hl]

variable {m : Machine} {a b x : Word}

end Machine

end Transducer
