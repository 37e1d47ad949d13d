import Transducer.Proofs.Document.Lines
import Transducer.Proofs.Document.Reading
import Transducer.Proofs.Line.RoundTrip

/-!
A machine that can be written is read back from its document, strictly and leniently. Every machine
that is read can be written, so the others are read from no document at all.
-/

namespace Transducer

namespace Machine

/-- Entries that hold the lines of states are read as those states, if these can be written. -/
theorem ofTextStrict_of_lines {m : Machine} {t : Word} (h : m.Writable)
    (ht : (Document.entries t).map Prod.snd = m.states.map State.line) :
    ofTextStrict t = .ok m := by
  refine ofTextStrict_eq_ok_iff.mpr ⟨?_, m.distinct⟩
  calc (Document.entries t).map (fun e => State.parse e.2)
      = ((Document.entries t).map Prod.snd).map State.parse := by
        rw [List.map_map]
        rfl
    _ = m.states.map fun s => State.parse s.line := by
        rw [ht, List.map_map]
        rfl
    _ = m.states.map .ok := List.map_congr_left fun s hs => State.parse_line (h s hs)

/-- Nothing is lost by writing a machine as a document, if it can be written. -/
theorem ofTextStrict_toText {m : Machine} (h : m.Writable) : ofTextStrict m.toText = .ok m :=
  ofTextStrict_of_lines h h.map_snd_entries

/-- Nor is anything lost by the line feed behind a document that is printed or saved. -/
theorem ofTextStrict_toText_feed {m : Machine} (h : m.Writable) :
    ofTextStrict (m.toText ++ ['\n']) = .ok m :=
  ofTextStrict_of_lines h h.map_snd_entries_feed

theorem ofText_toText {m : Machine} (h : m.Writable) : ofText m.toText = m :=
  ofText_of_ofTextStrict (ofTextStrict_toText h)

theorem Writable.addIfPossible {m : Machine} (h : m.Writable) (l : Word) :
    (m.addIfPossible l).Writable := by
  unfold Machine.addIfPossible
  split
  · exact h
  · rename_i s hs
    split
    · exact h
    · rename_i n hn
      intro t ht
      rw [states_add hn] at ht
      rcases List.mem_append.mp ht with ht | ht
      · exact h t ht
      · rw [List.mem_singleton.mp ht]
        exact State.writable_of_parse hs

theorem Writable.foldl {m : Machine} (h : m.Writable) (es : List (Nat × Word)) :
    (es.foldl (fun m e => m.addIfPossible e.2) m).Writable := by
  induction es generalizing m with
  | nil => exact h
  | cons e es ih => exact ih (h.addIfPossible e.2)

/-- Whatever machine is read from a document can be written as one. -/
theorem writable_ofText (t : Word) : (ofText t).Writable :=
  Writable.foldl (m := empty) nofun _

end Machine

end Transducer
