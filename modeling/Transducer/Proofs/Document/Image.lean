import Transducer.Proofs.Document.RoundTrip
import Transducer.Proofs.Sameness

/-!
What the text format can hold. Some line is read as a state exactly if the state can be written, and
then its own line is one; the same holds of documents and machines. So no other state and no other
machine ever comes back from its text, by accident or not.
-/

namespace Transducer

/-- Some line is read as the state exactly if it can be written. -/
theorem State.exists_parse_iff {s : State} : (∃ l, State.parse l = .ok s) ↔ s.Writable := by
  constructor
  · intro h
    obtain ⟨l, hl⟩ := h
    exact writable_of_parse hl
  · intro h
    exact ⟨s.line, parse_line h⟩

namespace Machine

variable {m : Machine}

theorem writable_of_same_ofText {t : Word} (h : (ofText t).same m = true) : m.Writable := by
  intro s hs
  exact writable_ofText t s ((mem_of_same h).mpr hs)

theorem same_ofText_toText_iff : (ofText m.toText).same m = true ↔ m.Writable := by
  constructor
  · exact writable_of_same_ofText
  · intro h
    rw [ofText_toText h]
    exact m.same_refl

/-- A machine is read strictly from its document exactly if it can be written. -/
theorem exists_ofTextStrict_toText_iff :
    (∃ n, ofTextStrict m.toText = .ok n ∧ n.same m = true) ↔ m.Writable := by
  constructor
  · intro h
    obtain ⟨n, hn, hsame⟩ := h
    rw [← ofText_of_ofTextStrict hn] at hsame
    exact writable_of_same_ofText hsame
  · intro h
    exact ⟨m, ofTextStrict_toText h, m.same_refl⟩

/-- A state comes back from its line, and a machine from its document, exactly if each state can be
written. A document that is read strictly as its machine keeps the order of the states. -/
theorem text_image :
    (∀ s : State, State.parse s.line = .ok s ↔ s.Writable) ∧
    ∀ m : Machine,
      ((ofText m.toText).same m = true ↔ ∀ s ∈ m.states, s.Writable) ∧
      ((∃ n, ofTextStrict m.toText = .ok n ∧ n.states = m.states) ↔
        ∀ s ∈ m.states, s.Writable) := by
  refine ⟨fun s => State.parse_line_iff, fun m => ⟨same_ofText_toText_iff, ?_, ?_⟩⟩
  · intro h
    obtain ⟨n, hn, hstates⟩ := h
    refine exists_ofTextStrict_toText_iff.mp ⟨n, hn, ?_⟩
    rw [eq_of_states hstates]
    exact m.same_refl
  · intro h
    exact ⟨m, ofTextStrict_toText h, rfl⟩

end Machine

end Transducer
