import Mathlib.Data.List.Nodup
import Mathlib.Data.List.Perm.Subperm
import Transducer.Machine

/-!
Machines that are the same up to the order of their states.
-/

namespace Transducer

namespace Machine

variable {m n : Machine}

instance instDecidableEqMachine : DecidableEq Machine := fun m n =>
  decidable_of_iff (m.states = n.states) ⟨eq_of_states, congrArg states⟩

theorem nodup_states (m : Machine) : m.states.Nodup := List.Nodup.of_map State.label m.distinct

/-- Two machines are the same exactly if they have the same states in some order. -/
theorem same_iff_perm : m.same n = true ↔ m.states.Perm n.states := by
  simp only [same, size, Bool.and_eq_true, beq_iff_eq, List.all_eq_true]
  constructor
  · intro h
    obtain ⟨hsize, hfind⟩ := h
    have hsub : m.states ⊆ n.states := fun s hs => (get?_eq_some_iff.mp (hfind s hs)).1
    exact (m.nodup_states.subperm hsub).perm_of_length_le (Nat.le_of_eq hsize.symm)
  · intro h
    refine ⟨h.length_eq, ?_⟩
    intro s hs
    exact get?_eq_some_iff.mpr ⟨h.mem_iff.mp hs, rfl⟩

theorem same_refl (m : Machine) : m.same m = true := same_iff_perm.mpr (List.Perm.refl _)

theorem mem_of_same (h : m.same n = true) {s : State} : s ∈ m.states ↔ s ∈ n.states :=
  (same_iff_perm.mp h).mem_iff

end Machine

end Transducer
