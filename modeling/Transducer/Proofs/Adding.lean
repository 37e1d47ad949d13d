import Transducer.Machine
import Transducer.Proofs.Except

/-!
Building a machine out of things that each describe a state, one after another up to the first that
cannot be added. It does not matter what they are, as long as adding one is reading it and adding
the state that was read.
-/

namespace Transducer

/-- A row of actions that can fail does so at the first that fails. -/
theorem foldlM_eq_error_iff {ε α β : Type} {g : β → α → Except ε β} {b : β} {l : List α} {e : ε} :
    l.foldlM g b = .error e ↔
      ∃ before a after c, l = before ++ a :: after ∧ before.foldlM g b = .ok c ∧
        g c a = .error e := by
  induction l generalizing b with
  | nil =>
    constructor
    · nofun
    · rintro ⟨before, a, after, c, hl, -⟩
      cases before <;> cases hl
  | cons a l ih =>
    rw [List.foldlM_cons, Except.bind_eq_error_iff]
    constructor
    · intro h
      rcases h with ha | ⟨c, ha, hl⟩
      · exact ⟨[], a, l, b, rfl, rfl, ha⟩
      · obtain ⟨before, d, after, c', rfl, hc', hd⟩ := ih.mp hl
        refine ⟨a :: before, d, after, c', rfl, ?_, hd⟩
        rw [List.foldlM_cons]
        exact Except.bind_eq_ok_iff.mpr ⟨c, ha, hc'⟩
    · rintro ⟨before, d, after, c', hl, hc', hd⟩
      cases before with
      | nil =>
        cases hl
        cases hc'
        exact .inl hd
      | cons a' before =>
        obtain ⟨rfl, rfl⟩ := List.cons.inj hl
        rw [List.foldlM_cons] at hc'
        obtain ⟨c, ha, hc⟩ := Except.bind_eq_ok_iff.mp hc'
        exact .inr ⟨c, ha, ih.mpr ⟨before, d, after, c', rfl, hc, hd⟩⟩

namespace Machine

variable {ε α : Type} {m n : Machine} {add : Machine → α → Except Fault Machine}
  {read : α → Except ε State} {as : List α}

/-- Everything is added exactly if all of it describes states, and the states come behind those that
are there. That their labels are free is told by the machine they make. -/
theorem foldlM_add_eq_ok_iff
    (hadd : ∀ m a n, add m a = .ok n ↔ ∃ s, read a = .ok s ∧ m.add s = .ok n) :
    as.foldlM add m = .ok n ↔
      ∃ ss, as.map read = ss.map .ok ∧ n.states = m.states ++ ss := by
  induction as generalizing m with
  | nil =>
    constructor
    · intro h
      cases h
      exact ⟨[], rfl, (List.append_nil _).symm⟩
    · intro h
      obtain ⟨ss, hss, hn⟩ := h
      cases List.map_eq_nil_iff.mp hss.symm
      rw [List.append_nil] at hn
      exact congrArg Except.ok (eq_of_states hn.symm)
  | cons a as ih =>
    rw [List.foldlM_cons, Except.bind_eq_ok_iff]
    constructor
    · intro h
      obtain ⟨k, ha, hk⟩ := h
      obtain ⟨s, hs, hk'⟩ := (hadd m a k).mp ha
      obtain ⟨ss, hss, hn⟩ := ih.mp hk
      refine ⟨s :: ss, by rw [List.map_cons, List.map_cons, hs, hss], ?_⟩
      rw [hn, states_add hk', List.append_assoc, List.singleton_append]
    · intro h
      obtain ⟨ss, hss, hn⟩ := h
      obtain ⟨s, ss, rfl⟩ : ∃ s ss', ss = s :: ss' :=
        List.exists_cons_of_ne_nil fun hnil => by rw [hnil] at hss; cases hss
      obtain ⟨hs, hss⟩ := List.cons.inj hss
      have hfree : s.label ∉ m.labels := by
        intro hmem
        have hd := n.distinct
        rw [hn, List.map_append] at hd
        exact (List.nodup_append.mp hd).2.2 _ hmem _ List.mem_cons_self rfl
      obtain ⟨k, hk⟩ := exists_add hfree
      refine ⟨k, (hadd m a k).mpr ⟨s, hs, hk⟩, ih.mpr ⟨ss, hss, ?_⟩⟩
      rw [hn, states_add hk, List.append_assoc, List.singleton_append]

end Machine

end Transducer
