import Transducer.Proofs.Adding
import Transducer.Proofs.Columns.RoundTrip

/-!
Machines out of columns. Columns can be flawed in three ways, of which the first that applies is
told: their label is none, their transitions do not line up, or their label is taken by columns in
front of them. A list of columns makes a machine exactly if none of them is flawed, and that machine
has these columns again.
-/

namespace Transducer

namespace Columns

variable {c : Columns} {cs : List Columns} {m n : Machine} {s : State} {f : Fault}

/-- What is wrong with columns that come behind others with the given labels. -/
inductive Flaw (labels : List Word) (c : Columns) : Fault → Prop
  | label (h : c.label.isLabel = false) : Flaw labels c (.invalidLabel c.label)
  | lengths (hl : c.label.isLabel = true) (h : c.input.length ≠ c.conns.length) :
    Flaw labels c (.unbalanced c.label)
  | repeated (hl : c.label.isLabel = true) (hc : c.input.length = c.conns.length)
    (h : c.label ∈ labels) : Flaw labels c (.duplicateState c.label)

/-- Nothing is wrong with any of the columns, one after another. -/
structure Flawless (cs : List Columns) : Prop where
  labels : ∀ c ∈ cs, c.label.isLabel = true
  lengths : ∀ c ∈ cs, c.input.length = c.conns.length
  distinct : (cs.map label).Nodup

/-- The columns of transitions that are taken apart again are those they were made of. -/
theorem map_token_zip {input conns : List Word} (h : input.length = conns.length) :
    ((input.zip conns).map fun (token, target) => (⟨token, target⟩ : Transition)).map
      Transition.token = input := by
  rw [List.map_map]
  exact List.map_fst_zip (Nat.le_of_eq h)

theorem map_target_zip {input conns : List Word} (h : input.length = conns.length) :
    ((input.zip conns).map fun (token, target) => (⟨token, target⟩ : Transition)).map
      Transition.target = conns := by
  rw [List.map_map]
  exact List.map_snd_zip (Nat.le_of_eq h.symm)

/-- Columns that line up below a label describe a state, and it has these columns. -/
theorem exists_state (hl : c.label.isLabel = true) (hc : c.input.length = c.conns.length) :
    ∃ s, c.state = .ok s ∧ s.columns = c := by
  obtain ⟨label, role, input, conns, output⟩ := c
  have htokens := map_token_zip hc
  have htargets := map_target_zip hc
  cases output <;>
    simp_all [state, State.columns, State.tokens, State.transitions, Table.transitions,
      Table.emits?]

theorem state_eq_ok_iff : c.state = .ok s ↔ s.label.isLabel = true ∧ s.columns = c := by
  constructor
  · intro h
    cases hl : c.label.isLabel with
    | false => simp [state, hl] at h
    | true =>
      by_cases hc : c.input.length = c.conns.length
      · obtain ⟨t, ht, rfl⟩ := exists_state hl hc
        rw [h] at ht
        cases ht
        exact ⟨hl, rfl⟩
      · simp [state, hl, hc] at h
  · rintro ⟨hl, rfl⟩
    rw [State.state_columns, if_pos hl]

/-- Columns are added as the state they describe is. -/
def addOne (m : Machine) (c : Columns) : Except Fault Machine := c.state >>= m.add

theorem addTo_eq_foldlM (m : Machine) (cs : List Columns) : addTo m cs = cs.foldlM addOne m := by
  induction cs generalizing m with
  | nil => rfl
  | cons c cs ih =>
    rw [addTo, List.foldlM_cons, addOne, bind_assoc]
    simp only [ih]

theorem addOne_eq_ok_iff (m : Machine) (c : Columns) (n : Machine) :
    addOne m c = .ok n ↔ ∃ s, c.state = .ok s ∧ m.add s = .ok n :=
  Except.bind_eq_ok_iff

theorem addOne_eq_error_iff : addOne m c = .error f ↔ c.Flaw m.labels f := by
  unfold addOne
  rw [Except.bind_eq_error_iff]
  constructor
  · rintro (h | ⟨s, hs, h⟩)
    · cases hl : c.label.isLabel with
      | false =>
        obtain rfl : Fault.invalidLabel c.label = f := by simpa [state, hl] using h
        exact .label hl
      | true =>
        by_cases hc : c.input.length = c.conns.length
        · obtain ⟨s, hs, -⟩ := exists_state hl hc
          rw [hs] at h
          cases h
        · obtain rfl : Fault.unbalanced c.label = f := by simpa [state, hl, hc] using h
          exact .lengths hl hc
    · obtain ⟨hl, rfl⟩ := state_eq_ok_iff.mp hs
      obtain ⟨htaken, rfl⟩ := Machine.add_eq_error_iff.mp h
      exact .repeated hl (by simp [State.columns, State.tokens]) (Machine.has_iff.mp htaken)
  · intro h
    cases h with
    | label hl => exact .inl (by simp [state, hl])
    | lengths hl hc => exact .inl (by simp [state, hl, hc])
    | repeated hl hc hmem =>
      obtain ⟨s, hs, rfl⟩ := exists_state hl hc
      exact .inr ⟨s, hs, Machine.add_eq_error_iff.mpr ⟨Machine.has_iff.mpr hmem, rfl⟩⟩

/-- The states that columns describe have these columns again, and labels that are labels. -/
theorem map_state_eq_iff {ss : List State} : cs.map state = ss.map .ok ↔
    (∀ s ∈ ss, s.label.isLabel = true) ∧ ss.map State.columns = cs := by
  induction ss generalizing cs with
  | nil => exact ⟨fun h => ⟨nofun, (List.map_eq_nil_iff.mp h).symm⟩, fun h => h.2 ▸ rfl⟩
  | cons s ss ih =>
    cases cs with
    | nil => simp
    | cons c cs =>
      simp only [List.map_cons, List.cons.injEq, state_eq_ok_iff, ih, List.forall_mem_cons]
      exact and_and_and_comm

theorem exists_states (hl : ∀ c ∈ cs, c.label.isLabel = true)
    (hc : ∀ c ∈ cs, c.input.length = c.conns.length) :
    ∃ ss : List State, cs.map state = ss.map .ok := by
  induction cs with
  | nil => exact ⟨[], rfl⟩
  | cons c cs ih =>
    rw [List.forall_mem_cons] at hl hc
    obtain ⟨s, hs, -⟩ := exists_state hl.1 hc.1
    obtain ⟨ss, hss⟩ := ih hl.2 hc.2
    exact ⟨s :: ss, by rw [List.map_cons, List.map_cons, hs, hss]⟩

end Columns

namespace Machine

open Columns

variable {m : Machine} {cs : List Columns} {f : Fault}

theorem map_label_columns (m : Machine) : m.columns.map Columns.label = m.labels := by
  rw [columns, List.map_map]
  rfl

theorem flawless_columns (h : m.Labelled) : Flawless m.columns where
  labels := by
    intro c hc
    exact h c.label (m.map_label_columns ▸ List.mem_map_of_mem hc)
  lengths := by
    intro c hc
    obtain ⟨s, -, rfl⟩ := List.mem_map.mp hc
    simp [State.columns, State.tokens]
  distinct := by
    rw [map_label_columns]
    exact m.distinct

/-- A machine is made of columns exactly if they are its own, and its labels are labels. -/
theorem ofColumns_eq_ok_iff : ofColumns cs = .ok m ↔ m.Labelled ∧ m.columns = cs := by
  have hmade : ofColumns cs = .ok m ↔ cs.map Columns.state = m.states.map .ok := by
    rw [ofColumns, addTo_eq_foldlM, foldlM_add_eq_ok_iff addOne_eq_ok_iff]
    constructor
    · intro h
      obtain ⟨ss, hss, hm⟩ := h
      have hm : m.states = ss := hm
      rwa [hm]
    · intro h
      exact ⟨m.states, h, rfl⟩
  rw [hmade, map_state_eq_iff, Labelled, labels, List.forall_mem_map]
  rfl

theorem exists_ofColumns_iff : (∃ m, ofColumns cs = .ok m) ↔ Flawless cs := by
  constructor
  · intro h
    obtain ⟨m, hm⟩ := h
    obtain ⟨hl, rfl⟩ := ofColumns_eq_ok_iff.mp hm
    exact flawless_columns hl
  · intro h
    obtain ⟨ss, hss⟩ := exists_states h.labels h.lengths
    obtain ⟨hl, rfl⟩ := map_state_eq_iff.mp hss
    have hd := h.distinct
    rw [List.map_map] at hd
    exact ⟨⟨ss, hd⟩, ofColumns_eq_ok_iff.mpr ⟨List.forall_mem_map.mpr hl, rfl⟩⟩

/-- Columns fail at the first of them that are flawed. -/
theorem ofColumns_eq_error_iff : ofColumns cs = .error f ↔
    ∃ before c after, cs = before ++ c :: after ∧ Flawless before ∧
      c.Flaw (before.map Columns.label) f := by
  have hflawed : ofColumns cs = .error f ↔ ∃ before c after n, cs = before ++ c :: after ∧
      ofColumns before = .ok n ∧ c.Flaw n.labels f := by
    simp only [ofColumns, addTo_eq_foldlM, foldlM_eq_error_iff, addOne_eq_error_iff]
  rw [hflawed]
  constructor
  · intro h
    obtain ⟨before, c, after, n, hcs, hn, hf⟩ := h
    obtain ⟨hl, rfl⟩ := ofColumns_eq_ok_iff.mp hn
    exact ⟨n.columns, c, after, hcs, flawless_columns hl, n.map_label_columns ▸ hf⟩
  · intro h
    obtain ⟨before, c, after, hcs, hbefore, hf⟩ := h
    obtain ⟨n, hn⟩ := exists_ofColumns_iff.mpr hbefore
    obtain ⟨-, rfl⟩ := ofColumns_eq_ok_iff.mp hn
    exact ⟨n.columns, c, after, n, hcs, hn, n.map_label_columns ▸ hf⟩

/-- Columns make a machine exactly if each has a label that is one and transitions that line up, and
no two have the same label. The machine then has exactly these columns, one by one, whether or not
they come with output, and however much of it. Otherwise the columns in front of some flawed ones
are without flaw, and the fault tells the first flaw of those. -/
theorem columns_are_imported_exactly (cs : List Columns) :
    ((∃ m, ofColumns cs = .ok m) ↔ Flawless cs) ∧
    (∀ m, ofColumns cs = .ok m ↔ Flawless cs ∧ m.columns = cs) ∧
    ∀ f, ofColumns cs = .error f ↔ ∃ before c after, cs = before ++ c :: after ∧
      Flawless before ∧ c.Flaw (before.map Columns.label) f := by
  refine ⟨exists_ofColumns_iff, fun m => ?_, fun f => ofColumns_eq_error_iff⟩
  rw [ofColumns_eq_ok_iff]
  constructor
  · intro h
    obtain ⟨hl, rfl⟩ := h
    exact ⟨flawless_columns hl, rfl⟩
  · intro h
    obtain ⟨hcs, rfl⟩ := h
    refine ⟨?_, rfl⟩
    rw [Labelled, ← map_label_columns]
    exact List.forall_mem_map.mpr hcs.labels

end Machine

end Transducer
