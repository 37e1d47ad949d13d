import Transducer.State
import Transducer.Fault

/-!
Machines: states in the order in which they were added, no two with one label. Whether the states
make a sound machine is a question of its own and not asked here.
-/

namespace Transducer

structure Machine where
  states : List State
  distinct : (states.map State.label).Nodup

namespace Machine

def empty : Machine := ⟨[], List.nodup_nil⟩

def labels (m : Machine) : List Word := m.states.map State.label

def size (m : Machine) : Nat := m.states.length

def isEmpty (m : Machine) : Bool := m.states.isEmpty

def has (m : Machine) (label : Word) : Bool := m.labels.contains label

def get? (m : Machine) (label : Word) : Option State := m.states.find? (·.label == label)

def start? (m : Machine) : Option State := m.states.find? State.isStart

/-- A machine is nothing more than its states. -/
theorem eq_of_states {m n : Machine} (h : m.states = n.states) : m = n := by
  cases m
  cases n
  cases h
  rfl

theorem has_iff {m : Machine} {l : Word} : m.has l = true ↔ l ∈ m.labels := by
  simp [has]

theorem has_eq_isSome_get? (m : Machine) (l : Word) : m.has l = (m.get? l).isSome := by
  rw [Bool.eq_iff_iff, has_iff, get?, List.find?_isSome]
  simp [labels]

/-- Among states with distinct labels, a label finds the state it belongs to. -/
theorem find?_label {ss : List State} (hd : (ss.map State.label).Nodup) {s : State}
    (hs : s ∈ ss) : ss.find? (·.label == s.label) = some s := by
  induction ss with
  | nil => simp at hs
  | cons t ts ih =>
    rw [List.map_cons, List.nodup_cons] at hd
    rw [List.find?_cons]
    rcases List.mem_cons.mp hs with rfl | hts
    · simp
    · have hne : (t.label == s.label) = false := by
        simp only [beq_eq_false_iff_ne]
        intro he
        exact hd.1 (he ▸ List.mem_map_of_mem hts)
      rw [hne]
      exact ih hd.2 hts

theorem get?_eq_some_iff {m : Machine} {l : Word} {s : State} :
    m.get? l = some s ↔ s ∈ m.states ∧ s.label = l := by
  constructor
  · intro h
    exact ⟨List.mem_of_find?_eq_some h, by simpa using List.find?_some h⟩
  · intro h
    obtain ⟨hs, rfl⟩ := h
    exact find?_label m.distinct hs

theorem distinct_append {m : Machine} {s : State} (h : ¬ m.has s.label = true) :
    ((m.states ++ [s]).map State.label).Nodup := by
  rw [has_iff, labels] at h
  rw [List.map_append, List.nodup_append]
  refine ⟨m.distinct, by simp, ?_⟩
  intro a ha b hb he
  subst he
  simp only [List.map_cons, List.map_nil, List.mem_singleton] at hb
  exact h (hb ▸ ha)

/-- Adds a state at the end, unless its label is taken. -/
def add (m : Machine) (s : State) : Except Fault Machine :=
  if h : m.has s.label then .error (.duplicateState s.label)
  else .ok ⟨m.states ++ [s], distinct_append h⟩

theorem states_add {m n : Machine} {s : State} (h : m.add s = .ok n) :
    n.states = m.states ++ [s] := by
  unfold add at h
  split at h
  · simp at h
  · cases h
    rfl

theorem exists_add {m : Machine} {s : State} (h : s.label ∉ m.labels) : ∃ n, m.add s = .ok n := by
  unfold add
  rw [dif_neg (mt has_iff.mp h)]
  exact ⟨_, rfl⟩

theorem add_eq_error_iff {m : Machine} {s : State} {f : Fault} :
    m.add s = .error f ↔ m.has s.label = true ∧ f = .duplicateState s.label := by
  unfold add
  split
  · rename_i h
    rw [Except.error.injEq]
    exact ⟨fun he => ⟨h, he.symm⟩, fun he => he.2.symm⟩
  · rename_i h
    exact ⟨nofun, fun he => absurd he.1 h⟩

/-- Adds states one after another, up to the first whose label is taken. -/
def addAll (m : Machine) : List State → Except Fault Machine
  | [] => .ok m
  | s :: ss => (m.add s).bind (·.addAll ss)

/-- The machine without the state of a label. The others keep their order. -/
def erase (m : Machine) (label : Word) : Machine :=
  ⟨m.states.filter (·.label != label), m.distinct.sublist (List.filter_sublist.map _)⟩

@[simp] theorem states_erase (m : Machine) (l : Word) :
    (m.erase l).states = m.states.filter (·.label != l) := rfl

def remove (m : Machine) (label : Word) : Option (State × Machine) :=
  (m.get? label).map fun s => (s, m.erase label)

theorem filter_label_of_distinct {before after : List State} {s : State}
    (hd : ((before ++ s :: after).map State.label).Nodup) :
    (before ++ s :: after).filter (·.label != s.label) = before ++ after := by
  rw [List.map_append, List.map_cons, List.nodup_append, List.nodup_cons] at hd
  obtain ⟨-, ⟨hafter, -⟩, hbefore⟩ := hd
  have hkept {ts : List State} (h : ∀ t ∈ ts, t.label ≠ s.label) :
      ts.filter (·.label != s.label) = ts := List.filter_eq_self.mpr (by simpa using h)
  have hb : ∀ t ∈ before, t.label ≠ s.label := fun t ht =>
    hbefore _ (List.mem_map_of_mem ht) _ List.mem_cons_self
  have ha : ∀ t ∈ after, t.label ≠ s.label := fun t ht he =>
    hafter (he ▸ List.mem_map_of_mem ht)
  rw [List.filter_append, List.filter_cons_of_neg (by simp), hkept hb, hkept ha]

/-- What is removed is the state of the label, and the others stay in their order. -/
theorem remove_eq_some_iff {m n : Machine} {l : Word} {s : State} :
    m.remove l = some (s, n) ↔ ∃ before after, m.states = before ++ s :: after ∧ s.label = l ∧
      n.states = before ++ after := by
  unfold remove
  rw [Option.map_eq_some_iff]
  constructor
  · intro h
    obtain ⟨t, ht, he⟩ := h
    obtain ⟨rfl, rfl⟩ := Prod.mk.inj he
    obtain ⟨hmem, rfl⟩ := get?_eq_some_iff.mp ht
    obtain ⟨before, after, hm⟩ := List.append_of_mem hmem
    refine ⟨before, after, hm, rfl, ?_⟩
    have hd := m.distinct
    rw [hm] at hd
    rw [states_erase, hm, filter_label_of_distinct hd]
  · intro h
    obtain ⟨before, after, hm, rfl, hn⟩ := h
    have hmem : s ∈ m.states := hm ▸ List.mem_append_right before List.mem_cons_self
    refine ⟨s, get?_eq_some_iff.mpr ⟨hmem, rfl⟩, Prod.ext rfl (eq_of_states ?_)⟩
    have hd := m.distinct
    rw [hm] at hd
    rw [states_erase, hm, hn, filter_label_of_distinct hd]

theorem remove_eq_none_iff {m : Machine} {l : Word} : m.remove l = none ↔ l ∉ m.labels := by
  rw [remove, Option.map_eq_none_iff, ← Option.not_isSome_iff_eq_none, ← has_eq_isSome_get?,
    has_iff]

/-- Both machines have the same states under the same labels, in whatever order. -/
def same (m n : Machine) : Bool :=
  m.size == n.size && m.states.all fun s => n.get? s.label == some s

end Machine

end Transducer
