import Transducer.Document
import Transducer.Proofs.Adding
import Transducer.Proofs.Document.Lines

/-!
Reading a document strictly, leniently and by adding its lines one after another. All three go
through the same entries. The strict reading is told by them: it succeeds exactly if they are the
lines of states with distinct labels, and else fails at the first entry that is not.
-/

namespace Transducer

namespace Document

/-- The entries are the lines of the states, one for each, and no label occurs twice. -/
structure Spells (es : List (Nat × Word)) (ss : List State) : Prop where
  lines : es.map (fun e => State.parse e.2) = ss.map .ok
  labels : (ss.map State.label).Nodup

/-- What is wrong with an entry that comes after those of the states. -/
inductive Bad (ss : List State) (e : Nat × Word) : Fault → Prop where
  | unreadable {offset : Nat} (h : State.parse e.2 = .error offset) :
    Bad ss e (.parse e.1 offset)
  | repeated {s : State} (h : State.parse e.2 = .ok s) (hl : s.label ∈ ss.map State.label) :
    Bad ss e (.duplicateLine s.label e.1)

/-- The entries of a document are its lines with their numbers, but for the blank ones. -/
theorem numbered_eq (first : Nat) (ls : List Word) : numbered first ls =
    ((ls.zipIdx first).filter fun l => !l.1.isBlank).map Prod.swap := by
  induction ls generalizing first with
  | nil => rfl
  | cons l ls ih =>
    rw [numbered, List.zipIdx_cons, List.filter_cons, ih]
    cases l.isBlank <;> rfl

end Document

open Document

/-- A fault of a line that was read by itself, as the fault of the line with a number. -/
def Fault.onLine (number : Nat) : Fault → Fault
  | .parse 1 offset => .parse number offset
  | .duplicateState l => .duplicateLine l number
  | f => f

namespace Machine

variable {m n : Machine} {e : Nat × Word} {es : List (Nat × Word)} {f : Fault} {t : Word}

theorem addEntry_eq_ok_iff :
    m.addEntry e = .ok n ↔ ∃ s, State.parse e.2 = .ok s ∧ m.add s = .ok n := by
  unfold addEntry
  cases State.parse e.2 with
  | error offset => simp
  | ok s => cases hadd : m.add s <;> simp [hadd]

theorem addEntry_eq_error_iff : m.addEntry e = .error f ↔ Bad m.states e f := by
  unfold addEntry
  constructor
  · intro h
    split at h
    · rename_i offset hp
      cases h
      exact .unreadable hp
    · rename_i s hp
      split at h
      · rename_i g hadd
        cases h
        exact .repeated hp (has_iff.mp (add_eq_error_iff.mp hadd).1)
      · cases h
  · intro h
    cases h with
    | unreadable hp => rw [hp]
    | repeated hp hl => simp only [hp, add_eq_error_iff.mpr ⟨has_iff.mpr hl, rfl⟩]

/-- An entry is added as its line is added by itself, up to the number in a fault. -/
theorem addEntry_eq_addLine (m : Machine) (e : Nat × Word) :
    m.addEntry e = (m.addLine e.2).mapError (Fault.onLine e.1) := by
  unfold addEntry addLine
  cases State.parse e.2 with
  | error offset => rfl
  | ok s =>
    simp only
    cases hadd : m.add s with
    | error f =>
      obtain ⟨-, rfl⟩ := add_eq_error_iff.mp hadd
      rfl
    | ok n => rfl

theorem addEntries_cons (m : Machine) (e : Nat × Word) (es : List (Nat × Word)) :
    m.addEntries (e :: es) = m.addEntry e >>= (·.addEntries es) := rfl

theorem addEntries_eq_foldlM_addEntry (m : Machine) (es : List (Nat × Word)) :
    m.addEntries es = es.foldlM addEntry m := by
  induction es generalizing m with
  | nil => rfl
  | cons e es ih =>
    rw [addEntries_cons, List.foldlM_cons]
    exact congrArg _ (funext ih)

theorem addEntries_eq_foldlM (m : Machine) (es : List (Nat × Word)) : m.addEntries es =
    es.foldlM (fun m e => (m.addLine e.2).mapError (Fault.onLine e.1)) m := by
  simp only [addEntries_eq_foldlM_addEntry, ← addEntry_eq_addLine]

/-- Entries are added exactly if each is the line of a state, and the states come behind those that
are there. That their labels are free is told by the machine they make. -/
theorem addEntries_eq_ok_iff : m.addEntries es = .ok n ↔
    ∃ ss, es.map (fun e => State.parse e.2) = ss.map .ok ∧ n.states = m.states ++ ss := by
  rw [addEntries_eq_foldlM_addEntry]
  exact foldlM_add_eq_ok_iff fun _ _ _ => addEntry_eq_ok_iff

/-- Adding entries fails at the first of them that cannot be added to what those before it make. -/
theorem addEntries_eq_error_iff : m.addEntries es = .error f ↔
    ∃ before e after n, es = before ++ e :: after ∧ m.addEntries before = .ok n ∧
      n.addEntry e = .error f := by
  simp only [addEntries_eq_foldlM_addEntry]
  exact foldlM_eq_error_iff

/-- A machine is read strictly exactly if the entries are the lines of its states. -/
theorem ofTextStrict_eq_ok_iff : ofTextStrict t = .ok m ↔ Spells (entries t) m.states := by
  unfold ofTextStrict
  rw [addEntries_eq_ok_iff]
  constructor
  · intro h
    obtain ⟨ss, hss, hm⟩ := h
    have hm : m.states = ss := hm
    subst hm
    exact ⟨hss, m.distinct⟩
  · intro h
    exact ⟨m.states, h.lines, rfl⟩

theorem ofTextStrict_eq_error_iff : ofTextStrict t = .error f ↔
    ∃ before e after ss, entries t = before ++ e :: after ∧ Spells before ss ∧ Bad ss e f := by
  unfold ofTextStrict
  rw [addEntries_eq_error_iff]
  constructor
  · intro h
    obtain ⟨before, e, after, n, hes, hn, hf⟩ := h
    obtain ⟨ss, hss, hstates⟩ := addEntries_eq_ok_iff.mp hn
    have hstates : n.states = ss := hstates
    subst hstates
    exact ⟨before, e, after, n.states, hes, ⟨hss, n.distinct⟩, addEntry_eq_error_iff.mp hf⟩
  · intro h
    obtain ⟨before, e, after, ss, hes, hss, hf⟩ := h
    exact ⟨before, e, after, ⟨ss, hss.labels⟩, hes,
      addEntries_eq_ok_iff.mpr ⟨ss, hss.lines, rfl⟩, addEntry_eq_error_iff.mpr hf⟩

theorem addIfPossible_of_addEntry (h : m.addEntry e = .ok n) : m.addIfPossible e.2 = n := by
  obtain ⟨s, hparse, hadd⟩ := addEntry_eq_ok_iff.mp h
  simp [addIfPossible, hparse, hadd]

theorem foldl_of_addEntries (h : m.addEntries es = .ok n) :
    es.foldl (fun m e => m.addIfPossible e.2) m = n := by
  induction es generalizing m with
  | nil =>
    cases h
    rfl
  | cons e es ih =>
    rw [addEntries_cons] at h
    obtain ⟨k, he, hk⟩ := Except.bind_eq_ok_iff.mp h
    rw [List.foldl_cons, addIfPossible_of_addEntry he]
    exact ih hk

/-- What is read strictly is read leniently too. -/
theorem ofText_of_ofTextStrict (h : ofTextStrict t = .ok m) : ofText t = m :=
  foldl_of_addEntries h

theorem states_prefix_addIfPossible (m : Machine) (l : Word) :
    m.states <+: (m.addIfPossible l).states := by
  unfold addIfPossible
  split
  · exact List.prefix_rfl
  · split
    · exact List.prefix_rfl
    · rename_i s _ _ n hn
      exact ⟨[s], (states_add hn).symm⟩

/-- A lenient reading keeps what it has and adds behind it. -/
theorem states_prefix_foldl (m : Machine) (es : List (Nat × Word)) :
    m.states <+: (es.foldl (fun m e => m.addIfPossible e.2) m).states := by
  induction es generalizing m with
  | nil => exact List.prefix_rfl
  | cons e es ih => exact (m.states_prefix_addIfPossible e.2).trans (ih _)

/-- The lenient reading begins with the states of the entries that come first and are good. -/
theorem states_prefix_ofText {before after : List (Nat × Word)} {ss : List State}
    (ht : entries t = before ++ after) (h : Spells before ss) : ss <+: (ofText t).states := by
  have hbefore : empty.addEntries before = .ok ⟨ss, h.labels⟩ :=
    addEntries_eq_ok_iff.mpr ⟨ss, h.lines, rfl⟩
  unfold ofText
  rw [ht, List.foldl_append, foldl_of_addEntries hbefore]
  exact states_prefix_foldl ⟨ss, h.labels⟩ after

/-- The three ways of reading a document agree. Its lines end at line feeds, less a carriage return
in front of one, and what stands behind the last line feed is a line too unless it is empty. Its
entries are the lines that are not blank all over, with their numbers from one on. Reading it
strictly is adding these line by line up to the first fault, which is then told with the number of
the line. That succeeds exactly if the entries are the lines of states with distinct labels; the
machine has these states, and the lenient reading gives it too. Otherwise the entries in front of
some bad one are such lines, the fault is that of the bad entry, and the lenient reading begins with
the states in front of it. -/
theorem readings_agree (t : Word) :
    Word.lines [] = [] ∧
    (∀ v w, '\n' ∉ v →
      Word.lines (v ++ '\r' :: '\n' :: w) = v :: Word.lines w ∧
      (v.getLast? ≠ some '\r' → Word.lines (v ++ '\n' :: w) = v :: Word.lines w)) ∧
    (∀ w, '\n' ∉ w → w ≠ [] → Word.lines w = [w]) ∧
    (∀ l : Word, l.isBlank = true ↔ ∀ c ∈ l, isBlank c = true) ∧
    entries t = ((t.lines.zipIdx 1).filter fun l => !l.1.isBlank).map Prod.swap ∧
    ofTextStrict t = (entries t).foldlM
      (fun m e => (m.addLine e.2).mapError (Fault.onLine e.1)) empty ∧
    (∀ l, ofTextStrict t ≠ .error (.duplicateState l)) ∧
    ((∃ m, ofTextStrict t = .ok m) ↔ ∃ ss, Spells (entries t) ss) ∧
    (∀ m, ofTextStrict t = .ok m → Spells (entries t) m.states ∧ ofText t = m) ∧
    ∀ f, ofTextStrict t = .error f → ∃ before e after ss, entries t = before ++ e :: after ∧
      Spells before ss ∧ Bad ss e f ∧ ss <+: (ofText t).states := by
  refine ⟨rfl, fun v w h => ⟨Word.lines_append_return h w, Word.lines_append_feed_of_ne h w⟩,
    fun w => Word.lines_of_not_mem, fun l => List.all_eq_true, numbered_eq 1 t.lines,
    addEntries_eq_foldlM empty (entries t), ?_, ⟨?_, ?_⟩, ?_, ?_⟩
  · intro l h
    obtain ⟨before, e, after, ss, -, -, hf⟩ := ofTextStrict_eq_error_iff.mp h
    cases hf
  · intro h
    obtain ⟨m, hm⟩ := h
    exact ⟨m.states, ofTextStrict_eq_ok_iff.mp hm⟩
  · intro h
    obtain ⟨ss, hss⟩ := h
    exact ⟨⟨ss, hss.labels⟩, ofTextStrict_eq_ok_iff.mpr hss⟩
  · intro m h
    exact ⟨ofTextStrict_eq_ok_iff.mp h, ofText_of_ofTextStrict h⟩
  · intro f h
    obtain ⟨before, e, after, ss, ht, hss, hf⟩ := ofTextStrict_eq_error_iff.mp h
    exact ⟨before, e, after, ss, ht, hss, hf, states_prefix_ofText ht hss⟩

end Machine

end Transducer
