import Mathlib.Data.List.Nodup
import Transducer.Columns.Json
import Transducer.Proofs.First
import Transducer.Proofs.Json.RoundTrip

/-!
Machines as columns and as JSON. Nothing is lost on the way out and back but what columns do not
allow: a label that is none. The first such label in the machine is then what reading fails with.
-/

namespace Transducer

namespace Json

variable {α β : Type}

theorem mapM_map_eq_some {f : α → β} {read? : β → Option α} {l : List α}
    (h : ∀ a ∈ l, read? (f a) = some a) : (l.map f).mapM read? = some l := by
  induction l with
  | nil => rfl
  | cons a l ih =>
    rw [List.map_cons, List.mapM_cons, h a List.mem_cons_self,
      ih fun b hb => h b (List.mem_cons_of_mem a hb)]
    rfl

theorem word?_ofWord (w : Word) : word? (.ofWord w) = some w := Quoted.unescape?_escape w

theorem words?_ofWords (ws : List Word) : words? (.ofWords ws) = some ws :=
  mapM_map_eq_some fun w _ => word?_ofWord w

theorem role?_ofWord_name (r : Role) : role? (.ofWord r.name) = some r := by
  change (Quoted.unescape? (Quoted.escape r.name)).bind Role.ofName? = some r
  rw [Quoted.unescape?_escape]
  cases r <;> decide

theorem wordsOrNull?_ofWords (ws : List Word) : wordsOrNull? (.ofWords ws) = some (some ws) := by
  change (words? (.ofWords ws)).map some = some (some ws)
  rw [words?_ofWords]
  rfl

theorem textual_ofWord (w : Word) : Textual (.ofWord w) := .string (Quoted.close?_escape w)

theorem textual_ofWords (ws : List Word) : Textual (.ofWords ws) := by
  refine .array ?_
  intro j hj
  obtain ⟨w, -, rfl⟩ := List.mem_map.mp hj
  exact textual_ofWord w

end Json

namespace Record

variable {α β : Type} {r : Record α} {name : Word} {a : α} {d : Option β} {reader : α → Option β}

theorem filter_of_nodup (hd : (r.map Prod.fst).Nodup) (h : (name, a) ∈ r) :
    r.filter (·.1 == name) = [(name, a)] := by
  induction r with
  | nil => cases h
  | cons f r ih =>
    rw [List.map_cons, List.nodup_cons] at hd
    rcases List.mem_cons.mp h with rfl | hr
    · have hrest : r.filter (·.1 == name) = [] := by
        rw [List.filter_eq_nil_iff]
        intro g hg he
        have hkey : g.1 = name := beq_iff_eq.mp he
        exact hd.1 (List.mem_map.mpr ⟨g, hg, hkey⟩)
      rw [List.filter_cons, if_pos (beq_self_eq_true name), hrest]
    · have hne : ¬ (f.1 == name) = true := by
        intro he
        have hkey : name = f.1 := (beq_iff_eq.mp he).symm
        exact hd.1 (List.mem_map.mpr ⟨_, hr, hkey⟩)
      rw [List.filter_cons, if_neg hne]
      exact ih hd.2 hr

theorem read?_of_mem (hd : (r.map Prod.fst).Nodup) (h : (name, a) ∈ r) :
    r.read? name d reader = reader a := by
  unfold read?
  rw [filter_of_nodup hd h]

theorem read?_of_not_mem (h : name ∉ r.map Prod.fst) : r.read? name d reader = d := by
  have hnone : r.filter (·.1 == name) = [] := by
    rw [List.filter_eq_nil_iff]
    intro f hf he
    have hkey : f.1 = name := beq_iff_eq.mp he
    exact h (List.mem_map.mpr ⟨f, hf, hkey⟩)
  unfold read?
  rw [hnone]

end Record

namespace Columns

/-- The fields of columns under their names. -/
def fields (c : Columns) : Record Json :=
  [(labelKey, .ofWord c.label), (roleKey, .ofWord c.role.name), (inputKey, .ofWords c.input),
    (connsKey, .ofWords c.conns)] ++ (c.output.map fun o => (outputKey, Json.ofWords o)).toList

theorem toJson_eq (c : Columns) :
    c.toJson = .object (c.fields.map fun (key, j) => Json.field key j) := by
  unfold toJson fields
  cases c.output <;> rfl

theorem textual_toJson (c : Columns) : c.toJson.Textual := by
  have hvalues : ∀ f ∈ c.fields, f.2.Textual := by
    cases ho : c.output <;>
      simp [fields, ho, Json.textual_ofWord, Json.textual_ofWords]
  rw [toJson_eq]
  refine .object ?_ ?_
  · intro f hf
    obtain ⟨⟨key, j⟩, -, rfl⟩ := List.mem_map.mp hf
    exact Quoted.close?_escape key
  · intro f hf
    obtain ⟨g, hg, rfl⟩ := List.mem_map.mp hf
    exact hvalues g hg

theorem nodup_keys : [labelKey, roleKey, inputKey, connsKey, outputKey].Nodup := by decide +kernel

theorem nodup_fields (c : Columns) : (c.fields.map Prod.fst).Nodup := by
  obtain ⟨label, role, input, conns, output⟩ := c
  cases output with
  | some o => exact nodup_keys
  | none => exact nodup_keys.sublist (List.sublist_append_left [_, _, _, _] [_])

/-- The names of the fields differ, so each is found again. -/
theorem ofFields?_fields (c : Columns) : ofFields? c.fields = some c := by
  have read {α : Type} (key : Word) (j : Json) (d : Option α) (reader : Json → Option α)
      (h : (key, j) ∈ c.fields) : Record.read? c.fields key d reader = reader j :=
    Record.read?_of_mem c.nodup_fields h
  have houtput : Record.read? c.fields outputKey (some none) Json.wordsOrNull? = some c.output := by
    cases ho : c.output with
    | some o =>
      rw [read outputKey (.ofWords o) _ _ (by simp [fields, ho]), Json.wordsOrNull?_ofWords]
    | none =>
      refine Record.read?_of_not_mem ?_
      have hkeys := (List.nodup_append.mp (show ([labelKey, roleKey, inputKey, connsKey] ++
        [outputKey]).Nodup from nodup_keys)).2.2
      intro hmem
      exact hkeys outputKey (by simpa [fields, ho] using hmem) _ List.mem_cons_self rfl
  unfold ofFields?
  rw [houtput, read labelKey (.ofWord c.label) _ _ (by simp [fields]),
    read roleKey (.ofWord c.role.name) _ _ (by simp [fields]),
    read inputKey (.ofWords c.input) _ _ (by simp [fields]),
    read connsKey (.ofWords c.conns) _ _ (by simp [fields]),
    Json.word?_ofWord, Json.role?_ofWord_name, Json.words?_ofWords, Json.words?_ofWords]
  rfl

theorem ofJson?_toJson (c : Columns) : ofJson? c.toJson = some c := by
  rw [toJson_eq]
  have hnames : (c.fields.map fun (key, j) => Json.field key j).mapM
      (fun (key, j) => (Quoted.unescape? key).map (·, j)) = some c.fields :=
    Json.mapM_map_eq_some fun f _ => by simp [Json.field, Quoted.unescape?_escape]
  simp only [ofJson?]
  rw [hnames]
  exact ofFields?_fields c

theorem parseAll?_pretty (cs : List Columns) :
    parseAll? (Json.pretty 0 (.array (cs.map toJson))) = some cs := by
  have htextual : (Json.array (cs.map toJson)).Textual := by
    refine .array ?_
    intro j hj
    obtain ⟨c, -, rfl⟩ := List.mem_map.mp hj
    exact c.textual_toJson
  unfold parseAll?
  rw [Json.parse?_pretty htextual]
  exact Json.mapM_map_eq_some fun c _ => c.ofJson?_toJson

end Columns

namespace State

theorem zip_tokens_targets (ts : List Transition) :
    ((ts.map Transition.token).zip (ts.map Transition.target)).map
      (fun (token, target) => (⟨token, target⟩ : Transition)) = ts := by
  simp [List.zip_map', Function.comp_def]

/-- A state comes back from its columns if its label is one. -/
theorem state_columns (s : State) : s.columns.state =
    if s.label.isLabel then .ok s else .error (.invalidLabel s.label) := by
  obtain ⟨label, role, table⟩ := s
  cases table <;> cases h : label.isLabel <;>
    simp [columns, Columns.state, h, tokens, transitions, Table.transitions, Table.emits?,
      zip_tokens_targets]

end State

namespace Machine

/-- The columns of states are added as the states are, up to the first label that is none. -/
theorem addTo_columns {m n : Machine} {ss : List State} (hn : n.states = m.states ++ ss) :
    Columns.addTo m (ss.map State.columns) =
      match (ss.map State.label).find? (!·.isLabel) with
      | none => .ok n
      | some l => .error (.invalidLabel l) := by
  -- what is still to come of `n` only moves from the list into `m`
  induction ss generalizing m with
  | nil =>
    rw [List.append_nil] at hn
    simpa [Columns.addTo] using (eq_of_states hn).symm
  | cons s ss ih =>
    rw [List.map_cons, List.map_cons, List.find?_cons, Columns.addTo, State.state_columns]
    cases hl : s.label.isLabel with
    | false => rfl
    | true =>
      have hd := n.distinct
      rw [hn, List.map_append, List.map_cons, List.nodup_middle, List.nodup_cons] at hd
      have hfree : s.label ∉ m.labels := fun h => hd.1 (List.mem_append_left _ h)
      obtain ⟨k, hk⟩ := exists_add hfree
      have hks : n.states = k.states ++ ss := by
        rw [hn, states_add hk, List.append_assoc, List.singleton_append]
      have hadd : (do Columns.addTo (← m.add s) (ss.map State.columns)) =
          Columns.addTo k (ss.map State.columns) := by
        rw [hk]
        rfl
      exact hadd.trans (ih hks)

theorem ofJson_toJson (m : Machine) : ofJson m.toJson =
    match m.labels.find? (!·.isLabel) with
    | none => .ok m
    | some l => .error (.invalidLabel l) := by
  unfold ofJson toJson
  rw [Columns.parseAll?_pretty]
  exact addTo_columns (m := empty) (List.nil_append _).symm

/-- Every label of the machine can be written. -/
def Labelled (m : Machine) : Prop := ∀ l ∈ m.labels, l.isLabel = true

theorem find?_label_eq_none_iff {m : Machine} :
    m.labels.find? (!·.isLabel) = none ↔ m.Labelled := by
  simp [List.find?_eq_none, Labelled]

/-- A machine comes back from its JSON exactly if its labels can be written. -/
theorem ofJson_toJson_eq_ok_iff {m : Machine} : ofJson m.toJson = .ok m ↔ m.Labelled := by
  rw [ofJson_toJson, ← find?_label_eq_none_iff]
  cases m.labels.find? (!·.isLabel) <;> simp

/-- Otherwise reading fails with the first label that cannot be. -/
theorem ofJson_toJson_eq_error_iff {m : Machine} {l : Word} :
    ofJson m.toJson = .error (.invalidLabel l) ↔ First (·.isLabel = false) m.labels l := by
  rw [ofJson_toJson, ← find?_eq_some_iff_first (p := (!·.isLabel)) (by simp)]
  cases m.labels.find? (!·.isLabel) <;> simp

end Machine

end Transducer
