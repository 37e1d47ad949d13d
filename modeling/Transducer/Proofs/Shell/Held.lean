import Transducer.Proofs.Labelled
import Transducer.Proofs.Shell.Lines

/-!
The machines that the program can hold: those of files and those of its shell, after any lines. All
their labels can be written, so as columns none of them is lost.
-/

namespace Transducer

namespace Shell

variable {sh next : Shell}

theorem Performed.labelled {t : Task} {text : String} (h : sh.machine.Labelled)
    (hp : sh.Performed t (.ok (text, next))) : next.machine.Labelled := by
  cases hp with
  | loaded _ hload => exact Machine.labelled_of_load hload
  | @added line m _ hadd =>
    have hedit : sh.machine.edit (.addLine line) = (.added, m) := by
      simp [Machine.edit, hadd, Machine.answerAdd]
    exact h.edited (Edit.labelled_addLine line) (hedit ▸ sh.machine.edited_edit _)
  | @removed label s m _ hremove =>
    have hedit : sh.machine.edit (.remove label) = (.removed s, m) := by
      simp [Machine.edit, hremove]
    exact h.edited (Edit.labelled_remove label) (hedit ▸ sh.machine.edited_edit _)
  | recording | absent | said => exact h

theorem Left.labelled (h : sh.machine.Labelled) (hl : sh.Left next) : next.machine.Labelled := by
  cases hl with
  | task hp => exact hp.labelled h
  | stepping s => exact h

/-- Every label in a shell can be written, whatever lines were typed. -/
theorem Reachable.labelled (h : sh.Reachable) : sh.machine.Labelled := by
  induction h with
  | opened h =>
    rcases opened_cases h with rfl | ⟨path, m, hload, rfl⟩
    · exact Machine.labelled_empty
    · exact Machine.labelled_of_load hload
  | answered _ h hr ih => exact (left_answer h hr).labelled ih

end Shell

namespace Machine

/-- The program can hold the machine. -/
inductive Held : Machine → Prop
  | loaded {path : Word} {lenient : Bool} {m : Machine} (h : (load path lenient).Gives (.ok m)) :
    Held m
  | shell {sh : Shell} (h : sh.Reachable) : Held sh.machine

theorem Held.labelled {m : Machine} (h : m.Held) : m.Labelled := by
  cases h with
  | loaded h => exact labelled_of_load h
  | shell h => exact h.labelled

/-- A machine comes back from its columns in JSON exactly if its labels can be written, and fails to
with the first that cannot. So every machine that the program can hold comes back. -/
theorem lossless_json (m : Machine) :
    (ofJson m.toJson = .ok m ↔ m.Labelled) ∧
    (∀ l, ofJson m.toJson = .error (.invalidLabel l) ↔ First (·.isLabel = false) m.labels l) ∧
    (m.Labelled ∨ ∃ l, First (·.isLabel = false) m.labels l) ∧
    (m.Held → ofJson m.toJson = .ok m) := by
  refine ⟨ofJson_toJson_eq_ok_iff, fun l => ofJson_toJson_eq_error_iff, ?_, ?_⟩
  · cases h : m.labels.find? (!·.isLabel) with
    | none => exact .inl (find?_label_eq_none_iff.mp h)
    | some l => exact .inr ⟨l, (find?_eq_some_iff_first (by simp)).mp h⟩
  · intro h
    exact ofJson_toJson_eq_ok_iff.mpr h.labelled

/-- A column of output that is there but empty, and a quote and a control character in a token. -/
def ragged : Word :=
  ("[\x7b\"label\":\"A\",\"input\":[\"\\\"\\u0001\",\"\"]," ++
    "\"conns\":[\"no state\",\"B\"],\"output\":[]\x7d]").toList

def raggedFolder : Folder := ⟨[(["m.json".toList], .file (.text ragged))]⟩

def emptyShell : Shell := .start (Environment.ofNames fun _ => none).defaults .monochrome

def raggedReply : Shell.Reply :=
  ((emptyShell.answerTyped "load m.json".toList).runOn raggedFolder).1

theorem ragged_lossless : ∃ sh, raggedReply.shell = some sh ∧
    sh.machine.states = [⟨['A'], .ordinary,
      .emitting [⟨['"', '\x01'], "no state".toList⟩, ⟨[], ['B']⟩] []⟩] ∧
    ofJson sh.machine.toJson = .ok sh.machine := by
  have hstates : raggedReply.shell.map (·.machine.states) = some [⟨['A'], .ordinary,
      .emitting [⟨['"', '\x01'], "no state".toList⟩, ⟨[], ['B']⟩] []⟩] := by decide +kernel
  obtain ⟨sh, hsh, hstates⟩ := Option.map_eq_some_iff.mp hstates
  have hstart : emptyShell.Reachable := Shell.reachable_start _ _
  have hreply : (emptyShell.answerTyped "load m.json".toList).Gives raggedReply :=
    Access.gives_runOn _ _
  exact ⟨sh, hsh, hstates,
    (lossless_json sh.machine).2.2.2 (.shell (hstart.answered hreply hsh))⟩

end Machine

end Transducer
