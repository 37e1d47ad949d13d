import Transducer.Program
import Transducer.Proofs.Document.Image
import Transducer.Proofs.Validity

/-!
Machines as text files. A machine that passes its check is read back as it was written. In general a
machine reads back from its document exactly if it can be written, which is not quite what is asked
before a document is printed or saved: only the first fault is looked at.
-/

namespace Transducer

namespace Machine

/-- Reading the document of a machine that passes its check loses nothing, strictly or leniently. -/
theorem document_of_diagnose_ok {m : Machine} (h : m.diagnose = .ok) :
    ∃ n, ofTextStrict m.toText = .ok n ∧ n.states = m.states ∧ ofText m.toText = n ∧
      n.toText = m.toText ∧ n.checksum = m.checksum ∧ n.diagnose = .ok := by
  have hstrict := ofTextStrict_toText (writable_of_diagnose_ok h)
  exact ⟨m, hstrict, rfl, ofText_of_ofTextStrict hstrict, rfl, rfl, h⟩

/-- Two states with signs of the format in their tokens, and an emit token that is empty. -/
def crowded : Machine where
  states := [
    ⟨"S0".toList, .start,
      .emitting [⟨"a:b::c".toList, "S1".toList⟩, ⟨"[é".toList, "S0".toList⟩] ["x|y".toList, []]⟩,
    ⟨"S1".toList, .accept, .plain [⟨"]".toList, "S1".toList⟩]⟩]
  distinct := by decide

theorem document_of_crowded : crowded.diagnose = .ok ∧
    ∃ n, ofTextStrict crowded.toText = .ok n ∧ n.states = crowded.states ∧
      ofText crowded.toText = n ∧ n.toText = crowded.toText ∧
      n.checksum = crowded.checksum ∧ n.diagnose = .ok :=
  have h : crowded.diagnose = .ok := by decide
  ⟨h, document_of_diagnose_ok h⟩

/-- The document of the machine is neither printed nor saved, and the fault is told instead. -/
structure Withheld (m : Machine) : Prop where
  printed : ∀ p, Program.format p m false = ⟨Report.unwritable p m.diagnose, false⟩
  saved : ∀ (sh : Shell) (path : Word) (f : Folder), sh.machine = m → Path.isJson path = false →
    (sh.save path).runOn f =
      (.ok (Report.unwritable sh.palette m.diagnose ++ " (save as .json instead)", sh), f)

/-- The document of the machine is printed, and saved wherever a file can be written. -/
structure Exported (m : Machine) : Prop where
  printed : ∀ p, Program.format p m false = ⟨m.toText.text, true⟩
  saved : ∀ (sh : Shell) (path : Word) (f : Folder), sh.machine = m → Path.isJson path = false →
    (sh.save path).runOn f =
      match f.write path (m.toText ++ ['\n']) with
      | .error o => (.error (.unwritten o), f)
      | .ok g => (.ok (sh.palette.paint .green "Saved" ++
          s!" {m.size} states to {path.text} (checksum: {m.checksum.text})", sh), g)

theorem withheld_of_isUnwritable {m : Machine} (h : m.diagnose.isUnwritable = true) :
    m.Withheld where
  printed p := by simp [Program.format, h]
  saved := by
    intro sh path f hm hpath
    subst hm
    have htext : sh.machine.toFileText path = .error sh.machine.diagnose := by
      simp [toFileText, hpath, h]
    unfold Shell.save
    rw [htext]
    rfl

theorem exported_of_not_isUnwritable {m : Machine} (h : m.diagnose.isUnwritable = false) :
    m.Exported where
  printed p := by simp [Program.format, h]
  saved := by
    intro sh path f hm hpath
    subst hm
    have htext : sh.machine.toFileText path = .ok (sh.machine.toText ++ ['\n']) := by
      simp [toFileText, hpath, h]
    unfold Shell.save
    rw [htext]
    cases hwrite : f.write path (sh.machine.toText ++ ['\n']) with
    | error o => simp [Access.writeFile, Access.runOn, Folder.attempt, hwrite]
    | ok g =>
      simp [Access.writeFile, Access.runOn, Folder.attempt, hwrite, Shell.say, Shell.savedText]

/-- A document that is withheld would not read back as the machine. One that is exported does so
exactly if every state of the machine can be written. -/
theorem text_gate (m : Machine) :
    (m.diagnose.isUnwritable = true → m.Withheld ∧ (ofText m.toText).same m = false) ∧
    (m.diagnose.isUnwritable = false → m.Exported ∧
      ((∃ n, ofTextStrict m.toText = .ok n ∧ n.same m = true) ↔ m.Writable)) := by
  constructor
  · intro h
    have hsame := mt same_ofText_toText_iff.mp (not_writable_of_isUnwritable h)
    exact ⟨withheld_of_isUnwritable h, Bool.eq_false_iff.mpr hsame⟩
  · intro h
    exact ⟨exported_of_not_isUnwritable h, exists_ofTextStrict_toText_iff⟩

/-- A file of columns with a transition and no emit token for it. -/
def lopsided : Word :=
  "[\x7b\"label\":\"A\",\"input\":[\"x\"],\"conns\":[\"A\"],\"output\":[]\x7d]".toList

/-- Some machine of a file is exported and does not read back. -/
theorem exported_and_lost : ∃ m, ofJson lopsided = .ok m ∧ m.Exported ∧
    ¬ ∃ n, ofTextStrict m.toText = .ok n ∧ n.same m = true := by
  have hcolumns : Columns.parseAll? lopsided =
      some [⟨['A'], .ordinary, [['x']], [['A']], some []⟩] := by decide +kernel
  refine ⟨⟨[⟨['A'], .ordinary, .emitting [⟨['x'], ['A']⟩] []⟩], by decide⟩, ?_, ?_, ?_⟩
  · unfold ofJson
    rw [hcolumns]
    rfl
  · exact exported_of_not_isUnwritable (by decide)
  · rw [exists_ofTextStrict_toText_iff]
    decide

end Machine

end Transducer
