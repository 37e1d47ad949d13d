import Transducer.Proofs.Document.RoundTrip
import Transducer.Proofs.Request
import Transducer.Proofs.Validity

/-!
Printing the machine of a file as text. Whatever is read from a document can be written, so no
document that is read is ever refused, and a document that was printed is printed again as it is.
-/

namespace Transducer

theorem Word.text_append_feed (w : Word) : (w ++ ['\n']).text = w.text ++ "\n" :=
  String.ofList_append

namespace Program

variable {p : Palette} {path : Word} {m : Machine} {f : Folder}

/-- Asked for the machine of a file as text, the program prints the text, ends well and leaves the
files alone. However it is asked, and whatever the settings and the lines of its input are, all that
counts is whether the file is to be read leniently. -/
def Prints (f : Folder) (path : Word) (lenient : Bool) (text : Word) : Prop :=
  ∀ p e arguments input file flag s,
    Demand.ofArguments arguments = .serve file (.format path false flag) →
    ((Settings.load e file).runOn f).1 = .ok s → (flag || s.run.lenient) = lenient →
    (execute p e arguments input).runOn f = (⟨0, text.text, "", none⟩, f)

theorem prints_of_load {lenient : Bool} (hm : (Machine.load path lenient).runOn f = (.ok m, f))
    (hw : m.Writable) : Prints f path lenient (m.toText ++ ['\n']) := by
  intro p e arguments input file flag s hd hs hlenient
  have hline := hw.isOfLine
  have hformat : format (allowed p s) m false = ⟨m.toText.text, true⟩ := by
    unfold format
    split
    · contradiction
    split
    · rename_i h
      rw [Diagnosis.isOfLine_of_isUnwritable h] at hline
      cases hline
    · rfl
  have hends : Ends f s (.format path false flag) fun p => format p m false :=
    ends_of_printout nofun fun p => runOn_withMachine (hlenient ▸ hm) rfl
  rw [hends p e arguments input file hd hs, Word.text_append_feed]
  simp only [hformat]
  rfl

end Program

namespace Machine

open Program

theorem ofFileText_eq_ok {m : Machine} {path t : Word} {lenient : Bool}
    (hpath : Path.isJson path = false) (h : ofFileText path lenient t = .ok m) : m = ofText t := by
  unfold ofFileText at h
  split at h
  · rename_i hjson
    rw [hpath] at hjson
    cases hjson
  split at h
  · cases h
    rfl
  · exact (ofText_of_ofTextStrict h).symm

/-- The file of a printed document is printed as it is. -/
theorem prints_printed {m : Machine} (hw : m.Writable) {f : Folder} {path : Word} (lenient : Bool)
    (hpath : Path.isJson path = false) (hread : f.read path = .ok (m.toText ++ ['\n'])) :
    Prints f path lenient (m.toText ++ ['\n']) := by
  have hstrict := ofTextStrict_toText_feed hw
  refine prints_of_load (load_eq_ok_iff.mpr ⟨rfl, _, hread, ?_⟩) hw
  cases lenient with
  | false => simpa [ofFileText, hpath] using hstrict
  | true => simpa [ofFileText, hpath] using ofText_of_ofTextStrict hstrict

/-- The machine of a document, read leniently or strictly, comes back from its own text with its
states in order, and its check finds no fault of the line format. So the machine of a document that
is loaded is always printed as text, and from a file that holds just what was printed, the same is
printed again. -/
theorem canonical_text (t : Word) :
    (∀ n, ofTextStrict t = .ok n → n = ofText t) ∧
    ofTextStrict (ofText t).toText = .ok (ofText t) ∧
    (∀ l w, (ofText t).diagnose ≠ .unbalanced l ∧ (ofText t).diagnose ≠ .invalidToken l w ∧
      (ofText t).diagnose ≠ .invalidLabel l) ∧
    ∀ f path lenient m, Path.isJson path = false → f.read path = .ok t →
      (load path lenient).runOn f = (.ok m, f) →
      m = ofText t ∧ Prints f path lenient (m.toText ++ ['\n']) ∧
      ∀ g again leniently, Path.isJson again = false → g.read again = .ok (m.toText ++ ['\n']) →
        Prints g again leniently (m.toText ++ ['\n']) := by
  have hw := writable_ofText t
  refine ⟨fun n hn => (ofText_of_ofTextStrict hn).symm, ofTextStrict_toText hw, ?_, ?_⟩
  · intro l w
    have hline := hw.isOfLine
    refine ⟨?_, ?_, ?_⟩ <;> intro hd <;> rw [hd] at hline <;> cases hline
  · intro f path lenient m hpath hread hload
    obtain ⟨-, u, hu, htext⟩ := load_eq_ok_iff.mp hload
    rw [hread] at hu
    cases hu
    obtain rfl := ofFileText_eq_ok hpath htext
    refine ⟨rfl, prints_of_load hload hw, ?_⟩
    intro g again leniently hagain hread'
    exact prints_printed hw leniently hagain hread'

/-- A document with a role in small letters, blanks left out, text behind the last clause of a line,
a line that is no state and a label twice. -/
def untidy : Word :=
  "[start]S0::S0:a,S1 :b rest\r\n\n?\nS0 :: S0: z\n[ACCEPT] S1 ::".toList

def untidyFolder : Folder := ⟨[([['m']], .file (.text untidy))]⟩

theorem untidy_printed : (ofText untidy).diagnose = .noTransitions ['S', '1'] ∧
    (Program.execute .monochrome (.ofNames fun _ => none) ["fmt".toList, "--lenient".toList, ['m']]
      []).runOn untidyFolder =
        (⟨0, "[START] S0 :: S0: a, S1: b\n[ACCEPT] S1 ::\n", "", none⟩, untidyFolder) := by
  have hload : (load ['m'] true).runOn untidyFolder = (.ok (ofText untidy), untidyFolder) :=
    load_eq_ok_iff.mpr ⟨rfl, untidy, rfl, rfl⟩
  obtain ⟨-, -, -, hfile⟩ := canonical_text untidy
  obtain ⟨-, hprints, -⟩ := hfile untidyFolder ['m'] true (ofText untidy) (by decide) rfl hload
  have htext : (ofText untidy).toText = "[START] S0 :: S0: a, S1: b\n[ACCEPT] S1 ::".toList := by
    decide +kernel
  rw [hprints .monochrome (.ofNames fun _ => none) _ [] none true _ rfl rfl rfl, htext]
  exact ⟨by decide +kernel, rfl⟩

end Machine

end Transducer
