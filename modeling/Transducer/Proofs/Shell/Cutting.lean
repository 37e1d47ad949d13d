import Transducer.Proofs.Line.Scanner
import Transducer.Proofs.Request
import Transducer.Proofs.Session.Safety
import Transducer.Proofs.Shell.Layout
import Transducer.Proofs.Shell.Lines

/-!
Lines of the shell cut by bytes. Such a line is cut twice by different means: into its words, and
behind as many bytes as the first word has before it is put into small letters. Both find the same
boundary, whatever the blanks are, so the argument of a command is all that follows its word, and
nothing else.
-/

namespace Transducer

open Word

/-- What is behind a byte position, without the blanks around it, if the position is in the word and
not inside a character. -/
def Word.behindByte? (w : Word) (n : Nat) : Option Word :=
  (w.splitAtByte? n).map fun (_, r) => r.trim

/-- A line that is taken apart. -/
structure Parts where
  /-- The first word, as it stands in the line. -/
  name : Word
  /-- The other words. -/
  arguments : List Word
  /-- The text behind the first word. -/
  rest : Word
  deriving DecidableEq, Repr

namespace Parts

/-- Takes a line apart. The text behind the first word is found by the number of its bytes. There are
no parts if there is no word, nor if the bytes ended outside of the line or inside a character. -/
def ofLine? (line : Word) : Option Parts :=
  match line.words with
  | [] => none
  | name :: arguments =>
    (line.trimStart.behindByte? name.bytes).map fun rest => ⟨name, arguments, rest⟩

/-- The task on the settings. The words tell what to do, and the path is found by bytes again. -/
def settings? (p : Parts) : Option Task :=
  match p.arguments with
  | [] => some .settings
  | w :: ws =>
    if w ≠ "save".toList then some (.usage "Usage: config [save <file>]")
    else if ws.isEmpty then some (.usage "Usage: config save <file>")
    else (p.rest.behindByte? (bytes "save".toList)).map .saveSettings

end Parts

namespace Command

variable {line name argument : Word}

namespace Layout

/-- The bytes of the first word end at its boundary. -/
theorem behindByte? (h : Layout line name argument) :
    line.trimStart.behindByte? name.bytes = some argument := by
  obtain ⟨r, hr, -, hargument, -⟩ := h.exists_behind
  rw [Word.behindByte?, hr, splitAtByte?_append]
  exact congrArg some hargument

theorem trim_drop (h : Layout line name argument) :
    Word.trim (line.trimStart.drop name.length) = argument := by
  obtain ⟨r, hr, -, hargument, -⟩ := h.exists_behind
  rw [hr, List.drop_left, hargument]

theorem ofLine?_eq (h : Layout line name argument) :
    Parts.ofLine? line = some ⟨name, argument.words, argument⟩ := by
  rw [Parts.ofLine?, h.words_eq]
  simp only [h.behindByte?, Option.map_some]

end Layout

/-- An argument that has a first word is laid out as this word and the text behind it. Where the word
ends can be told by its bytes and by its characters. -/
theorem exists_behind_first {w : Word} {ws : List Word} (h : argument.Trimmed)
    (hwords : argument.words = w :: ws) : ∃ path, Layout argument w path ∧ path.words = ws ∧
      argument.behindByte? w.bytes = some path ∧ Word.trim (argument.drop w.length) = path := by
  obtain ⟨path, hlayout, hpath⟩ := layout_of_words hwords
  have hbehind := hlayout.behindByte?
  have hdrop := hlayout.trim_drop
  rw [trimStart_of_stops h.front] at hbehind hdrop
  exact ⟨path, hlayout, hpath, hbehind, hdrop⟩

/-- The path that is found by bytes is the one behind the first word. -/
theorem settings?_eq (name : Word) (h : argument.Trimmed) :
    Parts.settings? ⟨name, argument.words, argument⟩ = some (.ofSettings argument) := by
  unfold Parts.settings? Task.ofSettings
  cases hwords : argument.words with
  | nil => rfl
  | cons w ws =>
    by_cases hw : w = "save".toList
    · subst hw
      obtain ⟨path, -, -, hbehind, hdrop⟩ := exists_behind_first h hwords
      cases ws with
      | nil => rfl
      | cons v ws =>
        change (argument.behindByte? (bytes "save".toList)).map Task.saveSettings =
          some (.saveSettings (Word.trim (argument.drop "save".toList.length)))
        rw [hbehind, hdrop]
        rfl
    · simp only [if_pos hw]

/-- A line that is not blank can be taken apart. -/
theorem exists_parts (h : line.isBlank = false) : ∃ p, Parts.ofLine? line = some p ∧
    Layout line p.name p.rest ∧ p.rest.words = p.arguments := by
  obtain ⟨name, argument, hlayout⟩ := exists_layout h
  exact ⟨_, hlayout.ofLine?_eq, hlayout, rfl⟩

end Command

namespace Shell

variable {sh : Shell}

/-- A run in the shell says what is printed by a run on the command line, whether the machine passes
its check or not. -/
theorem exists_run (sh : Shell) (input : Word) : ∃ o : Palette → Printout,
    (∀ p, Program.run p sh.machine input sh.settings.run.history false = .ok (o p)) ∧
      sh.run input = sh.say (o sh.palette).text := by
  by_cases hd : sh.machine.diagnose = .ok
  · obtain ⟨o, ho⟩ := Machine.execute_of_diagnose_ok hd input sh.settings.run.history
    refine ⟨fun p => ⟨Report.outcome p o, o.accepted⟩, fun p => Program.run_of_execute hd ho, ?_⟩
    simp [run, hd, ho]
  · refine ⟨fun p => ⟨Report.refusal p sh.machine.diagnose, false⟩,
      fun p => Program.whenSound_of_not_ok hd, ?_⟩
    simp [run, hd]

theorem runOn_answer_of_run {line input : Word} {text : String} (hsession : sh.session = none)
    (hline : Command.ofLine line = .task (.run input)) (h : sh.run input = sh.say text)
    (f : Folder) : (sh.answer line).runOn f = (⟨block text, some sh⟩, f) := by
  rw [answer_eq_obey hsession hline nofun]
  simp [obey, perform, h, say]

/-- A line with a word in it is cut without loss. The bytes behind which it is cut end at the word,
whatever the word is in small letters; the argument that is left has no blanks around it, is a piece
of the line as it stands there, and has the other words of the line as its words. The same holds of
the argument of a command that writes the settings. So an argument comes out as it was put between
blanks, and a run in the shell says what the command line prints for the machine, if it finds it in a
file, and for the same recording. -/
theorem lines_are_cut_without_loss :
    (∀ line : Word, line.isBlank = false → ∃ p, Parts.ofLine? line = some p ∧
      line.words = p.name :: p.arguments ∧ p.rest.words = p.arguments ∧
      Command.Layout line p.name p.rest ∧
      Command.ofLine line = .ofName p.name.lowercase p.rest ∧
      p.settings? = some (.ofSettings p.rest) ∧
      ∀ ws, p.arguments = "save".toList :: ws → ∃ path,
        p.rest.behindByte? (bytes "save".toList) = some path ∧ path.words = ws ∧
        Command.Layout p.rest "save".toList path) ∧
    (∀ line name argument, Command.Layout line name argument →
      Parts.ofLine? line = some ⟨name, argument.words, argument⟩ ∧
      Command.ofLine line = .ofName name.lowercase argument) ∧
    ∀ (sh : Shell) line name input, sh.session = none → Command.Layout line name input →
      name.lowercase ∈ ["run".toList, "r".toList] → ∃ o : Palette → Printout,
        (∀ p, Program.run p sh.machine input sh.settings.run.history false = .ok (o p)) ∧
        (∀ f, (sh.answer line).runOn f = (⟨block (o sh.palette).text, some sh⟩, f)) ∧
        ∀ f path s (options : RunOptions),
          (Machine.load path (options.lenient || s.run.lenient)).runOn f = (.ok sh.machine, f) →
          options.json = false → (options.history || s.run.history) = sh.settings.run.history →
          Program.Ends f s (.run path input options) o := by
  refine ⟨?_, fun line name argument h => ⟨h.ofLine?_eq, h.ofLine_eq⟩, ?_⟩
  · intro line hline
    obtain ⟨p, hp, hlayout, hwords⟩ := Command.exists_parts hline
    have hsettings : p.settings? = some (.ofSettings p.rest) := by
      rw [← Command.settings?_eq p.name hlayout.trimmed, hwords]
    refine ⟨p, hp, hwords ▸ hlayout.words_eq, hwords, hlayout, hlayout.ofLine_eq, hsettings, ?_⟩
    intro ws hws
    obtain ⟨path, hpath, hrest, hbehind, -⟩ :=
      Command.exists_behind_first hlayout.trimmed (hwords.trans hws)
    exact ⟨path, hbehind, hrest, hpath⟩
  · intro sh line name input hsession hlayout hname
    obtain ⟨o, ho, hrun⟩ := sh.exists_run input
    have hline : Command.ofLine line = .task (.run input) := by
      rw [hlayout.ofLine_eq]
      simp only [List.mem_cons, List.not_mem_nil, or_false] at hname
      obtain hname | hname := hname <;> rw [hname] <;> rfl
    refine ⟨o, ho, runOn_answer_of_run hsession hline hrun, ?_⟩
    intro f path s options hload hjson hhistory
    refine Program.ends_of_printout nofun fun p => Program.runOn_withMachine hload ?_
    rw [hjson, hhistory]
    exact ho p

/-- Three kinds of blanks around the command and its input, and two spaces in the input. -/
def wideRun : Word := "\u3000RUN\u2003\t ab  a\u00a0".toList

def strandedText : String :=
  "  Accepted:    false\n  Final:       S\n  Output:      \"xy\"\n" ++
    "  Message:     No inputs from string \"  a\" matching [\"a\"]\n  Transitions: 2"

theorem pendulum_stranded : Command.Layout wideRun "RUN".toList "ab  a".toList ∧
    (turningShell.answer wideRun).runOn .empty =
      (⟨strandedText ++ "\n\n", some turningShell⟩, .empty) ∧
    (Program.execute .monochrome (.ofNames fun _ => none)
      (["run", "m", "ab  a", "--lenient"].map String.toList) []).runOn Machine.turningFolder =
        (⟨1, strandedText ++ "\n", "", none⟩, Machine.turningFolder) := by
  have hlayout : Command.Layout wideRun "RUN".toList "ab  a".toList := by
    refine ⟨⟨by decide, by decide⟩, ⟨stops_cons.mpr (by decide), stops_cons.mpr (by decide)⟩,
      "\u3000".toList, "\u2003\t ".toList, "\u00a0".toList, ?_⟩
    decide
  obtain ⟨-, -, hrun⟩ := lines_are_cut_without_loss
  obtain ⟨o, ho, hanswer, hends⟩ :=
    hrun turningShell wideRun _ _ rfl hlayout (by decide +kernel)
  have hprinted : Program.run .monochrome (.ofText Machine.turning) "ab  a".toList false false =
      .ok ⟨strandedText, false⟩ := by decide +kernel
  have htext : o .monochrome = ⟨strandedText, false⟩ :=
    Except.ok.inj ((ho .monochrome).symm.trans hprinted)
  have hload : (Machine.load ['m'] true).runOn Machine.turningFolder =
      (.ok (.ofText Machine.turning), Machine.turningFolder) :=
    Machine.load_eq_ok_iff.mpr ⟨rfl, Machine.turning, rfl, rfl⟩
  have hprogram := hends Machine.turningFolder ['m'] _ ⟨false, false, true⟩ hload rfl rfl .monochrome
    (.ofNames fun _ => none) (["run", "m", "ab  a", "--lenient"].map String.toList) [] none rfl rfl
  refine ⟨hlayout, ?_, ?_⟩
  · rw [hanswer, show o turningShell.palette = _ from htext]
    rfl
  · rw [Program.allowed, ite_self, htext] at hprogram
    exact hprogram

end Shell

end Transducer
