import Transducer.Report
import Transducer.Shell.Command
import Transducer.Shell.Help
import Transducer.Store
import Transducer.Typing

/-!
The shell: a machine that is edited, checked and run line by line. While it steps through a run,
lines are step commands until the run is at its end or is left.

A line is answered in two stages. The first finds what the task gives, or why it fails; a failure
leaves the shell as it was. The second says so.
-/

namespace Transducer

structure Shell where
  machine : Machine
  settings : Settings
  palette : Palette
  /-- The run that is being stepped through. -/
  session : Option Session

namespace Shell

/-- A shell with no machine in it yet. -/
def start (s : Settings) (p : Palette) : Shell where
  machine := .empty
  settings := s
  palette := p
  session := none

/-- The shell after a line and what it says. Without a shell, the user has left. -/
structure Reply where
  text : String
  shell : Option Shell

/-- The answer to a line, with an empty line after it. -/
def block (text : String) : String := text ++ "\n\n"

/-- What a task gives: a text and the shell it leaves. -/
abbrev Effect := Access (Except Failure (String × Shell))

def say (sh : Shell) (text : String) : Effect := return .ok (text, sh)

def fail (f : Failure) : Effect := return .error f

def load (sh : Shell) (path : Word) : Effect := do
  match ← Machine.load path sh.settings.run.lenient with
  | .error f => return .error f
  | .ok m =>
    let text := sh.palette.paint .green "Loaded" ++ s!" {m.size} states from {path.text}"
    return .ok (text, { sh with machine := m })

/-- What is said of a machine that was saved. -/
def savedText (sh : Shell) (path : Word) : String :=
  sh.palette.paint .green "Saved" ++
    s!" {sh.machine.size} states to {path.text} (checksum: {sh.machine.checksum.text})"

def save (sh : Shell) (path : Word) : Effect := do
  match sh.machine.toFileText path with
  | .error d => sh.say (Report.unwritable sh.palette d ++ " (save as .json instead)")
  | .ok text =>
    match ← Access.writeFile path text with
    | .error o => return .error (.unwritten o)
    | .ok () => sh.say (sh.savedText path)

def add (sh : Shell) (line : Word) : Effect :=
  match sh.machine.addLine line with
  | .error f => fail (.fault f)
  | .ok m =>
    let label := m.labels.getLast?.getD []
    let text := sh.palette.paint .green "Added" ++ " " ++ sh.palette.paint .cyan label.text
    return .ok (text, { sh with machine := m })

def remove (sh : Shell) (label : Word) : Effect :=
  match sh.machine.remove label with
  | none => sh.say (sh.palette.paint .yellow s!"No state {label.text}")
  | some (s, m) =>
    let text := sh.palette.paint .green "Removed" ++ " " ++ sh.palette.paint .cyan s.label.text
    return .ok (text, { sh with machine := m })

def listing (sh : Shell) : String :=
  if sh.machine.isEmpty then sh.palette.paint .yellow "No states" else sh.machine.toText.text

def run (sh : Shell) (input : Word) : Effect :=
  if sh.machine.diagnose.isOk then
    match sh.machine.execute input sh.settings.run.history with
    | .error f => fail (.fault f)
    | .ok o => sh.say (Report.outcome sh.palette o)
  else sh.say (Report.refusal sh.palette sh.machine.diagnose)

def history (sh : Shell) (on : Option Bool) : Effect :=
  match on with
  | none =>
    let current := if sh.settings.run.history then "on" else "off"
    sh.say s!"Usage: history on|off (currently {current})"
  | some b =>
    let settings := { sh.settings with run := { sh.settings.run with history := b } }
    return .ok (if b then "History on" else "History off", { sh with settings := settings })

def saveSettings (sh : Shell) (path : Word) : Effect := do
  match ← sh.settings.save path with
  | .error f => return .error (.settings f)
  | .ok () => sh.say (sh.palette.paint .green "Saved" ++ s!" settings to {path.text}")

/-- What a task gives. -/
def perform (sh : Shell) : Task → Effect
  | .load path => sh.load path
  | .save path => sh.save path
  | .add line => sh.add line
  | .remove label => sh.remove label
  | .run input => sh.run input
  | .history on => sh.history on
  | .saveSettings path => sh.saveSettings path
  | .help => sh.say helpText
  | .show => sh.say sh.listing
  | .check => sh.say (Report.check sh.palette sh.machine)
  | .settings => sh.say sh.settings.toText.text
  | .usage text => sh.say text
  | .unknown name => sh.say s!"Unknown command: {name.text}. Type 'help' for help."

def beginStepping (sh : Shell) (input : Word) : Reply :=
  if sh.machine.diagnose.isOk then
    match sh.machine.session input sh.settings.run.history with
    | .error f => ⟨block (Report.error sh.palette f.message), some sh⟩
    | .ok s =>
      ⟨sh.palette.paint .dimmed "Stepping: <enter>/next, finish, stop" ++ "\n" ++
        Report.snapshot sh.palette s.snapshot ++ "\n", some { sh with session := some s }⟩
  else ⟨block (Report.refusal sh.palette sh.machine.diagnose), some sh⟩

/-- Leaves off stepping and says something. -/
def leaveStepping (sh : Shell) (text : String) : Reply :=
  ⟨block text, some { sh with session := none }⟩

/-- What is said of a run that has been stepped to its end. -/
def verdict (sh : Shell) (s : Session) : String :=
  let label := sh.palette.paint .yellow s.state.label.text
  if s.accepted then sh.palette.paint .green "Accepted" ++ s!" in {label}"
  else sh.palette.paint .red "Rejected" ++ s!" in {label}: {s.snapshot.message}"

/-- What is said of a run that is left before its end. -/
def stoppedText (sh : Shell) : String := sh.palette.paint .dimmed "Stopped"

/-- Takes a step, and leaves off if it was the last. -/
def stepOnce (sh : Shell) (s : Session) : Reply :=
  match s.step with
  | (.error f, _) => sh.leaveStepping (Report.error sh.palette f.message)
  | (.ok _, t) =>
    let text := Report.snapshot sh.palette t.snapshot ++ "\n"
    if t.isDone then
      let reply := sh.leaveStepping (sh.verdict t)
      { reply with text := text ++ reply.text }
    else ⟨text, some { sh with session := some t }⟩

/-- Answers a line while stepping through a run. -/
def stepping (sh : Shell) (s : Session) : StepCommand → Reply
  | .next => sh.stepOnce s
  | .finish =>
    match s.finish with
    | .error f => sh.leaveStepping (Report.error sh.palette f.message)
    | .ok o => sh.leaveStepping (Report.outcome sh.palette o)
  | .stop => sh.leaveStepping sh.stoppedText
  | .unknown name => ⟨s!"Unknown step command: {name.text}\n", some sh⟩

def obey (sh : Shell) : Command → Access Reply
  | .quit => return ⟨"", none⟩
  | .step input => return sh.beginStepping input
  | .task t => do
    match ← sh.perform t with
    | .error f => return ⟨block (Report.error sh.palette f.message), some sh⟩
    | .ok (text, after) => return ⟨block text, some after⟩

/-- Answers a line. A blank line is answered only while stepping. -/
def answer (sh : Shell) (line : Word) : Access Reply :=
  match sh.session with
  | some s => return sh.stepping s (.ofLine line)
  | none => if line.isBlank then return ⟨"", some sh⟩ else sh.obey (.ofLine line)

/-- Answers a line as it is typed. -/
def answerTyped (sh : Shell) (line : Word) : Access Reply := sh.answer line.typed

/-- What is said at the end of the lines. -/
def farewell (sh : Shell) : String :=
  match sh.session with
  | some _ => block sh.stoppedText ++ "^D\n"
  | none => "^D\n"

/-- Answers typed lines up to the one with which the user leaves, or to their end. -/
def converse (sh : Shell) : List Word → Access String
  | [] => return sh.farewell
  | l :: ls => do
    let reply ← sh.answerTyped l
    match reply.shell with
    | none => return reply.text
    | some next => return reply.text ++ (← next.converse ls)

end Shell

end Transducer
