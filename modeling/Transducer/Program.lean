import Transducer.Request
import Transducer.Session.Trace
import Transducer.Shell

/-!
The program: what it prints and how it ends, given its arguments, its environment, the files and the
lines of its input. Nothing is printed while a request is carried out; the shell alone answers line
by line.
-/

namespace Transducer

/-- What a request prints, and whether that is a success. -/
structure Printout where
  text : String
  success : Bool
  deriving DecidableEq, Repr

/-- The end of the program. -/
structure Ending where
  exit : Nat
  out : String
  err : String
  /-- The failure that ended the program before it could report it. -/
  failure : Option String
  deriving DecidableEq, Repr

namespace Program

def versionText : String := "mealy 0.1.0\n"

def banner : String := "mealy shell"

def invitation : String := "Type 'help' for available commands.\n\n"

/-- Runs a machine that passes its check. -/
def whenSound (p : Palette) (m : Machine) (k : Except Fault Printout) : Except Fault Printout :=
  if m.diagnose.isOk then k else .ok ⟨Report.refusal p m.diagnose, false⟩

def check (p : Palette) (m : Machine) : Printout := ⟨Report.check p m, m.diagnose.isOk⟩

/-- The result of a run, for readers or as data. -/
def outcomeText (p : Palette) (json : Bool) (o : Outcome) : String :=
  if json then (o.toJson.pretty 0).text else Report.outcome p o

def run (p : Palette) (m : Machine) (input : Word) (history json : Bool) : Except Fault Printout :=
  whenSound p m <|
    (m.execute input history).map fun o => ⟨outcomeText p json o, o.accepted⟩

/-- A snapshot, for readers or as data. -/
def snapshotText (p : Palette) (json : Bool) (s : Snapshot) : String :=
  if json then s.toJson.compact.text else Report.snapshot p s

/-- The snapshots of a trace, one on a line, and a note if they were cut off. -/
def traceText (p : Palette) (json : Bool) (t : Trace) : String :=
  "\n".intercalate <|
    t.snapshots.map (snapshotText p json) ++ (t.cutAfter.map (Report.stopped p)).toList

def step (p : Palette) (r : RunSettings) (m : Machine) (input : Word) (history json : Bool) :
    Except Fault Printout :=
  whenSound p m do
    let s ← m.session input history
    let t ← s.trace r.limitReached
    return ⟨traceText p json t, t.last.accepted⟩

def format (p : Palette) (m : Machine) (json : Bool) : Printout :=
  if json then ⟨m.toJson.text, true⟩
  else if m.diagnose.isUnwritable then ⟨Report.unwritable p m.diagnose, false⟩
  else ⟨m.toText.text, true⟩

def withMachine (path : Word) (lenient : Bool) (k : Machine → Except Fault Printout) :
    Access (Except Failure Printout) := do
  match ← Machine.load path lenient with
  | .error f => return .error f
  | .ok m => return (k m).mapError .fault

/-- What a request prints, if it is not for the shell. -/
def printout (p : Palette) (s : Settings) : Request → Access (Except Failure Printout)
  | .shell _ => return .ok ⟨"", true⟩
  | .check path lenient => withMachine path (lenient || s.run.lenient) fun m => .ok (check p m)
  | .run path input o =>
    withMachine path (o.lenient || s.run.lenient) fun m =>
      run p m input (o.history || s.run.history) o.json
  | .step path input o =>
    withMachine path (o.lenient || s.run.lenient) fun m =>
      step p s.run m input (o.history || s.run.history) o.json
  | .format path json lenient =>
    withMachine path (lenient || s.run.lenient) fun m => .ok (format p m json)

def failed (p : Palette) (message : String) : Ending :=
  ⟨1, "", Report.error p message ++ "\n", none⟩

/-- The end after a request that was carried out or not. -/
def ending (p : Palette) : Except Failure Printout → Ending
  | .error f => failed p f.message
  | .ok o => ⟨if o.success then 0 else 1, o.text ++ "\n", "", none⟩

/-- The shell as it begins, and what it says first. -/
structure Opening where
  text : String
  shell : Except Failure Shell

def opening (p : Palette) (s : Settings) (machine : Option Word) : Access Opening := do
  let hello := p.paint .boldCyan banner ++ "\n"
  let shell := Shell.start s p
  match machine with
  | none => return ⟨hello ++ invitation, .ok shell⟩
  | some path =>
    match ← Machine.load path s.run.lenient with
    | .error f => return ⟨hello, .error f⟩
    | .ok m =>
      let loaded := s!"Loaded {m.size} states from {path.text}\n"
      return ⟨hello ++ loaded ++ invitation, .ok { shell with machine := m }⟩

/-- The program is at its end, or goes on as a shell. -/
inductive Course where
  | ended (e : Ending)
  | shell (opening : Opening)

def allowed (p : Palette) (s : Settings) : Palette := if s.shell.color then p else .monochrome

def serve (p : Palette) (s : Settings) : Request → Access Course
  | .shell machine => return .shell (← opening p s machine)
  | r => return .ended (ending p (← printout p s r))

/-- Does what the arguments ask for, up to the first line of a shell. -/
def start (p : Palette) (e : Environment) (arguments : List Word) : Access Course :=
  match Demand.ofArguments arguments with
  | .version => return .ended ⟨0, versionText, "", none⟩
  | .help => return .ended ⟨0, "", "", none⟩
  | .misuse => return .ended ⟨2, "", "", none⟩
  | .serve path request => do
    match ← Settings.load e path with
    | .error f => return .ended (failed p f.message)
    | .ok s => serve (allowed p s) s request

/-- The whole program on given lines of input. -/
def execute (p : Palette) (e : Environment) (arguments : List Word) (input : List Word) :
    Access Ending := do
  match ← start p e arguments with
  | .ended e => return e
  | .shell ⟨text, .error f⟩ => return ⟨1, text, "", some f.message⟩
  | .shell ⟨text, .ok shell⟩ => return ⟨0, text ++ (← shell.converse input), "", none⟩

end Program

end Transducer
