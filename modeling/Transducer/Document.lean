import Transducer.Machine
import Transducer.Line.Parser
import Transducer.Line.Printer

/-!
Documents: machines as text, a state on each line. Blank lines do not count. A document is read
leniently, passing over lines that are no states and labels that are taken, or strictly, up to the
first such line.
-/

namespace Transducer

namespace Document

/-- The lines that are not blank, with their numbers from `first` on. -/
def numbered (first : Nat) : List Word → List (Nat × Word)
  | [] => []
  | l :: ls => if l.isBlank then numbered (first + 1) ls else (first, l) :: numbered (first + 1) ls

/-- The lines of a text that are not blank, numbered from one. -/
def entries (text : Word) : List (Nat × Word) := numbered 1 text.lines

end Document

namespace Machine

def addLine (m : Machine) (line : Word) : Except Fault Machine :=
  match State.parse line with
  | .error offset => .error (.parse 1 offset)
  | .ok s => m.add s

/-- Adds the state of a line if the line is one and its label is free. -/
def addIfPossible (m : Machine) (line : Word) : Machine :=
  match State.parse line with
  | .error _ => m
  | .ok s =>
    match m.add s with
    | .error _ => m
    | .ok n => n

def addEntry (m : Machine) (entry : Nat × Word) : Except Fault Machine :=
  match State.parse entry.2 with
  | .error offset => .error (.parse entry.1 offset)
  | .ok s =>
    match m.add s with
    | .error _ => .error (.duplicateLine s.label entry.1)
    | .ok n => .ok n

def ofText (text : Word) : Machine :=
  (Document.entries text).foldl (fun m e => m.addIfPossible e.2) empty

/-- Adds lines of a document up to the first that is bad. -/
def addEntries (m : Machine) : List (Nat × Word) → Except Fault Machine
  | [] => .ok m
  | e :: es => (m.addEntry e).bind (·.addEntries es)

def ofTextStrict (text : Word) : Except Fault Machine := empty.addEntries (Document.entries text)

def toText (m : Machine) : Word := Word.join ['\n'] (m.states.map State.line)

end Machine

end Transducer
