import Transducer.Access
import Transducer.Columns.Json
import Transducer.Document
import Transducer.Settings.Load
import Transducer.Validity

/-!
Machines in files. A file whose name ends in `.json` holds columns, any other a document.
-/

namespace Transducer

/-- Why a command could not do its work. -/
inductive Failure where
  | unreadable (path : Word) (obstacle : Obstacle)
  | unwritten (obstacle : Obstacle)
  /-- A file does not hold a machine. -/
  | faulty (path : Word) (fault : Fault)
  | fault (fault : Fault)
  | settings (fault : SettingsFault)
  deriving DecidableEq, Repr

def Failure.message : Failure → String
  | unreadable p o => s!"failed to read '{p.text}': {o.message}"
  | unwritten o => o.message
  | faulty p f => s!"{p.text}: {f.message}"
  | fault f => f.message
  | settings f => f.message

namespace Machine

/-- Reads a machine from the text of a file. -/
def ofFileText (path : Word) (lenient : Bool) (text : Word) : Except Fault Machine :=
  if Path.isJson path then ofJson text
  else if lenient then .ok (ofText text)
  else ofTextStrict text

def load (path : Word) (lenient : Bool) : Access (Except Failure Machine) := do
  match ← Access.readFile path with
  | .error o => return .error (.unreadable path o)
  | .ok text => return (ofFileText path lenient text).mapError (.faulty path)

/-- The text of the file for a machine, unless a document would not read back as the machine. -/
def toFileText (m : Machine) (path : Word) : Except Diagnosis Word :=
  if Path.isJson path then .ok m.toJson
  else if m.diagnose.isUnwritable then .error m.diagnose
  else .ok (m.toText ++ ['\n'])

end Machine

end Transducer
