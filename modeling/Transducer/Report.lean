import Transducer.Checksum
import Transducer.Columns.Json
import Transducer.Palette
import Transducer.Session.Json
import Transducer.Shadow

/-!
What users read: the findings of a check, the result of a run, the state of a session between two
steps.
-/

namespace Transducer.Report

variable (p : Palette)

/-- The findings of a check, with the checksum of the machine and a warning for each shadowed
transition. -/
def check (m : Machine) : String :=
  let d := m.diagnose
  let heading := s!" {m.size} states (checksum: {m.checksum.text})\n  "
  let finding :=
    if d.isOk then p.paint .green "OK"
    else p.paint .red "FAILED" ++ s!" (code {d.number}): {d.message}"
  let warning (s : Shadow) : String := "\n  " ++ p.paint .yellow "warning" ++ s!": {s.message}"
  p.paint .bold "Machine" ++ heading ++ finding ++ String.join (m.shadows.map warning)

/-- What is said instead of running a machine that did not pass its check. -/
def refusal (d : Diagnosis) : String :=
  p.paint .red "Unable to execute" ++
    s!"\nCheck failed with code {d.number}\n>> \"{d.message}\""

/-- What is said instead of writing a machine as text that would not read back. -/
def unwritable (d : Diagnosis) : String :=
  p.paint .red "Not representable as text" ++ s!": {d.message}"

def labels (ls : List Word) : String := ",".intercalate (ls.map Word.text)

def outcome (o : Outcome) : String :=
  let accepted := if o.accepted then p.paint .green "true" else p.paint .red "false"
  let history := match o.history with
    | none => ""
    | some ls => s!"\n  History:     {labels ls}"
  s!"  Accepted:    {accepted}\n" ++
  s!"  Final:       {p.paint .yellow o.finalState.text}\n" ++
  s!"  Output:      \"{o.output.text}\"\n" ++
  s!"  Message:     {o.message}\n" ++
  s!"  Transitions: {o.transitions}" ++ history

/-- The state of a session between two steps. -/
def snapshot (s : Snapshot) : String :=
  let done := if s.done then " " ++ p.paint .dimmed "done:" ++ s!" {s.message}" else ""
  let history := match s.history with
    | none => ""
    | some ls => " " ++ p.paint .dimmed "history:" ++ s!" {labels ls}"
  let count := p.paint .cyan (toString s.transitions)
  let state := p.paint .yellow s.state.text
  s!"[{count}] {state} @{s.position} output \"{s.output.text}\"" ++ done ++ history

/-- The note in place of the steps that a limit cuts off. -/
def stopped (steps : Nat) : String :=
  p.paint .yellow "Stopped" ++ s!" after {steps} steps (run.max_steps)"

def error (message : String) : String := p.paint .red "Error" ++ s!": {message}"

end Transducer.Report
