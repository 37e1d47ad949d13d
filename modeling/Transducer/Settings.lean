import Transducer.Settings.Numeral
import Transducer.Word.Lowercase

/-!
Settings of the program. Each has a default, may be set in a file, and may be overridden by a
variable of the environment.
-/

namespace Transducer

/-- How machines are read and run. -/
structure RunSettings where
  /-- Record the states visited. -/
  history : Bool
  /-- Pass over lines that are no states. -/
  lenient : Bool
  /-- The number of steps shown at most; zero means no limit. -/
  maxSteps : Nat
  deriving DecidableEq, Repr

/-- How the shell looks. -/
structure ShellSettings where
  /-- Where lines typed before are kept. -/
  historyFile : Word
  color : Bool
  deriving DecidableEq, Repr

structure Settings where
  run : RunSettings
  shell : ShellSettings
  deriving DecidableEq, Repr

/-- So many steps are as many as may be shown. -/
def RunSettings.limitReached (r : RunSettings) (steps : Nat) : Bool :=
  r.maxSteps != 0 && r.maxSteps ≤ steps

/-- The variables of the environment that the program looks at, as far as they are set. -/
structure Environment where
  settingsFile : Option Word
  history : Option Word
  lenient : Option Word
  maxSteps : Option Word
  historyFile : Option Word
  color : Option Word
  home : Option Word
  deriving DecidableEq, Repr

namespace Environment

def names : List String :=
  ["MEALY_CONFIG", "MEALY_HISTORY", "MEALY_LENIENT", "MEALY_MAX_STEPS", "MEALY_REPL_HISTORY",
    "MEALY_COLOR", "HOME"]

/-- The variables of an environment given by name. -/
def ofNames (get : String → Option Word) : Environment where
  settingsFile := get "MEALY_CONFIG"
  history := get "MEALY_HISTORY"
  lenient := get "MEALY_LENIENT"
  maxSteps := get "MEALY_MAX_STEPS"
  historyFile := get "MEALY_REPL_HISTORY"
  color := get "MEALY_COLOR"
  home := get "HOME"

/-- A flag is up if it is one or true, in any case; everything else lowers it. -/
def isUp (value : Word) : Bool := value == ['1'] || value.lowercase == "true".toList

/-- A variable that holds a flag decides it. -/
def flag (value? : Option Word) (unset : Bool) : Bool := (value?.map isUp).getD unset

def overrideRun (e : Environment) (r : RunSettings) : RunSettings where
  history := flag e.history r.history
  lenient := flag e.lenient r.lenient
  maxSteps := (e.maxSteps.bind Numeral.decimal?).getD r.maxSteps

def overrideShell (e : Environment) (s : ShellSettings) : ShellSettings where
  historyFile := e.historyFile.getD s.historyFile
  color := flag e.color s.color

/-- Lets the variables that are set decide. A number of steps that cannot be read decides nothing.
-/
def override (e : Environment) (s : Settings) : Settings :=
  ⟨e.overrideRun s.run, e.overrideShell s.shell⟩

/-- A file in the home folder, or in this one if there is no home. -/
def inHome (e : Environment) (name : Word) : Word :=
  match e.home with
  | none => name
  | some home =>
    if home.isEmpty || home.getLast? == some '/' then home ++ name else home ++ '/' :: name

def defaults (e : Environment) : Settings where
  run := { history := false, lenient := false, maxSteps := 0 }
  shell := { historyFile := e.inHome ".mealy_history".toList, color := true }

end Environment

end Transducer
