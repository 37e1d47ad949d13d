import Transducer.Access
import Transducer.Settings.File

/-!
Loading and saving settings. The file is the one that is asked for, or else the one that the
environment names; the variables of the environment have the last word.
-/

namespace Transducer

/-- Why settings could not be loaded or saved. -/
inductive SettingsFault where
  | inaccessible (path : Word) (obstacle : Obstacle)
  | malformed (path : Word)
  deriving DecidableEq, Repr

def SettingsFault.message : SettingsFault → String
  | inaccessible p o => s!"failed to read config file '{p.text}': {o.message}"
  | malformed p => s!"failed to parse config file '{p.text}':"

namespace Settings

def ofFile (y : Yaml.Dialect) (e : Environment) (path : Word) :
    Access (Except SettingsFault Settings) := do
  match ← Access.readFile path with
  | .error o => return .error (.inaccessible path o)
  | .ok text =>
    match ofTextIn? y e.defaults text with
    | none => return .error (.malformed path)
    | some s => return .ok s

def loadIn (y : Yaml.Dialect) (e : Environment) (path : Option Word) :
    Access (Except SettingsFault Settings) := do
  match path <|> e.settingsFile with
  | none => return .ok (e.override e.defaults)
  | some path => return (← ofFile y e path).map e.override

def load (e : Environment) (path : Option Word) : Access (Except SettingsFault Settings) :=
  loadIn .basic e path

def saveIn (y : Yaml.Dialect) (s : Settings) (path : Word) :
    Access (Except SettingsFault Unit) := do
  return (← Access.writeFile path (s.toTextIn y)).mapError (.inaccessible path)

def save (s : Settings) (path : Word) : Access (Except SettingsFault Unit) := s.saveIn .basic path

end Settings

end Transducer
