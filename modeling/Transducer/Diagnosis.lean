import Transducer.Word

/-!
What a check of a machine finds: nothing, or its first structural fault.
-/

namespace Transducer

inductive Diagnosis where
  | ok
  | noStart
  | multipleStart (state : Word)
  | noAccept
  | unknownTarget (state target : Word)
  | unbalanced (state : Word)
  | noTransitions (state : Word)
  | invalidToken (state token : Word)
  | invalidLabel (state : Word)
  deriving DecidableEq, Repr

namespace Diagnosis

def isOk : Diagnosis → Bool
  | ok => true
  | _ => false

@[simp] theorem isOk_iff {d : Diagnosis} : d.isOk = true ↔ d = .ok := by
  cases d <;> simp [isOk]

/-- The number users see. -/
def number : Diagnosis → Nat
  | ok => 0
  | noStart => 1
  | multipleStart _ => 2
  | noAccept => 3
  | unknownTarget _ _ => 4
  | unbalanced _ => 5
  | noTransitions _ => 6
  | invalidToken _ _ => 7
  | invalidLabel _ => 8

def message : Diagnosis → String
  | ok => "OK"
  | noStart => "No starting state found"
  | multipleStart s => s!"More than one starting state found ({s.text})"
  | noAccept => "No accepting state"
  | unknownTarget s t => s!"State {s.text}: unknown connecting state {t.text}"
  | unbalanced s => s!"State {s.text}: unbalanced inputs/outputs/conns"
  | noTransitions s => s!"State {s.text}: takes no inputs"
  | invalidToken s t => s!"State {s.text}: invalid token \"{t.text}\""
  | invalidLabel s => s!"Invalid state label \"{s.text}\""

/-- The first fault lies in a word that the line format cannot hold. -/
def isUnwritable : Diagnosis → Bool
  | invalidToken _ _ | invalidLabel _ => true
  | _ => false

end Diagnosis

end Transducer
