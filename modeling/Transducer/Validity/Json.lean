import Transducer.Json
import Transducer.Shadow
import Transducer.Validity

/-!
Findings about a machine as JSON: the fault that a check found, and the shadowed transitions.
-/

namespace Transducer

namespace Diagnosis

def name : Diagnosis → String
  | ok => "ok"
  | noStart => "no_start"
  | multipleStart _ => "multiple_start"
  | noAccept => "no_accept"
  | unknownTarget _ _ => "unknown_target"
  | unbalanced _ => "unbalanced"
  | noTransitions _ => "no_transitions"
  | invalidToken _ _ => "invalid_token"
  | invalidLabel _ => "invalid_label"

/-- What a finding is about. -/
def details : Diagnosis → List (String × Word)
  | ok | noStart | noAccept => []
  | multipleStart s | unbalanced s | noTransitions s | invalidLabel s => [("state", s)]
  | unknownTarget s t => [("state", s), ("target", t)]
  | invalidToken s t => [("state", s), ("token", t)]

def fields (d : Diagnosis) : List (String × Json) :=
  ("code", .ofString d.name) :: d.details.map fun (key, w) => (key, .ofWord w)

end Diagnosis

def Shadow.fields (s : Shadow) : List (String × Json) :=
  [("kind", .ofString "shadowed_transition"), ("state", .ofWord s.state),
    ("input", .ofWord s.token), ("shadowed_by", .ofWord s.shadowedBy)]

end Transducer
