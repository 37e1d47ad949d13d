import Transducer.Json
import Transducer.Session

/-!
Results of runs as JSON, with their fields in a fixed order. The history is left out if it was not
recorded.
-/

namespace Transducer

def Json.historyField (history : Option (List Word)) : List (String × Json) :=
  (history.map fun h => ("history", ofWords h)).toList

def Halt.toJson : Halt → Json
  | endOfInput => .ofFields [("kind", .ofString "end_of_input")]
  | stuck remaining attempted =>
    .ofFields [("kind", .ofString "stuck"), ("remaining", .ofWord remaining),
      ("attempted", .ofWords attempted)]

def Outcome.toJson (o : Outcome) : Json :=
  .ofFields <|
    [("accepted", .bool o.accepted), ("final_state", .ofWord o.finalState),
      ("output", .ofWord o.output), ("transitions", .ofNat o.transitions),
      ("halt", o.halt.toJson), ("message", .ofString o.message)] ++
    Json.historyField o.history

def Snapshot.toJson (s : Snapshot) : Json :=
  .ofFields <|
    [("done", .bool s.done), ("state", .ofWord s.state), ("output", .ofWord s.output),
      ("transitions", .ofNat s.transitions), ("position", .ofNat s.position),
      ("message", .ofString s.message)] ++
    Json.historyField s.history

end Transducer
