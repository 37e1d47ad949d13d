import Transducer.Yaml.Scalar

/-!
The tokens of a YAML file. Where nesting is given by indentation, tokens mark where a list or a
mapping opens and closes, just as brackets do.
-/

namespace Transducer.Yaml

inductive Token where
  | scalar (s : Scalar)
  | openBlockList
  | openBlockMap
  | closeBlock
  | openList
  | closeList
  | openMap
  | closeMap
  /-- An item of a list comes next. -/
  | item
  /-- A key comes next. -/
  | key
  /-- The value of a key comes next. -/
  | value
  | comma
  | documentStart
  | documentEnd
  deriving DecidableEq, Repr

/-- The marker that stands in front, if one does: three dashes or three points. -/
def Token.marker? : Word → Option Token
  | '-' :: '-' :: '-' :: w => if isClear w then some documentStart else none
  | '.' :: '.' :: '.' :: w => if isClear w then some documentEnd else none
  | _ => none

end Transducer.Yaml
