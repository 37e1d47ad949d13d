import Transducer.Record
import Transducer.Yaml.Scalar

/-!
What a YAML file says: a scalar, a list or a mapping.
-/

namespace Transducer.Yaml

/-- The items of a list are read but not kept, since nothing asks for them. -/
inductive Node where
  | scalar (s : Scalar)
  | list
  | map (entries : List (Node × Node))

namespace Node

def empty : Node := scalar Scalar.empty

/-- Text of either style. -/
def text? : Node → Option Word
  | scalar s => some s.text
  | _ => none

/-- Text that stands as it is. -/
def plain? : Node → Option Word
  | scalar ⟨.plain, w⟩ => some w
  | _ => none

/-- The fields of a mapping whose keys are texts. Where nothing is written there are no fields. -/
def fields? : Node → Option (Record Node)
  | map entries => entries.mapM fun (k, n) => k.text?.map (·, n)
  | scalar s => if s = Scalar.empty then some [] else none
  | list => none

end Node

end Transducer.Yaml
