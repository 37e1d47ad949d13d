import Transducer.Word

/-!
Records: fields by name, as they come from a file. A field may be missing, but none may be there
twice.
-/

namespace Transducer

/-- Fields with their names, in order. -/
abbrev Record (α : Type) := List (Word × α)

namespace Record

variable {α β : Type}

/-- Reads the field with a name. If there is none the answer is `default`; if there are several
there is no answer. -/
def read? (r : Record α) (name : Word) (default : Option β) (reader : α → Option β) : Option β :=
  match r.filter (·.1 == name) with
  | [] => default
  | [(_, a)] => reader a
  | _ => none

end Record

end Transducer
