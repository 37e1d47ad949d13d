import Transducer.Columns
import Transducer.Json.Parser
import Transducer.Record

/-!
Columns as JSON. They are written as an object with a field for each column. They are read from such
an object, whose fields may come in any order, or from an array that gives the columns by position;
fields with other names are passed over. Only the label has to be there.
-/

namespace Transducer

namespace Role

def name : Role → Word
  | .ordinary => "none".toList
  | .start => "start".toList
  | .accept => "accept".toList

def ofName? (w : Word) : Option Role :=
  [ordinary, start, accept].find? (·.name == w)

end Role

namespace Json

def word? : Json → Option Word
  | string raw => Quoted.unescape? raw
  | _ => none

def words? : Json → Option (List Word)
  | array items => items.mapM word?
  | _ => none

/-- Reads an array of texts, or nothing at all. -/
def wordsOrNull? : Json → Option (Option (List Word))
  | null => some none
  | j => (words? j).map some

/-- Reads the name of a role. It may also stand as the only key of an object that holds nothing. -/
def role? : Json → Option Role
  | string raw => (Quoted.unescape? raw).bind Role.ofName?
  | object [(key, null)] => (Quoted.unescape? key).bind Role.ofName?
  | _ => none

/-- Reads the value at a position, or gives `default` if the array is shorter. -/
def itemOr? {α : Type} (default : Option α) (read? : Json → Option α) (index : Nat)
    (items : List Json) : Option α :=
  match items[index]? with
  | none => default
  | some j => read? j

end Json

namespace Columns

def labelKey : Word := "label".toList
def roleKey : Word := "role".toList
def inputKey : Word := "input".toList
def connsKey : Word := "conns".toList
def outputKey : Word := "output".toList

def toJson (c : Columns) : Json :=
  .object <|
    [Json.field labelKey (.ofWord c.label), Json.field roleKey (.ofWord c.role.name),
      Json.field inputKey (.ofWords c.input), Json.field connsKey (.ofWords c.conns)] ++
    (c.output.map fun o => Json.field outputKey (.ofWords o)).toList

/-- Reads columns from fields whose names have been read. -/
def ofFields? (fields : Record Json) : Option Columns := do
  return {
    label := ← fields.read? labelKey none Json.word?
    role := ← fields.read? roleKey (some .ordinary) Json.role?
    input := ← fields.read? inputKey (some []) Json.words?
    conns := ← fields.read? connsKey (some []) Json.words?
    output := ← fields.read? outputKey (some none) Json.wordsOrNull? }

/-- Reads columns from an array that holds them by position. -/
def ofItems? (items : List Json) : Option Columns := do
  guard (items.length ≤ 5)
  return {
    label := ← Json.itemOr? none Json.word? 0 items
    role := ← Json.itemOr? (some .ordinary) Json.role? 1 items
    input := ← Json.itemOr? (some []) Json.words? 2 items
    conns := ← Json.itemOr? (some []) Json.words? 3 items
    output := ← Json.itemOr? (some none) Json.wordsOrNull? 4 items }

def ofJson? : Json → Option Columns
  | .object fields => do
    ofFields? (← fields.mapM fun (key, j) => (Quoted.unescape? key).map (·, j))
  | .array items => ofItems? items
  | _ => none

def parse? (text : Word) : Option Columns := (Json.parse? text).bind ofJson?

def parseAll? (text : Word) : Option (List Columns) := do
  match ← Json.parse? text with
  | .array items => items.mapM ofJson?
  | _ => none

end Columns

namespace Machine

/-- Reads a machine from an array of columns. The whole array is read before any state is made. -/
def ofJson (text : Word) : Except Fault Machine :=
  match Columns.parseAll? text with
  | none => .error .json
  | some cs => ofColumns cs

def toJson (m : Machine) : Word := Json.pretty 0 (.array (m.columns.map Columns.toJson))

end Machine

end Transducer
