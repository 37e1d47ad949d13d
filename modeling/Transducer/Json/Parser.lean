import Transducer.Json
import Transducer.Json.Lexeme

/-!
Reading a JSON value from its lexemes. The arrays and objects that are still open form a stack, so
that nesting of any depth is read in one pass over the lexemes.
-/

namespace Transducer.Json

/-- An open array or object, with what it holds so far, the latest first. An object also has the key
whose value comes next. -/
inductive Frame where
  | array (items : List Json)
  | object (fields : List (Word × Json)) (key : Word)

mutual

/-- Reads on where a value has to begin. -/
def readValue (stack : List Frame) : List Lexeme → Option Json
  | .null :: r => readAfter stack .null r
  | .bool b :: r => readAfter stack (.bool b) r
  | .number n :: r => readAfter stack (.number n) r
  | .string raw :: r => readAfter stack (.string raw) r
  | .openArray :: .closeArray :: r => readAfter stack (.array []) r
  | .openArray :: r => readValue (.array [] :: stack) r
  | .openObject :: .closeObject :: r => readAfter stack (.object []) r
  | .openObject :: .string k :: .colon :: r => readValue (.object [] k :: stack) r
  | _ => none

/-- Reads on behind a value. -/
def readAfter (stack : List Frame) (j : Json) : List Lexeme → Option Json
  | [] => if stack.isEmpty then some j else none
  | .comma :: .string k :: .colon :: r =>
    match stack with
    | .object fs l :: stack => readValue (.object ((l, j) :: fs) k :: stack) r
    | .array items :: stack => readValue (.array (j :: items) :: stack) (.string k :: .colon :: r)
    | [] => none
  | .comma :: r =>
    match stack with
    | .array items :: stack => readValue (.array (j :: items) :: stack) r
    | _ => none
  | .closeArray :: r =>
    match stack with
    | .array items :: stack => readAfter stack (.array (j :: items).reverse) r
    | _ => none
  | .closeObject :: r =>
    match stack with
    | .object fs l :: stack => readAfter stack (.object ((l, j) :: fs).reverse) r
    | _ => none
  | _ => none

end

/-- The value of a text that holds one value and nothing else but blanks. -/
def parse? (s : Word) : Option Json := (lexemes? s).bind (readValue [])

end Transducer.Json
