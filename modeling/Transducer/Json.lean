import Transducer.Json.Quoted

/-!
JSON values and the two ways of writing them: on one line, or with a line for each item and two
spaces for each level.
-/

namespace Transducer

/-- A JSON value. Texts, keys and numbers are kept as they are written, so that one that is never
looked at need not make sense. -/
inductive Json where
  | null
  | bool (b : Bool)
  | number (literal : Word)
  | string (raw : Word)
  | array (items : List Json)
  | object (fields : List (Word × Json))

namespace Json

def ofWord (w : Word) : Json := .string (Quoted.escape w)

def ofNat (n : Nat) : Json := .number (Nat.toDigits 10 n)

def ofWords (ws : List Word) : Json := .array (ws.map ofWord)

def field (key : Word) (value : Json) : Word × Json := (Quoted.escape key, value)

def ofString (s : String) : Json := ofWord s.toList

/-- An object whose keys are given as strings. -/
def ofFields (fields : List (String × Json)) : Json :=
  .object (fields.map fun (k, j) => field k.toList j)

def quote (raw : Word) : Word := '"' :: raw ++ ['"']

/-- The word for a truth value. -/
def keyword : Bool → Word
  | true => "true".toList
  | false => "false".toList

mutual

def compact : Json → Word
  | null => "null".toList
  | bool b => keyword b
  | number literal => literal
  | string raw => quote raw
  | array [] => ['[', ']']
  | array (j :: js) => '[' :: compact j ++ compactItems js ++ [']']
  | object [] => ['{', '}']
  | object ((k, j) :: fs) => '{' :: quote k ++ ':' :: compact j ++ compactFields fs ++ ['}']

/-- The items after the first. -/
def compactItems : List Json → Word
  | [] => []
  | j :: js => ',' :: compact j ++ compactItems js

/-- The fields after the first. -/
def compactFields : List (Word × Json) → Word
  | [] => []
  | (k, j) :: fs => ',' :: quote k ++ ':' :: compact j ++ compactFields fs

end

/-- A new line at a level of nesting. -/
def newLine (level : Nat) : Word := '\n' :: List.replicate (2 * level) ' '

mutual

/-- The value over several lines, where `level` is the level of the line it starts on. -/
def pretty (level : Nat) : Json → Word
  | null => "null".toList
  | bool b => keyword b
  | number literal => literal
  | string raw => quote raw
  | array [] => ['[', ']']
  | array (j :: js) =>
    '[' :: newLine (level + 1) ++ pretty (level + 1) j ++ prettyItems (level + 1) js ++
      newLine level ++ [']']
  | object [] => ['{', '}']
  | object ((k, j) :: fs) =>
    '{' :: newLine (level + 1) ++ quote k ++ ':' :: ' ' :: pretty (level + 1) j ++
      prettyFields (level + 1) fs ++ newLine level ++ ['}']

def prettyItems (level : Nat) : List Json → Word
  | [] => []
  | j :: js => ',' :: newLine level ++ pretty level j ++ prettyItems level js

def prettyFields (level : Nat) : List (Word × Json) → Word
  | [] => []
  | (k, j) :: fs =>
    ',' :: newLine level ++ quote k ++ ':' :: ' ' :: pretty level j ++ prettyFields level fs

end

end Json

end Transducer
