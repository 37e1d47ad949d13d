import Transducer.Word

/-!
Requests: what the arguments of the program ask for. Arguments are read from left to right, and the
first that has no place decides that they ask for nothing. A flag may be given once; behind two
dashes every argument is taken for what it is.
-/

namespace Transducer

structure RunOptions where
  history : Bool
  json : Bool
  lenient : Bool
  deriving DecidableEq, Repr

inductive Request where
  | shell (machine : Option Word)
  | check (machine : Word) (lenient : Bool)
  | run (machine input : Word) (options : RunOptions)
  | step (machine input : Word) (options : RunOptions)
  | format (machine : Word) (json lenient : Bool)
  deriving DecidableEq, Repr

/-- What the arguments of the program come to. -/
inductive Demand where
  | serve (settingsFile : Option Word) (request : Request)
  | version
  | help
  | misuse
  deriving DecidableEq, Repr

namespace Request

/-- Why arguments are not read to their end. -/
inductive Break where
  | version
  | help
  | misuse
  deriving DecidableEq, Repr

/-- The kind of a positional argument. A path cannot be empty. -/
inductive Place where
  | path
  | text
  deriving DecidableEq, Repr

/-- The arguments of a command: the flags it knows, and the positional arguments it takes. -/
structure Form where
  flags : List Word
  places : List Place

structure Given where
  flags : List Word
  values : List Word
  deriving DecidableEq, Repr

def dashes : Word := ['-', '-']

def Form.place (f : Form) (g : Given) (value : Word) : Except Break Given :=
  match f.places[g.values.length]? with
  | none => .error .misuse
  | some kind =>
    if kind = .path && value.isEmpty then .error .misuse
    else .ok { g with values := g.values ++ [value] }

def Form.flag (f : Form) (g : Given) (name : Word) : Except Break Given :=
  if f.flags.contains name && !g.flags.contains name then
    .ok { g with flags := g.flags ++ [name] }
  else .error .misuse

def Form.argument (f : Form) (g : Given) (a : Word) : Except Break Given :=
  match a with
  | '-' :: '-' :: name => if name = "help".toList then .error .help else f.flag g name
  | '-' :: c :: _ => .error (if c = 'h' then .help else .misuse)
  | _ => f.place g a

def Form.read (f : Form) (g : Given) : List Word → Except Break Given
  | [] => .ok g
  | a :: as =>
    if a = dashes then as.foldlM f.place g
    else (f.argument g a).bind (f.read · as)

def historyFlag : Word := "history".toList
def jsonFlag : Word := "json".toList
def lenientFlag : Word := "lenient".toList

namespace Given

def options (g : Given) : RunOptions where
  history := g.flags.contains historyFlag
  json := g.flags.contains jsonFlag
  lenient := g.flags.contains lenientFlag

def shell? (g : Given) : Option Request := some (.shell g.values.head?)

def check? (g : Given) : Option Request :=
  match g.values with
  | [machine] => some (.check machine g.options.lenient)
  | _ => none

def run? (g : Given) : Option Request :=
  match g.values with
  | [machine, input] => some (.run machine input g.options)
  | _ => none

def step? (g : Given) : Option Request :=
  match g.values with
  | [machine, input] => some (.step machine input g.options)
  | _ => none

def format? (g : Given) : Option Request :=
  match g.values with
  | [machine] => some (.format machine g.options.json g.options.lenient)
  | _ => none

end Given

/-- The commands of the program, each with its arguments and what they make. -/
def commands : List (Word × Form × (Given → Option Request)) :=
  [("repl".toList, ⟨[], [.path]⟩, Given.shell?),
   ("check".toList, ⟨[lenientFlag], [.path]⟩, Given.check?),
   ("run".toList, ⟨[historyFlag, jsonFlag, lenientFlag], [.path, .text]⟩, Given.run?),
   ("step".toList, ⟨[historyFlag, jsonFlag, lenientFlag], [.path, .text]⟩, Given.step?),
   ("fmt".toList, ⟨[jsonFlag, lenientFlag], [.path]⟩, Given.format?)]

def helpCommand : Word := "help".toList

/-- Help may be asked for about one command. -/
def help (arguments : List Word) : Break :=
  match arguments with
  | [] => .help
  | [name] => if name = helpCommand ∨ commands.any (·.1 == name) then .help else .misuse
  | _ => .misuse

def command (name : Word) (arguments : List Word) : Except Break Request :=
  if name = helpCommand then .error (help arguments)
  else
    match commands.find? (·.1 == name) with
    | none => .error .misuse
    | some (_, form, make?) => do
      let given ← form.read ⟨[], []⟩ arguments
      match make? given with
      | none => throw .misuse
      | some r => return r

/-- The value that stands in one argument with the option for the settings file. -/
def settingsValue? : Word → Option Word
  | '-' :: 'c' :: '=' :: value => some value
  | '-' :: 'c' :: value => some value
  | '-' :: '-' :: name =>
    if "config=".toList.isPrefixOf name then some (name.drop 7) else none
  | _ => none

/-- The argument only announces the settings file. -/
def announcesSettings (a : Word) : Bool := a == "-c".toList || a == "--config".toList

/-- The argument cannot be the value of an option. -/
def isOptionLike : Word → Bool
  | '-' :: _ :: _ => true
  | _ => false

def settingsFile (known : Option Word) (path : Word) : Except Break (Option Word) :=
  if known.isSome || path.isEmpty then .error .misuse else .ok (some path)

/-- Asks for the version or for help. -/
def question? : Word → Option Break
  | '-' :: 'V' :: _ => some .version
  | '-' :: 'h' :: _ => some .help
  | '-' :: '-' :: name =>
    if name = "version".toList then some .version
    else if name = "help".toList then some .help
    else none
  | _ => none

/-- Reads the arguments of the program, with the settings file known so far. -/
def read (known : Option Word) : List Word → Except Break (Option Word × Request)
  | [] => .ok (known, .shell none)
  | a :: as =>
    if a = dashes then if as.isEmpty then .ok (known, .shell none) else .error .misuse
    else if announcesSettings a then
      match as with
      | [] => .error .misuse
      | value :: as =>
        if isOptionLike value then .error .misuse
        else (settingsFile known value).bind fun path => read path as
    else
      match question? a, settingsValue? a with
      | some b, _ => .error b
      | none, some value => (settingsFile known value).bind fun path => read path as
      | none, none =>
        if isOptionLike a then .error .misuse
        else (command a as).map fun r => (known, r)

end Request

/-- What arguments come to. -/
def Demand.ofArguments (arguments : List Word) : Demand :=
  match Request.read none arguments with
  | .ok (path, r) => serve path r
  | .error .version => version
  | .error .help => help
  | .error .misuse => misuse

end Transducer
