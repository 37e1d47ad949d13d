import Transducer.Word.Lowercase

/-!
Commands of the shell. A line is a word for the command, in any case, and an argument, which is all
that follows, without the blanks around it but with those inside it.
-/

namespace Transducer

/-- What the shell does at once. Where an argument is missing, all that is left of a task is to say
how it is to be used. -/
inductive Task where
  | help
  | load (path : Word)
  | save (path : Word)
  | add (line : Word)
  | remove (label : Word)
  | show
  | check
  | run (input : Word)
  /-- Turns recording on or off, or only tells which it is. -/
  | history (on : Option Bool)
  | settings
  | saveSettings (path : Word)
  | usage (text : String)
  | unknown (name : Word)
  deriving DecidableEq, Repr

/-- A command of the shell. -/
inductive Command where
  | quit
  /-- Begins to step through a run. -/
  | step (input : Word)
  | task (t : Task)
  deriving DecidableEq, Repr

namespace Task

/-- A task that needs an argument. -/
def needing (argument : Word) (usageText : String) (ofArgument : Word → Task) : Task :=
  if argument.isEmpty then usage usageText else ofArgument argument

def ofRemove (argument : Word) : Task :=
  match argument.words with
  | [] => usage "Usage: remove <label>"
  | label :: _ => remove label

def ofHistory (argument : Word) : Task :=
  match argument.words.head?.map Word.lowercase with
  | none => history none
  | some w =>
    if w = "on".toList then history (some true)
    else if w = "off".toList then history (some false)
    else history none

def ofSettings (argument : Word) : Task :=
  match argument.words with
  | [] => settings
  | w :: ws =>
    if w ≠ "save".toList then usage "Usage: config [save <file>]"
    else if ws.isEmpty then usage "Usage: config save <file>"
    else saveSettings (Word.trim (argument.drop w.length))

/-- The task with a name, written in small letters, on an argument. -/
def ofName (name argument : Word) : Task :=
  match name.text with
  | "help" | "?" => help
  | "load" | "l" => needing argument "Usage: load <file>" load
  | "save" => needing argument "Usage: save <file>" save
  | "add" | "a" => needing argument "Usage: add <state line>" add
  | "remove" | "rm" => ofRemove argument
  | "show" | "s" => .show
  | "check" | "c" => check
  | "run" | "r" => run argument
  | "history" | "h" => ofHistory argument
  | "config" => ofSettings argument
  | _ => unknown name

end Task

namespace Command

/-- Cuts a line behind its first word. -/
def cut (line : Word) : Word × Word :=
  let w := line.trimStart
  (w.takeWhile (!isBlank ·), Word.trim (w.dropWhile (!isBlank ·)))

/-- The command with a name, written in small letters, on an argument. -/
def ofName (name argument : Word) : Command :=
  match name.text with
  | "quit" | "exit" | "q" => quit
  | "step" => step argument
  | _ => task (.ofName name argument)

def ofLine (line : Word) : Command :=
  ofName (cut line).1.lowercase (cut line).2

end Command

/-- What can be said to a shell that steps through a run. -/
inductive StepCommand where
  | next
  | finish
  | stop
  | unknown (name : Word)
  deriving DecidableEq, Repr

/-- The step command of a line. An empty line takes a step. -/
def StepCommand.ofLine (line : Word) : StepCommand :=
  let name := line.trim.lowercase
  match name.text with
  | "" | "next" | "n" => .next
  | "finish" | "f" => .finish
  | "stop" | "s" => .stop
  | _ => .unknown name

end Transducer
