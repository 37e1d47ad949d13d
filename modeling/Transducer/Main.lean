import Transducer.Program

/-!
The command line. Requests are carried out on the files of the system, and the shell answers each
line as it comes.
-/

namespace Transducer.System

/-- The number of an error, whose sign may be turned. -/
def errorNumber (n : UInt32) : Nat := if n < 0x80000000 then n.toNat else (0 - n).toNat

/-- The obstacle with a number. -/
def obstacleAt (n : Nat) : Obstacle :=
  if n = 20 then .notAFolder else if n = 21 then .isAFolder
  else if n = 36 then .tooLong else .other n

/-- The obstacle behind an error of the system. -/
def obstacleOf (e : IO.Error) : Obstacle :=
  match e with
  | .noFileOrDirectory .. => .notFound
  | .permissionDenied .. => .denied
  | .inappropriateType _ n _ | .invalidArgument _ n _ | .otherError n _ =>
    obstacleAt (errorNumber n)
  | _ => .other 5

def readText (path : Word) : IO (Except Obstacle Word) := do
  if let some o := Path.flaw? path then return .error o
  try
    let bytes ← IO.FS.readBinFile path.text
    match String.fromUTF8? bytes with
    | none => return .error .notText
    | some s => return .ok s.toList
  catch e => return .error (obstacleOf e)

def writeText (path content : Word) : IO (Except Obstacle Unit) := do
  if let some o := Path.flaw? path then return .error o
  try
    IO.FS.writeFile path.text content.text
    return .ok ()
  catch e => return .error (obstacleOf e)

/-- Carries out a computation on the files of the system. -/
def perform {α : Type} : Access α → IO α
  | .done a => pure a
  | .read path next => do perform (next (← readText path))
  | .write path content next => do perform (next (← writeText path content))

/-- Prints a text at once. -/
def printNow (text : String) : IO Unit := do
  IO.print text
  (← IO.getStdout).flush

/-- The line without its end. -/
def chomp (line : String) : Word :=
  match line.toList.reverse with
  | '\n' :: '\r' :: w => w.reverse
  | '\n' :: w => w.reverse
  | w => w.reverse

/-- Answers lines as they come. -/
partial def converse (stdin : IO.FS.Stream) (shell : Shell) : IO Unit := do
  let line ← stdin.getLine
  if line.isEmpty then printNow shell.farewell
  else
    let reply ← perform (shell.answerTyped (chomp line))
    printNow reply.text
    match reply.shell with
    | none => return
    | some next => converse stdin next

def environment : IO Environment := do
  let found ← Environment.names.mapM fun n => return (n, ← IO.getEnv n)
  return .ofNames fun n => (found.lookup n).join.map String.toList

def run (arguments : List String) : IO UInt32 := do
  let stdout ← IO.getStdout
  let palette := if ← stdout.isTty then Palette.colored else .monochrome
  match ← perform (Program.start palette (← environment) (arguments.map String.toList)) with
  | .ended e =>
    printNow e.out
    IO.eprint e.err
    return e.exit.toUInt32
  | .shell ⟨text, .error f⟩ =>
    printNow text
    IO.eprintln s!"Error: {f.message}"
    return 1
  | .shell ⟨text, .ok shell⟩ =>
    printNow text
    converse (← IO.getStdin) shell
    return 0

end Transducer.System

def main (arguments : List String) : IO UInt32 := Transducer.System.run arguments
