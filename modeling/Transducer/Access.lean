import Transducer.Folder

/-!
Computations that look at files. Such a computation either has its answer, or asks for a file to be
read or written and goes on with what came of it. It can be carried out on a folder that is a value,
or by the outer layer of a program on the files of the system.
-/

namespace Transducer

inductive Access (α : Type) where
  | done (a : α)
  | read (path : Word) (next : Except Obstacle Word → Access α)
  | write (path content : Word) (next : Except Obstacle Unit → Access α)

namespace Access

variable {α β : Type}

def bind : Access α → (α → Access β) → Access β
  | done a, k => k a
  | read path next, k => read path fun r => (next r).bind k
  | write path content next, k => write path content fun r => (next r).bind k

instance : Monad Access where
  pure := done
  bind := bind

def readFile (path : Word) : Access (Except Obstacle Word) := read path done

def writeFile (path content : Word) : Access (Except Obstacle Unit) := write path content done

/-- Carries out a computation on a folder. -/
def runOn (f : Folder) : Access α → α × Folder
  | done a => (a, f)
  | read path next => (next (f.read path)).runOn f
  | write path content next =>
    (next (f.attempt path content).1).runOn (f.attempt path content).2

@[simp] theorem runOn_done (f : Folder) (a : α) : (done a).runOn f = (a, f) := rfl

@[simp] theorem runOn_pure (f : Folder) (a : α) : (pure a : Access α).runOn f = (a, f) := rfl

/-- Two computations one after the other work on the folder one after the other. -/
@[simp] theorem runOn_bind (f : Folder) (x : Access α) (k : α → Access β) :
    (x >>= k).runOn f = (k (x.runOn f).1).runOn (x.runOn f).2 := by
  induction x generalizing f with
  | done a => rfl
  | read path next ih => exact ih _ f
  | write path content next ih => exact ih _ _

end Access

end Transducer
