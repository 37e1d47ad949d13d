import Transducer.Word.Cluster

/-!
Lines as they are typed. A backspace takes back the cluster that was typed last and has not been
taken back; with nothing to take back it does nothing. `typed_of_not_mem` says that a line without
backspaces is what was typed.
-/

namespace Transducer

def backspace : Char := '\x08'

/-- What has been typed of a line so far. -/
structure Typing where
  /-- The characters that stand, the latest first. -/
  written : Word
  /-- For each cluster that can be taken back, the latest first, how many bytes to take. This is its
  size as far as one byte holds it: of a longer cluster only that much goes. -/
  sizes : List UInt8
  deriving DecidableEq, Repr

namespace Typing

/-- Drops characters in front up to a number of bytes. -/
def dropBytes : Nat → Word → Word
  | _, [] => []
  | n, c :: w => if n = 0 then c :: w else dropBytes (n - c.utf8Size) w

/-- Takes back the latest cluster. -/
def takeBack (t : Typing) : Typing :=
  match t.sizes with
  | [] => t
  | n :: ns => ⟨dropBytes n.toNat t.written, ns⟩

/-- Types a cluster. -/
def press (t : Typing) (cluster : Word) : Typing :=
  if cluster = [backspace] then t.takeBack
  else ⟨cluster.reverse ++ t.written, cluster.bytes.toUInt8 :: t.sizes⟩

end Typing

/-- The line that typing gives. -/
def Word.typed (w : Word) : Word := (w.clusters.foldl Typing.press ⟨[], []⟩).written.reverse

namespace Typing

theorem written_foldl_press {t : Typing} {clusters : List Word} (h : [backspace] ∉ clusters) :
    (clusters.foldl press t).written = clusters.flatten.reverse ++ t.written := by
  induction clusters generalizing t with
  | nil => simp
  | cons c cs ih =>
    simp only [List.mem_cons, not_or] at h
    have : c ≠ [backspace] := fun e => h.1 e.symm
    simp [ih h.2, press, this]

theorem typed_of_not_mem {w : Word} (h : backspace ∉ w) : w.typed = w := by
  have : [backspace] ∉ w.clusters := fun hc => by
    have := List.mem_flatten_of_mem hc (List.mem_singleton.2 rfl)
    rw [Cluster.flatten_clusters] at this
    exact h this
  simp [Word.typed, written_foldl_press this]

end Typing

end Transducer
