import Transducer.Word
import Transducer.Word.Cluster.Kind

/-!
Clusters: what a reader sees as one character, such as a letter with its accents, a flag or a
syllable block. They are the extended grapheme clusters of Unicode 17. A word is cut into clusters
from the front, and `flatten_clusters` says that nothing is lost.
-/

namespace Transducer

namespace Cluster

/-- The word, the nearest character first, ends in a joiner behind a pictograph with its marks. -/
def endsInJoinedPictograph : Word → Bool
  | [] => false
  | c :: w =>
    Kind.ofChar c = .joiner &&
      (w.dropWhile fun c => (Kind.ofChar c).isMark).head?.any (Kind.ofChar · = .pictograph)

/-- The word, the nearest character first, ends in a consonant with what ties it to the next. -/
def endsInTiedConsonant (w : Word) : Bool :=
  let within (c : Char) := (Kind.ofChar c).isWithinConjunct
  (w.takeWhile within).any (Kind.ofChar · = .linker) &&
    (w.dropWhile within).head?.any (Kind.ofChar · = .consonant)

/-- The word, the nearest character first, ends in a letter of a flag that lacks its second. -/
def endsInHalfFlag (w : Word) : Bool := (w.takeWhile (Kind.ofChar · = .regional)).length % 2 = 1

/-- The character belongs to the cluster that is `before` it, of which the nearest character comes
first. -/
def joins (before : Word) (c : Char) : Bool :=
  match before with
  | [] => false
  | b :: _ =>
    let near := Kind.ofChar b
    let next := Kind.ofChar c
    if near = .carriageReturn && next = .lineFeed then true
    else if near.isControl || next.isControl then false
    else
      next.trails || near = .prepend || near.isSyllableWith next ||
        next = .pictograph && endsInJoinedPictograph before ||
        next = .consonant && endsInTiedConsonant before ||
        next = .regional && endsInHalfFlag before

/-- The clusters of a word, of which the first has begun with some characters, the nearest first. -/
def clustersFrom (begun : Word) : Word → List Word
  | [] => [begun.reverse]
  | c :: w =>
    if joins begun c then clustersFrom (c :: begun) w else begun.reverse :: clustersFrom [c] w

end Cluster

def Word.clusters : Word → List Word
  | [] => []
  | c :: w => Cluster.clustersFrom [c] w

namespace Cluster

theorem flatten_clustersFrom (begun w : Word) :
    (clustersFrom begun w).flatten = begun.reverse ++ w := by
  induction w generalizing begun with
  | nil => simp [clustersFrom]
  | cons c w ih =>
    rw [clustersFrom]
    split <;> simp [ih]

@[simp] theorem flatten_clusters (w : Word) : w.clusters.flatten = w := by
  cases w with
  | nil => rfl
  | cons c w => simp [Word.clusters, flatten_clustersFrom]

end Cluster

end Transducer
