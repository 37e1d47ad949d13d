import Transducer.Word

/-!
Folders of files, as a value. A path is followed part by part from the folder, and what stands in
its way is reported as an obstacle. What lies outside the folder cannot be seen: no path leads
anywhere from there.
-/

namespace Transducer

/-- Why a file could not be read or written. -/
inductive Obstacle where
  | notFound
  | denied
  /-- A part of a path that is not its last is a file. -/
  | notAFolder
  | isAFolder
  /-- A part of a path, or all of it, has too many bytes. -/
  | tooLong
  /-- The path holds the character that ends paths. -/
  | brokenPath
  /-- The bytes of a file are not text. -/
  | notText
  /-- Anything else, by the number the system gives it. -/
  | other (number : Nat)
  deriving DecidableEq, Repr

def Obstacle.message : Obstacle → String
  | notFound => "No such file or directory (os error 2)"
  | denied => "Permission denied (os error 13)"
  | notAFolder => "Not a directory (os error 20)"
  | isAFolder => "Is a directory (os error 21)"
  | tooLong => "File name too long (os error 36)"
  | brokenPath => "file name contained an unexpected NUL byte"
  | notText => "stream did not contain valid UTF-8"
  | other n => s!"Input/output error (os error {n})"

namespace Path

def here : Word := ['.']

def above : Word := ['.', '.']

/-- The pieces of a word between slashes. -/
def pieces : Word → List Word
  | [] => [[]]
  | '/' :: w => [] :: pieces w
  | c :: w =>
    match pieces w with
    | [] => [[c]]
    | p :: ps => (c :: p) :: ps

def parts (path : Word) : List Word := (pieces path).filter (!·.isEmpty)

/-- A part of a path has at most this many bytes. -/
def longestPart : Nat := 255

/-- A path has at most this many bytes. -/
def longest : Nat := 4095

/-- What makes a path impossible, whatever the files. -/
def flaw? (path : Word) : Option Obstacle :=
  if path.contains '\x00' then some .brokenPath
  else if longest < path.bytes then some .tooLong
  else none

/-- The path begins at the root. -/
def isAbsolute (path : Word) : Bool := path.head? == some '/'

/-- The path can only name a folder. -/
def namesFolder (path : Word) : Bool := path.getLast? == some '/'

/-- The name of the file at the end of a path. -/
def fileName? (path : Word) : Option Word :=
  ((parts path).filter (· != here)).getLast?.filter (· != above)

/-- The part of a file name behind its last point, unless the point comes first. -/
def extension? (name : Word) : Option Word :=
  match name.reverse.dropWhile (· != '.') with
  | [] | [_] => none
  | _ => some (name.reverse.takeWhile (· != '.')).reverse

/-- The file name has the extension `json`, in any case. -/
def isJson (path : Word) : Bool :=
  ((fileName? path).bind extension?).any fun e => e.map Char.toLower == "json".toList

end Path

inductive Content where
  | text (w : Word)
  /-- Bytes that are not UTF-8. -/
  | binary
  deriving DecidableEq, Repr

/-- The content of a file with the given bytes. -/
def Content.ofBytes (bytes : ByteArray) : Content :=
  match String.fromUTF8? bytes with
  | none => binary
  | some s => text s.toList

inductive Entry where
  | folder
  | file (content : Content)
  deriving DecidableEq, Repr

/-- What a folder holds, each by the parts of its path. -/
structure Folder where
  entries : List (List Word × Entry)

namespace Folder

def empty : Folder := ⟨[]⟩

/-- The folder itself or what it holds under a path. -/
def get? (f : Folder) (parts : List Word) : Option Entry :=
  if parts.isEmpty then some .folder else (f.entries.find? (·.1 == parts)).map Prod.snd

/-- Sets what the folder holds under a path. -/
def set (f : Folder) (parts : List Word) (e : Entry) : Folder :=
  if (f.get? parts).isSome then
    ⟨f.entries.map fun old => if old.1 == parts then (parts, e) else old⟩
  else ⟨f.entries ++ [(parts, e)]⟩

/-- Makes folders one inside the other, below the parts `above`, unless they are there. -/
def makeFolders (f : Folder) (above : List Word) : List Word → Folder
  | [] => f
  | p :: ps =>
    let inner := above ++ [p]
    (if (f.get? inner).isSome then f else f.set inner .folder).makeFolders inner ps

/-- Puts a file into the folder, together with the folders it lies in. -/
def put (f : Folder) (path : Word) (content : Content) : Folder :=
  (f.makeFolders [] (Path.parts path).dropLast).set (Path.parts path) (.file content)

/-- A place a path can lead to. -/
inductive Place where
  | inside (parts : List Word)
  | outside
  deriving DecidableEq, Repr

/-- Goes on from a place, which has to be a folder, to one of its parts. -/
def enter (f : Folder) (place : Place) (part : Word) : Except Obstacle Place :=
  match place with
  | .outside =>
    if part = Path.here ∨ part = Path.above then .ok .outside
    else .error (if Path.longestPart < part.bytes then .tooLong else .notFound)
  | .inside parts =>
    match f.get? parts with
    | none => .error .notFound
    | some (.file _) => .error .notAFolder
    | some .folder =>
      if part = Path.here then .ok place
      else if part = Path.above then
        .ok (if parts.isEmpty then .outside else .inside parts.dropLast)
      else if Path.longestPart < part.bytes then .error .tooLong
      else .ok (.inside (parts ++ [part]))

def walk (f : Folder) (place : Place) : List Word → Except Obstacle Place
  | [] => .ok place
  | p :: ps => (f.enter place p).bind (f.walk · ps)

def beginning (path : Word) : Place := if Path.isAbsolute path then .outside else .inside []

def read (f : Folder) (path : Word) : Except Obstacle Word :=
  match Path.flaw? path with
  | some o => .error o
  | none =>
    if path.isEmpty then .error .notFound
    else
      let last := if Path.namesFolder path then [Path.here] else []
      (f.walk (beginning path) (Path.parts path ++ last)).bind fun
        | .outside => .error .isAFolder
        | .inside parts =>
          match f.get? parts with
          | none => .error .notFound
          | some .folder => .error .isAFolder
          | some (.file .binary) => .error .notText
          | some (.file (.text w)) => .ok w

/-- Writes a text to a file of a place, which need not be there before. -/
def writeAt (f : Folder) (place : Place) (name content : Word) : Except Obstacle Folder :=
  if Path.longestPart < name.bytes then .error .tooLong
  else
    match place with
    | .outside => .error .denied
    | .inside parts =>
      match f.get? (parts ++ [name]) with
      | some .folder => .error .isAFolder
      | _ => .ok (f.set (parts ++ [name]) (.file (.text content)))

def write (f : Folder) (path content : Word) : Except Obstacle Folder :=
  match Path.flaw? path, (Path.parts path).getLast? with
  | some o, _ => .error o
  | none, none => .error (if path.isEmpty then .notFound else .isAFolder)
  | none, some name =>
    (f.walk (beginning path) ((Path.parts path).dropLast ++ [Path.here])).bind fun place =>
      if Path.namesFolder path ∨ name = Path.here ∨ name = Path.above then .error .isAFolder
      else f.writeAt place name content

/-- Writes a text if that is possible. A folder that cannot be written stays as it is. -/
def attempt (f : Folder) (path content : Word) : Except Obstacle Unit × Folder :=
  match f.write path content with
  | .error o => (.error o, f)
  | .ok g => (.ok (), g)

/-- The texts that are in the folder `after`, not further down, and not so in the folder `before`. -/
def changes (before after : Folder) : List (Word × Word) :=
  after.entries.filterMap fun
    | ([name], .file (.text w)) =>
      if before.get? [name] = some (.file (.text w)) then none else some (name, w)
    | _ => none

end Folder

end Transducer
