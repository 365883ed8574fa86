import TransparencyLog.Bytes
import TransparencyLog.Text.Quoted

namespace TransparencyLog

/-- What stands at a path. -/
inductive FileNode
  | file (octets : Bytes)
  | directory
deriving DecidableEq, Repr

/-- Where something stands: the names on the way to it. The name `/` leads to the top of all files,
and names `..` at the start lead up from the working directory. -/
abbrev Place := List String

/-- The files and directories at their places. The working directory, those above it and the top of
all files are there without being listed. -/
structure FileTree where
  nodes : List (Place × FileNode)
deriving DecidableEq, Repr

/-- What stands in the way of using a path. -/
inductive FileObstacle
  | missing
  | busy
  | occupied
  | notDirectory
  | isDirectory
  | nameTooLong
deriving DecidableEq, Repr

def FileObstacle.message : FileObstacle → String
  | .missing => "[Errno 2] No such file or directory"
  | .busy => "[Errno 16] Device or resource busy"
  | .occupied => "[Errno 17] File exists"
  | .notDirectory => "[Errno 20] Not a directory"
  | .isDirectory => "[Errno 21] Is a directory"
  | .nameTooLong => "[Errno 36] File name too long"

/-- Why a file or directory cannot be used: something stands in the way of a path, or of a move from
one path to another, or a path holds a NUL character, which no name does. -/
inductive FileFault
  | blocked (obstacle : FileObstacle) (path : String)
  | moveBlocked (obstacle : FileObstacle) (source path : String)
  | nulInPath
deriving DecidableEq, Repr

def FileFault.message : FileFault → String
  | .blocked obstacle path => s!"{obstacle.message}: {Text.quoted path}"
  | .moveBlocked obstacle source path =>
      s!"{obstacle.message}: {Text.quoted source} -> {Text.quoted path}"
  | .nulInPath => "embedded null byte"

def FileFault.ofMove (source : String) : FileFault → FileFault
  | .blocked obstacle path => .moveBlocked obstacle source path
  | fault => fault

namespace FileTree

def empty : FileTree := ⟨[]⟩

def up : String := ".."

def node? (tree : FileTree) (place : Place) : Option FileNode :=
  if place.all (· = up) ∨ place = ["/"] then some .directory else tree.nodes.lookup place

def set (tree : FileTree) (place : Place) (node : FileNode) : FileTree :=
  ⟨(place, node) :: tree.nodes.filter fun entry => entry.1 ≠ place⟩

def remove (tree : FileTree) (place : Place) : FileTree :=
  ⟨tree.nodes.filter fun entry => entry.1 ≠ place⟩

def pieces : List Char → List (List Char)
  | [] => [[]]
  | c :: rest =>
      if c = '/' then [] :: pieces rest
      else
        match pieces rest with
        | [] => [[c]]
        | piece :: others => (c :: piece) :: others

/-- The place above another one; the top of all files is above itself. -/
def above (place : Place) : Place :=
  if place = ["/"] then place
  else if place.all (· = up) then place ++ [up]
  else place.dropLast

def step (place : Place) (piece : List Char) : Place :=
  if piece = [] ∨ piece = ['.'] then place
  else if piece = up.toList then above place
  else place ++ [String.ofList piece]

def startOf (path : String) : Place :=
  if path.toList.head? = some '/' then ["/"] else []

def nameLimit : Nat := 255

def pathLimit : Nat := 4096

def check (path : String) : Except FileFault Unit :=
  if path.toList.contains '\x00' then .error .nulInPath
  else if path.isEmpty then .error (.blocked .missing path)
  else if pathLimit ≤ path.utf8ByteSize then .error (.blocked .nameTooLong path)
  else .ok ()

def enter (tree : FileTree) (path : String) (place : Place) : Except FileFault Unit :=
  match tree.node? place with
  | none => .error (.blocked .missing path)
  | some (.file _) => .error (.blocked .notDirectory path)
  | some .directory => .ok ()

/-- The place that one piece of a path leads to, unless the piece is too long for a name. -/
def stepOn (path : String) (place : Place) (piece : List Char) : Except FileFault Place :=
  if nameLimit < (String.ofList piece).utf8ByteSize then .error (.blocked .nameTooLong path)
  else .ok (step place piece)

/-- Follows one piece of a path from a place, which has to be a directory. -/
def follow (tree : FileTree) (path : String) (place : Place) (piece : List Char) :
    Except FileFault Place := do
  tree.enter path place
  stepOn path place piece

/-- The place that a path leads to; everything on the way is a directory. -/
def locate (tree : FileTree) (path : String) : Except FileFault Place := do
  check path
  (pieces path.toList).foldlM (tree.follow path) (startOf path)

/-- A path without the slashes at its end, unless it has nothing else. -/
def bare (path : String) : String :=
  let kept := (path.toList.reverse.dropWhile (· = '/')).reverse
  if kept.isEmpty then path else String.ofList kept

/-- The directory that the last piece of a path is to be found in, and that piece; slashes at the
end do not count. -/
def locateLast (tree : FileTree) (path : String) : Except FileFault (Place × List Char) := do
  check path
  let names := pieces (bare path).toList
  let place ← names.dropLast.foldlM (tree.follow path) (startOf path)
  tree.enter path place
  return (place, names.getLastD [])

/-- The place of a path where something may come to stand; slashes at the end do not count. -/
def locateNew (tree : FileTree) (path : String) : Except FileFault Place := do
  let (place, piece) ← tree.locateLast path
  stepOn path place piece

/-- The place of a path where a file may stand. A slash at the end asks for a directory there,
whether there is one or not. -/
def locateFile (tree : FileTree) (path : String) : Except FileFault Place := do
  let (place, piece) ← tree.locateLast path
  if bare path ≠ path then throw (.blocked .isDirectory path)
  let place ← stepOn path place piece
  if tree.node? place = some .directory then throw (.blocked .isDirectory path)
  return place

/-- The place of a path where a file may be moved to. No file can take the place of a directory, nor
of one that dots name, nor stand where a slash at the end asks for a directory. -/
def locateTarget (tree : FileTree) (path : String) : Except FileFault Place := do
  let (place, piece) ← tree.locateLast path
  if piece = [] ∨ piece = ['.'] ∨ piece = up.toList then throw (.blocked .busy path)
  let place ← stepOn path place piece
  if bare path ≠ path then throw (.blocked .notDirectory path)
  if tree.node? place = some .directory then throw (.blocked .isDirectory path)
  return place

def at? (tree : FileTree) (path : String) : Option FileNode :=
  match tree.locate path with
  | .ok place => tree.node? place
  | .error _ => none

def holds (tree : FileTree) (path : String) : Bool :=
  (tree.at? path).isSome

def file? (tree : FileTree) (path : String) : Option Bytes :=
  match tree.at? path with
  | some (.file octets) => some octets
  | _ => none

def read (tree : FileTree) (path : String) : Except FileFault Bytes :=
  match tree.locate path with
  | .error fault => .error fault
  | .ok place =>
      match tree.node? place with
      | some (.file octets) => .ok octets
      | some .directory => .error (.blocked .isDirectory path)
      | none => .error (.blocked .missing path)

end FileTree

end TransparencyLog
