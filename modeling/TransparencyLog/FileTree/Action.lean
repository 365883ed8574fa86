import TransparencyLog.FileTree

namespace TransparencyLog

abbrev FileAction (ε α : Type) := ExceptT ε (StateM FileTree) α

namespace FileAction

def perform {ε α : Type} (action : FileAction ε α) (tree : FileTree) : Except ε α × FileTree :=
  action.run.run tree

def rename {ε ε' α : Type} (wrap : ε → ε') (action : FileAction ε α) : FileAction ε' α :=
  ExceptT.mk (Except.mapError wrap <$> action.run)

def ask {ε α : Type} (question : FileTree → Except ε α) : FileAction ε α := do
  match question (← get) with
  | .ok answer => return answer
  | .error fault => throw fault

def holds {ε : Type} (path : String) : FileAction ε Bool := do
  return (← get).holds path

def read (path : String) : FileAction FileFault Bytes :=
  ask (·.read path)

def write (path : String) (octets : Bytes) : FileAction FileFault Unit := do
  let place ← ask (·.locateFile path)
  modify (·.set place (.file octets))

def touch (path : String) : FileAction FileFault Unit := do
  let place ← ask (·.locateFile path)
  if ((← get).node? place).isNone then modify (·.set place (.file []))

/-- Moves the file at one path to another, in the stead of a file there. -/
def replace (source path : String) : FileAction FileFault Unit := do
  let octets ← read source
  let origin ← ask (·.locate source)
  let place ← rename (FileFault.ofMove source) (ask (·.locateTarget path))
  modify fun tree => (tree.remove origin).set place (.file octets)

def makeDirectory (path : String) : FileAction FileFault Unit := do
  let place ← ask (·.locateNew path)
  match (← get).node? place with
  | some _ => throw (.blocked .occupied path)
  | none => modify (·.set place .directory)

/-- The path up to its last slash, without slashes at its end unless it has nothing else. -/
def head (path : List Char) : List Char :=
  let before := (path.reverse.dropWhile (· ≠ '/')).reverse
  let trimmed := (before.reverse.dropWhile (· = '/')).reverse
  if trimmed.isEmpty then before else trimmed

def tail (path : List Char) : List Char :=
  (path.reverse.takeWhile (· ≠ '/')).reverse

/-- The head and the tail of a path, slashes at its end not counting. -/
def splitPath (path : List Char) : List Char × List Char :=
  if (tail path).isEmpty then (head (head path), tail (head path)) else (head path, tail path)

/-- Puts directories at a path and on the way to it; one that is there already is no fault. -/
def makeDirectories : (fuel : Nat) → String → FileAction FileFault Unit
  | 0, _ => return ()
  | fuel + 1, path => do
      let (head, tail) := splitPath path.toList
      let parent := String.ofList head
      if !head.isEmpty && !tail.isEmpty && !(← holds parent) then
        tryCatch (makeDirectories fuel parent) fun
          | .blocked .occupied _ => return ()
          | fault => throw fault
        if tail = ['.'] then return ()
      tryCatch (makeDirectory path) fun fault => do
        if (← get).at? path ≠ some .directory then throw fault

def ensureDirectory (path : String) : FileAction FileFault Unit :=
  makeDirectories (path.length + 1) path

def ensureParent (path : String) : FileAction FileFault Unit :=
  let parent := head path.toList
  ensureDirectory (if parent.isEmpty then "." else String.ofList parent)

end FileAction

end TransparencyLog
