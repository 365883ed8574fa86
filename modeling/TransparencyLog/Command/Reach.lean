import TransparencyLog.Command.Session
import TransparencyLog.FileTree.Changes

/-!
Which files a run may look at or change. Every path that a command uses is an argument, the value in
an argument, or the path of the registry, with one of a few endings.
-/

namespace TransparencyLog.Command

/-- The endings of the files beside a path: the path itself, the public half of a key, the draft of
a document, and the file on which changes take turns. -/
def pathEndings : List String := ["", ".pub", ".tmp", ".lock"]

/-- The texts that an argument may give as a path: itself, what follows an equals sign, and what
follows the letter of a short option. -/
def argumentPaths (argument : String) : List String :=
  let cs := argument.toList
  [argument, String.ofList ((cs.dropWhile (· ≠ '=')).drop 1), String.ofList (cs.drop 2)]

/-- The paths that a run may use; those that nothing can have are left out. -/
def Request.paths (request : Request) : List String :=
  let registry := (Settings.registryPathOf request.environment).toOption.toList
  let given := request.arguments.flatMap argumentPaths
  let used := (registry ++ given).flatMap fun path => pathEndings.map (path ++ ·)
  used.filter fun path => (FileTree.check path).isOk

/-- The places that a run may look at or change, with those on the way to them. -/
def Request.places (request : Request) : List Place :=
  (request.paths.flatMap FileTree.approach).eraseDups

end TransparencyLog.Command
