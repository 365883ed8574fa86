import TransparencyLog.FileTree

namespace TransparencyLog.FileTree

def placesFrom (place : Place) : List (List Char) → List Place
  | [] => [place]
  | piece :: rest => place :: placesFrom (step place piece) rest

def approach (path : String) : List Place :=
  placesFrom (startOf path) (pieces path.toList)

/-- What has to be done at a place to get from one tree to another: to put something there, or to
take away what stands there. -/
structure Change where
  place : Place
  node : Option FileNode
deriving DecidableEq, Repr

/-- The changes from one tree to another, a directory before what it holds. -/
def changes (before after : FileTree) : List Change :=
  let added := after.nodes.filter fun entry => before.node? entry.1 ≠ some entry.2
  let removed := before.nodes.filter fun entry => (after.node? entry.1).isNone
  (added.map fun entry => (⟨entry.1, some entry.2⟩ : Change)).mergeSort
      (fun a b => a.place.length ≤ b.place.length) ++
    removed.map fun entry => ⟨entry.1, none⟩

end TransparencyLog.FileTree
