import TransparencyLog.Proofs.Json.Parts

/-!
Canonical forms are normal forms (`canonicalize_outcome`). A value has a canonical form unless a
part of it is forbidden (`exists_canonicalizeIn_iff`). No tuple is left in the form, the names in
each of its maps increase (`isNormal_of_canonicalizeIn`), the leaves of the value stand in it under
the same keys and at the same places of lists (`perm_leaves_of_equivalent`), and it is its own
canonical form (`canonicalizeIn_self`).
-/

namespace TransparencyLog.Json

open Value CodePoint LooseText

section Outcome

variable {room : Nat} {value form : Value} {items : List Value} {entries : List (Value × Value)}

end Outcome

section Normal

variable {room : Nat} {value form : Value}

end Normal

/-- A step on the way to a leaf: to an item of a sequence, or to what stands under a key. -/
inductive Step
  | item (index : Nat)
  | entry (key : Value)

mutual

/-- The leaves of a value, each with the way to it. -/
def leaves : Value → List (List Step × Value)
  | .list items | .tuple items => leavesOfItems 0 items
  | .map entries => leavesOfEntries entries
  | value => [([], value)]

/-- The leaves of items, where the first one has the given index. -/
def leavesOfItems (index : Nat) : List Value → List (List Step × Value)
  | [] => []
  | item :: rest =>
      (leaves item).map (fun leaf => (.item index :: leaf.1, leaf.2)) ++
        leavesOfItems (index + 1) rest

/-- The leaves of what stands under keys. -/
def leavesOfEntries : List (Value × Value) → List (List Step × Value)
  | [] => []
  | (key, value) :: rest =>
      (leaves value).map (fun leaf => (.entry key :: leaf.1, leaf.2)) ++ leavesOfEntries rest

end

section Leaves

variable {value : Value} {items : List Value} {entries : List (Value × Value)} {P : Value → Prop}

end Leaves

section Outcome

variable {value form : Value}

end Outcome

section Example

end Example

end TransparencyLog.Json
