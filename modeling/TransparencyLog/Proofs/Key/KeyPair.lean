import TransparencyLog.Key.KeyPair
import TransparencyLog.Proofs.FileTree.Directories
import TransparencyLog.Proofs.Key.KeyFile
import TransparencyLog.Proofs.Key.Verification

namespace TransparencyLog.KeyPair

open FileTree FileAction

variable {tree tree' : FileTree} {path algorithm : String} {entropy : Bytes} {key : SigningKey}
  {paths : String × String}

theorem isEnding_pub : IsEnding ".pub" :=
  ⟨by decide, 'p', by decide, by decide⟩

theorem publicPath_ne_empty (path : String) : (publicPath path).isEmpty = false := by
  have hne : publicPath path ≠ "" := by
    intro heq
    have hlist := congrArg String.toList heq
    rw [publicPath, String.toList_append] at hlist
    exact absurd (List.append_eq_nil_iff.mp hlist).2 (by decide)
  simpa using hne

theorem load_of_file? (h : tree.file? path = some (KeyFile.privateText key)) :
    load tree path = .ok key := by
  rw [load, read_eq_ok_iff.mpr h]
  dsimp only
  rw [KeyFile.read_privateText]

/-- Both halves of a pair that is saved are there: the path of the public one has an ending, so it
does not name the file of the private one. -/
theorem file?_of_save (h : (save key path (publicPath path)).perform tree = (.ok (), tree')) :
    tree'.file? path = some (KeyFile.privateText key) ∧
      tree'.file? (publicPath path) = some (KeyFile.publicText key) := by
  have hpair : (!(publicPath path).isEmpty) = true := by simp [publicPath_ne_empty]
  rw [save] at h
  obtain ⟨_, _, -, h⟩ := perform_bind_eq_ok_iff.mp h
  obtain ⟨_, half, hprivate, hpublic⟩ := perform_bind_eq_ok_iff.mp h
  rw [if_pos hpair] at hpublic
  have hframe := within_write (publicPath path) (KeyFile.publicText key) half
  rw [hpublic] at hframe
  have hplace : placeOf path ∉ [placeOf (publicPath path)] :=
    fun hmem => placeOf_append_ne path isEnding_pub (List.mem_singleton.mp hmem).symm
  exact ⟨(hframe.keeps hplace).file _ (file?_of_perform_write hprivate),
    file?_of_perform_write hpublic⟩

theorem ensure_of_holds (h : tree.holds path = true) (algorithm : String) (entropy : Bytes) :
    (ensure path algorithm entropy).perform tree = (.ok (path, publicPath path), tree) := by
  rw [ensure, perform_bind_ok _ (perform_holds path), h]
  rfl

theorem exists_of_ensure (hnone : tree.holds path = false)
    (h : (ensure path algorithm entropy).perform tree = (.ok paths, tree')) :
    ∃ scheme, algorithm = scheme.name ∧ paths = (path, publicPath path) ∧
      (save (.generate entropy scheme) path (publicPath path)).perform tree = (.ok (), tree') := by
  rw [ensure, perform_bind_ok _ (perform_holds path), hnone] at h
  dsimp only at h
  rw [if_pos (by simp)] at h
  cases hscheme : Scheme.ofName? algorithm with
  | none =>
      rw [hscheme] at h
      cases h
  | some scheme =>
      rw [hscheme] at h
      obtain ⟨_, after, hsave, hreturn⟩ := perform_bind_eq_ok_iff.mp h
      obtain ⟨hpaths, rfl⟩ := Prod.mk.inj hreturn
      exact ⟨scheme, LooseText.whole.inj (Scheme.ofName?_eq_some_iff.mp hscheme),
        (Except.ok.inj hpaths).symm,
        perform_of_rename_ok hsave⟩

theorem scheme_generate (entropy : Bytes) (scheme : Scheme) :
    (SigningKey.generate entropy scheme).scheme = scheme := by
  cases scheme <;> rfl

/-- After a call that returns, the path of the private key exists, and calling again changes
nothing, for whatever algorithm. Where something stood at the path, nothing has changed. Where
nothing did, a key of the algorithm has been saved with its public half, and it is loaded again. So
the path of the public key exists unless it was missing while something stood at that of the private
key. -/
theorem ensure_outcome (h : (ensure path algorithm entropy).perform tree = (.ok paths, tree')) :
    paths = (path, publicPath path) ∧
      (∀ algorithm' entropy',
        (ensure path algorithm' entropy').perform tree' = (.ok paths, tree')) ∧
      (tree.holds path = true → tree' = tree) ∧
      (tree.holds path = false →
        ∃ key : SigningKey, key.scheme.name = algorithm ∧ load tree' path = .ok key ∧
          tree'.file? path = some (KeyFile.privateText key) ∧
          tree'.file? (publicPath path) = some (KeyFile.publicText key)) ∧
      tree'.holds path = true ∧
      (tree'.holds (publicPath path) = true ↔
        (tree.holds path = true → tree.holds (publicPath path) = true)) := by
  cases hholds : tree.holds path with
  | true =>
      obtain ⟨hpaths, rfl⟩ := Prod.mk.inj ((ensure_of_holds hholds algorithm entropy).symm.trans h)
      obtain rfl := Except.ok.inj hpaths
      exact ⟨rfl, ensure_of_holds hholds, fun _ => rfl, by simp, hholds, by simp⟩
  | false =>
      obtain ⟨scheme, rfl, rfl, hsave⟩ := exists_of_ensure hholds h
      obtain ⟨hprivate, hpublic⟩ := file?_of_save hsave
      have hafter := holds_of_file? hprivate
      refine ⟨rfl, ensure_of_holds hafter, by simp, fun _ => ?_, hafter, ?_⟩
      · exact ⟨_, congrArg Scheme.name (scheme_generate entropy scheme), load_of_file? hprivate,
          hprivate, hpublic⟩
      · simp [holds_of_file? hpublic]

section Example

/-- A pair is made where there are no files, and both halves are there. -/
theorem exists_ensured : ∃ tree', (ensure "k1.pem" "ed25519" []).perform .empty =
      (.ok ("k1.pem", "k1.pem.pub"), tree') ∧
    tree'.holds "k1.pem.pub" = true ∧ ∃ key, load tree' "k1.pem" = .ok key := by
  have hresult : ((ensure "k1.pem" "ed25519" []).perform .empty).1 =
      .ok ("k1.pem", "k1.pem.pub") := by
    decide +kernel
  have hnone : FileTree.empty.holds "k1.pem" = false := by decide
  obtain ⟨-, -, -, hmade, -, hpublic⟩ := ensure_outcome (Prod.ext hresult rfl)
  obtain ⟨key, -, hload, -⟩ := hmade hnone
  exact ⟨_, Prod.ext hresult rfl, hpublic.mpr (by simp [hnone]), key, hload⟩

/-- A key that has been saved without its public half. -/
def soleKey : SigningKey :=
  .generate [] .ed25519

def soleTree : FileTree :=
  ((save soleKey "k1.pem" "").perform .empty).2

/-- A key is there, and its public half is not made: that of the two paths does not exist. -/
theorem public_missing_of_ensure :
    load soleTree "k1.pem" = .ok soleKey ∧
      (ensure "k1.pem" "ed25519" []).perform soleTree =
        (.ok ("k1.pem", "k1.pem.pub"), soleTree) ∧
      soleTree.holds "k1.pem.pub" = false := by
  have hfile : soleTree.file? "k1.pem" = some (KeyFile.privateText soleKey) := by decide +kernel
  exact ⟨load_of_file? hfile, ensure_of_holds (holds_of_file? hfile) "ed25519" [],
    by decide +kernel⟩

end Example

end TransparencyLog.KeyPair
