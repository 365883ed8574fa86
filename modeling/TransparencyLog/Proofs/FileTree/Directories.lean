import TransparencyLog.Proofs.FileTree.Action
import TransparencyLog.Proofs.Text.Blank

namespace TransparencyLog.FileAction

open FileTree

variable {tree : FileTree}

section Directories

variable {path : String}

theorem within_makeDirectory (path : String) : Within [] (makeDirectory path) := by
  intro tree
  rw [makeDirectory, perform_ask_bind]
  cases tree.locateNew path with
  | error fault => exact Frame.refl [] tree
  | ok place =>
      dsimp only
      rw [perform_bind_ok _ perform_get]
      split
      · exact Frame.refl [] tree
      · rename_i hnode
        exact Frame.setDirectory hnode

/-- The directory at a path alone, the way there being there. -/
def makeLast (path : String) : FileAction FileFault Unit :=
  tryCatch (makeDirectory path) fun fault => do
    if (← get).at? path ≠ some .directory then throw fault

/-- The directories on the way to a path. -/
def makeWay (fuel : Nat) (path : String) : FileAction FileFault Unit :=
  tryCatch (makeDirectories fuel (String.ofList (splitPath path.toList).1)) fun
    | .blocked .occupied _ => return ()
    | fault => throw fault

/-- Whether a path asks for a directory on the way to it. -/
def asksForWay (path : String) : Bool :=
  !(splitPath path.toList).1.isEmpty && !(splitPath path.toList).2.isEmpty

theorem makeDirectories_succ (fuel : Nat) (path : String) :
    makeDirectories (fuel + 1) path =
      holds (String.ofList (splitPath path.toList).1) >>= fun held =>
        if asksForWay path && !held then
          makeWay fuel path >>= fun _ =>
            if (splitPath path.toList).2 = ['.'] then pure () else makeLast path
        else makeLast path := by
  rw [makeDirectories]
  rfl

theorem within_makeLast (path : String) : Within [] (makeLast path) := by
  refine within_tryCatch (within_makeDirectory path) fun fault tree => ?_
  rw [perform_bind_ok _ perform_get]
  split
  · exact Frame.refl [] tree
  · exact Frame.refl [] tree

theorem within_makeDirectories (fuel : Nat) (path : String) :
    Within [] (makeDirectories fuel path) := by
  -- each directory on the way takes one unit of the fuel, whatever its path is
  induction fuel generalizing path with
  | zero => exact within_pure ()
  | succ fuel ih =>
      have hway : Within [] (makeWay fuel path) := by
        refine within_tryCatch (ih _) fun fault => ?_
        split
        · exact within_pure ()
        · exact within_throw _
      rw [makeDirectories_succ]
      refine within_bind (within_holds _) fun held => ?_
      split
      · refine within_bind hway fun _ => ?_
        split
        · exact within_pure ()
        · exact within_makeLast path
      · exact within_makeLast path

theorem within_ensureParent (path : String) : Within [] (ensureParent path) :=
  within_makeDirectories _ _

theorem perform_makeLast (hbare : bare path = path) (hdirectory : tree.at? path = some .directory) :
    (makeLast path).perform tree = (.ok (), tree) := by
  have hmake : ∃ fault, (makeDirectory path).perform tree = (.error fault, tree) := by
    rw [makeDirectory, perform_ask_bind]
    cases h : tree.locateNew path with
    | error fault => exact ⟨fault, rfl⟩
    | ok place =>
        have hlocate : tree.locate path = .ok place := by
          have hnew := locateNew_eq_ok_iff.mp h
          rw [hbare] at hnew
          exact locate_eq_ok_iff.mpr hnew
        rw [FileTree.at?, hlocate] at hdirectory
        dsimp only at hdirectory ⊢
        rw [perform_bind_ok _ perform_get, hdirectory]
        exact ⟨_, rfl⟩
  obtain ⟨fault, hmake⟩ := hmake
  rw [makeLast, perform_tryCatch, hmake]
  dsimp only
  rw [perform_bind_ok _ perform_get, if_neg (by simpa using hdirectory)]
  rfl

theorem perform_makeDirectories (fuel : Nat) (hbare : bare path = path)
    (hdirectory : tree.at? path = some .directory)
    (hway : asksForWay path = true → tree.holds (String.ofList (splitPath path.toList).1) = true) :
    (makeDirectories (fuel + 1) path).perform tree = (.ok (), tree) := by
  rw [makeDirectories_succ, perform_bind_ok _ (perform_holds _), if_neg]
  · exact perform_makeLast hbare hdirectory
  · intro h
    rw [Bool.and_eq_true] at h
    simp [hway h.1] at h

end Directories

section Head

variable {path : String} {place : Place}

/-- A path is a name alone, a name at the top of all files, or a name after its head, with slashes
in between. -/
inductive HeadForm (cs : List Char) : Prop
  | none (h : head cs = [])
  | top (k : Nat) (last : List Char) (hlast : '/' ∉ last)
      (h : head cs = List.replicate (k + 1) '/') (hcs : cs = head cs ++ last)
  | below (k : Nat) (last : List Char) (hlast : '/' ∉ last) (hne : head cs ≠ [])
      (hend : (head cs).getLast? ≠ some '/')
      (hcs : cs = head cs ++ (List.replicate (k + 1) '/' ++ last))

theorem exists_eq_trimEnd_slashes (cs : List Char) :
    ∃ k, cs = Text.trimEnd (· = '/') cs ++ List.replicate k '/' := by
  obtain ⟨slashes, hslashes, hcs⟩ := Text.exists_eq_trimEnd_append (· = '/') cs
  have hrun : slashes = List.replicate slashes.length '/' :=
    List.eq_replicate_iff.mpr ⟨rfl, fun c hc => by simpa using hslashes c hc⟩
  rw [hrun] at hcs
  exact ⟨_, hcs⟩

theorem headForm (cs : List Char) : HeadForm cs := by
  have hparts : cs.rdropWhile (· ≠ '/') ++ cs.rtakeWhile (· ≠ '/') = cs :=
    List.rdropWhile_append_rtakeWhile
  have hlast : '/' ∉ cs.rtakeWhile (· ≠ '/') := by
    intro hmem
    simpa using List.mem_rtakeWhile_imp hmem
  have hslash : ∀ h : cs.rdropWhile (· ≠ '/') ≠ [],
      (cs.rdropWhile (· ≠ '/')).getLast h = '/' := by
    intro h
    simpa using List.rdropWhile_last_not (p := fun c => decide (c ≠ '/')) (l := cs) h
  have hhead : head cs = if (Text.trimEnd (· = '/') (cs.rdropWhile (· ≠ '/'))).isEmpty then
      cs.rdropWhile (· ≠ '/') else Text.trimEnd (· = '/') (cs.rdropWhile (· ≠ '/')) := rfl
  -- the last name comes after a slash, and the head is what is left without slashes before it
  obtain ⟨k, hrun⟩ := exists_eq_trimEnd_slashes (cs.rdropWhile (· ≠ '/'))
  have hend := @Text.getLast?_trimEnd (· = '/') (cs.rdropWhile (· ≠ '/'))
  generalize cs.rdropWhile (· ≠ '/') = before at *
  generalize cs.rtakeWhile (· ≠ '/') = last at *
  generalize Text.trimEnd (· = '/') before = trimmed at *
  by_cases hbefore : before = []
  · subst hbefore
    have hnil : trimmed = [] := (List.append_eq_nil_iff.mp hrun.symm).1
    exact .none (by simp [hhead, hnil])
  obtain ⟨k, rfl⟩ : ∃ n, k = n + 1 := by
    cases k with
    | succ k => exact ⟨k, rfl⟩
    | zero =>
        rw [List.replicate_zero, List.append_nil] at hrun
        subst hrun
        have hno := hend '/' (by
          rw [List.getLast?_eq_some_getLast hbefore, hslash hbefore]
          rfl)
        simp at hno
  by_cases htrimmed : trimmed = []
  · subst htrimmed
    rw [List.nil_append] at hrun
    have hheadEq : head cs = before := by simp [hhead]
    exact .top k last hlast (hheadEq.trans hrun) (by rw [hheadEq, hparts])
  · have hheadEq : head cs = trimmed := by simp [hhead, htrimmed]
    refine .below k last hlast (by rwa [hheadEq]) ?_ ?_
    · rw [hheadEq]
      intro heq
      simpa using hend '/' heq
    · rw [hheadEq, ← List.append_assoc, ← hrun, hparts]

theorem pieces_replicate_append (n : Nat) {last : List Char} (hlast : '/' ∉ last) :
    pieces (List.replicate n '/' ++ last) = List.replicate n [] ++ [last] := by
  induction n with
  | zero => exact pieces_of_not_mem hlast
  | succ n ih =>
      rw [List.replicate_succ, List.replicate_succ, List.cons_append, List.cons_append, ← ih]
      exact if_pos rfl

theorem leads_replicate_nil (n : Nat) (h : tree.node? place = some .directory) :
    tree.Leads place (List.replicate n []) place := by
  induction n with
  | zero => exact .nil place
  | succ n ih => exact .cons h (by decide) ih

theorem startOf_of_append {front rest : List Char} (h : front ≠ []) :
    startOf (String.ofList (front ++ rest)) = startOf (String.ofList front) := by
  cases front with
  | nil => exact absurd rfl h
  | cons c front => simp [startOf]

theorem check_front {front rest : List Char} (hcheck : check path = .ok ())
    (hpath : path.toList = front ++ rest) (hfront : front ≠ []) :
    check (String.ofList front) = .ok () := by
  have heq : path = String.ofList front ++ String.ofList rest := by
    rw [← String.ofList_append, ← hpath, String.ofList_toList]
  rw [heq] at hcheck
  exact check_of_append hcheck (by simpa using hfront)

theorem at?_head (hlocate : tree.locate path = .ok place) (hhead : head path.toList ≠ []) :
    tree.at? (String.ofList (head path.toList)) = some .directory := by
  obtain ⟨hcheck, hleads⟩ := locate_eq_ok_iff.mp hlocate
  cases headForm path.toList with
  | none h => exact absurd h hhead
  | top k last hlast h hpath =>
      -- slashes alone lead nowhere else, and the top of all files is a directory
      have hstart : startOf (String.ofList (head path.toList)) = ["/"] := by
        rw [h, startOf, String.toList_ofList]
        rfl
      have hroot : tree.node? ["/"] = some .directory := node?_of_special (.inr rfl)
      have hpieces := pieces_replicate_append (k + 1) (List.not_mem_nil : '/' ∉ [])
      rw [List.append_nil, ← h, ← List.replicate_succ'] at hpieces
      have hall : tree.locate (String.ofList (head path.toList)) = .ok ["/"] := by
        refine locate_eq_ok_iff.mpr ⟨check_front hcheck hpath hhead, ?_⟩
        rw [hstart, String.toList_ofList, hpieces]
        exact leads_replicate_nil _ hroot
      rw [FileTree.at?, hall]
      exact hroot
  | below k last hlast _ _ hpath =>
      -- the names of the head come first in the path, and others have been followed from there
      have hstart : startOf (String.ofList (head path.toList)) = startOf path := by
        rw [← startOf_of_append hhead, ← hpath, String.ofList_toList]
      rw [hpath, List.replicate_succ, List.cons_append, pieces_append_slash,
        pieces_replicate_append k hlast] at hleads
      obtain ⟨middle, hfront, hrest⟩ := leads_append_iff.mp hleads
      have hdirectory := hrest.directory_of_ne_nil (by simp)
      have hall : tree.locate (String.ofList (head path.toList)) = .ok middle := by
        refine locate_eq_ok_iff.mpr ⟨check_front hcheck hpath hhead, ?_⟩
        rw [hstart, String.toList_ofList]
        exact hfront
      rw [FileTree.at?, hall]
      exact hdirectory

theorem exists_locate_of_at? {node : FileNode} (h : tree.at? path = some node) :
    ∃ place, tree.locate path = .ok place := by
  unfold FileTree.at? at h
  split at h
  · exact ⟨_, ‹_›⟩
  · cases h

theorem tail_eq_nil_iff {cs : List Char} : tail cs = [] ↔ cs = [] ∨ cs.getLast? = some '/' := by
  have htail : tail cs = cs.rtakeWhile (· ≠ '/') := rfl
  rw [htail]
  rcases List.eq_nil_or_concat cs with rfl | ⟨front, c, rfl⟩
  · simp
  · rw [List.concat_eq_append, List.rtakeWhile_concat, List.getLast?_concat]
    by_cases hc : c = '/'
    · simp [hc]
    · simp [hc]

theorem head_replicate (k : Nat) :
    head (List.replicate (k + 1) '/') = List.replicate (k + 1) '/' := by
  simp [head]

theorem bare_head (cs : List Char) :
    bare (String.ofList (head cs)) = String.ofList (head cs) := by
  cases headForm cs with
  | none h => rw [h]; rfl
  | top k last _ h _ => simp [bare, h]
  | below k last _ _ hend _ =>
      refine bare_eq_self ?_
      rw [String.toList_ofList]
      exact hend

theorem holds_way_of_head (hlocate : tree.locate path = .ok place)
    (hhead : head path.toList ≠ [])
    (hway : asksForWay (String.ofList (head path.toList)) = true) :
    tree.holds (String.ofList (splitPath (head path.toList)).1) = true := by
  rw [asksForWay, String.toList_ofList] at hway
  cases headForm path.toList with
  | none h => exact absurd h hhead
  | top k last _ h _ =>
      have htail : tail (List.replicate (k + 1) '/') = [] :=
        tail_eq_nil_iff.mpr (.inr (by simp [List.getLast?_replicate]))
      rw [h, splitPath, htail, head_replicate, htail] at hway
      simp at hway
  | below k last _ hne hend _ =>
      have htail : tail (head path.toList) ≠ [] := by
        rw [Ne, tail_eq_nil_iff, not_or]
        exact ⟨hne, hend⟩
      have hsplit : splitPath (head path.toList) =
          (head (head path.toList), tail (head path.toList)) := by
        rw [splitPath, if_neg (by simpa using htail)]
      rw [hsplit] at hway ⊢
      have hdirectory := at?_head hlocate hhead
      obtain ⟨middle, hmiddle⟩ := exists_locate_of_at? hdirectory
      have hfound := at?_head hmiddle (by
        rw [String.toList_ofList]
        simp only [Bool.and_eq_true, Bool.not_eq_true', List.isEmpty_eq_false_iff] at hway
        exact hway.1)
      rw [String.toList_ofList] at hfound
      rw [FileTree.holds, hfound]
      rfl

theorem at?_dot (tree : FileTree) : tree.at? "." = some .directory := by
  have hhere : tree.node? [] = some .directory := node?_of_special (.inl rfl)
  have hlocate : tree.locate "." = .ok [] :=
    locate_eq_ok_iff.mpr ⟨by decide, .cons hhere (by decide) (.nil _)⟩
  rw [FileTree.at?, hlocate]
  exact hhere

theorem perform_ensureParent (hlocate : tree.locate path = .ok place) :
    (ensureParent path).perform tree = (.ok (), tree) := by
  unfold ensureParent
  by_cases hhead : head path.toList = []
  · have hway : asksForWay "." = false := by decide
    rw [hhead]
    exact perform_makeDirectories _ rfl (at?_dot tree) fun h => absurd h (by simp [hway])
  · have hway := holds_way_of_head hlocate hhead
    simp only [List.isEmpty_iff, hhead, if_false]
    refine perform_makeDirectories _ (bare_head _) (at?_head hlocate hhead) ?_
    rw [String.toList_ofList]
    exact hway

end Head

end TransparencyLog.FileAction
