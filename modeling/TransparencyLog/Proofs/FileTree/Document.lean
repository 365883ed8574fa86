import TransparencyLog.FileTree.Document
import TransparencyLog.Proofs.FileTree.Directories
import TransparencyLog.Proofs.Json.Document

namespace TransparencyLog

open FileTree

namespace FileAction

variable {tree tree' : FileTree} {path : String} {octets : Bytes}

theorem isEnding_lock : IsEnding ".lock" :=
  ⟨by decide, 'l', by decide, by decide⟩

theorem isEnding_tmp : IsEnding ".tmp" :=
  ⟨by decide, 't', by decide, by decide⟩

theorem ne_empty_of_locate {place : Place} (h : tree.locate path = .ok place) : path ≠ "" :=
  (check_eq_ok_iff.mp (locate_eq_ok_iff.mp h).1).2.1

section Lock

theorem within_lock (path : String) : Within [placeOf (path ++ ".lock")] (lock path) :=
  within_bind ((within_ensureParent path).mono (by simp)) fun _ => within_touch _

theorem placeOf_not_mem (path : String) :
    placeOf path ∉ [placeOf (path ++ ".lock"), placeOf (path ++ ".tmp")] := by
  simp only [List.mem_cons, List.not_mem_nil, or_false, not_or]
  exact ⟨(placeOf_append_ne path isEnding_lock).symm, (placeOf_append_ne path isEnding_tmp).symm⟩

theorem keeps_of_lock {locked : FileTree} (h : (lock path).perform tree = (.ok (), locked)) :
    Keeps path tree locked := by
  have hframe := within_lock path tree
  rw [h] at hframe
  refine hframe.keeps fun hmem => placeOf_not_mem path ?_
  exact List.mem_cons.mpr (.inl (List.mem_singleton.mp hmem))

theorem file_lock {place : Place} (hfile : tree.node? place = some (.file octets)) :
    ((lock path).perform tree).2.node? place = some (.file octets) := by
  have hparent := ((within_ensureParent path tree).file place (by simp) octets).mpr hfile
  rw [lock, perform_bind]
  rcases hperform : (ensureParent path).perform tree with ⟨result, tree'⟩
  rw [hperform] at hparent
  cases result with
  | ok _ => exact file_touch hparent
  | error fault => exact hparent

theorem locate_of_lock (hne : path ≠ "") (h : (lock path).perform tree = (.ok (), tree')) :
    tree'.locateFile (path ++ ".lock") = .ok (placeOf (path ++ ".lock")) ∧
      tree'.HasHolder path ∧ tree'.locate path = .ok (placeOf path) := by
  have hlock : tree'.locateFile (path ++ ".lock") = .ok (placeOf (path ++ ".lock")) := by
    rw [lock, perform_bind] at h
    rcases hperform : (ensureParent path).perform tree with ⟨result, middle⟩
    rw [hperform] at h
    cases result with
    | error fault => cases h
    | ok _ =>
        dsimp only at h
        cases hlocate : middle.locateFile (path ++ ".lock") with
        | error fault =>
            rw [perform_touch_error hlocate] at h
            cases h
        | ok place =>
            obtain rfl := eq_placeOf_of_locateFile hlocate
            have hframe := within_touch (path ++ ".lock") middle
            rw [perform_touch hlocate] at h hframe
            obtain rfl := (Prod.mk.inj h).2
            have hnode := (locateFile_eq_ok_iff.mp hlocate).2.2
            refine hframe.locateFile hlocate ?_
            dsimp only
            split
            · rw [node?_set_self hnode]
              simp
            · exact hnode
  exact ⟨hlock, locate_of_append hne isEnding_lock.1 (locateFile_eq_ok_iff.mp hlock).1⟩

theorem perform_lock (hne : path ≠ "")
    (h : tree.locateFile (path ++ ".lock") = .ok (placeOf (path ++ ".lock"))) :
    (lock path).perform tree =
      (.ok (), if (tree.node? (placeOf (path ++ ".lock"))).isNone then
        tree.set (placeOf (path ++ ".lock")) (.file []) else tree) := by
  obtain ⟨-, hlocate⟩ := locate_of_append hne isEnding_lock.1 (locateFile_eq_ok_iff.mp h).1
  rw [lock, perform_bind_ok _ (perform_ensureParent hlocate), perform_touch h]

end Lock

section Store

theorem not_slash_of_isName (h : IsName (lastPiece path)) : path.toList.getLast? ≠ some '/' := by
  intro hlast
  obtain ⟨front, hpath⟩ := List.getLast?_eq_some_iff.mp hlast
  have hnil : lastPiece path = [] := by
    rw [lastPiece, hpath, pieces_append_slash]
    simp [pieces, List.getLastD_eq_getLast?]
  exact h (by simp [hnil])

theorem locateTarget_of_locate (h : tree.locate path = .ok (placeOf path))
    (hdirectory : tree.node? (placeOf path) ≠ some .directory) :
    tree.locateTarget path = .ok (placeOf path) ∧ IsName (lastPiece path) := by
  have hname : IsName (lastPiece path) := by
    by_contra hname
    exact hdirectory ((hasHolder_of_locate h).directory_of_not_isName hname)
  have hfile := locateFile_eq_ok_iff.mpr ⟨h, bare_eq_self (not_slash_of_isName hname), hdirectory⟩
  exact ⟨locateTarget_eq_ok_iff.mpr ⟨hfile, hname⟩, hname⟩

/-- A document can be stored at a path: nothing keeps its draft, nor itself, from being a file. -/
structure IsStorable (tree : FileTree) (path : String) : Prop where
  draft : tree.locateFile (path ++ ".tmp") = .ok (placeOf (path ++ ".tmp"))
  target : tree.locateTarget path = .ok (placeOf path)

theorem IsStorable.locate (h : IsStorable tree path) : tree.locate path = .ok (placeOf path) :=
  (locateFile_eq_ok_iff.mp (locateTarget_eq_ok_iff.mp h.target).1).1

theorem IsStorable.ne_empty (h : IsStorable tree path) : path ≠ "" :=
  ne_empty_of_locate h.locate

theorem IsStorable.isName (h : IsStorable tree path) : IsName (lastPiece path) :=
  (locateTarget_eq_ok_iff.mp h.target).2

theorem IsStorable.not_directory (h : IsStorable tree path) :
    tree.node? (placeOf path) ≠ some .directory :=
  (locateFile_eq_ok_iff.mp (locateTarget_eq_ok_iff.mp h.target).1).2.2

theorem IsStorable.draft_not_directory (h : IsStorable tree path) :
    tree.node? (placeOf (path ++ ".tmp")) ≠ some .directory :=
  (locateFile_eq_ok_iff.mp h.draft).2.2

theorem IsStorable.of_frame {written : List Place} (h : IsStorable tree path)
    (hframe : Frame written tree tree')
    (hdraft : tree'.node? (placeOf (path ++ ".tmp")) ≠ some .directory)
    (htarget : tree'.node? (placeOf path) ≠ some .directory) : IsStorable tree' path :=
  ⟨hframe.locateFile h.draft hdraft,
    (locateTarget_of_locate (hframe.locate h.locate) htarget).1⟩

theorem perform_store_error {document : Value} {fault : FileFault} {place : Place}
    (hlocate : tree.locate path = .ok place)
    (h : tree.locateFile (path ++ ".tmp") = .error fault) :
    (store path document).perform tree = (.error (.file fault), tree) := by
  rw [store, perform_bind_ok _ (perform_rename_ok _ (perform_ensureParent hlocate)),
    perform_bind_error _ (perform_rename_error _ (perform_write_error h))]

theorem exists_perform_store {document : Value} (h : IsStorable tree path)
    (hdocument : documentOctets document = .ok octets) :
    ∃ tree', (store path document).perform tree = (.ok (), tree') ∧
      tree'.node? (placeOf path) = some (.file octets) ∧
      tree'.node? (placeOf (path ++ ".tmp")) = none ∧
      ∀ other, other ≠ placeOf (path ++ ".tmp") → other ≠ placeOf path →
        tree'.node? other = tree.node? other := by
  have hne : placeOf (path ++ ".tmp") ≠ placeOf path :=
    placeOf_append_ne path isEnding_tmp
  have hparent := perform_ensureParent h.locate
  -- the draft is opened before the document is printed, and written after that
  obtain ⟨opened, hopen, hopened, hrest⟩ := exists_perform_write [] h.draft
  have hstorable : IsStorable opened path := by
    have hframe : Frame [placeOf (path ++ ".tmp")] tree opened :=
      .of_forall (fun other hother => hrest other (by simpa using hother))
        (by simpa using h.draft_not_directory)
    refine h.of_frame hframe ?_ ?_
    · rw [hopened]
      simp
    · rw [hrest _ hne.symm]
      exact h.not_directory
  obtain ⟨drafted, hwrite, hdrafted, hrest'⟩ := exists_perform_write octets hstorable.draft
  have hstorable' : IsStorable drafted path := by
    have hframe : Frame [placeOf (path ++ ".tmp")] opened drafted :=
      .of_forall (fun other hother => hrest' other (by simpa using hother))
        (by simpa using hstorable.draft_not_directory)
    refine hstorable.of_frame hframe ?_ ?_
    · rw [hdrafted]
      simp
    · rw [hrest' _ hne.symm]
      exact hstorable.not_directory
  obtain ⟨tree', hreplace, htarget, horigin, hrest''⟩ := exists_perform_replace
    (locateFile_eq_ok_iff.mp hstorable'.draft).1 hdrafted hstorable'.target hne
  refine ⟨tree', ?_, htarget, horigin, ?_⟩
  · rw [store, perform_bind_ok _ (perform_rename_ok _ hparent),
      perform_bind_ok _ (perform_rename_ok _ hopen), hdocument]
    dsimp only
    rw [perform_bind_ok _ (perform_rename_ok _ hwrite), perform_rename_ok _ hreplace]
  · intro other hother hother'
    rw [hrest'' other hother hother', hrest' other hother, hrest other hother]

theorem failsAs_store {document : Value} (path : String)
    (hdocument : documentOctets document = .ok octets) :
    FailsAs (fun fault => ∃ cause, fault = .file cause) (store path document) := by
  have hfile : ∀ action : FileAction FileFault Unit,
      FailsAs (fun fault => ∃ cause, fault = StoreFault.file cause) (rename .file action) :=
    fun action => failsAs_rename (fun _ _ _ => trivial) fun cause (_ : True) => ⟨cause, rfl⟩
  refine failsAs_bind (hfile _) fun _ => failsAs_bind (hfile _) fun _ => ?_
  rw [hdocument]
  exact failsAs_bind (hfile _) fun _ => hfile _

end Store

section Settled

/-- A document can be stored at a path, and the turn to change it can be taken. -/
structure IsSettled (tree : FileTree) (path : String) : Prop extends IsStorable tree path where
  lock : tree.locateFile (path ++ ".lock") = .ok (placeOf (path ++ ".lock"))

theorem IsSettled.of_frame {written : List Place} (h : IsSettled tree path)
    (hframe : Frame written tree tree')
    (hlock : tree'.node? (placeOf (path ++ ".lock")) ≠ some .directory)
    (hdraft : tree'.node? (placeOf (path ++ ".tmp")) ≠ some .directory)
    (htarget : tree'.node? (placeOf path) ≠ some .directory) : IsSettled tree' path :=
  ⟨h.toIsStorable.of_frame hframe hdraft htarget, hframe.locateFile h.lock hlock⟩

theorem IsSettled.lock_not_directory (h : IsSettled tree path) :
    tree.node? (placeOf (path ++ ".lock")) ≠ some .directory :=
  (locateFile_eq_ok_iff.mp h.lock).2.2

theorem IsStorable.places_ne (h : IsStorable tree path) :
    placeOf (path ++ ".tmp") ≠ placeOf path ∧ placeOf (path ++ ".lock") ≠ placeOf path ∧
      placeOf (path ++ ".lock") ≠ placeOf (path ++ ".tmp") := by
  refine ⟨?_, ?_, ?_⟩
  · exact placeOf_append_ne path isEnding_tmp
  · exact placeOf_append_ne path isEnding_lock
  · exact placeOf_append_ne_append h.ne_empty isEnding_lock isEnding_tmp (by decide)

theorem IsSettled.exists_perform_lock (h : IsSettled tree path) :
    ∃ tree', (FileAction.lock path).perform tree = (.ok (), tree') ∧ IsSettled tree' path ∧
      tree'.node? (placeOf path) = tree.node? (placeOf path) := by
  obtain ⟨-, hlock, hlock'⟩ := h.places_ne
  have hperform := perform_lock h.ne_empty h.lock
  have hframe := within_lock path tree
  rw [hperform] at hframe
  refine ⟨_, hperform, ?_⟩
  dsimp only at hframe ⊢
  split
  · rename_i hnone
    rw [if_pos hnone] at hframe
    have hself := h.lock_not_directory
    refine ⟨h.of_frame hframe ?_ ?_ ?_, node?_set_of_ne hlock.symm⟩
    · rw [node?_set_self hself]
      simp
    · rw [node?_set_of_ne hlock'.symm]
      exact h.draft_not_directory
    · rw [node?_set_of_ne hlock.symm]
      exact h.not_directory
  · exact ⟨h, rfl⟩

theorem IsSettled.exists_perform_store {document : Value} (h : IsSettled tree path)
    (hdocument : documentOctets document = .ok octets) :
    ∃ tree', (store path document).perform tree = (.ok (), tree') ∧ IsSettled tree' path ∧
      tree'.node? (placeOf path) = some (.file octets) := by
  obtain ⟨hdraft, hlock, hlock'⟩ := h.places_ne
  obtain ⟨tree', hperform, htarget, hgone, hrest⟩ :=
    FileAction.exists_perform_store h.toIsStorable hdocument
  have hframe : Frame [placeOf (path ++ ".tmp"), placeOf path] tree tree' := by
    refine .of_forall (fun other hother => ?_) ?_
    · simp only [List.mem_cons, List.not_mem_nil, or_false, not_or] at hother
      exact hrest other hother.1 hother.2
    · simp only [List.mem_cons, List.not_mem_nil, or_false, forall_eq_or_imp, forall_eq]
      exact ⟨h.draft_not_directory, h.not_directory⟩
  refine ⟨tree', hperform, h.of_frame hframe ?_ ?_ ?_, htarget⟩
  · rw [hrest _ hlock' hlock]
    exact h.lock_not_directory
  · rw [hgone]
    simp
  · rw [htarget]
    simp

/-- The turn to change a document can be taken, and after that it can be stored. -/
def IsReady (tree : FileTree) (path : String) : Prop :=
  ∃ tree', (FileAction.lock path).perform tree = (.ok (), tree') ∧ IsSettled tree' path

theorem IsSettled.isReady (h : IsSettled tree path) : IsReady tree path := by
  obtain ⟨tree', hperform, hsettled, -⟩ := h.exists_perform_lock
  exact ⟨tree', hperform, hsettled⟩

theorem exists_of_perform_store {document : Value}
    (h : ((store path document).perform tree).1 = .ok ()) :
    ∃ made opened drafted octets, (ensureParent path).perform tree = (.ok (), made) ∧
      (write (path ++ ".tmp") []).perform made = (.ok (), opened) ∧
      (write (path ++ ".tmp") octets).perform opened = (.ok (), drafted) ∧
      ((replace (path ++ ".tmp") path).perform drafted).1 = .ok () := by
  obtain ⟨_, made, hmake, h⟩ := exists_of_perform_bind h
  obtain ⟨_, opened, hopen, h⟩ := exists_of_perform_bind h
  split at h
  · cases h
  · rename_i octets _
    obtain ⟨_, drafted, hwrite, h⟩ := exists_of_perform_bind h
    exact ⟨made, opened, drafted, octets, perform_of_rename_ok hmake, perform_of_rename_ok hopen,
      perform_of_rename_ok hwrite, perform_fst_of_rename h⟩

theorem exists_locateTarget_of_perform_replace {source : String}
    (h : ((replace source path).perform tree).1 = .ok ()) :
    ∃ place, tree.locateTarget path = .ok place := by
  obtain ⟨_, _, hread, h⟩ := exists_of_perform_bind h
  rw [read, perform_ask] at hread
  obtain rfl := (Prod.mk.inj hread).2
  obtain ⟨_, _, horigin, h⟩ := exists_of_perform_bind h
  rw [perform_ask] at horigin
  obtain rfl := (Prod.mk.inj horigin).2
  obtain ⟨place, _, htarget, -⟩ := exists_of_perform_bind h
  have hask := perform_of_rename_ok htarget
  rw [perform_ask] at hask
  exact ⟨place, (Prod.mk.inj hask).1⟩

theorem locateFile_of_perform_write (h : ((write path octets).perform tree).1 = .ok ()) :
    tree.locateFile path = .ok (placeOf path) := by
  cases hlocate : tree.locateFile path with
  | error fault =>
      rw [perform_write_error hlocate] at h
      cases h
  | ok place => rw [eq_placeOf_of_locateFile hlocate]

theorem isSettled_of_perform_store {document : Value}
    (hlock : (FileAction.lock path).perform tree = (.ok (), tree'))
    (hstore : ((store path document).perform tree').1 = .ok ()) : IsSettled tree' path := by
  obtain ⟨made, opened, drafted, octets, hmake, hopen, hwrite, hreplace⟩ :=
    exists_of_perform_store hstore
  obtain ⟨place, htarget⟩ := exists_locateTarget_of_perform_replace hreplace
  obtain ⟨hlocate, -, hnode⟩ := locateFile_eq_ok_iff.mp (locateTarget_eq_ok_iff.mp htarget).1
  obtain rfl := eq_placeOf_of_locate hlocate
  obtain ⟨hlocked, -, hlocate'⟩ := locate_of_lock (ne_empty_of_locate hlocate) hlock
  rw [perform_ensureParent hlocate'] at hmake
  obtain rfl := (Prod.mk.inj hmake).2
  have hdraft : tree'.locateFile (path ++ ".tmp") = .ok (placeOf (path ++ ".tmp")) :=
    locateFile_of_perform_write (by rw [hopen])
  -- no directory goes away, so there was none where the document came to stand
  have hopened := within_write (path ++ ".tmp") [] tree'
  have hdrafted := within_write (path ++ ".tmp") octets opened
  rw [hopen] at hopened
  rw [hwrite] at hdrafted
  have hnode' : tree'.node? (placeOf path) ≠ some .directory := fun hdirectory =>
    hnode (hdrafted.directory _ (hopened.directory _ hdirectory))
  exact ⟨⟨hdraft, (locateTarget_of_locate hlocate' hnode').1⟩, hlocked⟩

end Settled

section Octets

open Json

theorem exists_documentOctets {document : Value} (h : IsDocument document)
    (hnesting : Value.nesting document ≤ nestingLimit) :
    ∃ octets, documentOctets document = .ok octets ∧ loadFile octets = .ok document := by
  obtain ⟨cs, hprint⟩ := h.exists_chars Layout.isPlain_indented 0
  refine ⟨Utf8.encodeChars (cs ++ ['\n']), ?_, loadFile_encodeChars Layout.isSpaced_indented
    Layout.isPlain_indented h hnesting hprint (by simp)⟩
  rw [documentOctets, print_of_printChars hprint]
  simp [Utf8.encode]

end Octets

end FileAction

end TransparencyLog
