import TransparencyLog.FileTree.Action
import TransparencyLog.Proofs.FileTree.Place

namespace TransparencyLog

open FileTree

/-- Outside some places, a tree has the files of another one; it has all its directories. -/
structure FileTree.Frame (written : List Place) (tree tree' : FileTree) : Prop where
  directory : ∀ place, tree.node? place = some .directory → tree'.node? place = some .directory
  file : ∀ place ∉ written, ∀ octets,
    tree'.node? place = some (.file octets) ↔ tree.node? place = some (.file octets)

namespace FileTree.Frame

variable {written more : List Place} {tree tree' tree'' : FileTree}

theorem refl (written : List Place) (tree : FileTree) : Frame written tree tree :=
  ⟨fun _ h => h, fun _ _ _ => Iff.rfl⟩

theorem trans (h : Frame written tree tree') (h' : Frame written tree' tree'') :
    Frame written tree tree'' :=
  ⟨fun place hplace => h'.directory place (h.directory place hplace),
    fun place hplace octets => (h'.file place hplace octets).trans (h.file place hplace octets)⟩

theorem mono (h : Frame written tree tree') (hmore : ∀ place ∈ written, place ∈ more) :
    Frame more tree tree' :=
  ⟨h.directory, fun place hplace => h.file place fun hmem => hplace (hmore place hmem)⟩

theorem locate {path : String} {place : Place} (h : Frame written tree tree')
    (hlocate : tree.locate path = .ok place) : tree'.locate path = .ok place := by
  obtain ⟨hcheck, hleads⟩ := locate_eq_ok_iff.mp hlocate
  exact locate_eq_ok_iff.mpr ⟨hcheck, hleads.mono h.directory⟩

theorem locateFile {path : String} {place : Place} (h : Frame written tree tree')
    (hlocate : tree.locateFile path = .ok place)
    (hnode : tree'.node? place ≠ some .directory) : tree'.locateFile path = .ok place := by
  obtain ⟨hlocate, hbare, -⟩ := locateFile_eq_ok_iff.mp hlocate
  exact locateFile_eq_ok_iff.mpr ⟨h.locate hlocate, hbare, hnode⟩

theorem of_forall (hsame : ∀ place ∉ written, tree'.node? place = tree.node? place)
    (hwritten : ∀ place ∈ written, tree.node? place ≠ some .directory) :
    Frame written tree tree' := by
  refine ⟨fun place hplace => ?_, fun place hplace octets => ?_⟩
  · rw [hsame place fun hmem => hwritten place hmem hplace]
    exact hplace
  · rw [hsame place hplace]

theorem set {place : Place} {octets : Bytes} (h : tree.node? place ≠ some .directory) :
    Frame [place] tree (tree.set place (.file octets)) :=
  of_forall (fun _ hother => node?_set_of_ne (by simpa using hother)) (by simpa using h)

theorem setDirectory {place : Place} (h : tree.node? place = none) :
    Frame [] tree (tree.set place .directory) := by
  have hself : (tree.set place .directory).node? place = some .directory :=
    node?_set_self (by simp [h])
  refine ⟨fun other hother => ?_, fun other _ content => ?_⟩
  · by_cases hne : other = place
    · rw [hne]
      exact hself
    · rw [node?_set_of_ne hne]
      exact hother
  · by_cases hne : other = place
    · rw [hne, hself, h]
      simp
    · rw [node?_set_of_ne hne]

end FileTree.Frame

namespace FileTree

/-- No file stands at the place that a path leads to. -/
def Lacks (tree : FileTree) (path : String) : Prop :=
  ∀ octets, tree.node? (placeOf path) ≠ some (.file octets)

/-- The file at a path stays as it was, or is still missing, and it can be opened if it could be
opened before. -/
structure Keeps (path : String) (tree tree' : FileTree) : Prop where
  node : ∀ octets, tree'.node? (placeOf path) = some (.file octets) ↔
    tree.node? (placeOf path) = some (.file octets)
  file : ∀ octets, tree.file? path = some octets → tree'.file? path = some octets

variable {path : String} {tree tree' : FileTree}

theorem Keeps.refl (path : String) (tree : FileTree) : Keeps path tree tree :=
  ⟨fun _ => Iff.rfl, fun _ h => h⟩

theorem Frame.keeps {written : List Place} (h : Frame written tree tree')
    (hplace : placeOf path ∉ written) : Keeps path tree tree' := by
  refine ⟨fun octets => h.file _ hplace octets, fun octets hfile => ?_⟩
  obtain ⟨hlocate, hnode⟩ := file?_eq_some_iff.mp hfile
  exact file?_of_locate (h.locate hlocate) ((h.file _ hplace octets).mpr hnode)

end FileTree

/-- Each file of a tree still stands in another one, or one that may replace it stands there. -/
def FileTree.Spares (replaces : Place → Bytes → Prop) (tree tree' : FileTree) : Prop :=
  ∀ place octets, tree.node? place = some (.file octets) →
    tree'.node? place = some (.file octets) ∨
      ∃ octets', replaces place octets' ∧ tree'.node? place = some (.file octets')

namespace FileTree.Spares

variable {replaces more : Place → Bytes → Prop} {tree tree' tree'' : FileTree}

theorem refl (replaces : Place → Bytes → Prop) (tree : FileTree) : Spares replaces tree tree :=
  fun _ _ h => .inl h

theorem trans (h : Spares replaces tree tree') (h' : Spares replaces tree' tree'') :
    Spares replaces tree tree'' := by
  intro place octets hfile
  rcases h place octets hfile with hkept | ⟨octets', hreplaces, hreplaced⟩
  · exact h' place octets hkept
  · rcases h' place octets' hreplaced with hkept | hagain
    · exact .inr ⟨octets', hreplaces, hkept⟩
    · exact .inr hagain

theorem mono (h : Spares replaces tree tree')
    (hmore : ∀ place octets, replaces place octets → more place octets) :
    Spares more tree tree' := by
  intro place octets hfile
  rcases h place octets hfile with hkept | ⟨octets', hreplaces, hreplaced⟩
  · exact .inl hkept
  · exact .inr ⟨octets', hmore place octets' hreplaces, hreplaced⟩

theorem of_frame (h : Frame [] tree tree') : Spares replaces tree tree' :=
  fun place octets hfile => .inl ((h.file place (by simp) octets).mpr hfile)

theorem set {place : Place} {octets : Bytes} (h : tree.node? place ≠ some .directory) :
    Spares (fun other content => other = place ∧ content = octets) tree
      (tree.set place (.file octets)) := by
  intro other content hfile
  by_cases hother : other = place
  · exact .inr ⟨octets, ⟨hother, rfl⟩, by rw [hother, node?_set_self h]⟩
  · exact .inl (by rw [node?_set_of_ne hother, hfile])

end FileTree.Spares

namespace FileAction

variable {ε ε' α β : Type} {action : FileAction ε α} {tree tree' : FileTree}

section Perform

theorem perform_bind (next : α → FileAction ε β) :
    (action >>= next).perform tree =
      match action.perform tree with
      | (.ok a, tree') => (next a).perform tree'
      | (.error fault, tree') => (.error fault, tree') := by
  have hbind : (action >>= next).perform tree =
      ExceptT.bindCont next (action.perform tree).1 (action.perform tree).2 := rfl
  rw [hbind]
  rcases action.perform tree with ⟨result, tree'⟩
  cases result with
  | ok a => rfl
  | error fault => rfl

theorem perform_bind_ok {a : α} (next : α → FileAction ε β)
    (h : action.perform tree = (.ok a, tree')) :
    (action >>= next).perform tree = (next a).perform tree' := by
  rw [perform_bind, h]

theorem perform_bind_error {fault : ε} (next : α → FileAction ε β)
    (h : action.perform tree = (.error fault, tree')) :
    (action >>= next).perform tree = (.error fault, tree') := by
  rw [perform_bind, h]

@[simp] theorem perform_modify (change : FileTree → FileTree) :
    (modify change : FileAction ε Unit).perform tree = (.ok (), change tree) := rfl

@[simp] theorem perform_get : (get : FileAction ε FileTree).perform tree = (.ok tree, tree) := rfl

@[simp] theorem perform_holds (path : String) :
    (holds path : FileAction ε Bool).perform tree = (.ok (tree.holds path), tree) := rfl

@[simp] theorem perform_ask (question : FileTree → Except ε α) :
    (ask question).perform tree = (question tree, tree) := by
  rw [ask, perform_bind_ok _ perform_get]
  cases question tree with
  | ok a => rfl
  | error fault => rfl

@[simp] theorem perform_rename (wrap : ε → ε') :
    (rename wrap action).perform tree =
      ((action.perform tree).1.mapError wrap, (action.perform tree).2) := rfl

theorem perform_ask_bind (question : FileTree → Except ε α) (next : α → FileAction ε β) :
    (ask question >>= next).perform tree =
      match question tree with
      | .ok a => (next a).perform tree
      | .error fault => (.error fault, tree) := by
  rw [perform_bind, perform_ask]
  cases question tree with
  | ok a => rfl
  | error fault => rfl

theorem perform_tryCatch (handle : ε → FileAction ε α) :
    (tryCatch action handle).perform tree =
      match action.perform tree with
      | (.ok a, tree') => (.ok a, tree')
      | (.error fault, tree') => (handle fault).perform tree' := by
  have hcatch : (tryCatch action handle).perform tree =
      (match (action.perform tree).1 with
        | .ok a => (pure a : FileAction ε α)
        | .error fault => handle fault) (action.perform tree).2 := rfl
  rw [hcatch]
  rcases action.perform tree with ⟨result, tree'⟩
  cases result with
  | ok a => rfl
  | error fault => rfl

theorem exists_of_perform_bind {next : α → FileAction ε β} {b : β}
    (h : ((action >>= next).perform tree).1 = .ok b) :
    ∃ a tree', action.perform tree = (.ok a, tree') ∧ ((next a).perform tree').1 = .ok b := by
  rw [perform_bind] at h
  rcases hperform : action.perform tree with ⟨result, tree'⟩
  rw [hperform] at h
  cases result with
  | ok a => exact ⟨a, tree', rfl, h⟩
  | error fault => cases h

theorem perform_bind_eq_ok_iff {next : α → FileAction ε β} {b : β} {tree'' : FileTree} :
    (action >>= next).perform tree = (.ok b, tree'') ↔
      ∃ a tree', action.perform tree = (.ok a, tree') ∧
        (next a).perform tree' = (.ok b, tree'') := by
  rw [perform_bind]
  rcases action.perform tree with ⟨result, after⟩
  cases result with
  | ok a => simp
  | error fault => simp

theorem perform_rename_ok {a : α} (wrap : ε → ε') (h : action.perform tree = (.ok a, tree')) :
    (rename wrap action).perform tree = (.ok a, tree') := by
  rw [perform_rename, h]
  rfl

theorem perform_rename_error {fault : ε} (wrap : ε → ε')
    (h : action.perform tree = (.error fault, tree')) :
    (rename wrap action).perform tree = (.error (wrap fault), tree') := by
  rw [perform_rename, h]
  rfl

theorem perform_of_rename_ok {wrap : ε → ε'} {a : α}
    (h : (rename wrap action).perform tree = (.ok a, tree')) :
    action.perform tree = (.ok a, tree') := by
  rw [perform_rename] at h
  rcases hperform : action.perform tree with ⟨result, after⟩
  rw [hperform] at h
  obtain ⟨hresult, rfl⟩ := Prod.mk.inj h
  cases result with
  | ok b =>
      obtain rfl := Except.ok.inj hresult
      rfl
  | error fault => cases hresult

theorem perform_fst_of_rename {wrap : ε → ε'} {a : α}
    (h : ((rename wrap action).perform tree).1 = .ok a) : (action.perform tree).1 = .ok a := by
  rcases hperform : (rename wrap action).perform tree with ⟨result, after⟩
  rw [hperform] at h
  obtain rfl : result = .ok a := h
  rw [perform_of_rename_ok hperform]

theorem relation_bind (relation : FileTree → FileTree → Prop)
    (htrans : ∀ {tree tree' tree''}, relation tree tree' → relation tree' tree'' →
      relation tree tree'')
    {next : α → FileAction ε β} (h : ∀ tree, relation tree (action.perform tree).2)
    (hnext : ∀ a tree, relation tree ((next a).perform tree).2) (tree : FileTree) :
    relation tree ((action >>= next).perform tree).2 := by
  have hfirst := h tree
  rw [perform_bind]
  rcases hperform : action.perform tree with ⟨result, tree'⟩
  rw [hperform] at hfirst
  cases result with
  | ok a => exact htrans hfirst (hnext a tree')
  | error fault => exact hfirst

end Perform

section Faults

variable {sort : ε → Prop} {sort' : ε' → Prop}

/-- An action that fails does so with a fault of some sort. -/
def FailsAs (sort : ε → Prop) (action : FileAction ε α) : Prop :=
  ∀ tree fault, (action.perform tree).1 = .error fault → sort fault

theorem failsAs_bind {next : α → FileAction ε β} (h : FailsAs sort action)
    (hnext : ∀ a, FailsAs sort (next a)) : FailsAs sort (action >>= next) := by
  intro tree fault hfault
  rw [perform_bind] at hfault
  rcases hperform : action.perform tree with ⟨result, tree'⟩
  rw [hperform] at hfault
  cases result with
  | ok a => exact hnext a tree' fault hfault
  | error cause =>
      obtain rfl := Except.error.inj hfault
      exact h tree cause (congrArg Prod.fst hperform)

theorem failsAs_rename {wrap : ε → ε'} (h : FailsAs sort action)
    (hwrap : ∀ fault, sort fault → sort' (wrap fault)) : FailsAs sort' (rename wrap action) := by
  intro tree fault hfault
  rw [perform_rename] at hfault
  cases hresult : (action.perform tree).1 with
  | ok a =>
      rw [hresult] at hfault
      cases hfault
  | error cause =>
      rw [hresult] at hfault
      obtain rfl := Except.error.inj hfault
      exact hwrap cause (h tree cause hresult)

end Faults

section Within

variable {written : List Place}

/-- An action touches no files but those at some places, and takes away no directory. -/
def Within (written : List Place) (action : FileAction ε α) : Prop :=
  ∀ tree, Frame written tree (action.perform tree).2

theorem within_pure (a : α) : Within written (pure a : FileAction ε α) :=
  Frame.refl written

theorem within_throw (fault : ε) : Within written (throw fault : FileAction ε α) :=
  Frame.refl written

theorem within_holds (path : String) : Within written (holds path : FileAction ε Bool) :=
  Frame.refl written

theorem within_bind {next : α → FileAction ε β} (h : Within written action)
    (hnext : ∀ a, Within written (next a)) : Within written (action >>= next) :=
  relation_bind (Frame written) Frame.trans h hnext

theorem within_tryCatch {handle : ε → FileAction ε α} (h : Within written action)
    (hhandle : ∀ fault, Within written (handle fault)) :
    Within written (tryCatch action handle) := by
  intro tree
  have hfirst := h tree
  rw [perform_tryCatch]
  rcases hperform : action.perform tree with ⟨result, tree'⟩
  rw [hperform] at hfirst
  cases result with
  | ok a => exact hfirst
  | error fault => exact hfirst.trans (hhandle fault tree')

theorem Within.mono {more : List Place} (h : Within written action)
    (hmore : ∀ place ∈ written, place ∈ more) : Within more action :=
  fun tree => (h tree).mono hmore

end Within

section Write

variable {path : String} {octets : Bytes} {place : Place}

theorem perform_write (h : tree.locateFile path = .ok place) :
    (write path octets).perform tree = (.ok (), tree.set place (.file octets)) := by
  rw [write, perform_ask_bind, h]
  rfl

theorem perform_write_error {fault : FileFault} (h : tree.locateFile path = .error fault) :
    (write path octets).perform tree = (.error fault, tree) := by
  rw [write, perform_ask_bind, h]

theorem eq_placeOf_of_locateFile (h : tree.locateFile path = .ok place) : place = placeOf path :=
  eq_placeOf_of_locate (locateFile_eq_ok_iff.mp h).1

theorem within_write (path : String) (octets : Bytes) :
    Within [placeOf path] (write path octets) := by
  intro tree
  cases h : tree.locateFile path with
  | error fault =>
      rw [perform_write_error h]
      exact Frame.refl _ tree
  | ok place =>
      obtain rfl := eq_placeOf_of_locateFile h
      rw [perform_write h]
      exact Frame.set (locateFile_eq_ok_iff.mp h).2.2

theorem spares_write (path : String) (octets : Bytes) (tree : FileTree) :
    Spares (fun place content => place = placeOf path ∧ content = octets) tree
      ((write path octets).perform tree).2 := by
  cases h : tree.locateFile path with
  | error fault =>
      rw [perform_write_error h]
      exact Spares.refl _ tree
  | ok place =>
      obtain rfl := eq_placeOf_of_locateFile h
      rw [perform_write h]
      exact Spares.set (locateFile_eq_ok_iff.mp h).2.2

theorem exists_perform_write (octets : Bytes) (h : tree.locateFile path = .ok place) :
    ∃ tree', (write path octets).perform tree = (.ok (), tree') ∧
      tree'.node? place = some (.file octets) ∧
      ∀ other, other ≠ place → tree'.node? other = tree.node? other :=
  ⟨_, perform_write h, node?_set_self (locateFile_eq_ok_iff.mp h).2.2,
    fun _ hother => node?_set_of_ne hother⟩

theorem file?_of_perform_write (h : (write path octets).perform tree = (.ok (), tree')) :
    tree'.file? path = some octets := by
  have hframe := within_write path octets tree
  rw [h] at hframe
  cases hlocate : tree.locateFile path with
  | error fault =>
      rw [perform_write_error hlocate] at h
      cases h
  | ok place =>
      obtain rfl := eq_placeOf_of_locateFile hlocate
      obtain ⟨after, hperform, hnode, -⟩ := exists_perform_write octets hlocate
      obtain rfl := (Prod.mk.inj (hperform.symm.trans h)).2
      exact file?_of_locate (hframe.locate (locateFile_eq_ok_iff.mp hlocate).1) hnode

theorem perform_touch (h : tree.locateFile path = .ok place) :
    (touch path).perform tree =
      (.ok (), if (tree.node? place).isNone then tree.set place (.file []) else tree) := by
  rw [touch, perform_ask_bind, h]
  dsimp only
  rw [perform_bind_ok _ perform_get]
  split
  · rfl
  · rfl

theorem perform_touch_error {fault : FileFault} (h : tree.locateFile path = .error fault) :
    (touch path).perform tree = (.error fault, tree) := by
  rw [touch, perform_ask_bind, h]

theorem within_touch (path : String) : Within [placeOf path] (touch path) := by
  intro tree
  cases h : tree.locateFile path with
  | error fault =>
      rw [perform_touch_error h]
      exact Frame.refl _ tree
  | ok place =>
      obtain rfl := eq_placeOf_of_locateFile h
      rw [perform_touch h]
      split
      · exact Frame.set (locateFile_eq_ok_iff.mp h).2.2
      · exact Frame.refl _ tree

theorem file_touch {other : Place} {content : Bytes}
    (hfile : tree.node? other = some (.file content)) :
    ((touch path).perform tree).2.node? other = some (.file content) := by
  cases h : tree.locateFile path with
  | error fault =>
      rw [perform_touch_error h]
      exact hfile
  | ok place =>
      rw [perform_touch h]
      dsimp only
      split
      · rename_i hnone
        have hne : other ≠ place := by
          rintro rfl
          rw [hfile] at hnone
          cases hnone
        rw [node?_set_of_ne hne]
        exact hfile
      · exact hfile

end Write

section Replace

variable {source path : String} {octets : Bytes} {origin place : Place}

theorem perform_replace (hread : tree.read source = .ok octets)
    (horigin : tree.locate source = .ok origin) (htarget : tree.locateTarget path = .ok place) :
    (replace source path).perform tree =
      (.ok (), (tree.remove origin).set place (.file octets)) := by
  have htarget' : (rename (FileFault.ofMove source) (ask (·.locateTarget path))).perform tree =
      (.ok place, tree) := by
    rw [perform_rename, perform_ask, htarget]
    rfl
  rw [replace, read, perform_ask_bind, hread]
  dsimp only
  rw [perform_ask_bind, horigin]
  dsimp only
  rw [perform_bind_ok _ htarget', perform_modify]

theorem exists_perform_replace (hsource : tree.locate source = .ok origin)
    (hfile : tree.node? origin = some (.file octets)) (htarget : tree.locateTarget path = .ok place)
    (hne : origin ≠ place) :
    ∃ tree', (replace source path).perform tree = (.ok (), tree') ∧
      tree'.node? place = some (.file octets) ∧ tree'.node? origin = none ∧
      ∀ other, other ≠ origin → other ≠ place → tree'.node? other = tree.node? other := by
  have hread : tree.read source = .ok octets := by
    rw [FileTree.read, hsource]
    dsimp only
    rw [hfile]
  have horigin : tree.node? origin ≠ some .directory := by
    rw [hfile]
    simp
  have hplace : (tree.remove origin).node? place ≠ some .directory := by
    rw [node?_remove_of_ne hne.symm]
    exact (locateFile_eq_ok_iff.mp (locateTarget_eq_ok_iff.mp htarget).1).2.2
  refine ⟨_, perform_replace hread hsource htarget, node?_set_self hplace, ?_, ?_⟩
  · rw [node?_set_of_ne hne, node?_remove_self horigin]
  · intro other hother hother'
    rw [node?_set_of_ne hother', node?_remove_of_ne hother]

end Replace

end FileAction

end TransparencyLog
