import Mathlib.Data.List.Basic
import Mathlib.Data.List.Induction
import Mathlib.Logic.Function.Iterate
import TransparencyLog.FileTree
import TransparencyLog.Proofs.Outcome

namespace TransparencyLog.FileTree

/-- The place that a path names, whatever stands on the way there. -/
def placeOf (path : String) : Place :=
  (pieces path.toList).foldl step (startOf path)

/-- Names that are not too long lead from one place to another, through directories. -/
inductive Leads (tree : FileTree) : Place → List (List Char) → Place → Prop
  | nil (place : Place) : Leads tree place [] place
  | cons {place target : Place} {piece : List Char} {rest : List (List Char)}
      (hdirectory : tree.node? place = some .directory)
      (hlength : (String.ofList piece).utf8ByteSize ≤ nameLimit)
      (hrest : Leads tree (step place piece) rest target) : Leads tree place (piece :: rest) target

/-- All that is above a place is a directory. -/
def Rooted (tree : FileTree) (place : Place) : Prop :=
  ∀ n, tree.node? (above^[n + 1] place) = some .directory

variable {tree : FileTree} {path : String} {place target : Place} {piece : List Char}
  {names : List (List Char)}

section Node

variable {other : Place} {node : FileNode}

theorem node?_eq_lookup (h : ¬ (place.all (· = up) ∨ place = ["/"])) :
    tree.node? place = tree.nodes.lookup place :=
  if_neg h

theorem node?_of_special (h : place.all (· = up) ∨ place = ["/"]) :
    tree.node? place = some .directory :=
  if_pos h

theorem lookup_filter_ne (nodes : List (Place × FileNode)) (h : other ≠ place) :
    (nodes.filter fun entry => entry.1 ≠ place).lookup other = nodes.lookup other := by
  induction nodes with
  | nil => rfl
  | cons entry nodes ih =>
      obtain ⟨key, node⟩ := entry
      by_cases hkey : key = place
      · have hne : (other == key) = false := by simpa [hkey] using h
        rw [List.filter_cons_of_neg (by simp [hkey]), List.lookup_cons, hne, ih]
      · rw [List.filter_cons_of_pos (by simp [hkey]), List.lookup_cons, List.lookup_cons, ih]

theorem lookup_filter_self (nodes : List (Place × FileNode)) :
    (nodes.filter fun entry => entry.1 ≠ place).lookup place = none := by
  rw [List.lookup_eq_none_iff]
  intro entry hentry
  have hne : entry.1 ≠ place := by simpa using (List.mem_filter.mp hentry).2
  simpa using hne.symm

theorem node?_set_of_ne (h : other ≠ place) :
    (tree.set place node).node? other = tree.node? other := by
  by_cases hspecial : other.all (· = up) ∨ other = ["/"]
  · rw [node?_of_special hspecial, node?_of_special hspecial]
  · have hne : (other == place) = false := by simpa using h
    rw [node?_eq_lookup hspecial, node?_eq_lookup hspecial, set, List.lookup_cons, hne,
      lookup_filter_ne _ h]

theorem node?_set_self (h : tree.node? place ≠ some .directory) :
    (tree.set place node).node? place = some node := by
  have hspecial : ¬ (place.all (· = up) ∨ place = ["/"]) := fun hspecial =>
    h (node?_of_special hspecial)
  rw [node?_eq_lookup hspecial, set, List.lookup_cons]
  simp

theorem node?_remove_of_ne (h : other ≠ place) :
    (tree.remove place).node? other = tree.node? other := by
  by_cases hspecial : other.all (· = up) ∨ other = ["/"]
  · rw [node?_of_special hspecial, node?_of_special hspecial]
  · rw [node?_eq_lookup hspecial, node?_eq_lookup hspecial, remove, lookup_filter_ne _ h]

theorem node?_remove_self (h : tree.node? place ≠ some .directory) :
    (tree.remove place).node? place = none := by
  have hspecial : ¬ (place.all (· = up) ∨ place = ["/"]) := fun hspecial =>
    h (node?_of_special hspecial)
  rw [node?_eq_lookup hspecial, remove, lookup_filter_self]

end Node

section Above

theorem above_of_all_up (h : place.all (· = up) = true) : above place = place ++ [up] := by
  have hroot : place ≠ ["/"] := by
    rintro rfl
    revert h
    decide
  rw [above, if_neg hroot, if_pos h]

theorem rooted_start (tree : FileTree) (path : String) : tree.Rooted (startOf path) := by
  intro n
  unfold startOf
  split
  · have hfixed : above^[n + 1] ["/"] = ["/"] :=
      Function.iterate_fixed (f := above) (if_pos rfl) (n + 1)
    rw [hfixed]
    exact node?_of_special (.inr rfl)
  · -- dots alone name what is above the working directory
    have hup : ∀ k, (above^[k] []).all (· = up) = true := by
      intro k
      induction k with
      | zero => rfl
      | succ k ih =>
          rw [Function.iterate_succ_apply', above_of_all_up ih, List.all_append, ih]
          rfl
    exact node?_of_special (.inl (hup (n + 1)))

theorem above_append_name {name : String} (hup : name ≠ up) (hroot : name ≠ "/") :
    above (place ++ [name]) = place := by
  have hne : place ++ [name] ≠ ["/"] := by
    intro heq
    have hlast := congrArg List.getLast? heq
    rw [List.getLast?_concat] at hlast
    exact hroot (Option.some.inj hlast)
  have hall : ¬ (place ++ [name]).all (· = up) = true := by
    rw [List.all_append]
    simp [hup]
  rw [above, if_neg hne, if_neg hall, List.dropLast_concat]

theorem rooted_step (hrooted : tree.Rooted place) (hdirectory : tree.node? place = some .directory)
    (hpiece : '/' ∉ piece) : tree.Rooted (step place piece) := by
  intro n
  unfold step
  split
  · exact hrooted n
  · split
    · rw [← Function.iterate_succ_apply]
      exact hrooted (n + 1)
    · rename_i hup
      have hroot : String.ofList piece ≠ "/" := by
        intro heq
        have hlist := congrArg String.toList heq
        rw [String.toList_ofList] at hlist
        exact hpiece (by simp [hlist])
      have hname : String.ofList piece ≠ up := by
        intro heq
        exact hup (by rw [← heq, String.toList_ofList])
      rw [Function.iterate_succ_apply, above_append_name hname hroot]
      cases n with
      | zero => exact hdirectory
      | succ n => exact hrooted n

theorem Leads.rooted (h : tree.Leads place names target) (hrooted : tree.Rooted place)
    (hnames : ∀ piece ∈ names, '/' ∉ piece) : tree.Rooted target := by
  induction h with
  | nil => exact hrooted
  | cons hdirectory _ _ ih =>
      exact ih (rooted_step hrooted hdirectory (hnames _ (by simp)))
        fun piece hpiece => hnames piece (by simp [hpiece])

end Above

section Pieces

theorem pieces_ne_nil (cs : List Char) : pieces cs ≠ [] := by
  cases cs with
  | nil => simp [pieces]
  | cons c cs =>
      rw [pieces]
      split
      · simp
      · split <;> simp

theorem pieces_of_not_mem {cs : List Char} (h : '/' ∉ cs) : pieces cs = [cs] := by
  induction cs with
  | nil => rfl
  | cons c cs ih =>
      have hc : c ≠ '/' := fun heq => h (by simp [heq])
      rw [pieces, if_neg hc, ih fun hmem => h (by simp [hmem])]

theorem pieces_append_slash (front rest : List Char) :
    pieces (front ++ '/' :: rest) = pieces front ++ pieces rest := by
  induction front with
  | nil => simp [pieces]
  | cons c front ih =>
      rw [List.cons_append, pieces, ih]
      by_cases hc : c = '/'
      · simp [pieces, hc]
      · rw [if_neg hc, pieces, if_neg hc]
        cases hfront : pieces front with
        | nil => exact absurd hfront (pieces_ne_nil front)
        | cons first more => rfl

theorem not_mem_of_mem_pieces {cs : List Char} (h : piece ∈ pieces cs) : '/' ∉ piece := by
  induction cs generalizing piece with
  | nil =>
      obtain rfl := List.mem_singleton.mp h
      simp
  | cons c cs ih =>
      rw [pieces] at h
      split at h
      · rcases List.mem_cons.mp h with rfl | h
        · simp
        · exact ih h
      · rename_i hc
        cases hcs : pieces cs with
        | nil => exact absurd hcs (pieces_ne_nil cs)
        | cons first more =>
            rw [hcs] at h ih
            rcases List.mem_cons.mp h with rfl | h
            · have hfirst : '/' ∉ first := ih (by simp)
              simp [hfirst, Ne.symm hc]
            · exact ih (by simp [h])

theorem exists_pieces_append (cs : List Char) :
    ∃ front last, '/' ∉ last ∧ (last = [] → cs = [] ∨ ∃ more, cs = more ++ ['/']) ∧
      ∀ suffix, '/' ∉ suffix → pieces (cs ++ suffix) = front ++ [last ++ suffix] := by
  -- from the end: a slash starts another piece, and any other character lengthens the last one
  induction cs using List.reverseRecOn with
  | nil => exact ⟨[], [], by simp, by simp, fun suffix h => pieces_of_not_mem h⟩
  | append_singleton cs c ih =>
      by_cases hc : c = '/'
      · subst hc
        refine ⟨pieces cs, [], by simp, fun _ => .inr ⟨cs, rfl⟩, fun suffix h => ?_⟩
        rw [List.append_assoc, List.singleton_append, pieces_append_slash, pieces_of_not_mem h,
          List.nil_append]
      · obtain ⟨front, last, hlast, -, hpieces⟩ := ih
        refine ⟨front, last ++ [c], by simp [hlast, Ne.symm hc], by simp, fun suffix h => ?_⟩
        rw [List.append_assoc, hpieces _ (by simp [h, Ne.symm hc]), List.append_assoc]

end Pieces

section Leads

theorem Leads.eq_foldl (h : tree.Leads place names target) : target = names.foldl step place := by
  induction h with
  | nil => rfl
  | cons _ _ _ ih => exact ih

theorem leads_append_iff {front rest : List (List Char)} :
    tree.Leads place (front ++ rest) target ↔
      ∃ middle, tree.Leads place front middle ∧ tree.Leads middle rest target := by
  induction front generalizing place with
  | nil =>
      constructor
      · intro h
        exact ⟨place, .nil place, h⟩
      · rintro ⟨middle, hfront, hrest⟩
        cases hfront
        exact hrest
  | cons piece front ih =>
      constructor
      · intro h
        cases h with
        | cons hdirectory hlength h =>
            obtain ⟨middle, hfront, hrest⟩ := ih.mp h
            exact ⟨middle, .cons hdirectory hlength hfront, hrest⟩
      · rintro ⟨middle, hfront, hrest⟩
        cases hfront with
        | cons hdirectory hlength hfront =>
            exact .cons hdirectory hlength (ih.mpr ⟨middle, hfront, hrest⟩)

theorem leads_singleton_iff :
    tree.Leads place [piece] target ↔
      tree.node? place = some .directory ∧ (String.ofList piece).utf8ByteSize ≤ nameLimit ∧
        target = step place piece := by
  constructor
  · intro h
    cases h with
    | cons hdirectory hlength h =>
        cases h
        exact ⟨hdirectory, hlength, rfl⟩
  · rintro ⟨hdirectory, hlength, rfl⟩
    exact .cons hdirectory hlength (.nil _)

theorem Leads.directory_of_ne_nil (h : tree.Leads place names target) (hne : names ≠ []) :
    tree.node? place = some .directory := by
  cases h with
  | nil => exact absurd rfl hne
  | cons hdirectory _ _ => exact hdirectory

theorem Leads.mono {tree' : FileTree}
    (hkept : ∀ place, tree.node? place = some .directory → tree'.node? place = some .directory)
    (h : tree.Leads place names target) : tree'.Leads place names target := by
  induction h with
  | nil place => exact .nil place
  | cons hdirectory hlength _ ih => exact .cons (hkept _ hdirectory) hlength ih

theorem enter_eq_ok_iff {u : Unit} :
    tree.enter path place = .ok u ↔ tree.node? place = some .directory := by
  unfold enter
  split
  · simp [*]
  · simp [*]
  · simp [*]

theorem stepOn_eq_ok_iff :
    stepOn path place piece = .ok target ↔
      (String.ofList piece).utf8ByteSize ≤ nameLimit ∧ target = step place piece := by
  unfold stepOn
  split
  · simp [Nat.not_le.mpr ‹_›]
  · rename_i h
    simp [Nat.le_of_not_lt h, eq_comm]

theorem foldlM_follow_eq_ok_iff :
    names.foldlM (tree.follow path) place = .ok target ↔ tree.Leads place names target := by
  induction names generalizing place with
  | nil =>
      constructor
      · intro h
        obtain rfl := Except.ok.inj h
        exact .nil place
      · intro h
        cases h
        rfl
  | cons piece names ih =>
      simp only [List.foldlM_cons, follow, bind_eq_ok_iff, enter_eq_ok_iff, stepOn_eq_ok_iff, ih]
      constructor
      · rintro ⟨_, ⟨_, hdirectory, hlength, rfl⟩, hrest⟩
        exact .cons hdirectory hlength hrest
      · intro h
        cases h with
        | cons hdirectory hlength hrest => exact ⟨_, ⟨(), hdirectory, hlength, rfl⟩, hrest⟩

end Leads

section Locate

theorem locate_eq_ok_iff :
    tree.locate path = .ok place ↔
      check path = .ok () ∧ tree.Leads (startOf path) (pieces path.toList) place := by
  simp only [locate, bind_eq_ok_iff, foldlM_follow_eq_ok_iff]
  constructor
  · rintro ⟨_, hcheck, h⟩
    exact ⟨hcheck, h⟩
  · rintro ⟨hcheck, h⟩
    exact ⟨(), hcheck, h⟩

theorem eq_placeOf_of_locate (h : tree.locate path = .ok place) : place = placeOf path :=
  (locate_eq_ok_iff.mp h).2.eq_foldl

theorem locateLast_eq_ok_iff :
    tree.locateLast path = .ok (place, piece) ↔
      check path = .ok () ∧
        tree.Leads (startOf path) (pieces (bare path).toList).dropLast place ∧
        tree.node? place = some .directory ∧ piece = (pieces (bare path).toList).getLastD [] := by
  simp only [locateLast, bind_eq_ok_iff, foldlM_follow_eq_ok_iff, enter_eq_ok_iff, pure,
    Except.pure, Except.ok.injEq, Prod.mk.injEq]
  constructor
  · rintro ⟨_, hcheck, _, hleads, _, hdirectory, rfl, rfl⟩
    exact ⟨hcheck, hleads, hdirectory, rfl⟩
  · rintro ⟨hcheck, hleads, hdirectory, rfl⟩
    exact ⟨(), hcheck, place, hleads, (), hdirectory, rfl, rfl⟩

theorem dropLast_append_getLastD (cs : List Char) :
    (pieces cs).dropLast ++ [(pieces cs).getLastD []] = pieces cs := by
  rw [List.getLastD_eq_getLast?, List.getLast?_eq_some_getLast (pieces_ne_nil cs),
    Option.getD_some]
  exact List.dropLast_append_getLast (pieces_ne_nil cs)

theorem exists_locateLast_iff :
    (∃ parent, tree.locateLast path = .ok (parent, piece) ∧ stepOn path parent piece = .ok place) ↔
      check path = .ok () ∧ tree.Leads (startOf path) (pieces (bare path).toList) place ∧
        piece = (pieces (bare path).toList).getLastD [] := by
  have hpieces := dropLast_append_getLastD (bare path).toList
  constructor
  · rintro ⟨parent, hlast, hstep⟩
    obtain ⟨hcheck, hleads, hdirectory, rfl⟩ := locateLast_eq_ok_iff.mp hlast
    obtain ⟨hlength, hplace⟩ := stepOn_eq_ok_iff.mp hstep
    have hall := leads_append_iff.mpr
      ⟨parent, hleads, leads_singleton_iff.mpr ⟨hdirectory, hlength, hplace⟩⟩
    rw [hpieces] at hall
    exact ⟨hcheck, hall, rfl⟩
  · rintro ⟨hcheck, hleads, rfl⟩
    rw [← hpieces] at hleads
    obtain ⟨parent, hparent, hlast⟩ := leads_append_iff.mp hleads
    obtain ⟨hdirectory, hlength, hplace⟩ := leads_singleton_iff.mp hlast
    exact ⟨parent, locateLast_eq_ok_iff.mpr ⟨hcheck, hparent, hdirectory, rfl⟩,
      stepOn_eq_ok_iff.mpr ⟨hlength, hplace⟩⟩

theorem locateNew_eq_ok_iff :
    tree.locateNew path = .ok place ↔
      check path = .ok () ∧ tree.Leads (startOf path) (pieces (bare path).toList) place := by
  simp only [locateNew, bind_eq_ok_iff, Prod.exists]
  constructor
  · rintro ⟨parent, piece, hlast, hstep⟩
    obtain ⟨hcheck, hleads, -⟩ := exists_locateLast_iff.mp ⟨parent, hlast, hstep⟩
    exact ⟨hcheck, hleads⟩
  · rintro ⟨hcheck, hleads⟩
    obtain ⟨parent, hlast, hstep⟩ := exists_locateLast_iff.mpr ⟨hcheck, hleads, rfl⟩
    exact ⟨parent, _, hlast, hstep⟩

theorem locateFile_eq_ok_iff :
    tree.locateFile path = .ok place ↔
      tree.locate path = .ok place ∧ bare path = path ∧ tree.node? place ≠ some .directory := by
  simp only [locateFile, bind_eq_ok_iff, Prod.exists, unless_eq_ok_iff, ne_eq, Decidable.not_not,
    pure, Except.pure, Except.ok.injEq, locate_eq_ok_iff]
  constructor
  · rintro ⟨parent, piece, hlast, hbare, place, hstep, hnode, rfl⟩
    obtain ⟨hcheck, hleads, -⟩ := exists_locateLast_iff.mp ⟨parent, hlast, hstep⟩
    rw [hbare] at hleads
    exact ⟨⟨hcheck, hleads⟩, hbare, hnode⟩
  · rintro ⟨⟨hcheck, hleads⟩, hbare, hnode⟩
    obtain ⟨parent, hlast, hstep⟩ :=
      exists_locateLast_iff.mpr ⟨hcheck, by rw [hbare]; exact hleads, rfl⟩
    exact ⟨parent, _, hlast, hbare, place, hstep, hnode, rfl⟩

theorem locateTarget_eq_ok_iff :
    tree.locateTarget path = .ok place ↔
      tree.locateFile path = .ok place ∧
        (pieces path.toList).getLastD [] ∉ [[], ['.'], up.toList] := by
  simp only [locateTarget, bind_eq_ok_iff, Prod.exists, unless_eq_ok_iff, ne_eq, Decidable.not_not,
    pure, Except.pure, Except.ok.injEq, locateFile_eq_ok_iff, locate_eq_ok_iff, List.mem_cons,
    List.not_mem_nil, or_false]
  constructor
  · rintro ⟨parent, piece, hlast, hpiece, place, hstep, hbare, hnode, rfl⟩
    obtain ⟨hcheck, hleads, rfl⟩ := exists_locateLast_iff.mp ⟨parent, hlast, hstep⟩
    rw [hbare] at hleads hpiece
    exact ⟨⟨⟨hcheck, hleads⟩, hbare, hnode⟩, hpiece⟩
  · rintro ⟨⟨⟨hcheck, hleads⟩, hbare, hnode⟩, hpiece⟩
    obtain ⟨parent, hlast, hstep⟩ :=
      exists_locateLast_iff.mpr ⟨hcheck, by rw [hbare]; exact hleads, rfl⟩
    refine ⟨parent, _, hlast, ?_, place, hstep, hbare, hnode, rfl⟩
    rw [hbare]
    exact hpiece

end Locate

section Check

theorem check_eq_ok_iff :
    check path = .ok () ↔
      '\x00' ∉ path.toList ∧ path ≠ "" ∧ path.utf8ByteSize < pathLimit := by
  unfold check
  by_cases hnul : '\x00' ∈ path.toList
  · simp [hnul]
  · by_cases hempty : path = ""
    · simp [hempty]
    · by_cases hlong : pathLimit ≤ path.utf8ByteSize
      · simp [hnul, hempty, hlong, Nat.not_lt.mpr hlong]
      · simp [hnul, hempty, hlong, Nat.lt_of_not_le hlong]

theorem check_of_append {suffix : String} (h : check (path ++ suffix) = .ok ())
    (hne : path ≠ "") : check path = .ok () := by
  obtain ⟨hnul, -, hlength⟩ := check_eq_ok_iff.mp h
  rw [String.toList_append, List.mem_append, not_or] at hnul
  rw [String.utf8ByteSize_append] at hlength
  exact check_eq_ok_iff.mpr ⟨hnul.1, hne, Nat.lt_of_le_of_lt (Nat.le_add_right _ _) hlength⟩

theorem bare_eq_self (h : path.toList.getLast? ≠ some '/') : bare path = path := by
  have hkept : (path.toList.reverse.dropWhile (· = '/')).reverse = path.toList := by
    cases hreverse : path.toList.reverse with
    | nil => simpa using hreverse.symm
    | cons c rest =>
        have hc : c ≠ '/' := by
          rintro rfl
          rw [← List.head?_reverse, hreverse] at h
          exact h rfl
        rw [List.dropWhile_cons_of_neg (by simpa using hc), ← hreverse, List.reverse_reverse]
  rw [bare, hkept]
  split
  · rfl
  · exact String.ofList_toList

end Check

section Beside

/-- The pieces of a path before the last one. -/
def frontPieces (path : String) : List (List Char) :=
  (pieces path.toList).dropLast

def lastPiece (path : String) : List Char :=
  (pieces path.toList).getLastD []

/-- The directory in which the last piece of a path is to be found. -/
def holderOf (path : String) : Place :=
  (frontPieces path).foldl step (startOf path)

/-- The endings that make a name of the last piece of every path. -/
def IsEnding (suffix : String) : Prop :=
  '/' ∉ suffix.toList ∧ ∃ c ∈ suffix.toList, c ≠ '.'

/-- The pieces that name something in the directory where they are looked up. -/
def IsName (piece : List Char) : Prop :=
  piece ∉ [[], ['.'], up.toList]

variable {suffix : String}

theorem frontPieces_append_lastPiece (path : String) :
    frontPieces path ++ [lastPiece path] = pieces path.toList :=
  dropLast_append_getLastD path.toList

theorem pieces_append_suffix (path : String) (hsuffix : '/' ∉ suffix.toList) :
    pieces (path ++ suffix).toList = frontPieces path ++ [lastPiece path ++ suffix.toList] := by
  obtain ⟨front, last, -, -, hpieces⟩ := exists_pieces_append path.toList
  have hself := hpieces [] (by simp)
  rw [List.append_nil, List.append_nil, ← frontPieces_append_lastPiece] at hself
  obtain ⟨hfront, hlast⟩ := List.append_inj' hself rfl
  rw [String.toList_append, hpieces _ hsuffix, hfront, List.cons.inj hlast |>.1]

theorem startOf_append (hne : path ≠ "") : startOf (path ++ suffix) = startOf path := by
  obtain ⟨c, rest, hpath⟩ : ∃ c rest, path.toList = c :: rest :=
    List.exists_cons_of_ne_nil (by simpa using hne)
  rw [startOf, startOf, String.toList_append, hpath]
  rfl

theorem step_of_isName (h : IsName piece) : step place piece = place ++ [String.ofList piece] := by
  simp only [IsName, List.mem_cons, List.not_mem_nil, or_false, not_or] at h
  rw [step, if_neg (by simp [h.1, h.2.1]), if_neg h.2.2]

theorem IsEnding.isName (h : IsEnding suffix) (last : List Char) :
    IsName (last ++ suffix.toList) := by
  obtain ⟨-, c, hc, hdot⟩ := h
  intro hmem
  have hdots : ∀ d ∈ last ++ suffix.toList, d = '.' := by
    simp only [List.mem_cons, List.not_mem_nil, or_false] at hmem
    rcases hmem with heq | heq | heq
    · rw [heq]
      simp
    · rw [heq]
      simp
    · rw [heq]
      simp [up]
  exact hdot (hdots c (List.mem_append_right last hc))

theorem placeOf_eq_step (path : String) : placeOf path = step (holderOf path) (lastPiece path) := by
  rw [placeOf, ← frontPieces_append_lastPiece, List.foldl_append]
  rfl

theorem placeOf_append (hne : path ≠ "") (h : IsEnding suffix) :
    placeOf (path ++ suffix) =
      holderOf path ++ [String.ofList (lastPiece path) ++ suffix] := by
  rw [placeOf, pieces_append_suffix path h.1, startOf_append hne, List.foldl_append,
    List.foldl_cons, List.foldl_nil, step_of_isName (h.isName _), String.ofList_append,
    String.ofList_toList]
  rfl

theorem above_eq_append_or (place : Place) :
    above place = place ++ [up] ∨ (above place).length ≤ place.length := by
  unfold above
  split
  · exact .inr (Nat.le_refl _)
  · split
    · exact .inl rfl
    · exact .inr (by simp)

theorem placeOf_append_ne (path : String) (h : IsEnding suffix) :
    placeOf (path ++ suffix) ≠ placeOf path := by
  have hsuffix : suffix ≠ "" := by
    rintro rfl
    obtain ⟨-, c, hc, -⟩ := h
    simp at hc
  have hlonger : ∀ last : String, last ++ suffix ≠ last := fun last heq => by
    have hlist := congrArg String.toList heq
    rw [String.toList_append] at hlist
    exact hsuffix (by simpa using List.append_right_eq_self.mp hlist)
  by_cases hne : path = ""
  · subst hne
    have hstart : startOf ("" ++ suffix) = [] := by
      refine if_neg fun hhead => h.1 ?_
      rw [String.toList_append] at hhead
      exact List.mem_of_head? hhead
    rw [placeOf, pieces_append_suffix "" h.1, hstart, List.foldl_append, List.foldl_cons,
      List.foldl_nil, step_of_isName (h.isName _)]
    simp [placeOf, startOf, pieces, step]
  · -- the two places differ in length, or in the name that both add to that of the directory
    rw [placeOf_append hne h, placeOf_eq_step, step]
    split
    · simp
    · split
      · rename_i hup
        rw [hup]
        rcases above_eq_append_or (holderOf path) with habove | hlength
        · rw [habove]
          intro heq
          exact hlonger _ (List.cons.inj (List.append_cancel_left heq)).1
        · intro heq
          rw [← heq, List.length_append] at hlength
          exact absurd hlength (Nat.not_succ_le_self _)
      · intro heq
        exact hlonger _ (List.cons.inj (List.append_cancel_left heq)).1

theorem placeOf_append_ne_append {suffix' : String} (hne : path ≠ "") (h : IsEnding suffix)
    (h' : IsEnding suffix') (hsuffix : suffix ≠ suffix') :
    placeOf (path ++ suffix) ≠ placeOf (path ++ suffix') := by
  rw [placeOf_append hne h, placeOf_append hne h']
  intro heq
  have hlist := congrArg String.toList (List.cons.inj (List.append_cancel_left heq)).1
  rw [String.toList_append, String.toList_append] at hlist
  exact hsuffix (String.toList_injective (List.append_cancel_left hlist))

/-- The directory in which a path and its endings are to be found is there. -/
structure HasHolder (tree : FileTree) (path : String) : Prop where
  leads : tree.Leads (startOf path) (frontPieces path) (holderOf path)
  directory : tree.node? (holderOf path) = some .directory

theorem hasHolder_of_leads (h : tree.Leads (startOf path) (frontPieces path ++ [piece]) place) :
    tree.HasHolder path ∧ (String.ofList piece).utf8ByteSize ≤ nameLimit := by
  obtain ⟨parent, hfront, hlast⟩ := leads_append_iff.mp h
  obtain ⟨hdirectory, hlength, -⟩ := leads_singleton_iff.mp hlast
  obtain rfl : parent = holderOf path := hfront.eq_foldl
  exact ⟨⟨hfront, hdirectory⟩, hlength⟩

theorem HasHolder.leads_append (h : tree.HasHolder path)
    (hlength : (String.ofList piece).utf8ByteSize ≤ nameLimit) :
    tree.Leads (startOf path) (frontPieces path ++ [piece]) (step (holderOf path) piece) :=
  leads_append_iff.mpr ⟨_, h.leads, leads_singleton_iff.mpr ⟨h.directory, hlength, rfl⟩⟩

theorem hasHolder_of_locate (h : tree.locate path = .ok place) : tree.HasHolder path := by
  obtain ⟨-, hleads⟩ := locate_eq_ok_iff.mp h
  rw [← frontPieces_append_lastPiece] at hleads
  exact (hasHolder_of_leads hleads).1

theorem HasHolder.rooted (h : tree.HasHolder path) : tree.Rooted (holderOf path) := by
  refine h.leads.rooted (rooted_start tree path) fun piece hpiece => ?_
  have hmem : piece ∈ pieces path.toList := List.dropLast_subset _ hpiece
  exact not_mem_of_mem_pieces hmem

theorem locate_of_append (hne : path ≠ "") (hsuffix : '/' ∉ suffix.toList)
    (h : tree.locate (path ++ suffix) = .ok place) :
    tree.HasHolder path ∧ tree.locate path = .ok (placeOf path) := by
  obtain ⟨hcheck, hleads⟩ := locate_eq_ok_iff.mp h
  rw [pieces_append_suffix path hsuffix, startOf_append hne] at hleads
  obtain ⟨hholder, hlength⟩ := hasHolder_of_leads hleads
  rw [String.ofList_append, String.utf8ByteSize_append] at hlength
  refine ⟨hholder, locate_eq_ok_iff.mpr ⟨check_of_append hcheck hne, ?_⟩⟩
  rw [← frontPieces_append_lastPiece, placeOf_eq_step]
  exact hholder.leads_append (Nat.le_trans (Nat.le_add_right _ _) hlength)

theorem HasHolder.directory_of_not_isName (h : tree.HasHolder path)
    (hname : ¬ IsName (lastPiece path)) : tree.node? (placeOf path) = some .directory := by
  rw [IsName, Decidable.not_not] at hname
  simp only [List.mem_cons, List.not_mem_nil, or_false] at hname
  rw [placeOf_eq_step, step]
  split
  · exact h.directory
  · rename_i hplain
    rw [← or_assoc] at hname
    rw [if_pos (hname.resolve_left hplain)]
    exact h.rooted 0

end Beside

section Content

variable {octets : Bytes}

theorem at?_of_locate (hlocate : tree.locate path = .ok (placeOf path)) :
    tree.at? path = tree.node? (placeOf path) := by
  rw [at?, hlocate]

theorem file?_of_locate (hlocate : tree.locate path = .ok (placeOf path))
    (hfile : tree.node? (placeOf path) = some (.file octets)) :
    tree.file? path = some octets := by
  rw [file?, at?_of_locate hlocate, hfile]

theorem file?_eq_some_iff :
    tree.file? path = some octets ↔
      tree.locate path = .ok (placeOf path) ∧
        tree.node? (placeOf path) = some (.file octets) := by
  constructor
  · intro h
    rw [file?, at?] at h
    cases hlocate : tree.locate path with
    | error fault => simp [hlocate] at h
    | ok place =>
        obtain rfl := eq_placeOf_of_locate hlocate
        simp only [hlocate] at h
        split at h
        · rename_i hnode
          exact ⟨rfl, hnode.trans (by rw [Option.some.inj h])⟩
        · cases h
  · rintro ⟨hlocate, hfile⟩
    exact file?_of_locate hlocate hfile

theorem holds_of_file? (h : tree.file? path = some octets) : tree.holds path = true := by
  obtain ⟨hlocate, hnode⟩ := file?_eq_some_iff.mp h
  rw [holds, at?_of_locate hlocate, hnode]
  rfl

theorem file?_eq_none (h : ∀ octets, tree.node? (placeOf path) ≠ some (.file octets)) :
    tree.file? path = none :=
  Option.eq_none_iff_forall_ne_some.mpr fun octets hfile =>
    h octets (file?_eq_some_iff.mp hfile).2

theorem read_eq_ok_iff : tree.read path = .ok octets ↔ tree.file? path = some octets := by
  rw [read, file?, at?]
  cases tree.locate path with
  | error fault => simp
  | ok place =>
      dsimp only
      cases tree.node? place with
      | none => simp
      | some node => cases node <;> simp

end Content

end TransparencyLog.FileTree
