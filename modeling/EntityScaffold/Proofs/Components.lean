import EntityScaffold.Folder
import Mathlib.Tactic

/-!
Paths and their components. A path below a directory is that directory's name and the names after it
(`components_below`), and the names of a text are those on both sides of any of its slashes (`names_append`).
A path that stays inside leads, from wherever it is walked, to a place below (`walk_inside`).
-/

namespace EntityScaffold.Path

/-! ## Names -/

/-- the names that a text goes through, empty ones and `.` left out -/
def names (text : List Char) : List String :=
  ((text.splitOn '/').map String.ofList).filter fun piece => piece ≠ "" && piece ≠ "."

/-- a text with a slash in it goes through the names before and after the slash -/
theorem names_append (a b : List Char) : names (a ++ '/' :: b) = names a ++ names b := by
  unfold names
  rw [List.splitOn_append_cons_self, List.map_append, List.filter_append]

theorem mem_names {text : List Char} {name : String} :
    name ∈ names text ↔ name.toList ∈ text.splitOn '/' ∧ name ≠ "" ∧ name ≠ "." := by
  unfold names
  rw [List.mem_filter, List.mem_map]
  constructor
  · rintro ⟨⟨piece, hpiece, rfl⟩, h⟩
    simpa [hpiece] using h
  · rintro ⟨hpiece, h⟩
    exact ⟨⟨_, hpiece, String.ofList_toList⟩, by simpa using h⟩

theorem components_below {directory path : String} (hne : directory ≠ "") (hdot : directory ≠ ".")
    (hslash : '/' ∉ directory.toList) : components (directory ++ "/" ++ path) = directory :: names path.toList := by
  have hsplit : (directory ++ "/" ++ path).toList.splitOn '/' = directory.toList :: path.toList.splitOn '/' := by
    rw [String.toList_append, String.toList_append, show "/".toList = ['/'] from rfl, List.append_assoc,
      List.singleton_append, List.splitOn_append_cons_self_of_not_mem hslash]
  unfold components names
  rw [hsplit, List.map_cons, String.ofList_toList]
  dsimp only
  split
  · next h => exact absurd (List.cons.inj h).1 hne
  · next h => exact absurd (List.cons.inj h).1 hdot
  · simp [hne, hdot]

theorem names_subset_components (path : String) : names path.toList ⊆ components path := by
  unfold components names
  dsimp only
  split
  · exact List.subset_cons_self _ _
  · next rest hpieces =>
    rw [hpieces, List.filter_cons, if_neg (by decide)]
    exact List.subset_cons_self _ _
  · exact List.Subset.refl _

theorem isAbsolute_below {directory path : String} (hne : directory ≠ "") (hslash : '/' ∉ directory.toList) :
    isAbsolute (directory ++ "/" ++ path) = false := by
  unfold isAbsolute
  rw [String.toList_append, String.toList_append, List.append_assoc]
  cases h : directory.toList with
  | nil => exact absurd (String.toList_eq_nil_iff.1 h) hne
  | cons c rest =>
    rw [h] at hslash
    have : c ≠ '/' := fun e => hslash (e ▸ List.mem_cons_self)
    simp [this]

/-! ## Extensions -/

/-- the pieces of a text put before another: its last piece joins with the first of the other -/
theorem splitOn_join {a : List Char} (ha : '/' ∉ a) (b : List Char) :
    (a ++ b).splitOn '/' = (b.splitOn '/').modifyHead (a ++ ·) := by
  induction a with
  | nil => obtain ⟨first, rest, h⟩ := List.exists_cons_of_ne_nil (List.splitOn_ne_nil '/' b); simp [h]
  | cons c a ih =>
    have hc : c ≠ '/' := fun e => ha (e ▸ List.mem_cons_self)
    obtain ⟨first, rest, h⟩ := List.exists_cons_of_ne_nil (List.splitOn_ne_nil '/' b)
    rw [List.cons_append, List.splitOn_cons_eq_if_modifyHead, ih fun h => ha (List.mem_cons_of_mem _ h)]
    simp [hc, h]

/-- a stem and an extension make one name, which is left out only when both are empty; slashes in the extension
start further names, the same for every stem -/
theorem names_extended (extension : List Char) : ∃ first more, ∀ stem, '/' ∉ stem →
    names (stem ++ '.' :: extension) =
      (if stem = [] ∧ first = [] then [] else [String.ofList (stem ++ '.' :: first)]) ++ more := by
  obtain ⟨first, rest, h⟩ := List.exists_cons_of_ne_nil (List.splitOn_ne_nil '/' extension)
  refine ⟨first, (rest.map String.ofList).filter fun piece => piece ≠ "" && piece ≠ ".", fun stem hstem => ?_⟩
  have hsplit : (stem ++ '.' :: extension).splitOn '/' = (stem ++ '.' :: first) :: rest := by
    rw [splitOn_join hstem, List.splitOn_cons_eq_if_modifyHead, h]
    rfl
  have hne : String.ofList (stem ++ '.' :: first) ≠ "" := by
    rw [ne_eq, ← String.toList_inj]
    simp
  have hdot : String.ofList (stem ++ '.' :: first) = "." ↔ stem = [] ∧ first = [] := by
    rw [← String.toList_inj, String.toList_ofList]
    cases stem <;> simp
  unfold names
  rw [hsplit, List.map_cons, List.filter_cons]
  generalize String.ofList (stem ++ '.' :: first) = name at hne hdot ⊢
  by_cases hboth : stem = [] ∧ first = []
  · simp [hdot.2 hboth, hboth]
  · simp [hne, hboth, mt hdot.1 hboth]

/-- the name under an extension tells the stem -/
theorem names_extended_injective {a b extension : List Char} (ha : '/' ∉ a) (hb : '/' ∉ b)
    (h : names (a ++ '.' :: extension) = names (b ++ '.' :: extension)) : a = b := by
  obtain ⟨first, more, hnames⟩ := names_extended extension
  rw [hnames a ha, hnames b hb, List.append_cancel_right_eq] at h
  split at h <;> split at h
  · next h1 h2 => rw [h1.1, h2.1]
  · cases h
  · cases h
  · have := congrArg String.toList (List.cons.inj h).1
    rw [String.toList_ofList, String.toList_ofList] at this
    exact List.append_cancel_right this

/-- a stem that is not empty makes a name of its own -/
theorem names_extended_cons (extension : List Char) : ∃ first more, ∀ stem, '/' ∉ stem → stem ≠ [] →
    names (stem ++ '.' :: extension) = String.ofList (stem ++ '.' :: first) :: more := by
  obtain ⟨first, more, hnames⟩ := names_extended extension
  refine ⟨first, more, fun stem hstem hne => ?_⟩
  rw [hnames stem hstem, if_neg fun h => hne h.1]
  rfl

/-! ## Walking a path -/

def walk (place : Place) (path : String) : Place := (steps path).foldl Folder.enter place

def placeOf (path : String) : Place := walk (if isAbsolute path then ["/"] else []) path

/-- a path that cannot leave the directory it is walked from -/
def Inside (path : String) : Prop := isAbsolute path = false ∧ ".." ∉ components path

instance (path : String) : Decidable (Inside path) := inferInstanceAs (Decidable (_ ∧ _))

@[simp] theorem enter_dot (place : Place) : Folder.enter place "." = place := rfl

/-- names that do not go up are passed one below the other -/
theorem foldl_enter {route : List String} (h : ".." ∉ route) (place : Place) :
    route.foldl Folder.enter place = place ++ route.filter (· ≠ ".") := by
  induction route generalizing place with
  | nil => simp
  | cons name route ih =>
    obtain ⟨hname, hroute⟩ := not_or.1 (mt List.mem_cons.2 h)
    rw [List.foldl_cons, ih hroute]
    by_cases hdot : name = "."
    · simp [hdot]
    · simp [Folder.enter, hdot, Ne.symm hname]

/-- a slash at the end of a path leads no further -/
theorem walk_eq (place : Place) (path : String) : walk place path =
    (((path.toList.splitOn '/').map String.ofList).filter (· ≠ "")).foldl Folder.enter place := by
  unfold walk steps
  dsimp only
  split
  · rw [List.foldl_append]; rfl
  · rfl

/-- **A path that stays inside leads below** every place it is walked from. -/
theorem walk_inside {path : String} (h : Inside path) (place : Place) :
    walk place path = place ++ names path.toList := by
  have hup : ".." ∉ ((path.toList.splitOn '/').map String.ofList).filter (· ≠ "") := by
    intro hmem
    exact h.2 (names_subset_components path (List.mem_filter.2 ⟨(List.mem_filter.1 hmem).1, by decide⟩))
  rw [walk_eq, foldl_enter hup, List.filter_filter]
  unfold names
  congr 2
  funext piece
  simp [Bool.and_comm]

theorem walk_slash (place : Place) (a b : List Char) :
    walk place (String.ofList (a ++ '/' :: b)) = walk (walk place (String.ofList a)) (String.ofList b) := by
  simp only [walk_eq, String.toList_ofList, List.splitOn_append_cons_self, List.map_append, List.filter_append,
    List.foldl_append]

/-- a relative path is walked from the directory it is joined to -/
theorem walk_join {path : String} (h : isAbsolute path = false) (place : Place) (directory : String) :
    walk place (join directory path) = walk (walk place directory) path := by
  unfold join
  rw [h, if_neg (by simp)]
  split
  · next hd => rw [hd]; rfl
  split
  · next hend =>
    obtain ⟨init, hinit⟩ := List.getLast?_eq_some_iff.1 (by simpa [endsWithSlash] using hend)
    have hd : directory = String.ofList (init ++ '/' :: []) := by rw [← hinit, String.ofList_toList]
    have hj : directory ++ path = String.ofList (init ++ '/' :: path.toList) := by
      rw [← String.toList_inj, String.toList_append, hinit, String.toList_ofList, List.append_assoc]
      rfl
    rw [hj, hd, walk_slash, walk_slash, String.ofList_toList]
    rfl
  · have hj : directory ++ "/" ++ path = String.ofList (directory.toList ++ '/' :: path.toList) := by
      rw [← String.toList_inj, String.toList_ofList, String.toList_append, String.toList_append, List.append_assoc]
      rfl
    rw [hj, walk_slash, String.ofList_toList, String.ofList_toList]

theorem isAbsolute_join {path : String} (h : isAbsolute path = false) (directory : String) :
    isAbsolute (join directory path) = isAbsolute directory := by
  unfold join
  rw [h, if_neg (by simp)]
  split
  · next hd => rw [hd, h]; rfl
  · next hd =>
    have hne : directory.toList ≠ [] := fun e => hd (String.toList_eq_nil_iff.1 e)
    unfold isAbsolute
    split
    · rw [String.toList_append, List.head?_append_of_ne_nil _ hne]
    · rw [String.toList_append, String.toList_append, List.append_assoc, List.head?_append_of_ne_nil _ hne]

/-- a path that stays inside, joined to a directory, is a place below that directory -/
theorem placeOf_join {path : String} (h : Inside path) (directory : String) :
    placeOf (join directory path) = placeOf directory ++ names path.toList := by
  unfold placeOf
  rw [isAbsolute_join h.1, walk_join h.1, walk_inside h]

end EntityScaffold.Path
