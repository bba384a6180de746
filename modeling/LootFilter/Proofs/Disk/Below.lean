import LootFilter.Disk.Basic
import LootFilter.Proofs.Source.Failure
import Mathlib.Tactic.SplitIfs

/-!
# Paths Below a Root

A path that continues another one is the other one with a slash behind it, if it lacks one
and is not empty, and then the rest. Its names are those of the one and then those of the
other, so following it is going to the root first and on from there.

Two paths below the same root therefore part at the root. Names that are neither of the
dots only lead down, and the place that they lead to has them in its own names. So paths
with different names of that sort lead to different places, on every disk, wherever their
root is and however it is written. The paths themselves would not show that: many paths
lead to the same place.

## Main definitions

* `Path.rooted`: A path that names can be put behind.
* `Path.LeadsDown`: Followed from any folder, the path leads to a place below it.
* `Location.names`: The names that lead from the root of a disk to a place.

## Theorems

* `Path.join_eq_rooted_append`: Joining is putting behind a rooted path.
* `Path.names_rooted_append`: The names of a path below a root.
* `Disk.names_of_follow`: Names without dots lead down.
* `Disk.names_ne_of_locate`: Paths with different names lead to different places.
-/

namespace LootFilter

namespace Path

/-- The path with a slash at its end, unless it is empty. -/
def rooted (path : String) : String :=
  if path = "" ∨ path.toList.getLast? = some '/' then path else path ++ "/"

/-- What starts in the working folder is put behind the path. -/
theorem join_eq_rooted_append (path : String) {next : String} (hnext : isAbsolute next = false) :
    join path next = rooted path ++ next := by
  by_cases hempty : path = ""
  · simp [join, rooted, hempty]
  · by_cases hslash : path.toList.getLast? = some '/'
    · simp [join, rooted, hnext, hempty, hslash]
    · simp [join, rooted, hnext, hempty, hslash]

/-- A path that ends in a name lacks the slash. -/
theorem rooted_append (path : String) {next : String} (hne : next ≠ "")
    (hslash : '/' ∉ next.toList) : rooted (path ++ next) = path ++ next ++ "/" := by
  have hchars : next.toList ≠ [] := mt String.toList_eq_nil_iff.mp hne
  refine if_neg (not_or.mpr ⟨fun hempty => ?_, fun hlast => ?_⟩)
  · exact hne (String.append_eq_empty_iff.mp hempty).2
  · rw [String.toList_append, List.getLast?_append_of_ne_nil _ hchars] at hlast
    exact hslash (List.mem_of_getLast? hlast)

/-- Where a path starts does not depend on what is put behind it. -/
theorem isAbsolute_rooted_append (path : String) {next : String}
    (hnext : isAbsolute next = false) : isAbsolute (rooted path ++ next) = isAbsolute path := by
  rcases hpath : path.toList with _ | ⟨c, rest⟩
  · rw [String.toList_eq_nil_iff] at hpath
    rw [hpath]
    exact hnext
  · have hrooted : ∃ more, (rooted path ++ next).toList = c :: more := by
      rw [rooted]
      split
      · exact ⟨_, by rw [String.toList_append, hpath, List.cons_append]⟩
      · exact ⟨_, by rw [String.toList_append, String.toList_append, hpath, List.cons_append,
          List.cons_append]⟩
    rcases hrooted with ⟨more, hmore⟩
    rw [isAbsolute, isAbsolute, hpath, hmore]
    rfl

/-! ## Names -/

/-- A slash separates the names in front of it from those behind it. -/
theorem names_append_slash (path next : String) :
    names (path ++ "/" ++ next) = names path ++ names next := by
  have hchars : (path ++ "/" ++ next).toList = path.toList ++ '/' :: next.toList := by
    simp [String.toList_append]
  have hsplit : (path.toList ++ '/' :: next.toList).splitOn '/' =
      path.toList.splitOn '/' ++ next.toList.splitOn '/' :=
    List.splitOnP_append_cons path.toList next.toList (beq_self_eq_true '/')
  rw [names, hchars, hsplit, List.filter_append, List.map_append]
  rfl

/-- A text without a slash is one name. -/
theorem names_of_notMem_slash {name : String} (hne : name ≠ "") (hslash : '/' ∉ name.toList) :
    names name = [name] := by
  have hkeep : name.toList.isEmpty = false :=
    List.isEmpty_eq_false_iff.mpr (mt String.toList_eq_nil_iff.mp hne)
  rw [names, List.splitOn_eq_singleton hslash, List.filter_singleton, hkeep]
  exact congrArg (fun s => [s]) String.ofList_toList

/-- There are no names in an empty text. -/
theorem names_empty : names "" = [] := by
  decide

/-- The names of a path below a root are those of the root and then its own. -/
theorem names_rooted_append (path next : String) :
    names (rooted path ++ next) = names path ++ names next := by
  rw [rooted]
  split
  · rename_i hrooted
    rcases hrooted with rfl | hslash
    · rw [String.empty_append, names_empty, List.nil_append]
    · -- The slash is there already, with no name behind it.
      rcases List.getLast?_eq_some_iff.mp hslash with ⟨front, hfront⟩
      have hpath : path = String.ofList front ++ "/" := by
        rw [← String.toList_inj, hfront, String.toList_append, String.toList_ofList]
        rfl
      have hself := names_append_slash (String.ofList front) ""
      rw [String.append_empty, names_empty, List.append_nil] at hself
      rw [hpath, names_append_slash, hself]
  · exact names_append_slash path next

/-- The path starts in the working folder and leads down from there. -/
structure LeadsDown (path : String) : Prop where
  relative : isAbsolute path = false
  nonempty : names path ≠ []
  noDots : ∀ name ∈ names path, name ≠ "." ∧ name ≠ ".."

end Path

/-- The names that lead from the root of a disk to a place. -/
def Location.names : Location → List String
  | .folder names => names
  | .entry names name _ => names ++ [name]

namespace Disk

variable {d : Disk} {slash : Bool}

/-- A name that is neither of the dots, and behind which others follow, is one of a folder. -/
theorem follow_cons {folder : List String} {name : String} {rest : List String}
    (hdot : name ≠ ".") (hdots : name ≠ "..") (hrest : rest ≠ []) :
    d.follow slash folder (name :: rest) =
      (d.enter folder name >>= fun inner => d.follow slash inner rest) := by
  rw [follow]
  · exact hdot
  · exact hdots
  · exact hrest

/-- A folder that was entered is the one of that name. -/
theorem eq_of_enter {folder inner : List String} {name : String}
    (h : d.enter folder name = .ok inner) : inner = folder ++ [name] := by
  unfold enter at h
  split at h
  · cases h
  · split at h
    · cases h
      rfl
    · cases h
    · cases h

/-- Names that are neither of the dots only lead down. -/
theorem names_of_follow {folder names : List String} {l : Location}
    (h : d.follow slash folder names = .ok l) (hdots : ∀ name ∈ names, name ≠ "." ∧ name ≠ "..") :
    l.names = folder ++ names := by
  induction folder, names using Disk.follow.induct with
  | case1 folder =>
      rw [follow] at h
      cases h
      exact (List.append_nil folder).symm
  | case2 folder rest ih => exact absurd rfl (hdots "." List.mem_cons_self).1
  | case3 folder rest ih => exact absurd rfl (hdots ".." List.mem_cons_self).2
  | case4 folder name hdot hup =>
      rw [follow] at h
      · cases h
        rfl
      · exact hdot
      · exact hup
  | case5 folder name rest hdot hup hrest ih =>
      rw [follow_cons hdot hup hrest, bind_eq_ok_iff] at h
      rcases h with ⟨inner, henter, hinner⟩
      rw [List.forall_mem_cons] at hdots
      rw [ih inner hinner hdots.2, eq_of_enter henter, List.append_assoc, List.singleton_append]

/-- Two paths that start with the same names go through the same folder. -/
theorem exists_follow_append {slash slash' : Bool} {folder names more others : List String}
    {l k : Location} (hl : d.follow slash folder (names ++ more) = .ok l)
    (hk : d.follow slash' folder (names ++ others) = .ok k) (hmore : more ≠ [])
    (hothers : others ≠ []) :
    ∃ inner, d.follow slash inner more = .ok l ∧ d.follow slash' inner others = .ok k := by
  induction names generalizing folder with
  | nil => exact ⟨folder, hl, hk⟩
  | cons name rest ih =>
      rw [List.cons_append] at hl hk
      by_cases hdot : name = "."
      · rw [hdot, follow] at hl hk
        exact ih hl hk
      · by_cases hup : name = ".."
        · rw [hup, follow] at hl hk
          exact ih hl hk
        · have happend {names : List String} (hnames : names ≠ []) : rest ++ names ≠ [] :=
            List.append_ne_nil_of_right_ne_nil rest hnames
          rw [follow_cons hdot hup (happend hmore), bind_eq_ok_iff] at hl
          rw [follow_cons hdot hup (happend hothers), bind_eq_ok_iff] at hk
          rcases hl with ⟨inner, henter, hl⟩
          rcases hk with ⟨other, hother, hk⟩
          rw [henter] at hother
          cases hother
          exact ih hl hk

/-- A path that leads anywhere is followed from the root or from the working folder. -/
theorem follow_of_locate {path : String} {l : Location} (h : d.locate path = .ok l) :
    d.follow (path.toList.getLast? = some '/')
      (if Path.isAbsolute path then [] else d.workingFolder) (Path.names path) = .ok l := by
  unfold locate at h
  dsimp only at h
  split_ifs at h ⊢ with hzero hempty hlong
  · exact h
  · exact h

/-- Below one root, paths that lead down lead to different places if their names
    differ. -/
theorem names_ne_of_locate {root path other : String} {l k : Location}
    (hpath : Path.LeadsDown path) (hother : Path.LeadsDown other)
    (hne : Path.names path ≠ Path.names other)
    (hl : d.locate (Path.rooted root ++ path) = .ok l)
    (hk : d.locate (Path.rooted root ++ other) = .ok k) : l.names ≠ k.names := by
  have hl := follow_of_locate hl
  have hk := follow_of_locate hk
  rw [Path.isAbsolute_rooted_append root hpath.relative, Path.names_rooted_append] at hl
  rw [Path.isAbsolute_rooted_append root hother.relative, Path.names_rooted_append] at hk
  -- Both go through the folder that the root is.
  rcases exists_follow_append hl hk hpath.nonempty hother.nonempty with ⟨folder, hl, hk⟩
  rw [names_of_follow hl hpath.noDots, names_of_follow hk hother.noDots]
  exact fun heq => hne (List.append_cancel_left heq)

end Disk

end LootFilter
