import LootFilter.Disk.Basic
import LootFilter.Proofs.Source.Failure
import Mathlib.Tactic.SplitIfs

/-!
# Writing One File

A text that is written ends up in the file that the path leads to, and nowhere
else. The folders are those that were there before, every other file has the text
that it had, and the working folder stays.

An entry is put at the front of the list of entries and taken out of what follows,
so looking up its names finds it there, and a search for other names passes over
it.

The path then leads where it led before. On its way it only goes into folders, and
a file is never put in the place of one. So the text that is read at the path is
the one that was written, and whether a path can be written does not depend on the
text.

## Main definitions

* `Disk.IsWritten`: The disk after a text was written at a path.
* `Disk.KeepsFolders`: Every folder of a disk is one of another disk too.
* `Disk.IsWritable`: A path at which a text can be written.

## Theorems

* `Disk.entry?_put_self`, `Disk.entry?_put_of_ne`: Where an entry is put.
* `Disk.isWritten_of_write`: Writing touches one file.
* `Disk.KeepsFolders.locate`: Paths lead to the same place as long as the folders
  stay.
* `Disk.read_of_write`: What was written is read.
* `Disk.IsWritable.exists_write`: Any text can be written at a writable path.
-/

namespace LootFilter

namespace Disk

/-- The text is in the file that the path leads to, and nothing else on the disk
    differs. -/
def IsWritten (d : Disk) (path text : String) (d' : Disk) : Prop :=
  ∃ folder name, d.locate path = .ok (.entry folder name false) ∧
    d.entry? (folder ++ [name]) ≠ some .folder ∧
    d'.entry? (folder ++ [name]) = some (.file text) ∧
    (∀ names, names ≠ folder ++ [name] → d'.entry? names = d.entry? names) ∧
    d'.workingFolder = d.workingFolder

/-- An entry is where it was put. -/
theorem entry?_put_self (d : Disk) {names : List String} (h : names ≠ []) (e : Entry) :
    entry? (d.put names e) names = some e := by
  rw [put, entry?]
  · simp only [List.find?_cons, beq_self_eq_true, Option.map_some]
  · exact h

/-- Every other entry is what it was. -/
theorem entry?_put_of_ne (d : Disk) {names other : List String} (h : other ≠ names) (e : Entry) :
    entry? (d.put names e) other = d.entry? other := by
  cases other with
  | nil => rfl
  | cons first rest =>
      have hhead : (names == first :: rest) = false := beq_eq_false_iff_ne.mpr h.symm
      rw [put, entry?, entry?]
      simp only [List.find?_cons, hhead, List.find?_filter]
      -- What was taken out has the other names, so the search would not have found it.
      congr 2
      · funext p
        by_cases hp : p.1 = first :: rest
        · simp [hp, h]
        · simp [hp]
      all_goals exact List.cons_ne_nil first rest

/-- Putting a file where a path leads writes its text there. -/
theorem isWritten_put {d : Disk} {path : String} {folder : List String} {name : String}
    (hlocate : d.locate path = .ok (.entry folder name false))
    (hfolder : d.entry? (folder ++ [name]) ≠ some .folder) (text : String) :
    d.IsWritten path text (d.put (folder ++ [name]) (.file text)) := by
  refine ⟨folder, name, hlocate, hfolder, ?_, fun names hnames => ?_, rfl⟩
  · exact entry?_put_self d (List.append_ne_nil_of_right_ne_nil folder (List.cons_ne_nil name [])) _
  · exact entry?_put_of_ne d hnames _

/-- A text is written by putting a file at the place that the path leads to. What
    stands in the way does not depend on the text. -/
theorem exists_locate_of_write {d d' : Disk} {path text : String}
    (h : d.write path text = .ok d') :
    ∃ folder name, d.locate path = .ok (.entry folder name false) ∧ isTooLong name = false ∧
      d.entry? (folder ++ [name]) ≠ some .folder ∧
        d' = d.put (folder ++ [name]) (.file text) := by
  rw [write, bind_eq_ok_iff] at h
  rcases h with ⟨location, hlocate, h⟩
  cases location with
  | folder names => cases h
  | entry folder name slash =>
      cases slash with
      | true => cases h
      | false =>
          by_cases hlong : isTooLong name = true
          · simp only [hlong, if_true] at h
            cases h
          · simp only [hlong, Bool.false_eq_true, if_false] at h
            rw [Bool.not_eq_true] at hlong
            cases hentry : d.entry? (folder ++ [name]) with
            | none =>
                rw [hentry] at h
                cases h
                exact ⟨folder, name, hlocate, hlong, by simp [hentry], rfl⟩
            | some e =>
                rw [hentry] at h
                cases e with
                | folder => cases h
                | file old =>
                    cases h
                    exact ⟨folder, name, hlocate, hlong, by simp [hentry], rfl⟩

/-- A text can be put at any place that a path leads to and where no folder is. -/
theorem write_of_locate {d : Disk} {path : String} {folder : List String} {name : String}
    (hlocate : d.locate path = .ok (.entry folder name false)) (hlong : isTooLong name = false)
    (hfolder : d.entry? (folder ++ [name]) ≠ some .folder) (text : String) :
    d.write path text = .ok (d.put (folder ++ [name]) (.file text)) := by
  rw [write, bind_eq_ok_iff]
  refine ⟨_, hlocate, ?_⟩
  simp only [hlong, Bool.false_eq_true, if_false]
  cases hentry : d.entry? (folder ++ [name]) with
  | none => rfl
  | some e =>
      cases e with
      | folder => exact absurd hentry hfolder
      | file old => rfl

/-- Writing a text touches the file that the path leads to, and nothing else. -/
theorem isWritten_of_write {d d' : Disk} {path text : String} (h : d.write path text = .ok d') :
    d.IsWritten path text d' := by
  rcases exists_locate_of_write h with ⟨folder, name, hlocate, -, hfolder, rfl⟩
  exact isWritten_put hlocate hfolder text

/-! ## Reading back -/

/-- Every folder of the first disk is a folder of the second one, and relative
    paths start in the same place. -/
structure KeepsFolders (d d' : Disk) : Prop where
  folder : ∀ names, d.entry? names = some .folder → d'.entry? names = some .folder
  workingFolder : d'.workingFolder = d.workingFolder

/-- A file that is put where no folder is keeps the folders. -/
theorem keepsFolders_put {d : Disk} {names : List String}
    (hfolder : d.entry? names ≠ some .folder) (text : String) :
    d.KeepsFolders (d.put names (.file text)) := by
  refine ⟨fun other hother => ?_, rfl⟩
  have hne : other ≠ names := by
    intro heq
    rw [heq] at hother
    exact hfolder hother
  rwa [entry?_put_of_ne d hne]

/-- A folder that can be entered can be entered as long as the folders stay. -/
theorem KeepsFolders.enter {d d' : Disk} (h : d.KeepsFolders d') {names inner : List String}
    {name : String} (henter : d.enter names name = .ok inner) :
    d'.enter names name = .ok inner := by
  unfold Disk.enter at henter ⊢
  by_cases hlong : isTooLong name = true
  · rw [if_pos hlong] at henter
    cases henter
  · rw [if_neg hlong] at henter ⊢
    cases hentry : d.entry? (names ++ [name]) with
    | none =>
        rw [hentry] at henter
        cases henter
    | some e =>
        cases e with
        | file text =>
            rw [hentry] at henter
            cases henter
        | folder =>
            -- What was entered is a folder, and that is one still.
            rw [hentry] at henter
            rw [h.folder _ hentry]
            exact henter

/-- Names lead to the same place as long as the folders stay. -/
theorem KeepsFolders.follow {d d' : Disk} (h : d.KeepsFolders d') {slash : Bool}
    {folder names : List String} {location : Location}
    (hfollow : d.follow slash folder names = .ok location) :
    d'.follow slash folder names = .ok location := by
  -- The induction is on the names, with a case for each way to take the first one.
  induction folder, names using Disk.follow.induct with
  | case1 folder =>
      rw [Disk.follow] at hfollow ⊢
      exact hfollow
  | case2 folder rest ih =>
      rw [Disk.follow] at hfollow ⊢
      exact ih hfollow
  | case3 folder rest ih =>
      rw [Disk.follow] at hfollow ⊢
      exact ih hfollow
  | case4 folder name hdot hdots =>
      rw [Disk.follow] at hfollow ⊢
      · exact hfollow
      all_goals assumption
  | case5 folder name rest hdot hdots hrest ih =>
      rw [Disk.follow, bind_eq_ok_iff] at hfollow ⊢
      · rcases hfollow with ⟨inner, henter, hinner⟩
        exact ⟨inner, h.enter henter, ih inner hinner⟩
      all_goals assumption

/-- A path leads to the same place as long as the folders stay. -/
theorem KeepsFolders.locate {d d' : Disk} (h : d.KeepsFolders d') {path : String}
    {location : Location} (hlocate : d.locate path = .ok location) :
    d'.locate path = .ok location := by
  unfold Disk.locate at hlocate ⊢
  rw [h.workingFolder]
  split_ifs at hlocate ⊢ with hzero hempty hlong habsolute
  · exact h.follow hlocate
  · exact h.follow hlocate

/-- What was written at a path is read at it. -/
theorem read_of_write {d d' : Disk} {path text : String} (h : d.write path text = .ok d') :
    d'.read path = .ok text := by
  rcases exists_locate_of_write h with ⟨folder, name, hlocate, hlong, hfolder, rfl⟩
  have hnames : folder ++ [name] ≠ [] :=
    List.append_ne_nil_of_right_ne_nil folder (List.cons_ne_nil name [])
  -- The new file is no folder, so it does not change where the path leads.
  rw [read, bind_eq_ok_iff]
  refine ⟨_, (keepsFolders_put hfolder text).locate hlocate, ?_⟩
  simp only [hlong, Bool.false_eq_true, if_false]
  rw [entry?_put_self d hnames]
  rfl

/-- Some text can be written at the path. -/
def IsWritable (d : Disk) (path : String) : Prop :=
  ∃ text d', d.write path text = .ok d'

/-- If one text can be written at a path then every text can, and it is read
    there. -/
theorem IsWritable.exists_write {d : Disk} {path : String} (h : d.IsWritable path)
    (text : String) : ∃ d', d.write path text = .ok d' ∧ d'.read path = .ok text := by
  rcases h with ⟨other, d', h⟩
  -- What a write needs of the disk does not mention the text.
  rcases exists_locate_of_write h with ⟨folder, name, hlocate, hlong, hfolder, -⟩
  have hwrite := write_of_locate hlocate hlong hfolder text
  exact ⟨_, hwrite, read_of_write hwrite⟩

end Disk

end LootFilter
