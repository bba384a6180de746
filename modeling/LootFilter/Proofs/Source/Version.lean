import LootFilter.Source.Config
import Mathlib.Data.List.DropRight
import Mathlib.Tactic.SplitIfs

/-!
# The Version in Effect

The version that tables are looked up under comes from the environment, and each
option that gives another one replaces it. Both are trimmed, so no version ever
has a blank at its ends. But only the one of the environment has to have
something left after that. An option with blanks alone gives the empty version,
and the environment does not come back: the version is empty exactly if the last
option that gave one gave blanks.

An empty version is not refused anywhere behind that. Its tables are looked up as
if there were no folder for the version, next to the folders of all others.

A sequence of options is a fold of `SourceConfig.override`, so what an option does
to the version is said once, for a single step, and what a sequence comes to
follows by going through it from the front.

## Main definitions

* `Text.IsTrimmed`, `Text.IsAllBlank`: What trimming leaves, and of which texts it
  leaves nothing.
* `SourceOverride`: What the options of one step give.
* `SourceConfig.overrideAll`: A configuration changed by options in sequence.
* `SourceConfig.lastVersion?`: The version that was given last.

## Theorems

* `Text.isTrimmed_trim`: Trimming leaves no blanks at the ends.
* `SourceConfig.version_override`: What one step does to the version.
* `SourceConfig.version_overrideAll`: What a sequence of steps does to it.
* `SourceConfig.version_of_overrides`: The version in effect is trimmed, and when
  it is empty.
* `SourceConfig.not_forall_version_ne_empty`: The version in effect can be empty.
* `TableFolder.tablePath_of_empty_version`, `isAbsolute_tablePath_of_empty_version`:
  Where the tables of the empty version are looked up.
-/

namespace LootFilter

namespace Text

/-- The text has no blank at either of its ends. -/
structure IsTrimmed (s : String) : Prop where
  first : ∀ c ∈ s.toList.head?, isBlank c = false
  last : ∀ c ∈ s.toList.getLast?, isBlank c = false

/-- There is nothing but blanks in the text, if there is anything. -/
def IsAllBlank (s : String) : Prop :=
  ∀ c ∈ s.toList, isBlank c = true

/-- Trimming leaves nothing exactly of a text of blanks alone. -/
theorem trim_eq_empty_iff_isAllBlank (s : String) : trim s = "" ↔ IsAllBlank s := by
  rw [trim_eq_empty_iff, List.all_eq_true, IsAllBlank]

/-- Trimming is dropping blanks from the front and then from the back. -/
theorem toList_trim (s : String) :
    (trim s).toList = (s.toList.dropWhile isBlank).rdropWhile isBlank := by
  rw [trim, String.toList_ofList]
  rfl

/-- Trimming leaves no blanks at the ends. -/
theorem isTrimmed_trim (s : String) : IsTrimmed (trim s) := by
  refine ⟨fun c hc => ?_, fun c hc => ?_⟩
  · -- Dropping from the back keeps the front, or takes all.
    rw [toList_trim, Option.mem_def, List.head?_eq_some_iff] at hc
    rcases hc with ⟨rest, hrest⟩
    have hprefix := List.rdropWhile_prefix isBlank (s.toList.dropWhile isBlank)
    rw [hrest] at hprefix
    rcases hprefix with ⟨dropped, hdropped⟩
    have hfirst := List.head?_dropWhile_not isBlank s.toList
    rwa [← hdropped] at hfirst
  · rw [toList_trim, Option.mem_def] at hc
    rcases List.getLast?_eq_some_iff.mp hc with ⟨rest, hrest⟩
    have hnonempty : (s.toList.dropWhile isBlank).rdropWhile isBlank ≠ [] := by
      rw [hrest]
      exact List.append_ne_nil_of_right_ne_nil rest (List.cons_ne_nil c [])
    have hlast := List.rdropWhile_last_not isBlank _ hnonempty
    rw [List.getLast?_eq_some_getLast hnonempty, Option.some.injEq] at hc
    rw [hc, Bool.not_eq_true] at hlast
    exact hlast

end Text

/-- What the options of one step give. -/
structure SourceOverride where
  tables : Option String
  version : Option String
  deriving DecidableEq

namespace SourceConfig

/-- The configuration changed by options, from the first to the last. -/
def overrideAll (c : SourceConfig) (steps : List SourceOverride) : SourceConfig :=
  steps.foldl (fun c o => c.override o.tables o.version) c

/-- The version that was given last, if any step gave one. -/
def lastVersion? (steps : List SourceOverride) : Option String :=
  (steps.filterMap SourceOverride.version).getLast?

/-- A step replaces the version if it gives one, and keeps it otherwise. The source
    that it gives is of no concern for that. -/
theorem version_override (c : SourceConfig) (tables version : Option String) :
    (c.override tables version).version = version.elim c.version GameVersion.ofTag := by
  cases tables with
  | none =>
      cases version with
      | none => rfl
      | some tag => rfl
  | some path =>
      cases version with
      | none => rfl
      | some tag => rfl

/-- After a sequence of steps the version is the one that was given last, or still
    the first one. -/
theorem version_overrideAll (c : SourceConfig) (steps : List SourceOverride) :
    (c.overrideAll steps).version = (lastVersion? steps).elim c.version GameVersion.ofTag := by
  induction steps generalizing c with
  | nil => rfl
  | cons o rest ih =>
      have hrest : c.overrideAll (o :: rest) = (c.override o.tables o.version).overrideAll rest :=
        rfl
      rw [hrest, ih, version_override, lastVersion?, lastVersion?]
      cases ho : o.version with
      | none => rw [List.filterMap_cons_none ho, Option.elim_none]
      | some tag =>
          -- What this step gives only counts if no later one gives anything.
          rw [List.filterMap_cons_some ho, List.getLast?_cons]
          cases (rest.filterMap SourceOverride.version).getLast? with
          | none => rfl
          | some later => rfl

/-- The environment gives a trimmed version that is not empty. -/
theorem version_ofEnvironment {env : Environment} {c : SourceConfig}
    (h : ofEnvironment env = .ok c) :
    c.version = .ofTag (env.gameVersion.getD usualVersion) ∧ c.version.tag ≠ "" := by
  unfold ofEnvironment at h
  dsimp only at h
  split_ifs at h with hblank
  cases h
  rw [String.isEmpty_iff] at hblank
  exact ⟨rfl, hblank⟩

/-- The version in effect has no blank at its ends, whatever the environment and
    the options are. It is empty exactly if the last version that the options give
    is made of blanks alone. -/
theorem version_of_overrides {env : Environment} {c : SourceConfig}
    (h : ofEnvironment env = .ok c) (steps : List SourceOverride) :
    Text.IsTrimmed (c.overrideAll steps).version.tag ∧
      ((c.overrideAll steps).version.tag = "" ↔
        ∃ given, lastVersion? steps = some given ∧ Text.IsAllBlank given) := by
  rcases version_ofEnvironment h with ⟨hversion, hnonempty⟩
  rw [version_overrideAll]
  cases lastVersion? steps with
  | none =>
      rw [Option.elim_none]
      refine ⟨?_, iff_of_false hnonempty ?_⟩
      · rw [hversion]
        exact Text.isTrimmed_trim _
      · rintro ⟨given, hgiven, -⟩
        cases hgiven
  | some tag =>
      rw [Option.elim_some]
      refine ⟨Text.isTrimmed_trim tag, ?_⟩
      simp only [Option.some.injEq, exists_eq_left']
      exact Text.trim_eq_empty_iff_isAllBlank tag

/-- A version with blanks around it, given after one that is blank. -/
theorem version_of_overrides_twice :
    let c : SourceConfig := ⟨none, none, .ofTag usualVersion⟩
    let steps : List SourceOverride := [⟨none, some " "⟩, ⟨none, some " 3.25 "⟩]
    ofEnvironment {} = .ok c ∧ (c.overrideAll steps).version.tag ≠ "" ∧
      Text.IsTrimmed (c.overrideAll steps).version.tag := by
  intro c steps
  have henv : ofEnvironment {} = .ok c := rfl
  rcases version_of_overrides henv steps with ⟨htrimmed, hempty⟩
  refine ⟨henv, ?_, htrimmed⟩
  rw [ne_eq, hempty]
  -- The blank version was given, but it was not the last one.
  rintro ⟨given, hgiven, hblank⟩
  cases hgiven
  exact absurd (hblank '3' (by decide)) (by decide)

/-- An option of blanks leaves an empty version, although the environment had one
    that was not empty. -/
theorem not_forall_version_ne_empty :
    ¬ ∀ env c, ofEnvironment env = .ok c →
      ∀ steps, (c.overrideAll steps).version.tag ≠ "" := by
  intro h
  have hnonempty := h {} ⟨none, none, .ofTag usualVersion⟩ rfl [⟨none, some " "⟩]
  exact hnonempty (by decide)

end SourceConfig

/-! ## The empty version -/

namespace Path

/-- Nothing behind a path leaves it as it is, but for a slash at its end. What
    comes behind that does not tell the difference. -/
theorem join_join_empty (root : String) {next : String} (hnext : isAbsolute next = false) :
    join (join root "") next = join root next := by
  have hempty : isAbsolute "" = false := by decide
  unfold join
  by_cases hroot : root.isEmpty = true
  · simp [hempty, hnext, hroot]
  · by_cases hslash : root.toList.getLast? = some '/'
    · simp [hempty, hnext, hroot, hslash]
    · simp [hempty, hnext, hroot, hslash]

end Path

namespace TableFolder

/-- The tables of the empty version are looked up as if there were no folder for
    the version. -/
theorem tablePath_of_empty_version (f : TableFolder) (table : TableName) :
    f.tablePath table ⟨""⟩ = Path.join (Path.join f.root "tables") (table.name ++ ".json") := by
  rw [tablePath, Path.join_join_empty f.root (by decide)]

end TableFolder

/-- On a server the path of a table of the empty version is absolute, so it does not
    continue the address of the server but replaces what follows the host. -/
theorem isAbsolute_tablePath_of_empty_version (table : TableName) :
    Path.isAbsolute (tablePath ⟨""⟩ table) = true := by
  have hchars : (tablePath ⟨""⟩ table).toList =
      '/' :: ("tables/".toList ++ table.name.toList ++ ".json".toList) := by
    simp [tablePath, String.toList_append]
  rw [Path.isAbsolute, hchars]
  rfl

end LootFilter
