import LootFilter.Proofs.Source.Version

/-!
# The Source in Effect

Options can name a source of tables and a version, each of them any number of times, and
what is in effect at the end is settled for the two apart. The last source that was named
takes the place of both the folder and the server of the environment. That no server comes
back later is a matter of steps which name a version only: they have to leave the server
unset, as they leave everything else of the source as it was. If no source was ever named
then the environment decides, and there a blank text names nothing. An option is taken as
it stands, blank or not.

What one step does to the folder and the address is said once, and a sequence is gone
through from the front. A step that names nothing of one kind can then be left out of the
sequence without any change to what is in effect of that kind, wherever it stands.

## Main definitions

* `SourceConfig.lastTables?`: The source that was named last.
* `SourceConfig.IsResolved`: What an environment and options come to.

## Theorems

* `SourceConfig.override_eq`: What one step does.
* `SourceConfig.folder_overrideAll`, `SourceConfig.address_overrideAll`: What a sequence of
  steps does to the two places.
* `SourceConfig.overrideAll_of_version_only`, `SourceConfig.overrideAll_of_tables_only`:
  Steps that name one thing leave the other one alone.
* `SourceConfig.isResolved_overrideAll`: The last source and the last version count.
-/

namespace LootFilter

namespace SourceConfig

/-- The source that was named last, if any step named one. -/
def lastTables? (steps : List SourceOverride) : Option String :=
  (steps.filterMap SourceOverride.tables).getLast?

/-- What the first step names counts if no later one names anything. -/
theorem lastTables?_cons (o : SourceOverride) (rest : List SourceOverride) :
    lastTables? (o :: rest) = (lastTables? rest).or o.tables := by
  unfold lastTables?
  cases ho : o.tables with
  | none => rw [List.filterMap_cons_none ho, Option.or_none]
  | some path =>
      rw [List.filterMap_cons_some ho, List.getLast?_cons]
      cases (rest.filterMap SourceOverride.tables).getLast? with
      | none => rfl
      | some later => rfl

/-! ## Steps -/

/-- A step that names a source makes it the folder and unsets the address. What it does
    not name stays as it was. -/
theorem override_eq (c : SourceConfig) (tables version : Option String) :
    c.override tables version = ⟨tables.or c.folder, tables.elim c.address fun _ => none,
      version.elim c.version GameVersion.ofTag⟩ := by
  cases tables with
  | none =>
      cases version with
      | none => rfl
      | some tag => rfl
  | some path =>
      cases version with
      | none => rfl
      | some tag => rfl

/-- The first step of a sequence is made first. -/
theorem overrideAll_cons (c : SourceConfig) (o : SourceOverride) (rest : List SourceOverride) :
    c.overrideAll (o :: rest) = (c.override o.tables o.version).overrideAll rest :=
  rfl

/-! ## Sequences -/

/-- The folder is the source that was named last, or still the first one. -/
theorem folder_overrideAll (c : SourceConfig) (steps : List SourceOverride) :
    (c.overrideAll steps).folder = (lastTables? steps).or c.folder := by
  induction steps generalizing c with
  | nil => rfl
  | cons o rest ih =>
      rw [overrideAll_cons, ih, override_eq, lastTables?_cons, Option.or_assoc]

/-- The address is unset as soon as any step named a source. -/
theorem address_overrideAll (c : SourceConfig) (steps : List SourceOverride) :
    (c.overrideAll steps).address = (lastTables? steps).elim c.address fun _ => none := by
  induction steps generalizing c with
  | nil => rfl
  | cons o rest ih =>
      rw [overrideAll_cons, ih, override_eq, lastTables?_cons]
      cases lastTables? rest with
      | none => rfl
      | some later => rfl

/-- A step that names a version only has no part in the source. -/
theorem lastTables?_of_version_only (before after : List SourceOverride)
    (version : Option String) :
    lastTables? (before ++ ⟨none, version⟩ :: after) = lastTables? (before ++ after) := by
  unfold lastTables?
  rw [List.filterMap_append, List.filterMap_append, List.filterMap_cons_none rfl]

/-- A step that names a source only has no part in the version. -/
theorem lastVersion?_of_tables_only (before after : List SourceOverride)
    (tables : Option String) :
    lastVersion? (before ++ ⟨tables, none⟩ :: after) = lastVersion? (before ++ after) := by
  unfold lastVersion?
  rw [List.filterMap_append, List.filterMap_append, List.filterMap_cons_none rfl]

/-- With or without a step that names a version only, the source is the same. -/
theorem overrideAll_of_version_only (c : SourceConfig) (before after : List SourceOverride)
    (version : Option String) :
    let left := c.overrideAll (before ++ ⟨none, version⟩ :: after)
    let right := c.overrideAll (before ++ after)
    left.folder = right.folder ∧ left.address = right.address ∧ left.uri = right.uri := by
  intro left right
  have hfolder : left.folder = right.folder := by
    rw [folder_overrideAll, folder_overrideAll, lastTables?_of_version_only]
  have haddress : left.address = right.address := by
    rw [address_overrideAll, address_overrideAll, lastTables?_of_version_only]
  refine ⟨hfolder, haddress, ?_⟩
  rw [uri, uri, hfolder, haddress]

/-- With or without a step that names a source only, the version is the same. -/
theorem overrideAll_of_tables_only (c : SourceConfig) (before after : List SourceOverride)
    (tables : Option String) :
    (c.overrideAll (before ++ ⟨tables, none⟩ :: after)).version =
      (c.overrideAll (before ++ after)).version := by
  rw [version_overrideAll, version_overrideAll, lastVersion?_of_tables_only]

/-! ## The environment -/

/-- A variable names something unless it is blank. -/
theorem nonBlank_eq_some_iff (value : Option String) (s : String) :
    nonBlank value = some s ↔ value = some s ∧ ¬ Text.IsAllBlank s := by
  rw [nonBlank, Option.filter_eq_some_iff, ← Text.trim_eq_empty_iff_isAllBlank]
  simp

/-- The places of the environment are its variables that name something. -/
theorem places_ofEnvironment {env : Environment} {c : SourceConfig}
    (h : ofEnvironment env = .ok c) :
    c.folder = nonBlank env.tablesFolder ∧ c.address = nonBlank env.tablesAddress := by
  unfold ofEnvironment at h
  dsimp only at h
  split_ifs at h with hblank
  cases h
  exact ⟨rfl, rfl⟩

/-- What an environment and options come to. -/
structure IsResolved (env : Environment) (steps : List SourceOverride) (c : SourceConfig) :
    Prop where
  /-- The last source that was named replaces both places and is the one to be used. -/
  named : ∀ path, lastTables? steps = some path →
    c.folder = some path ∧ c.address = none ∧ c.uri = .ok path
  /-- Without one the folder is the one of the environment, unless that is blank. -/
  folder : lastTables? steps = none →
    ∀ path, c.folder = some path ↔ env.tablesFolder = some path ∧ ¬ Text.IsAllBlank path
  /-- So is the address. -/
  address : lastTables? steps = none →
    ∀ url, c.address = some url ↔ env.tablesAddress = some url ∧ ¬ Text.IsAllBlank url
  /-- A folder is used if there is one, -/
  uriFolder : ∀ path, c.folder = some path → c.uri = .ok path
  /-- an address if there is no folder, -/
  uriAddress : ∀ url, c.folder = none → c.address = some url → c.uri = .ok url
  /-- and without either there is no source to be used. -/
  uriNone : c.folder = none → c.address = none → c.uri = .error .noSource
  /-- The version is the last one that was named, else the one of the environment, else
      the usual one, without the blanks at its ends. -/
  version : c.version.tag =
    Text.trim ((lastVersion? steps).getD (env.gameVersion.getD usualVersion))

/-- The last source and the last version that options name are in effect, and where they
    name none the environment is. The two are settled apart: a step that names only one of
    them has no part in the other one, wherever in the sequence it stands. -/
theorem isResolved_overrideAll {env : Environment} {c : SourceConfig}
    (h : ofEnvironment env = .ok c) (steps : List SourceOverride) :
    IsResolved env steps (c.overrideAll steps) ∧
      ∀ before after, steps = before ++ after →
        (∀ version, let longer := c.overrideAll (before ++ ⟨none, some version⟩ :: after)
          longer.folder = (c.overrideAll steps).folder ∧
            longer.address = (c.overrideAll steps).address ∧
              longer.uri = (c.overrideAll steps).uri) ∧
        ∀ tables, (c.overrideAll (before ++ ⟨some tables, none⟩ :: after)).version =
          (c.overrideAll steps).version := by
  rcases places_ofEnvironment h with ⟨hfolder, haddress⟩
  have hlast := folder_overrideAll c steps
  have hunset := address_overrideAll c steps
  constructor
  · -- The places follow from the last source that was named, and the source to be used from
    -- the places.
    refine ⟨fun path hpath => ?_, fun hnone path => ?_, fun hnone url => ?_, fun path hpath => ?_,
      fun url hpath hurl => ?_, fun hpath hurl => ?_, ?_⟩
    · rw [hpath] at hlast hunset
      refine ⟨hlast, hunset, ?_⟩
      rw [uri, hlast]
      rfl
    · rw [hlast, hnone, Option.none_or, hfolder, nonBlank_eq_some_iff]
    · rw [hunset, hnone, Option.elim_none, haddress, nonBlank_eq_some_iff]
    · rw [uri, hpath]
      rfl
    · rw [uri, hpath, hurl]
      rfl
    · rw [uri, hpath, hurl]
      rfl
    · rw [version_overrideAll, (version_ofEnvironment h).1]
      cases lastVersion? steps with
      | none => rfl
      | some tag => rfl
  · rintro before after rfl
    exact ⟨fun version => overrideAll_of_version_only c before after (some version),
      fun tables => overrideAll_of_tables_only c before after (some tables)⟩

/-- A server of the environment that an option replaces, before and after versions that are
    named alone. -/
theorem isResolved_overrideAll_server :
    let env : Environment :=
      { tablesFolder := some " ", tablesAddress := some "https://tables.example.com" }
    let c : SourceConfig := ⟨none, some "https://tables.example.com", .ofTag usualVersion⟩
    let steps : List SourceOverride :=
      [⟨none, some "3.25"⟩, ⟨some "./tables", none⟩, ⟨none, some " 3.26 "⟩]
    ofEnvironment env = .ok c ∧ c.uri = .ok "https://tables.example.com" ∧
      (c.overrideAll steps).uri = .ok "./tables" ∧ (c.overrideAll steps).address = none ∧
        (c.overrideAll steps).version.tag = "3.26" := by
  intro env c steps
  have henv : ofEnvironment env = .ok c := by decide
  rcases isResolved_overrideAll henv [] with ⟨hfirst, -⟩
  rcases isResolved_overrideAll henv steps with ⟨hlast, -⟩
  rcases hlast.named "./tables" (by decide) with ⟨-, haddress, huri⟩
  refine ⟨henv, hfirst.uriAddress _ rfl rfl, huri, haddress, ?_⟩
  rw [hlast.version]
  decide

end SourceConfig

end LootFilter
