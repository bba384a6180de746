import LootFilter.Proofs.Source.Failure
import LootFilter.Source.Load
import Mathlib.Data.List.Nodup

/-!
# Loading All Tables or None

What comes out of loading the tables of a version, said without the steps that
it takes. All tables are fetched before any is decoded, so there are two rounds,
and each of them ends at its first failure. Within a table it is the place of the
row that counts.

Between the rounds the rows are in a map. A table is taken out of it by its name,
and one that is missing would pass for an empty table. So what has to be kept up
is that the tables still to be decoded are there with their own rows. No table is
needed twice, so taking one out leaves the others where they are.

If nothing fails then each slot holds the rows of its own table. Nothing else
goes into the result: a table that the version does not need is not looked at,
and the name of the table with the requirements matters only in messages.

## Main definitions

* `TableName.decode`: The reader of a table's rows.
* `HasMalformedRow`: The first row that does not fit its table.
* `ItemTables.AreLoaded`: Each slot holds the rows of its own table.

## Theorems

* `fetchAll_eq_error_iff`: The first table that cannot be fetched is reported.
* `decodeRows_eq_error_iff`: The first row that does not fit is reported.
* `FetchedRows.Keeps.take`: Taking a table leaves the others where they are.
* `ItemTables.load_all_or_none`: What comes out of loading.
-/

namespace LootFilter

/-- The rows of a table, none if it cannot be fetched. -/
def fetchedRows (fetch : TableName → Except SourceError (List Json)) (table : TableName) :
    List Json :=
  match fetch table with
  | .ok rows => rows
  | .error _ => []

section Fetching

variable {fetch : TableName → Except SourceError (List Json)}

/-- A table that can be fetched has these rows. -/
theorem fetch_eq_ok {table : TableName} (h : ∃ rows, fetch table = .ok rows) :
    fetch table = .ok (fetchedRows fetch table) := by
  rcases h with ⟨rows, hrows⟩
  rw [fetchedRows, hrows]

/-- The first table that cannot be fetched is reported. -/
theorem fetchAll_eq_error_iff (tables : List TableName) (e : SourceError) :
    fetchAll fetch tables = .error e ↔ FailsFirst fetch tables e := by
  induction tables with
  | nil => simp only [fetchAll, reduceCtorEq, not_failsFirst_nil]
  | cons table rest ih =>
      rw [fetchAll, bind_eq_error_iff, failsFirst_cons_iff, ← ih]
      simp only [bind_eq_error_iff, pure, Except.pure, reduceCtorEq, and_false, exists_false,
        or_false, exists_and_right]

/-- If every table can be fetched then each of them comes with its rows, and
    otherwise none does. -/
theorem fetchAll_eq_ok_iff (tables : List TableName)
    (fetched : List (TableName × List Json)) : fetchAll fetch tables = .ok fetched ↔
      (∀ t ∈ tables, ∃ rows, fetch t = .ok rows) ∧
        fetched = tables.map fun t => (t, fetchedRows fetch t) := by
  induction tables generalizing fetched with
  | nil =>
      rw [fetchAll, Except.ok.injEq, eq_comm]
      exact ⟨fun h => ⟨List.forall_mem_nil _, h⟩, fun h => h.2⟩
  | cons table rest ih =>
      rw [fetchAll, List.forall_mem_cons, List.map_cons]
      simp only [bind_eq_ok_iff, ih, pure, Except.pure, Except.ok.injEq]
      constructor
      · rintro ⟨rows, hrows, more, ⟨hmore, rfl⟩, rfl⟩
        refine ⟨⟨⟨rows, hrows⟩, hmore⟩, ?_⟩
        rw [fetchedRows, hrows]
      · rintro ⟨⟨htable, hrest⟩, rfl⟩
        exact ⟨_, fetch_eq_ok htable, _, ⟨hrest, rfl⟩, rfl⟩

/-- Fetching asks for the tables in the list and for no others. -/
theorem fetchAll_congr {fetch' : TableName → Except SourceError (List Json)}
    {tables : List TableName} (h : ∀ t ∈ tables, fetch' t = fetch t) :
    fetchAll fetch' tables = fetchAll fetch tables := by
  induction tables with
  | nil => rfl
  | cons table rest ih =>
      rcases List.forall_mem_cons.mp h with ⟨htable, hrest⟩
      rw [fetchAll, fetchAll, htable, ih hrest]

end Fetching

namespace FetchedRows

/-- The rows that were fetched of some tables are there. -/
def Keeps (fetched : FetchedRows) (rows : TableName → List Json) (tables : List TableName) :
    Prop :=
  ∀ t ∈ tables, fetched.getD t [] = rows t

/-- What was fetched is there. -/
theorem keeps_ofList (rows : TableName → List Json) {tables : List TableName}
    (hnodup : tables.Nodup) :
    Keeps (.ofList (tables.map fun t => (t, rows t))) rows tables := by
  intro t ht
  refine Std.HashMap.getD_ofList_of_mem (beq_self_eq_true t) ?_
    (List.mem_map.mpr ⟨t, ht, rfl⟩)
  rw [List.pairwise_map]
  exact hnodup.imp fun hne => beq_eq_false_iff_ne.mpr hne

/-- A table that is taken out comes with its rows, and the others stay where they
    are. -/
theorem Keeps.take {fetched : FetchedRows} {rows : TableName → List Json} {table : TableName}
    {rest : List TableName} (h : fetched.Keeps rows (table :: rest)) (htable : table ∉ rest) :
    (fetched.take table).1 = rows table ∧ (fetched.take table).2.Keeps rows rest := by
  refine ⟨h table List.mem_cons_self, fun t ht => ?_⟩
  have hne : ¬ (table == t) = true := fun heq => htable (beq_iff_eq.mp heq ▸ ht)
  rw [FetchedRows.take, Std.HashMap.getD_erase, if_neg hne]
  exact h t (List.mem_cons_of_mem table ht)

end FetchedRows

/-! ## Decoding -/

/-- The rows are typed one by one. -/
theorem decodeRowsFrom_eq_ok_iff {α : Type} (table : TableName) (read : Decoder α) (start : Nat)
    (rows : List Json) (typed : List α) : decodeRowsFrom table read start rows = .ok typed ↔
      List.Forall₂ (fun row a => read (.ofJson row) = .ok a) rows typed := by
  induction rows generalizing start typed with
  | nil =>
      rw [decodeRowsFrom, Except.ok.injEq, List.forall₂_nil_left_iff]
      exact eq_comm
  | cons row rest ih =>
      rw [decodeRowsFrom, List.forall₂_cons_left_iff]
      cases hrow : read (.ofJson row) with
      | error fault => simp only [reduceCtorEq, false_and, exists_false]
      | ok a =>
          simp only [bind_eq_ok_iff, ih, pure, Except.pure, Except.ok.injEq]
          constructor
          · rintro ⟨more, hmore, rfl⟩
            exact ⟨a, more, rfl, hmore, rfl⟩
          · rintro ⟨b, more, rfl, hmore, rfl⟩
            exact ⟨more, hmore, rfl⟩

/-- The first row that does not fit is reported with its place. -/
theorem decodeRowsFrom_eq_error_iff {α : Type} (table : TableName) (read : Decoder α)
    (start : Nat) (rows : List Json) (e : SourceError) :
    decodeRowsFrom table read start rows = .error e ↔ ∃ i fault,
      FailsFirstAt (fun row => read (.ofJson row)) rows i fault ∧
        e = .malformedRow table (start + i) fault := by
  induction rows generalizing start with
  | nil => simp only [decodeRowsFrom, reduceCtorEq, not_failsFirstAt_nil, false_and, exists_false]
  | cons row rest ih =>
      simp only [decodeRowsFrom, failsFirstAt_cons_iff]
      cases hrow : read (.ofJson row) with
      | error fault =>
          simp only [Except.error.injEq, reduceCtorEq, false_and, exists_false, or_false]
          constructor
          · rintro rfl
            exact ⟨0, fault, ⟨rfl, rfl⟩, rfl⟩
          · rintro ⟨i, fault', ⟨rfl, rfl⟩, rfl⟩
            rfl
      | ok a =>
          simp only [bind_eq_error_iff, ih, pure, Except.pure, reduceCtorEq, and_false,
            exists_false, or_false, false_and, false_or, Except.ok.injEq]
          constructor
          · rintro ⟨j, fault, hj, rfl⟩
            refine ⟨j + 1, fault, ⟨a, j, rfl, hj, rfl⟩, ?_⟩
            rw [Nat.add_assoc, Nat.add_comm 1 j]
          · rintro ⟨i, fault, ⟨b, j, -, hj, rfl⟩, rfl⟩
            refine ⟨j, fault, hj, ?_⟩
            rw [Nat.add_assoc, Nat.add_comm 1 j]

/-- Rows can be typed if each of them can. -/
theorem exists_decodeRows_eq_ok_iff {α : Type} (table : TableName) (read : Decoder α)
    (rows : List Json) : (∃ typed, decodeRows table read rows = .ok typed) ↔
      ∀ row ∈ rows, ∃ a, read (.ofJson row) = .ok a := by
  simp only [decodeRows, decodeRowsFrom_eq_ok_iff]
  induction rows with
  | nil => exact ⟨fun _ => List.forall_mem_nil _, fun _ => ⟨[], .nil⟩⟩
  | cons row rest ih =>
      rw [List.forall_mem_cons, ← ih]
      constructor
      · rintro ⟨typed, h⟩
        rcases List.forall₂_cons_left_iff.mp h with ⟨a, more, ha, hmore, -⟩
        exact ⟨⟨a, ha⟩, more, hmore⟩
      · rintro ⟨⟨a, ha⟩, more, hmore⟩
        exact ⟨a :: more, .cons ha hmore⟩

/-- The first row that does not fit its table is reported, counted from zero. -/
theorem decodeRows_eq_error_iff {α : Type} (table : TableName) (read : Decoder α)
    (rows : List Json) (e : SourceError) : decodeRows table read rows = .error e ↔
      ∃ i fault, FailsFirstAt (fun row => read (.ofJson row)) rows i fault ∧
        e = .malformedRow table i fault := by
  rw [decodeRows, decodeRowsFrom_eq_error_iff]
  simp only [Nat.zero_add]

namespace TableName

/-- The type of a table's rows. Both tables of requirements have the same. -/
def Row : TableName → Type
  | baseItemTypes => BaseItemRow
  | itemClasses => ItemClassRow
  | armourTypes => ArmourTypeRow
  | weaponTypes => WeaponTypeRow
  | shieldTypes => ShieldTypeRow
  | componentAttributeRequirements => AttributeRequirementRow
  | attributeRequirements => AttributeRequirementRow

/-- The reader of a table's rows. -/
def decode : (t : TableName) → Decoder t.Row
  | baseItemTypes => BaseItemRow.decode
  | itemClasses => ItemClassRow.decode
  | armourTypes => ArmourTypeRow.decode
  | weaponTypes => WeaponTypeRow.decode
  | shieldTypes => ShieldTypeRow.decode
  | componentAttributeRequirements => AttributeRequirementRow.decode
  | attributeRequirements => AttributeRequirementRow.decode

/-- A value read as a row of the table. -/
def decodeRow (t : TableName) (row : Json) : Except Fault t.Row :=
  t.decode (.ofJson row)

end TableName

/-- All tables are fetched, and the first of them that has a row that does not
    fit is reported with the first one of these rows. -/
def HasMalformedRow (fetch : TableName → Except SourceError (List Json))
    (tables : List TableName) (e : SourceError) : Prop :=
  (∀ t ∈ tables, ∃ rows, fetch t = .ok rows) ∧
    ∃ before table after i fault, tables = before ++ table :: after ∧
      (∀ t ∈ before, ∀ row ∈ fetchedRows fetch t, ∃ a, t.decodeRow row = .ok a) ∧
        FailsFirstAt table.decodeRow (fetchedRows fetch table) i fault ∧
          e = .malformedRow table i fault

namespace GameVersion

/-- The tag of a version says which of the two tables of requirements it needs. -/
theorem attributeTable_eq (v : GameVersion) : v.attributeTable =
    if "4.".toList <+: v.tag.toList then .attributeRequirements
    else .componentAttributeRequirements := by
  rw [attributeTable, isSecondGeneration]
  simp only [List.isPrefixOf_iff_prefix]
  rfl

/-- No table is needed twice. -/
theorem requiredTables_nodup (v : GameVersion) : v.requiredTables.Nodup := by
  rw [requiredTables, attributeTable]
  cases v.isSecondGeneration with
  | true => decide
  | false => decide

end GameVersion

/-- The typed rows of a table that was fetched. -/
def IsTable {α : Type} (fetch : TableName → Except SourceError (List Json)) (table : TableName)
    (read : Decoder α) (typed : List α) : Prop :=
  ∃ rows, fetch table = .ok rows ∧
    List.Forall₂ (fun row a => read (.ofJson row) = .ok a) rows typed

section IsTable

variable {α : Type} {fetch : TableName → Except SourceError (List Json)} {table : TableName}
  {read : Decoder α} {typed : List α}

/-- The typed rows of a table that was fetched are its rows decoded. -/
theorem isTable_iff (h : ∃ rows, fetch table = .ok rows) : IsTable fetch table read typed ↔
    decodeRows table read (fetchedRows fetch table) = .ok typed := by
  rw [decodeRows, decodeRowsFrom_eq_ok_iff, IsTable]
  simp only [fetch_eq_ok h, Except.ok.injEq, exists_eq_left']

/-- Only a table that was fetched has typed rows. -/
theorem IsTable.fetched (h : IsTable fetch table read typed) : ∃ rows, fetch table = .ok rows := by
  rcases h with ⟨rows, hrows, -⟩
  exact ⟨rows, hrows⟩

/-- There are as many typed rows as rows. -/
theorem IsTable.length_eq (h : IsTable fetch table read typed) :
    typed.length = (fetchedRows fetch table).length := by
  rcases h with ⟨rows, hrows, htyped⟩
  rw [fetchedRows, hrows]
  exact htyped.length_eq.symm

/-- The same rows may be found elsewhere. -/
theorem IsTable.of_eq (h : IsTable fetch table read typed)
    {fetch' : TableName → Except SourceError (List Json)} {table' : TableName}
    (heq : fetch' table' = fetch table) : IsTable fetch' table' read typed := by
  rwa [IsTable, heq]

end IsTable

namespace ItemTables

/-- Each slot holds the rows of its own table, typed one by one and in order. -/
structure AreLoaded (fetch : TableName → Except SourceError (List Json)) (version : GameVersion)
    (tables : ItemTables) : Prop where
  baseItems : IsTable fetch .baseItemTypes BaseItemRow.decode tables.baseItems
  itemClasses : IsTable fetch .itemClasses ItemClassRow.decode tables.itemClasses
  armourTypes : IsTable fetch .armourTypes ArmourTypeRow.decode tables.armourTypes
  weaponTypes : IsTable fetch .weaponTypes WeaponTypeRow.decode tables.weaponTypes
  shieldTypes : IsTable fetch .shieldTypes ShieldTypeRow.decode tables.shieldTypes
  attributeRequirements : IsTable fetch version.attributeTable AttributeRequirementRow.decode
    tables.attributeRequirements

/-- The typed tables of a version, each from its own rows. -/
def ofRows (version : GameVersion) (rows : TableName → List Json) :
    Except SourceError ItemTables := do
  let baseItems ← decodeRows .baseItemTypes BaseItemRow.decode (rows .baseItemTypes)
  let itemClasses ← decodeRows .itemClasses ItemClassRow.decode (rows .itemClasses)
  let armourTypes ← decodeRows .armourTypes ArmourTypeRow.decode (rows .armourTypes)
  let weaponTypes ← decodeRows .weaponTypes WeaponTypeRow.decode (rows .weaponTypes)
  let shieldTypes ← decodeRows .shieldTypes ShieldTypeRow.decode (rows .shieldTypes)
  let attributeRequirements ← decodeRows version.attributeTable AttributeRequirementRow.decode
    (rows version.attributeTable)
  return {
    baseItems, itemClasses, armourTypes, weaponTypes, shieldTypes, attributeRequirements
  }

/-- No rows get lost or end up in another slot on their way through the map. -/
theorem ofFetched_eq {version : GameVersion} {fetched : FetchedRows}
    {rows : TableName → List Json} (h : fetched.Keeps rows version.requiredTables) :
    ofFetched version fetched = ofRows version rows := by
  have hnodup := version.requiredTables_nodup
  rw [GameVersion.requiredTables] at h hnodup
  simp only [List.nodup_cons] at hnodup
  rcases hnodup with ⟨hbase, hclasses, harmour, hweapon, hshield, hattribute, -⟩
  rcases h.take hbase with ⟨hrows₁, h₁⟩
  rcases h₁.take hclasses with ⟨hrows₂, h₂⟩
  rcases h₂.take harmour with ⟨hrows₃, h₃⟩
  rcases h₃.take hweapon with ⟨hrows₄, h₄⟩
  rcases h₄.take hshield with ⟨hrows₅, h₅⟩
  rcases h₅.take hattribute with ⟨hrows₆, -⟩
  simp only [ofFetched, ofRows, hrows₁, hrows₂, hrows₃, hrows₄, hrows₅, hrows₆]

/-- Rows of which every table was fetched are typed if each slot gets the rows of
    its own table. -/
theorem ofRows_eq_ok_iff {fetch : TableName → Except SourceError (List Json)}
    {version : GameVersion} (h : ∀ t ∈ version.requiredTables, ∃ rows, fetch t = .ok rows)
    (tables : ItemTables) :
    ofRows version (fetchedRows fetch) = .ok tables ↔ AreLoaded fetch version tables := by
  simp only [GameVersion.requiredTables, List.forall_mem_cons] at h
  rcases h with ⟨hbase, hclasses, harmour, hweapon, hshield, hattribute, -⟩
  constructor
  · intro hload
    simp only [ofRows, bind_eq_ok_iff] at hload
    rcases hload with ⟨_, h₁, _, h₂, _, h₃, _, h₄, _, h₅, _, h₆, heq⟩
    cases heq
    exact ⟨(isTable_iff hbase).mpr h₁, (isTable_iff hclasses).mpr h₂, (isTable_iff harmour).mpr h₃,
      (isTable_iff hweapon).mpr h₄, (isTable_iff hshield).mpr h₅, (isTable_iff hattribute).mpr h₆⟩
  · rintro ⟨h₁, h₂, h₃, h₄, h₅, h₆⟩
    rw [ofRows, (isTable_iff hbase).mp h₁, (isTable_iff hclasses).mp h₂,
      (isTable_iff harmour).mp h₃, (isTable_iff hweapon).mp h₄, (isTable_iff hshield).mp h₅,
      (isTable_iff hattribute).mp h₆]
    rfl

/-- Rows are not typed if a table has a row that does not fit, and the first such
    table is the one that fails. -/
theorem ofRows_eq_error_iff (version : GameVersion) (rows : TableName → List Json)
    (e : SourceError) : ofRows version rows = .error e ↔
      FailsFirst (fun t => decodeRows t t.decode (rows t)) version.requiredTables e := by
  have hattribute :
      FailsFirst (fun t => decodeRows t t.decode (rows t)) [version.attributeTable] e ↔
        decodeRows version.attributeTable AttributeRequirementRow.decode
          (rows version.attributeTable) = .error e := by
    -- The two tables of requirements have the same reader.
    rw [failsFirst_cons_iff, GameVersion.attributeTable]
    simp only [not_failsFirst_nil, and_false, or_false]
    cases version.isSecondGeneration with
    | true => rfl
    | false => rfl
  rw [GameVersion.requiredTables, ofRows]
  simp only [bind_eq_error_iff, failsFirst_cons_iff _ (_ :: _), hattribute, exists_and_right,
    pure, Except.pure, reduceCtorEq, and_false, exists_false, or_false]
  rfl

/-- If a table cannot be fetched then the first such table is reported, and
    otherwise the first row that does not fit, table by table. -/
theorem load_eq_error_iff (fetch : TableName → Except SourceError (List Json))
    (version : GameVersion) (e : SourceError) : load fetch version = .error e ↔
      FailsFirst fetch version.requiredTables e ∨
        HasMalformedRow fetch version.requiredTables e := by
  rw [load, bind_eq_error_iff, fetchAll_eq_error_iff]
  simp only [fetchAll_eq_ok_iff]
  refine or_congr_right ?_
  have hkeeps := FetchedRows.keeps_ofList (fetchedRows fetch) version.requiredTables_nodup
  constructor
  · rintro ⟨_, ⟨hfetch, rfl⟩, herror⟩
    rw [ofFetched_eq hkeeps, ofRows_eq_error_iff] at herror
    rcases herror with ⟨_, before, table, after, hsplit, -, hbefore, htable⟩
    rcases (decodeRows_eq_error_iff table _ _ e).mp htable with ⟨i, fault, hrow, he⟩
    refine ⟨hfetch, before, table, after, i, fault, hsplit, fun t ht => ?_, hrow, he⟩
    exact (exists_decodeRows_eq_ok_iff t _ _).mp (hbefore t ht)
  · rintro ⟨hfetch, before, table, after, i, fault, hsplit, hbefore, hrow, he⟩
    refine ⟨_, ⟨hfetch, rfl⟩, ?_⟩
    rw [ofFetched_eq hkeeps, ofRows_eq_error_iff]
    refine ⟨_, before, table, after, hsplit, rfl, fun t ht => ?_, ?_⟩
    · exact (exists_decodeRows_eq_ok_iff t _ _).mpr (hbefore t ht)
    · exact (decodeRows_eq_error_iff table _ _ e).mpr ⟨i, fault, hrow, he⟩

/-- Loading succeeds if each slot gets the rows of its own table. -/
theorem load_eq_ok_iff (fetch : TableName → Except SourceError (List Json))
    (version : GameVersion) (tables : ItemTables) :
    load fetch version = .ok tables ↔ AreLoaded fetch version tables := by
  rw [load, bind_eq_ok_iff]
  simp only [fetchAll_eq_ok_iff]
  have hkeeps := FetchedRows.keeps_ofList (fetchedRows fetch) version.requiredTables_nodup
  constructor
  · rintro ⟨_, ⟨hfetch, rfl⟩, hload⟩
    rwa [ofFetched_eq hkeeps, ofRows_eq_ok_iff hfetch] at hload
  · intro h
    have hfetch : ∀ t ∈ version.requiredTables, ∃ rows, fetch t = .ok rows := by
      simp only [GameVersion.requiredTables, List.forall_mem_cons]
      exact ⟨h.baseItems.fetched, h.itemClasses.fetched, h.armourTypes.fetched,
        h.weaponTypes.fetched, h.shieldTypes.fetched, h.attributeRequirements.fetched,
        List.forall_mem_nil _⟩
    refine ⟨_, ⟨hfetch, rfl⟩, ?_⟩
    rwa [ofFetched_eq hkeeps, ofRows_eq_ok_iff hfetch]

/-- The slots can be filled from other tables with the same rows, as long as each
    version finds the requirements under its own name. -/
theorem AreLoaded.renamed {fetch fetch' : TableName → Except SourceError (List Json)}
    {version version' : GameVersion} {tables : ItemTables} (h : AreLoaded fetch version tables)
    (hothers : ∀ t, t ≠ .componentAttributeRequirements → t ≠ .attributeRequirements →
      fetch' t = fetch t)
    (hattribute : fetch' version'.attributeTable = fetch version.attributeTable) :
    AreLoaded fetch' version' tables where
  baseItems := h.baseItems.of_eq (hothers _ (by decide) (by decide))
  itemClasses := h.itemClasses.of_eq (hothers _ (by decide) (by decide))
  armourTypes := h.armourTypes.of_eq (hothers _ (by decide) (by decide))
  weaponTypes := h.weaponTypes.of_eq (hothers _ (by decide) (by decide))
  shieldTypes := h.shieldTypes.of_eq (hothers _ (by decide) (by decide))
  attributeRequirements := h.attributeRequirements.of_eq hattribute

/-- No row gets lost. -/
theorem rowCount_eq {fetch : TableName → Except SourceError (List Json)} {version : GameVersion}
    {tables : ItemTables} (h : AreLoaded fetch version tables) : tables.rowCount =
      (version.requiredTables.flatMap (fetchedRows fetch)).length := by
  simp only [GameVersion.requiredTables, List.flatMap_cons, List.flatMap_nil, List.length_append,
    List.length_nil, rowCount, h.baseItems.length_eq, h.itemClasses.length_eq,
    h.armourTypes.length_eq, h.weaponTypes.length_eq, h.shieldTypes.length_eq,
    h.attributeRequirements.length_eq]
  omega

/-- What comes out of loading the tables of a version.

    A failure is that of the first table that cannot be fetched, or else the first
    row that does not fit, in the first table that has one. Otherwise each slot
    holds the rows of its own table, and all rows are there. Tables that the
    version does not need have no part in this, and neither does the name under
    which the requirements are found. -/
theorem load_all_or_none (fetch : TableName → Except SourceError (List Json))
    (version : GameVersion) :
    version.requiredTables = [.baseItemTypes, .itemClasses, .armourTypes, .weaponTypes,
        .shieldTypes, if "4.".toList <+: version.tag.toList then .attributeRequirements
          else .componentAttributeRequirements] ∧
      (∀ e, load fetch version = .error e ↔ FailsFirst fetch version.requiredTables e ∨
        HasMalformedRow fetch version.requiredTables e) ∧
      (∀ tables, load fetch version = .ok tables ↔ AreLoaded fetch version tables) ∧
      (∀ tables, load fetch version = .ok tables → tables.rowCount =
        (version.requiredTables.flatMap (fetchedRows fetch)).length) ∧
      (∀ fetch' : TableName → Except SourceError (List Json),
        (∀ t ∈ version.requiredTables, fetch' t = fetch t) →
          load fetch' version = load fetch version) ∧
      ∀ (second : GameVersion) (fetch' : TableName → Except SourceError (List Json)),
        ¬ "4.".toList <+: version.tag.toList → "4.".toList <+: second.tag.toList →
          (∀ t, t ≠ .componentAttributeRequirements → t ≠ .attributeRequirements →
            fetch' t = fetch t) →
          fetch' .attributeRequirements = fetch .componentAttributeRequirements →
            ∀ tables, load fetch' second = .ok tables ↔ load fetch version = .ok tables := by
  refine ⟨?_, load_eq_error_iff fetch version, load_eq_ok_iff fetch version, fun tables h => ?_,
    fun fetch' h => ?_, fun second fetch' hfirst hsecond hothers hrenamed tables => ?_⟩
  · rw [GameVersion.requiredTables, GameVersion.attributeTable_eq]
  · exact rowCount_eq ((load_eq_ok_iff fetch version tables).mp h)
  · rw [load, load, fetchAll_congr h]
  · rw [load_eq_ok_iff, load_eq_ok_iff]
    have hattribute : fetch' second.attributeTable = fetch version.attributeTable := by
      rw [GameVersion.attributeTable_eq, GameVersion.attributeTable_eq, if_pos hsecond,
        if_neg hfirst, hrenamed]
    constructor
    · intro h
      exact h.renamed (fun t hc hr => (hothers t hc hr).symm) hattribute.symm
    · intro h
      exact h.renamed hothers hattribute

end ItemTables

end LootFilter
