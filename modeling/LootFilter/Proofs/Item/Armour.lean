import LootFilter.Proofs.Item.NestedLoop
import LootFilter.Proofs.Json.Lookup
import Mathlib.Data.List.Nodup

/-!
# From Armour Columns to Armour Stats

Thirteen columns of an armour row, twelve of them for four stats and one for the movement
speed, become nine numbers of an item. They look alike, so what could go wrong is that a
number of one stat ends up in another one, or a least value in the place of a greatest.
Here it is said in terms of the row alone which columns a number comes from.

A column that is missing counts like one that is `null`. Both ends of a stat are taken from
its pair of columns if any of the two is given, and then a missing end takes the other one.
The single column only counts if neither is. So the ends are the wrong way round only if
the pair is, since in all other cases they are equal. The movement speed has one column,
which may be missing but not `null`.

## Main definitions

* `Json.HasColumn`: What an integer column of a row holds, if anything.
* `StatRange.IsSpanned`: The range of a stat by what its three columns hold.
* `ArmourStat`: The four stats with their names.
* `ArmourStats.IsReadFrom`: Armour stats come from the columns of a row.

## Theorems

* `ArmourTypeRow.isReadFrom_of_decode`: The stats of a row come from its columns.
* `ArmourStats.IsReadFrom.inverted_iff`: When the ends are the wrong way round.
* `ArmourStats.IsReadFrom.range_eq`: A stat depends on its own columns only.
* `ItemTables.armour_columns_reach_items`: The columns reach the item that is joined.
-/

namespace LootFilter

/-! ## Columns -/

namespace Json

/-- What a column of a row holds, where it can only hold an integer: nothing if the column
    is missing or `null`. -/
inductive HasColumn (row : Json) (name : String) : Option Int32 → Prop where
  | missing (h : row.get? name = none) : HasColumn row name none
  | null (h : row.get? name = some .null) : HasColumn row name none
  | given (n : Int32) (h : row.get? name = some (.int32 n)) : HasColumn row name (some n)

/-- Different integers are spelled in different ways. -/
theorem int32_injective {m n : Int32} (h : int32 m = int32 n) : m = n := by
  rw [int32, int32, int, int, number.injEq, Number.int.injEq] at h
  exact Int32.toInt_inj.mp h

/-- Two rows with the same value in a column hold the same there. -/
theorem HasColumn.eq_of_get? {row row' : Json} {name : String} {x y : Option Int32}
    (h : row.HasColumn name x) (h' : row'.HasColumn name y)
    (heq : row'.get? name = row.get? name) : y = x := by
  have hnull (n : Int32) : int32 n ≠ .null := Json.noConfusion
  cases h with
  | missing h =>
      cases h' with
      | missing h' => rfl
      | null h' => rfl
      | given n h' => cases (h'.symm.trans heq).trans h
  | null h =>
      cases h' with
      | missing h' => rfl
      | null h' => rfl
      | given n h' => exact absurd (Option.some.inj ((h'.symm.trans heq).trans h)) (hnull n)
  | given m h =>
      cases h' with
      | missing h' => cases (h'.symm.trans heq).trans h
      | null h' => exact absurd (Option.some.inj ((h'.symm.trans heq).trans h)).symm (hnull m)
      | given n h' =>
          exact congrArg some (int32_injective (Option.some.inj ((h'.symm.trans heq).trans h)))

end Json

namespace Decode

/-- Nothing but the integer itself is read as it. -/
theorem eq_int32_of_ok {j : Json} {n : Int32} (h : int32 (.ofJson j) = .ok n) : j = .int32 n := by
  rcases (map_eq_ok_iff _ _ _).mp h with ⟨m, hm, rfl⟩
  cases j with
  | number k =>
      cases k with
      | int k =>
          rw [Fragment.ofJson, integer] at hm
          split_ifs at hm with hbounds
          cases hm
          rw [Json.int32, Int32.toInt_ofInt_of_le hbounds.1 (by omega)]
          rfl
      | float x =>
          rw [Fragment.ofJson] at hm
          cases hm
  | null => rw [Fragment.ofJson] at hm; cases hm
  | bool b => rw [Fragment.ofJson] at hm; cases hm
  | string s => rw [Fragment.ofJson] at hm; cases hm
  | array items => rw [Fragment.ofJson] at hm; cases hm
  | object members => rw [Fragment.ofJson] at hm; cases hm

end Decode

namespace Record

/-- An optional column of integers is found as it stands in the row. -/
theorem Finds.column {name : String} {ms : List (String × Json)} {x : Option Int32}
    (h : (Record.optional name Decode.int32).Finds ms x) : (Json.object ms).HasColumn name x := by
  have hfield := Finds.field h
  cases hlookup : (Json.object ms).get? name with
  | none =>
      rw [hlookup] at hfield
      cases hfield
      exact .missing hlookup
  | some j =>
      rw [hlookup] at hfield
      replace hfield : Decode.optional Decode.int32 (.ofJson j) = .ok x := hfield
      by_cases hnull : j = .null
      · rw [hnull, Fragment.ofJson] at hfield
        cases hfield
        exact .null (hlookup.trans (congrArg some hnull))
      · have hvalue : (Decode.int32 (.ofJson j)).map some = .ok x := by
          rw [← hfield, Decode.optional]
          rwa [Fragment.ofJson_eq_null_iff]
        rcases (map_eq_ok_iff _ _ _).mp hvalue with ⟨n, hn, rfl⟩
        exact .given n (hlookup.trans (congrArg some (Decode.eq_int32_of_ok hn)))

end Record

/-! ## Ranges -/

namespace StatRange

/-- The range of a stat by what its three columns hold: the single value, the least and the
    greatest one. -/
inductive IsSpanned : Option Int32 → Option Int32 → Option Int32 → StatRange → Prop where
  | pair (single : Option Int32) (least greatest : Int32) :
    IsSpanned single (some least) (some greatest) ⟨least, greatest⟩
  | least (single : Option Int32) (n : Int32) : IsSpanned single (some n) none ⟨n, n⟩
  | greatest (single : Option Int32) (n : Int32) : IsSpanned single none (some n) ⟨n, n⟩
  | single (n : Int32) : IsSpanned (some n) none none ⟨n, n⟩
  | nothing : IsSpanned none none none ⟨0, 0⟩

/-- This is the range that is made of the columns. -/
theorem isSpanned_iff (single least greatest : Option Int32) (r : StatRange) :
    IsSpanned single least greatest r ↔ r = ofColumns single least greatest := by
  constructor
  · intro h
    cases h with
    | pair single least greatest => rfl
    | least single n => rfl
    | greatest single n => rfl
    | single n => rfl
    | nothing => rfl
  · rintro rfl
    cases least with
    | some m =>
        cases greatest with
        | some n => exact .pair single m n
        | none => exact .least single m
    | none =>
        cases greatest with
        | some n => exact .greatest single n
        | none =>
            cases single with
            | some n => exact .single n
            | none => exact .nothing

/-- The ends of a range are the wrong way round only if those of the pair are. -/
theorem IsSpanned.inverted_iff {single least greatest : Option Int32} {r : StatRange}
    (h : IsSpanned single least greatest r) :
    r.max < r.min ↔ ∃ m n, least = some m ∧ greatest = some n ∧ n < m := by
  have hirrefl (n : Int32) : ¬ n < n := Int32.lt_irrefl
  cases h with
  | pair single m n =>
      constructor
      · exact fun hlt => ⟨m, n, rfl, rfl, hlt⟩
      · rintro ⟨_, _, hm, hn, hlt⟩
        cases hm
        cases hn
        exact hlt
  | least single n => exact iff_of_false (hirrefl n) (by rintro ⟨_, _, -, hn, -⟩; cases hn)
  | greatest single n => exact iff_of_false (hirrefl n) (by rintro ⟨_, _, hm, -⟩; cases hm)
  | single n => exact iff_of_false (hirrefl n) (by rintro ⟨_, _, hm, -⟩; cases hm)
  | nothing => exact iff_of_false (hirrefl 0) (by rintro ⟨_, _, hm, -⟩; cases hm)

/-- The range of a stat is found in its columns. -/
theorem finds_columns {name : String} {ms : List (String × Json)} {r : StatRange}
    (h : (columns name).Finds ms r) (hnames : (columns name).names.Nodup) :
    ∃ single least greatest, (Json.object ms).HasColumn name single ∧
      (Json.object ms).HasColumn (name ++ "Min") least ∧
        (Json.object ms).HasColumn (name ++ "Max") greatest ∧
          IsSpanned single least greatest r := by
  rcases h.map with ⟨⟨single, least, greatest⟩, hfound, rfl⟩
  rcases hfound.both hnames with ⟨hsingle, hpair⟩
  rcases hpair.both (List.Nodup.of_append_right hnames) with ⟨hleast, hgreatest⟩
  exact ⟨single, least, greatest, hsingle.column, hleast.column, hgreatest.column,
    (isSpanned_iff _ _ _ _).mpr rfl⟩

end StatRange

/-! ## The stats of a row -/

/-- The stats that a piece of armour has. -/
inductive ArmourStat where
  | armour | evasion | energyShield | ward
  deriving DecidableEq

namespace ArmourStat

/-- The name of the single column of a stat, with which those of the pair start. -/
def column : ArmourStat → String
  | armour => "Armour"
  | evasion => "Evasion"
  | energyShield => "EnergyShield"
  | ward => "Ward"

/-- The three columns of a stat. -/
def columns (stat : ArmourStat) : List String :=
  [stat.column, stat.column ++ "Min", stat.column ++ "Max"]

/-- The name with which the two members of a stat start in the object of an item. -/
def member : ArmourStat → String
  | armour => "armour"
  | evasion => "evasion"
  | energyShield => "energyShield"
  | ward => "ward"

end ArmourStat

/-- The column of the movement speed. -/
def speedColumn : String :=
  "IncreasedMovementSpeed"

namespace ArmourStats

/-- The range of a stat. -/
def range (a : ArmourStats) : ArmourStat → StatRange
  | .armour => a.armour
  | .evasion => a.evasion
  | .energyShield => a.energyShield
  | .ward => a.ward

/-- The stats come from the columns of a row. -/
structure IsReadFrom (row : Json) (a : ArmourStats) : Prop where
  /-- The range of a stat comes from its three columns. -/
  range : ∀ stat : ArmourStat, ∃ single least greatest, row.HasColumn stat.column single ∧
    row.HasColumn (stat.column ++ "Min") least ∧ row.HasColumn (stat.column ++ "Max") greatest ∧
      StatRange.IsSpanned single least greatest (a.range stat)
  /-- The movement speed comes from its column, and is zero without it. -/
  speed : row.get? speedColumn = some (.int32 a.movementSpeed) ∨
    row.get? speedColumn = none ∧ a.movementSpeed = 0

namespace IsReadFrom

variable {row row' : Json} {a a' : ArmourStats}

/-- The ends of a stat are the wrong way round exactly if the row gives a least value that
    is above the greatest one. -/
theorem inverted_iff (h : a.IsReadFrom row) (stat : ArmourStat) :
    (a.range stat).max < (a.range stat).min ↔
      ∃ least greatest, row.get? (stat.column ++ "Min") = some (.int32 least) ∧
        row.get? (stat.column ++ "Max") = some (.int32 greatest) ∧ greatest < least := by
  rcases h.range stat with ⟨single, least, greatest, -, hleast, hgreatest, hrange⟩
  rw [hrange.inverted_iff]
  constructor
  · rintro ⟨m, n, rfl, rfl, hlt⟩
    cases hleast with
    | given _ hm =>
        cases hgreatest with
        | given _ hn => exact ⟨m, n, hm, hn, hlt⟩
  · rintro ⟨m, n, hm, hn, hlt⟩
    exact ⟨m, n, (Json.HasColumn.given m hm).eq_of_get? hleast rfl,
      (Json.HasColumn.given n hn).eq_of_get? hgreatest rfl, hlt⟩

/-- A stat is the same in two rows that have the same in the three columns of it. -/
theorem range_eq (h : a.IsReadFrom row) (h' : a'.IsReadFrom row') {stat : ArmourStat}
    (heq : ∀ name ∈ stat.columns, row'.get? name = row.get? name) :
    a'.range stat = a.range stat := by
  rcases h.range stat with ⟨single, least, greatest, hs, hl, hg, hrange⟩
  rcases h'.range stat with ⟨single', least', greatest', hs', hl', hg', hrange'⟩
  rw [ArmourStat.columns, List.forall_mem_cons, List.forall_mem_cons,
    List.forall_mem_singleton] at heq
  rw [hs.eq_of_get? hs' heq.1, hl.eq_of_get? hl' heq.2.1, hg.eq_of_get? hg' heq.2.2,
    StatRange.isSpanned_iff] at hrange'
  rw [StatRange.isSpanned_iff] at hrange
  rw [hrange, hrange']

/-- The movement speed is the same in two rows that have the same in its column. -/
theorem speed_eq (h : a.IsReadFrom row) (h' : a'.IsReadFrom row')
    (heq : row'.get? speedColumn = row.get? speedColumn) : a'.movementSpeed = a.movementSpeed := by
  rcases h.speed with hgiven | ⟨hmissing, hzero⟩
  · rcases h'.speed with hgiven' | ⟨hmissing', -⟩
    · exact Json.int32_injective (Option.some.inj ((hgiven'.symm.trans heq).trans hgiven))
    · cases (hmissing'.symm.trans heq).trans hgiven
  · rcases h'.speed with hgiven' | ⟨-, hzero'⟩
    · cases (hgiven'.symm.trans heq).trans hmissing
    · rw [hzero, hzero']

end IsReadFrom

/-- The two ends of each stat and the movement speed are written under their own names. -/
theorem get?_toJson (a : ArmourStats) :
    (∀ stat : ArmourStat, a.toJson.get? (stat.member ++ "Min") = some (.int32 (a.range stat).min) ∧
      a.toJson.get? (stat.member ++ "Max") = some (.int32 (a.range stat).max)) ∧
      a.toJson.get? "movementSpeed" = some (.int32 a.movementSpeed) := by
  refine ⟨fun stat => ?_, rfl⟩
  cases stat with
  | armour => exact ⟨rfl, rfl⟩
  | evasion => exact ⟨rfl, rfl⟩
  | energyShield => exact ⟨rfl, rfl⟩
  | ward => exact ⟨rfl, rfl⟩

end ArmourStats

/-- The stats of a row that is accepted come from its columns. -/
theorem ArmourTypeRow.isReadFrom_of_decode {ms : List (String × Json)} {row : ArmourTypeRow}
    (h : decode (.ofJson (.object ms)) = .ok row) : row.toStats.IsReadFrom (.object ms) := by
  have hnames : record.names.Nodup := by decide +kernel
  rcases (Record.decode_object_eq_ok_iff.mp h).map with
    ⟨⟨key, armour, evasion, energyShield, ward, movementSpeed⟩, hfound, rfl⟩
  -- The columns are taken off one stat after another, from the front.
  have hnames₁ := List.Nodup.of_append_right hnames
  have hnames₂ := List.Nodup.of_append_right hnames₁
  have hnames₃ := List.Nodup.of_append_right hnames₂
  have hnames₄ := List.Nodup.of_append_right hnames₃
  rcases hfound.both hnames with ⟨-, hstats⟩
  rcases hstats.both hnames₁ with ⟨harmour, hstats⟩
  rcases hstats.both hnames₂ with ⟨hevasion, hstats⟩
  rcases hstats.both hnames₃ with ⟨hshield, hstats⟩
  rcases hstats.both hnames₄ with ⟨hward, hspeed⟩
  refine ⟨fun stat => ?_, ?_⟩
  · cases stat with
    | armour => exact StatRange.finds_columns harmour hnames₁.of_append_left
    | evasion => exact StatRange.finds_columns hevasion hnames₂.of_append_left
    | energyShield => exact StatRange.finds_columns hshield hnames₃.of_append_left
    | ward => exact StatRange.finds_columns hward hnames₄.of_append_left
  · have hfield := hspeed.field
    cases hlookup : (Json.object ms).get? "IncreasedMovementSpeed" with
    | none =>
        rw [hlookup] at hfield
        exact Or.inr ⟨hlookup, (Option.some.inj hfield).symm⟩
    | some j =>
        rw [hlookup] at hfield
        exact Or.inl (hlookup.trans (congrArg some (Decode.eq_int32_of_ok hfield)))

/-! ## The items of a join -/

namespace ItemTables

/-- An item is joined for each base row, in the place of that row. -/
theorem exists_isJoined_of_join {t : ItemTables} {config : JoinConfig} {items : List Item}
    (h : t.join config = .ok items) {i : Nat} {base : BaseItemRow}
    (hbase : t.baseItems[i]? = some base) :
    ∃ item, items[i]? = some item ∧ t.IsJoined config base item := by
  rw [join, IndexedTables.unifyAll_eq_ok_iff] at h
  generalize t.baseItems = rows at h hbase
  induction h generalizing i with
  | nil => cases hbase
  | cons hstep _ ih =>
      cases i with
      | zero =>
          cases hbase
          exact ⟨_, rfl, (t.unify_eq_ok_iff config _ _).mp hstep⟩
      | succ i => exact ih hbase

/-- The armour of an item is copied from the row that matches its base row. -/
theorem IsJoined.armour_eq {t : ItemTables} {config : JoinConfig} {base : BaseItemRow}
    {item : Item} (h : t.IsJoined config base item) {row : ArmourTypeRow}
    (hmatch : IsLast (fun r => r.key = config.keyFor .armour base) t.armourTypes row) :
    item.armour = some row.toStats := by
  have hlookup := (RowIndex.getElem?_ofRows_eq_some_iff _ _ _ _).mpr hmatch
  rw [← (isPart_iff _ _ _ _ _).mp h.armour, hlookup, Option.map_some]

/-- The columns of an armour row reach the item of every base row that it matches. The two
    ends of each stat come from the three columns of this stat alone and the movement speed
    from its own column, as is said by `ArmourStats.IsReadFrom`, so another row with the
    same in these columns gives the same numbers, whatever else it holds. The ends of a
    stat are the wrong way round exactly if the row gives them so. What is written of the
    item has each number under its own name. -/
theorem armour_columns_reach_items {columns : List (String × Json)} {row : ArmourTypeRow}
    (hrow : ArmourTypeRow.decode (.ofJson (.object columns)) = .ok row) {t : ItemTables}
    {config : JoinConfig} {items : List Item} (hjoin : t.join config = .ok items) {i : Nat}
    {base : BaseItemRow} (hbase : t.baseItems[i]? = some base)
    (hmatch : IsLast (fun r => r.key = config.keyFor .armour base) t.armourTypes row) :
    ∃ item stats, items[i]? = some item ∧ item.armour = some stats ∧
      stats.IsReadFrom (.object columns) ∧
      (∀ stat : ArmourStat, (stats.range stat).max < (stats.range stat).min ↔
        ∃ least greatest, (Json.object columns).get? (stat.column ++ "Min") = some (.int32 least) ∧
          (Json.object columns).get? (stat.column ++ "Max") = some (.int32 greatest) ∧
            greatest < least) ∧
      (∀ (other : Json) (stats' : ArmourStats), stats'.IsReadFrom other →
        (∀ stat : ArmourStat,
          (∀ name ∈ stat.columns, other.get? name = (Json.object columns).get? name) →
            stats'.range stat = stats.range stat) ∧
          (other.get? speedColumn = (Json.object columns).get? speedColumn →
            stats'.movementSpeed = stats.movementSpeed)) ∧
      (∀ stat : ArmourStat,
        stats.toJson.get? (stat.member ++ "Min") = some (.int32 (stats.range stat).min) ∧
          stats.toJson.get? (stat.member ++ "Max") = some (.int32 (stats.range stat).max)) ∧
        stats.toJson.get? "movementSpeed" = some (.int32 stats.movementSpeed) := by
  rcases exists_isJoined_of_join hjoin hbase with ⟨item, hitem, hjoined⟩
  have hread := ArmourTypeRow.isReadFrom_of_decode hrow
  exact ⟨item, row.toStats, hitem, hjoined.armour_eq hmatch, hread, hread.inverted_iff,
    fun _ _ hother => ⟨fun _ heq => hread.range_eq hother heq, hread.speed_eq hother⟩,
    row.toStats.get?_toJson⟩

/-- Columns of all forms: a pair beside a single value, one end of a pair, a single value
    beside a column that is `null`, and a pair that is the wrong way round. -/
def mixedColumns : List (String × Json) :=
  [("Armour", .int 12), ("ArmourMax", .int 14), ("ArmourMin", .int 10),
    ("BaseItemTypesKey", .int 0), ("EnergyShield", .int 30), ("EnergyShieldMin", .null),
    ("EvasionMin", .int 5), ("IncreasedMovementSpeed", .int (-3)), ("WardMax", .int 3),
    ("WardMin", .int 9)]

/-- The row of these columns. -/
def mixedRow : ArmourTypeRow :=
  ⟨.index 0, ⟨10, 14⟩, ⟨5, 5⟩, ⟨30, 30⟩, ⟨9, 3⟩, -3⟩

/-- A table with the one base item that the row matches. -/
def ofArmour (row : ArmourTypeRow) : ItemTables where
  baseItems := [⟨0, "vest", "vest", 1, some 0, none⟩]
  itemClasses := [⟨0, "Body", "Bodies"⟩]
  armourTypes := [row]
  weaponTypes := []
  shieldTypes := []
  attributeRequirements := []

/-- The item of the base item. -/
def armourItem (row : ArmourTypeRow) : Item where
  base := ⟨"vest", "vest", 1⟩
  itemClass := ⟨"Body", "Bodies"⟩
  requirements := none
  shield := none
  weapon := none
  armour := some row.toStats

/-- The row is the only one of its table. -/
theorem isLast_ofArmour (row : ArmourTypeRow) (h : row.key = .index 0) :
    IsLast (fun r => r.key = JoinConfig.keyFor {} .armour ⟨0, "vest", "vest", 1, some 0, none⟩)
      (ofArmour row).armourTypes row :=
  ⟨[], [], rfl, h, List.forall_mem_nil _⟩

/-- The item is joined. -/
theorem join_ofArmour (row : ArmourTypeRow) (h : row.key = .index 0) :
    (ofArmour row).join {} = .ok [armourItem row] := by
  rw [join, IndexedTables.unifyAll_eq_ok_iff]
  refine .cons ((unify_eq_ok_iff _ _ _ _).mpr ?_) .nil
  refine ⟨rfl, ⟨_, ⟨0, ⟨[], [], rfl, ⟨_, List.mem_singleton_self _, rfl⟩, List.forall_mem_nil _⟩,
    ⟨[], [], rfl, rfl, List.forall_mem_nil _⟩⟩, rfl⟩, .missing (List.forall_mem_nil _),
    .missing (List.forall_mem_nil _), .missing (List.forall_mem_nil _),
    .copied row (isLast_ofArmour row h), ?_⟩
  rintro w ⟨before, after, hsplit, -⟩
  exact absurd hsplit.symm (List.append_ne_nil_of_right_ne_nil before (List.cons_ne_nil w after))

/-- The pair that is the wrong way round reaches the item as it stands. -/
theorem armour_columns_reach_items_mixed :
    ArmourTypeRow.decode (.ofJson (.object mixedColumns)) = .ok mixedRow ∧
      (ofArmour mixedRow).join {} = .ok [armourItem mixedRow] ∧
      mixedRow.toStats.IsReadFrom (.object mixedColumns) ∧
      mixedRow.toStats.ward.max < mixedRow.toStats.ward.min ∧
      mixedRow.toStats.toJson.get? "wardMin" = some (.int32 9) := by
  have hrow : ArmourTypeRow.decode (.ofJson (.object mixedColumns)) = .ok mixedRow := rfl
  have hjoin := join_ofArmour mixedRow rfl
  rcases armour_columns_reach_items hrow hjoin (i := 0) rfl (isLast_ofArmour mixedRow rfl) with
    ⟨item, stats, hitem, hstats, hread, hinverted, -, hwritten, -⟩
  cases hitem
  cases hstats
  exact ⟨hrow, hjoin, hread, (hinverted .ward).mpr ⟨9, 3, rfl, rfl, by decide⟩,
    (hwritten .ward).1⟩

end ItemTables

end LootFilter
