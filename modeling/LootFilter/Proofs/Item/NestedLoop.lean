import LootFilter.Item.Join
import LootFilter.Proofs.Item.Index
import Mathlib.Data.List.Forall2

/-!
# The Join without Indexes

What a join gives, said in terms of the tables alone. For each base row all
other tables are read from front to back, and no index is mentioned: the class
is the last row at the first reference that any row answers to, each part comes
from the last row with the key of the base row, and the first base row that
fails gives the failure of the whole. The key is the position of the base row or its
identifier, as the configuration says for each of the four tables.

The indexed join does just this (`ItemTables.join_refines_nested_loop`). One
step of it, which makes the item of a base row, is compared with `IsJoined` if
it succeeds and with `Fails` if it does not. The run over the base table only
puts the steps together, and what it adds is the order.

## Main definitions

* `WeaponTypeRow.toStats` and its siblings: What an item has of a row.
* `IsPart`: The part that a table contributes to an item.
* `JoinConfig.keyFor`: The key by which a table refers to a base row.
* `ItemTables.IsClass`, `ItemTables.IsWeapon`: The class and the weapon row of a
  base row.
* `ItemTables.IsJoined`: The item of a base row.
* `ItemTables.Fails`: Why a base row has no item.

## Theorems

* `IndexedTables.unify_cases`: What one step of the join can do.
* `ItemTables.unify_eq_ok_iff`, `ItemTables.unify_eq_error_iff`: What it does
  in terms of the tables.
* `IndexedTables.unifyAll_eq_ok_iff`, `IndexedTables.unifyAll_eq_error_iff`: A
  run over the base table.
* `ItemTables.join_refines_nested_loop`: The whole join.
-/

namespace LootFilter

namespace Binary64

/-- The number is finite and greater than zero. -/
def IsPositive (x : Binary64) : Prop :=
  ∃ rank, x = .finite false rank ∧ 0 < rank.val

/-- The magnitudes above zero are those of the ranks above zero. -/
theorem units_pos_iff (rank : Nat) : 0 < units rank ↔ 0 < rank := by
  unfold units
  by_cases h : rank < blockSize
  · rw [if_pos h]
  · have hblock : 0 < blockSize := by decide
    have hstep : 0 < Nat.pow 2 (rank / blockSize - 1) := Nat.pow_pos (by decide)
    rw [if_neg h]
    constructor
    · intro _
      omega
    · intro _
      exact Nat.mul_pos (Nat.add_pos_left hblock _) hstep

/-- A number passes for an interval exactly if it is positive. -/
theorem isFinite_and_zero_lt_iff (x : Binary64) :
    (x.isFinite && zero.lt x) = true ↔ x.IsPositive := by
  have hzero : zero.position = some 0 := by decide +kernel
  cases x with
  | finite s rank =>
      unfold IsPositive lt
      rw [hzero]
      cases s with
      | false => simp [isFinite, position, units_pos_iff]
      | true => simp [isFinite, position]
  | infinite s => simp [isFinite, IsPositive]
  | nan => simp [isFinite, IsPositive]

end Binary64

/-! ## The join as it is meant -/

namespace BaseItemRow

/-- The references of a base row to its class that are not null, the older one
    first. -/
def references (row : BaseItemRow) : List UInt64 :=
  row.itemClass.toList ++ row.itemClassesKey.toList

/-- What an item has of its base row. -/
def toBase (row : BaseItemRow) : BaseItem :=
  ⟨row.id, row.name, row.dropLevel⟩

end BaseItemRow

/-- What an item has of a class row. -/
def ItemClassRow.toClass (c : ItemClassRow) : ItemClass :=
  ⟨c.id, c.name⟩

/-- What an item has of a row of requirements. -/
def AttributeRequirementRow.toRequirements (r : AttributeRequirementRow) : AttributeRequirements :=
  ⟨r.strength, r.dexterity, r.intelligence⟩

/-- What an item has of a shield row. -/
def ShieldTypeRow.toStats (s : ShieldTypeRow) : ShieldStats :=
  ⟨s.block⟩

/-- What an item has of a weapon row. The attack rate is the number of intervals in a
    second, as a whole number of hundredths. -/
def WeaponTypeRow.toStats (w : WeaponTypeRow) : WeaponStats where
  critical := w.critical
  speed := w.speed
  attacksPerSecond :=
    (((Binary64.ofNat 1000).div w.speed).mul (.ofNat 100)).roundAway.div (.ofNat 100)
  damageMin := w.damageMin
  damageMax := w.damageMax
  range := w.rangeMax

/-- What an item has of an armour row. -/
def ArmourTypeRow.toStats (a : ArmourTypeRow) : ArmourStats :=
  ⟨a.armour, a.evasion, a.energyShield, a.ward, a.movementSpeed⟩

/-- The part that a table contributes to an item: a copy of the last row with
    the key, or nothing if no row has it. -/
inductive IsPart {α β : Type} (key : α → JoinKey) (rows : List α) (k : JoinKey) (copy : α → β) :
    Option β → Prop where
  | copied (row : α) (h : IsLast (fun r => key r = k) rows row) :
    IsPart key rows k copy (some (copy row))
  | missing (h : ∀ row ∈ rows, key row ≠ k) : IsPart key rows k copy none

namespace JoinConfig

/-- The key of a base row that the rows of a satellite refer to: its position, or its
    identifier if the join goes by that for this satellite. -/
def keyFor (config : JoinConfig) : Satellite → BaseItemRow → JoinKey
  | .armour, row => if config.armour = .position then .index row.index else .id row.id
  | .weapon, row => if config.weapon = .position then .index row.index else .id row.id
  | .shield, row => if config.shield = .position then .index row.index else .id row.id
  | .attributeRequirements, row =>
    if config.attributeRequirements = .position then .index row.index else .id row.id

/-- The join asks each index for this key. -/
theorem keyOf_keySource (config : JoinConfig) (s : Satellite) (row : BaseItemRow) :
    (config.keySource s).keyOf row = config.keyFor s row := by
  have hkey (source : KeySource) : source.keyOf row =
      if source = .position then .index row.index else .id row.id := by
    cases source with
    | position => rfl
    | identifier => rfl
  cases s with
  | armour => exact hkey config.armour
  | weapon => exact hkey config.weapon
  | shield => exact hkey config.shield
  | attributeRequirements => exact hkey config.attributeRequirements

end JoinConfig

namespace ItemTables

variable (t : ItemTables) (config : JoinConfig)

/-- The class of a base row: the last row at the first reference that any row
    answers to. -/
def IsClass (row : BaseItemRow) (c : ItemClassRow) : Prop :=
  ∃ n, IsFirst (fun m => ∃ d ∈ t.itemClasses, d.index = m) row.references n ∧
    IsLast (fun d => d.index = n) t.itemClasses c

/-- The weapon row of a base row: the last one with its key. -/
def IsWeapon (row : BaseItemRow) (w : WeaponTypeRow) : Prop :=
  IsLast (fun r => r.key = config.keyFor .weapon row) t.weaponTypes w

/-- An item holds what the tables say about a base row, field by field. -/
structure IsJoined (row : BaseItemRow) (item : Item) : Prop where
  base : item.base = row.toBase
  itemClass : ∃ c, t.IsClass row c ∧ item.itemClass = c.toClass
  requirements : IsPart AttributeRequirementRow.key t.attributeRequirements
    (config.keyFor .attributeRequirements row) AttributeRequirementRow.toRequirements
    item.requirements
  shield : IsPart ShieldTypeRow.key t.shieldTypes (config.keyFor .shield row)
    ShieldTypeRow.toStats item.shield
  weapon : IsPart WeaponTypeRow.key t.weaponTypes (config.keyFor .weapon row)
    WeaponTypeRow.toStats item.weapon
  armour : IsPart ArmourTypeRow.key t.armourTypes (config.keyFor .armour row)
    ArmourTypeRow.toStats item.armour
  interval : ∀ w, t.IsWeapon config row w → w.speed.IsPositive

/-- Why there is no item for a base row. The interval of a weapon only counts if
    the row has a class. -/
inductive Fails (row : BaseItemRow) : JoinError → Prop where
  | missingClass (h : ∀ c, ¬ t.IsClass row c) : Fails row (.missingClass row.index row.id)
  | invalidInterval (c : ItemClassRow) (w : WeaponTypeRow) (hclass : t.IsClass row c)
    (hweapon : t.IsWeapon config row w) (hspeed : ¬ w.speed.IsPositive) :
    Fails row (.invalidInterval row.id w.speed)

end ItemTables

/-! ## Lookups -/

/-- The rows of a table contribute what its index finds. -/
theorem isPart_iff {α β : Type} (key : α → JoinKey) (rows : List α) (k : JoinKey) (copy : α → β)
    (part : Option β) :
    IsPart key rows k copy part ↔ (RowIndex.ofRows key rows)[k]?.map copy = part := by
  constructor
  · intro h
    cases h with
    | copied row hrow =>
        rw [(RowIndex.getElem?_ofRows_eq_some_iff key rows k row).mpr hrow, Option.map_some]
    | missing hnone =>
        rw [(RowIndex.getElem?_ofRows_eq_none_iff key rows k).mpr hnone, Option.map_none]
  · rintro rfl
    cases h : (RowIndex.ofRows key rows)[k]? with
    | none => exact .missing ((RowIndex.getElem?_ofRows_eq_none_iff key rows k).mp h)
    | some row => exact .copied row ((RowIndex.getElem?_ofRows_eq_some_iff key rows k row).mp h)

namespace BaseItemRow

/-- Null references are passed over. -/
theorem resolve?_eq (row : BaseItemRow) (classes : RowIndex ItemClassRow) :
    row.resolve? classes = row.references.findSome? fun n => classes[JoinKey.index n]? := by
  rcases row with ⟨_, _, _, _, _ | m, _ | n⟩
  · rfl
  · rfl
  · rfl
  · rfl

end BaseItemRow

namespace ItemTables

variable (t : ItemTables) (config : JoinConfig)

/-- The classes are found by their positions. -/
theorem classes_eq_some_iff (n : UInt64) (c : ItemClassRow) :
    t.indexed.classes[JoinKey.index n]? = some c ↔
      IsLast (fun d => d.index = n) t.itemClasses c := by
  have hlast := RowIndex.getElem?_ofRows_eq_some_iff (fun d : ItemClassRow => .index d.index)
    t.itemClasses (.index n) c
  simp only [JoinKey.index.injEq] at hlast
  exact hlast

/-- A position without a class is one that no class row has. -/
theorem classes_eq_none_iff (n : UInt64) :
    t.indexed.classes[JoinKey.index n]? = none ↔ ¬ ∃ d ∈ t.itemClasses, d.index = n := by
  have hnone := RowIndex.getElem?_ofRows_eq_none_iff (fun d : ItemClassRow => .index d.index)
    t.itemClasses (.index n)
  simp only [ne_eq, JoinKey.index.injEq] at hnone
  rw [not_exists]
  simp only [not_and]
  exact hnone

/-- The references of a base row lead to its class. -/
theorem isClass_iff (row : BaseItemRow) (c : ItemClassRow) :
    t.IsClass row c ↔ row.resolve? t.indexed.classes = some c := by
  rw [BaseItemRow.resolve?_eq, List.findSome?_eq_some_iff]
  simp only [classes_eq_some_iff, classes_eq_none_iff]
  constructor
  · rintro ⟨n, ⟨before, after, hsplit, -, hbefore⟩, hlast⟩
    exact ⟨before, n, after, hsplit, hlast, hbefore⟩
  · rintro ⟨before, n, after, hsplit, hlast, hbefore⟩
    -- The class itself answers to the reference at which it was found.
    have hanswer : ∃ d ∈ t.itemClasses, d.index = n := by
      rcases hlast with ⟨front, back, hrows, hc, -⟩
      refine ⟨c, ?_, hc⟩
      rw [hrows]
      exact List.mem_append_right front List.mem_cons_self
    exact ⟨n, ⟨before, after, hsplit, hanswer, hbefore⟩, hlast⟩

/-- The weapon row of a base row is found by its key. -/
theorem isWeapon_iff (row : BaseItemRow) (w : WeaponTypeRow) :
    t.IsWeapon config row w ↔ t.indexed.weapon[config.keyFor .weapon row]? = some w :=
  (RowIndex.getElem?_ofRows_eq_some_iff _ _ _ _).symm

end ItemTables

/-! ## One step -/

namespace WeaponTypeRow

/-- The stats of a weapon with a positive interval. -/
theorem stats_of_isPositive (id : String) (w : WeaponTypeRow) (h : w.speed.IsPositive) :
    w.stats id = .ok w.toStats := by
  rw [stats, if_pos ((Binary64.isFinite_and_zero_lt_iff w.speed).mpr h)]
  rfl

/-- Any other interval is a failure. -/
theorem stats_of_not_isPositive (id : String) (w : WeaponTypeRow) (h : ¬ w.speed.IsPositive) :
    w.stats id = .error (.invalidInterval id w.speed) := by
  rw [← Binary64.isFinite_and_zero_lt_iff] at h
  rw [stats, if_neg h]

end WeaponTypeRow

namespace IndexedTables

variable (t : IndexedTables) (config : JoinConfig)

/-- The item of a base row with a given class, if nothing is wrong with it. -/
def itemOf (row : BaseItemRow) (c : ItemClassRow) : Item where
  base := row.toBase
  itemClass := c.toClass
  requirements := t.attributeRequirements[config.keyFor .attributeRequirements row]?.map
    AttributeRequirementRow.toRequirements
  shield := t.shield[config.keyFor .shield row]?.map ShieldTypeRow.toStats
  weapon := t.weapon[config.keyFor .weapon row]?.map WeaponTypeRow.toStats
  armour := t.armour[config.keyFor .armour row]?.map ArmourTypeRow.toStats

/-- A step of the join fails for want of a class, fails at an interval, or makes
    the item. -/
theorem unify_cases (row : BaseItemRow) :
    (row.resolve? t.classes = none ∧
        t.unify config row = .error (.missingClass row.index row.id)) ∨
      (∃ c w, row.resolve? t.classes = some c ∧
        t.weapon[config.keyFor .weapon row]? = some w ∧ ¬ w.speed.IsPositive ∧
          t.unify config row = .error (.invalidInterval row.id w.speed)) ∨
        ∃ c, row.resolve? t.classes = some c ∧
          (∀ w, t.weapon[config.keyFor .weapon row]? = some w → w.speed.IsPositive) ∧
            t.unify config row = .ok (t.itemOf config row c) := by
  cases hclass : row.resolve? t.classes with
  | none =>
      refine Or.inl ⟨rfl, ?_⟩
      rw [unify, hclass]
      rfl
  | some c =>
      right
      cases hweapon : t.weapon[config.keyFor .weapon row]? with
      | none =>
          right
          refine ⟨c, rfl, fun w h => ?_, ?_⟩
          · exact absurd h (by simp only [reduceCtorEq, not_false_eq_true])
          · simp only [unify, itemOf, JoinConfig.keyOf_keySource, hclass, hweapon]
            rfl
      | some w =>
          by_cases hspeed : w.speed.IsPositive
          · right
            refine ⟨c, rfl, fun v h => ?_, ?_⟩
            · rwa [← Option.some.inj h]
            · simp only [unify, itemOf, JoinConfig.keyOf_keySource, hclass, hweapon,
                w.stats_of_isPositive row.id hspeed]
              rfl
          · left
            refine ⟨c, w, rfl, rfl, hspeed, ?_⟩
            simp only [unify, JoinConfig.keyOf_keySource, hclass, hweapon,
              w.stats_of_not_isPositive row.id hspeed]
            rfl

/-- A base row that fails ends the run. -/
theorem unifyAll_cons_of_error {row : BaseItemRow} {e : JoinError}
    (h : t.unify config row = .error e) (rest : List BaseItemRow) :
    t.unifyAll config (row :: rest) = .error e := by
  rw [unifyAll, h]
  rfl

/-- The item of a base row goes ahead of those of the rest. -/
theorem unifyAll_cons_of_ok {row : BaseItemRow} {item : Item}
    (h : t.unify config row = .ok item) (rest : List BaseItemRow) :
    t.unifyAll config (row :: rest) = (t.unifyAll config rest).map (item :: ·) := by
  rw [unifyAll, h]
  cases hrest : t.unifyAll config rest with
  | error e => rfl
  | ok items => rfl

/-- A run that succeeds makes the items of the single base rows. -/
theorem unifyAll_eq_ok_iff (rows : List BaseItemRow) (items : List Item) :
    t.unifyAll config rows = .ok items ↔
      List.Forall₂ (fun row item => t.unify config row = .ok item) rows items := by
  induction rows generalizing items with
  | nil =>
      rw [unifyAll, Except.ok.injEq, List.forall₂_nil_left_iff]
      exact eq_comm
  | cons row rest ih =>
      rw [List.forall₂_cons_left_iff]
      cases hrow : t.unify config row with
      | error e =>
          rw [unifyAll_cons_of_error t config hrow]
          simp only [reduceCtorEq, false_and, exists_false]
      | ok item =>
          rw [unifyAll_cons_of_ok t config hrow]
          simp only [Except.ok.injEq, exists_and_left, ← ih]
          cases t.unifyAll config rest with
          | error e => simp [Except.map]
          | ok more => simp [Except.map, eq_comm]

/-- A run that fails does so at the first base row that fails. -/
theorem unifyAll_eq_error_iff (rows : List BaseItemRow) (e : JoinError) :
    t.unifyAll config rows = .error e ↔
      ∃ row, IsFirst (fun r => ∃ why, t.unify config r = .error why) rows row ∧
        t.unify config row = .error e := by
  induction rows with
  | nil =>
      rw [unifyAll]
      simp only [reduceCtorEq, not_isFirst_nil, false_and, exists_false]
  | cons row rest ih =>
      simp only [isFirst_cons_iff]
      cases hrow : t.unify config row with
      | error why =>
          rw [unifyAll_cons_of_error t config hrow, Except.error.injEq]
          constructor
          · rintro rfl
            exact ⟨row, Or.inl ⟨⟨why, rfl⟩, rfl⟩, hrow⟩
          · rintro ⟨r, ⟨-, rfl⟩ | ⟨hnone, -⟩, hr⟩
            · exact Except.error.inj (hrow.symm.trans hr)
            · exact absurd ⟨why, rfl⟩ hnone
      | ok item =>
          -- The head has an item, so whatever fails is in the rest.
          have hmap : (t.unifyAll config rest).map (item :: ·) = .error e ↔
              t.unifyAll config rest = .error e := by
            cases t.unifyAll config rest with
            | error f => exact Iff.rfl
            | ok more => simp only [Except.map, reduceCtorEq]
          rw [unifyAll_cons_of_ok t config hrow, hmap, ih]
          simp only [reduceCtorEq, exists_false, false_and, not_false_eq_true, true_and, false_or]

end IndexedTables

namespace ItemTables

variable (t : ItemTables) (config : JoinConfig)

/-- An item is joined exactly if it is the one that the indexes give. -/
theorem isJoined_iff (row : BaseItemRow) (item : Item) :
    t.IsJoined config row item ↔ ∃ c, row.resolve? t.indexed.classes = some c ∧
      (∀ w, t.indexed.weapon[config.keyFor .weapon row]? = some w → w.speed.IsPositive) ∧
        t.indexed.itemOf config row c = item := by
  constructor
  · rintro ⟨hbase, ⟨c, hclass, hitem⟩, hrequirements, hshield, hweapon, harmour, hinterval⟩
    rw [isPart_iff] at hrequirements hshield hweapon harmour
    refine ⟨c, (t.isClass_iff row c).mp hclass, fun w hw => ?_, ?_⟩
    · exact hinterval w ((t.isWeapon_iff config row w).mpr hw)
    · rcases item with ⟨base, itemClass, requirements, shield, weapon, armour⟩
      rw [IndexedTables.itemOf, Item.mk.injEq]
      exact ⟨hbase.symm, hitem.symm, hrequirements, hshield, hweapon, harmour⟩
  · rintro ⟨c, hclass, hinterval, rfl⟩
    refine ⟨rfl, ⟨c, (t.isClass_iff row c).mpr hclass, rfl⟩, ?_, ?_, ?_, ?_, fun w hw => ?_⟩
    · exact (isPart_iff _ _ _ _ _).mpr rfl
    · exact (isPart_iff _ _ _ _ _).mpr rfl
    · exact (isPart_iff _ _ _ _ _).mpr rfl
    · exact (isPart_iff _ _ _ _ _).mpr rfl
    · exact hinterval w ((t.isWeapon_iff config row w).mp hw)

/-- There is an item for a base row with a class, unless its weapon is in the
    way. -/
theorem exists_isJoined_iff (row : BaseItemRow) :
    (∃ item, t.IsJoined config row item) ↔
      (∃ c, t.IsClass row c) ∧ ∀ w, t.IsWeapon config row w → w.speed.IsPositive := by
  simp only [isJoined_iff, isClass_iff, isWeapon_iff]
  constructor
  · rintro ⟨item, c, hclass, hinterval, -⟩
    exact ⟨⟨c, hclass⟩, hinterval⟩
  · rintro ⟨⟨c, hclass⟩, hinterval⟩
    exact ⟨_, c, hclass, hinterval, rfl⟩

/-- There are items for base rows if there is one for each. -/
theorem exists_forall₂_isJoined_iff (rows : List BaseItemRow) :
    (∃ items, List.Forall₂ (t.IsJoined config) rows items) ↔
      ∀ row ∈ rows, ∃ item, t.IsJoined config row item := by
  induction rows with
  | nil => exact ⟨fun _ => List.forall_mem_nil _, fun _ => ⟨[], .nil⟩⟩
  | cons row rest ih =>
      rw [List.forall_mem_cons, ← ih]
      constructor
      · rintro ⟨items, h⟩
        cases h with
        | cons hitem hmore => exact ⟨⟨_, hitem⟩, _, hmore⟩
      · rintro ⟨⟨item, hitem⟩, more, hmore⟩
        exact ⟨item :: more, .cons hitem hmore⟩

/-- A step of the join makes the item that the tables ask for, and no other. -/
theorem unify_eq_ok_iff (row : BaseItemRow) (item : Item) :
    t.indexed.unify config row = .ok item ↔ t.IsJoined config row item := by
  rw [isJoined_iff]
  rcases t.indexed.unify_cases config row with
    ⟨hnone, hunify⟩ | ⟨c, w, hclass, hweapon, hspeed, hunify⟩ | ⟨c, hclass, hinterval, hunify⟩
  · -- Without a class there is no item.
    rw [hunify]
    simp only [hnone, reduceCtorEq, false_and, exists_false]
  · -- A weapon with a bad interval is in the way of any item.
    rw [hunify]
    simp only [reduceCtorEq, false_iff]
    rintro ⟨d, -, hinterval, -⟩
    exact hspeed (hinterval w hweapon)
  · rw [hunify, Except.ok.injEq]
    constructor
    · rintro rfl
      exact ⟨c, hclass, hinterval, rfl⟩
    · rintro ⟨d, hd, -, rfl⟩
      rw [Option.some.inj (hclass.symm.trans hd)]

/-- A step of the join fails as the tables make it fail, and in no other way. -/
theorem unify_eq_error_iff (row : BaseItemRow) (e : JoinError) :
    t.indexed.unify config row = .error e ↔ t.Fails config row e := by
  rcases t.indexed.unify_cases config row with
    ⟨hnone, hunify⟩ | ⟨c, w, hclass, hweapon, hspeed, hunify⟩ | ⟨c, hclass, hinterval, hunify⟩
  · -- The class is looked at first, so the weapon does not come into it.
    rw [hunify, Except.error.injEq]
    have hmissing (c : ItemClassRow) : ¬ t.IsClass row c := by
      rw [isClass_iff, hnone]
      simp only [reduceCtorEq, not_false_eq_true]
    constructor
    · rintro rfl
      exact .missingClass hmissing
    · intro h
      cases h with
      | missingClass h => rfl
      | invalidInterval d w hd hw hspeed => exact absurd hd (hmissing d)
  · -- There is a class, and the weapon row under the key is the only one.
    rw [hunify, Except.error.injEq]
    rw [← isClass_iff] at hclass
    rw [← isWeapon_iff] at hweapon
    constructor
    · rintro rfl
      exact .invalidInterval c w hclass hweapon hspeed
    · intro h
      cases h with
      | missingClass h => exact absurd hclass (h c)
      | invalidInterval d v hd hv hbad =>
          rw [isWeapon_iff] at hweapon hv
          rw [Option.some.inj (hweapon.symm.trans hv)]
  · rw [hunify]
    simp only [reduceCtorEq, false_iff]
    intro h
    cases h with
    | missingClass h => exact h c ((t.isClass_iff row c).mpr hclass)
    | invalidInterval d w hd hw hspeed =>
        exact hspeed (hinterval w ((t.isWeapon_iff config row w).mp hw))

/-- The whole join. It succeeds with an item for each base row, in their order,
    or it fails as the first base row does that fails, and it succeeds exactly
    if every base row has a class and no matched weapon a bad interval. -/
theorem join_refines_nested_loop :
    (∀ items, t.join config = .ok items ↔
        List.Forall₂ (t.IsJoined config) t.baseItems items) ∧
      (∀ e, t.join config = .error e ↔
        ∃ row, IsFirst (fun r => ∃ why, t.Fails config r why) t.baseItems row ∧
          t.Fails config row e) ∧
        ((∃ items, t.join config = .ok items) ↔ ∀ row ∈ t.baseItems,
          (∃ c, t.IsClass row c) ∧ ∀ w, t.IsWeapon config row w → w.speed.IsPositive) := by
  have hok (items : List Item) : t.join config = .ok items ↔
      List.Forall₂ (t.IsJoined config) t.baseItems items := by
    rw [join, IndexedTables.unifyAll_eq_ok_iff]
    simp only [unify_eq_ok_iff]
  have herror (e : JoinError) : t.join config = .error e ↔
      ∃ row, IsFirst (fun r => ∃ why, t.Fails config r why) t.baseItems row ∧
        t.Fails config row e := by
    rw [join, IndexedTables.unifyAll_eq_error_iff]
    simp only [unify_eq_error_iff]
  refine ⟨hok, herror, ?_⟩
  simp only [hok, ← exists_isJoined_iff]
  exact t.exists_forall₂_isJoined_iff config t.baseItems

/-- A weapon row that goes by identifier, with two attacks in a second. -/
def steadyBow : WeaponTypeRow :=
  ⟨.id "bow", 500, .ofNat 500, 7, 8, 9⟩

/-- A weapon row that goes by position, with no time between attacks. -/
def restlessBow : WeaponTypeRow :=
  ⟨.index 7, 400, .ofNat 0, 4, 5, 6⟩

/-- A bow that two tables refer to by its position and by its identifier. Of its
    references to a class the first leads nowhere and the second to two rows. -/
def ofTwoKeys : ItemTables where
  baseItems := [⟨7, "bow", "Crude Bow", 1, some 4, some 2⟩]
  itemClasses := [⟨2, "Old", "Olds"⟩, ⟨2, "Bow", "Bows"⟩]
  armourTypes := []
  weaponTypes := [⟨.id "bow", 300, .ofNat 1000, 1, 2, 3⟩, restlessBow, steadyBow]
  shieldTypes := []
  attributeRequirements := [⟨.index 7, 10, 20, 30⟩, ⟨.id "bow", 40, 50, 60⟩]

/-- The item of the bow, if weapons go by identifier and requirements by position. -/
def itemOfTwoKeys : Item where
  base := ⟨"bow", "Crude Bow", 1⟩
  itemClass := ⟨"Bow", "Bows"⟩
  requirements := some ⟨10, 20, 30⟩
  shield := none
  weapon := some ⟨500, .ofNat 500, .ofNat 2, 7, 8, 9⟩
  armour := none

/-- The bow has an item if its weapon row is looked up by identifier. If it is looked up
    by position, then there is no time between its attacks and the join fails. -/
theorem join_refines_nested_loop_ofTwoKeys :
    ofTwoKeys.join { weapon := .identifier, attributeRequirements := .position } =
        .ok [itemOfTwoKeys] ∧
      ofTwoKeys.join {} = .error (.invalidInterval "bow" restlessBow.speed) := by
  have hclass : ofTwoKeys.IsClass ⟨7, "bow", "Crude Bow", 1, some 4, some 2⟩
      ⟨2, "Bow", "Bows"⟩ := by
    refine ⟨2, ⟨[4], [], rfl, ⟨_, List.mem_cons_self, rfl⟩, by simp [ofTwoKeys]⟩, ?_⟩
    exact ⟨[⟨2, "Old", "Olds"⟩], [], rfl, rfl, List.forall_mem_nil _⟩
  constructor
  · have hpositive : steadyBow.speed.IsPositive := by
      rw [← Binary64.isFinite_and_zero_lt_iff]
      decide +kernel
    have hweapon : IsPart WeaponTypeRow.key ofTwoKeys.weaponTypes (.id "bow")
        WeaponTypeRow.toStats (some steadyBow.toStats) :=
      .copied _ ⟨[_, _], [], rfl, rfl, List.forall_mem_nil _⟩
    have hstats : steadyBow.toStats = ⟨500, .ofNat 500, .ofNat 2, 7, 8, 9⟩ := by
      decide +kernel
    rw [hstats] at hweapon
    refine ((join_refines_nested_loop _ _).1 _).mpr (.cons ?_ .nil)
    refine ⟨rfl, ⟨_, hclass, rfl⟩, .copied _ ⟨[], [_], rfl, rfl, by decide⟩,
      .missing (List.forall_mem_nil _), hweapon, .missing (List.forall_mem_nil _), fun w hw => ?_⟩
    -- The weapon is the one that the part was copied from.
    rw [isWeapon_iff] at hw
    have hsteady := (RowIndex.getElem?_ofRows _ _ _).symm.trans hw
    rw [← Option.some.inj hsteady]
    exact hpositive
  · have hzero : ¬ restlessBow.speed.IsPositive := by
      rw [← Binary64.isFinite_and_zero_lt_iff]
      decide +kernel
    have hfails : ofTwoKeys.Fails {} ⟨7, "bow", "Crude Bow", 1, some 4, some 2⟩
        (.invalidInterval "bow" restlessBow.speed) :=
      .invalidInterval _ restlessBow hclass ⟨[_], [_], rfl, rfl, by decide⟩ hzero
    exact ((join_refines_nested_loop _ _).2.1 _).mpr
      ⟨_, ⟨[], [], rfl, ⟨_, hfails⟩, List.forall_mem_nil _⟩, hfails⟩

end ItemTables

end LootFilter
