import LootFilter.Item.Index
import Mathlib.Data.Finset.Card
import Mathlib.Logic.Equiv.Basic

/-!
# First and Last Entries

A table is read in its order, and which row of several counts depends on the
place: of rows with the same key the last one, of references the first one that
leads anywhere, and of failures the first one. `IsFirst` and `IsLast` say this
about a list by splitting it at the entry, without any search.

An index was built to be searched by key. What it finds is the last row of the
table with that key, and it finds nothing only if no row has it. So there is one
entry for each different key, and of the whole table only the last row of each
key shows in the index.

Two tables are compared by this. They have the same index, entry by entry, exactly
if each key has the same last row in both. A row can therefore move past rows of
other keys. What counts is how the rows of one key follow each other, which
`RowIndex.KeepsKeyOrder` says by positions.

## Main definitions

* `IsFirst`, `IsLast`: The first and the last entry of a list with a property.
* `RowIndex.KeepsKeyOrder`: Rows that are rearranged, but not within a key.

## Theorems

* `isFirst_cons_iff`: The first entry is at the head or in what follows.
* `isFirst_reverse_iff`: The last entry is the first one backwards.
* `isLast_iff_exists_get`: The last entry has the greatest position.
* `RowIndex.getElem?_ofRows_eq_some_iff`: An index finds the last row of a key.
* `RowIndex.getElem?_ofRows_eq_none_iff`: It finds none if there is none.
* `RowIndex.size_ofRows`: It has one entry for each key.
* `RowIndex.ofRows_equiv_iff`: When two tables have the same index.
* `RowIndex.ofRows_keeps_last_of_key`: All of this, for tables of any rows.
-/

namespace LootFilter

section Entries

variable {α : Type} {p : α → Prop}

/-- The first entry of a list that has a property. -/
def IsFirst (p : α → Prop) (l : List α) (a : α) : Prop :=
  ∃ before after, l = before ++ a :: after ∧ p a ∧ ∀ b ∈ before, ¬ p b

/-- The last entry of a list that has a property. -/
def IsLast (p : α → Prop) (l : List α) (a : α) : Prop :=
  ∃ before after, l = before ++ a :: after ∧ p a ∧ ∀ b ∈ after, ¬ p b

/-- An empty list has no first entry. -/
theorem not_isFirst_nil (a : α) : ¬ IsFirst p [] a := by
  rintro ⟨before, after, hsplit, -⟩
  exact List.append_ne_nil_of_right_ne_nil before (List.cons_ne_nil a after) hsplit.symm

/-- The first entry is the head of a list, or else it is the first one of the
    rest. -/
theorem isFirst_cons_iff (b : α) (l : List α) (a : α) :
    IsFirst p (b :: l) a ↔ (p b ∧ a = b) ∨ (¬ p b ∧ IsFirst p l a) := by
  constructor
  · rintro ⟨before, after, hsplit, ha, hbefore⟩
    cases before with
    | nil =>
        rw [List.nil_append, List.cons.injEq] at hsplit
        rcases hsplit with ⟨rfl, -⟩
        exact Or.inl ⟨ha, rfl⟩
    | cons c more =>
        rw [List.cons_append, List.cons.injEq] at hsplit
        rcases hsplit with ⟨rfl, hrest⟩
        rw [List.forall_mem_cons] at hbefore
        exact Or.inr ⟨hbefore.1, more, after, hrest, ha, hbefore.2⟩
  · rintro (⟨hb, rfl⟩ | ⟨hb, before, after, hsplit, ha, hbefore⟩)
    · exact ⟨[], l, rfl, hb, List.forall_mem_nil _⟩
    · refine ⟨b :: before, after, ?_, ha, List.forall_mem_cons.mpr ⟨hb, hbefore⟩⟩
      rw [hsplit, List.cons_append]

/-- The last entry is the first one backwards. -/
theorem isFirst_reverse_iff (l : List α) (a : α) : IsFirst p l.reverse a ↔ IsLast p l a := by
  constructor
  · rintro ⟨before, after, hsplit, ha, hbefore⟩
    refine ⟨after.reverse, before.reverse, ?_, ha, ?_⟩
    · rw [← List.reverse_reverse l, hsplit]
      simp
    · simpa using hbefore
  · rintro ⟨before, after, rfl, ha, hafter⟩
    refine ⟨after.reverse, before.reverse, ?_, ha, ?_⟩
    · simp
    · simpa using hafter

/-- Searching from the front finds the first entry. -/
theorem find?_eq_some_iff_isFirst (q : α → Bool) (l : List α) (a : α) :
    l.find? q = some a ↔ IsFirst (fun b => q b = true) l a := by
  rw [List.find?_eq_some_iff_append]
  constructor
  · rintro ⟨ha, before, after, hsplit, hbefore⟩
    exact ⟨before, after, hsplit, ha, fun b hb hq => by simpa [hq] using hbefore b hb⟩
  · rintro ⟨before, after, hsplit, ha, hbefore⟩
    exact ⟨ha, before, after, hsplit, fun b hb => by simpa using hbefore b hb⟩

/-- The last entry by its position: it has the property, and no entry at a greater
    position has it. -/
theorem isLast_iff_exists_get (l : List α) (a : α) :
    IsLast p l a ↔ ∃ i, l.get i = a ∧ p a ∧ ∀ j, i < j → ¬ p (l.get j) := by
  constructor
  · rintro ⟨before, after, rfl, ha, hafter⟩
    have hlength : before.length < (before ++ a :: after).length := by
      rw [List.length_append, List.length_cons]
      omega
    refine ⟨⟨before.length, hlength⟩, ?_, ha, fun j hj => hafter _ ?_⟩
    · rw [List.get_eq_getElem, List.getElem_append_right (Nat.le_refl _)]
      simp only [Nat.sub_self, List.getElem_cons_zero]
    · -- A greater position lies in the part behind the entry.
      have hlt : before.length < j.val := hj
      rw [List.get_eq_getElem, List.getElem_append_right (Nat.le_of_lt hlt), List.getElem_cons,
        dif_neg (by omega)]
      exact List.getElem_mem _
  · rintro ⟨i, rfl, hi, hafter⟩
    refine ⟨l.take i, l.drop (i + 1), ?_, hi, fun b hb => ?_⟩
    · rw [List.get_eq_getElem, ← List.drop_eq_getElem_cons, List.take_append_drop]
    · rcases List.mem_drop_iff_getElem.mp hb with ⟨k, hk, rfl⟩
      exact hafter _ (Nat.lt_add_right k (Nat.lt_succ_self i))

end Entries

namespace RowIndex

variable {α : Type}

/-- A lookup in the index of a table finds the last row with the key. -/
theorem getElem?_ofRows_eq_some_iff (key : α → JoinKey) (rows : List α) (k : JoinKey) (row : α) :
    (ofRows key rows)[k]? = some row ↔ IsLast (fun r => key r = k) rows row := by
  rw [getElem?_ofRows, find?_eq_some_iff_isFirst, isFirst_reverse_iff]
  simp only [beq_iff_eq]

/-- A lookup in the index of a table finds nothing only if no row has the
    key. -/
theorem getElem?_ofRows_eq_none_iff (key : α → JoinKey) (rows : List α) (k : JoinKey) :
    (ofRows key rows)[k]? = none ↔ ∀ row ∈ rows, key row ≠ k := by
  rw [getElem?_ofRows, List.find?_eq_none]
  simp only [List.mem_reverse, beq_iff_eq, ne_eq]

/-- The second table has the rows of the first one at other places, and rows with
    the same key keep their order among themselves. -/
def KeepsKeyOrder (key : α → JoinKey) (rows others : List α) : Prop :=
  ∃ place : Fin rows.length ≃ Fin others.length,
    (∀ i, others.get (place i) = rows.get i) ∧
      ∀ i j, i < j → key (rows.get i) = key (rows.get j) → place i < place j

/-- Putting the rows back does not change the order within a key either. -/
theorem KeepsKeyOrder.symm {key : α → JoinKey} {rows others : List α}
    (h : KeepsKeyOrder key rows others) : KeepsKeyOrder key others rows := by
  rcases h with ⟨place, hrow, hplace⟩
  have hback (i : Fin others.length) : rows.get (place.symm i) = others.get i := by
    rw [← hrow, Equiv.apply_symm_apply]
  refine ⟨place.symm, hback, fun i j hij hkey => ?_⟩
  rw [← hback, ← hback] at hkey
  rcases Nat.lt_trichotomy (place.symm i) (place.symm j) with hlt | heq | hgt
  · exact hlt
  · exact absurd (place.symm.injective (Fin.ext heq)) (Fin.ne_of_lt hij)
  · -- The rows would then be the other way round in the second table too.
    have hji := hplace _ _ hgt hkey.symm
    rw [Equiv.apply_symm_apply, Equiv.apply_symm_apply] at hji
    exact absurd hji (Fin.lt_asymm hij)

/-- The last row of a key is still the last one after the rows have moved. -/
theorem KeepsKeyOrder.isLast {key : α → JoinKey} {rows others : List α}
    (h : KeepsKeyOrder key rows others) {k : JoinKey} {row : α}
    (hrow : IsLast (fun r => key r = k) rows row) : IsLast (fun r => key r = k) others row := by
  rcases h with ⟨place, hget, hplace⟩
  rcases (isLast_iff_exists_get rows row).mp hrow with ⟨i, rfl, hkey, hlast⟩
  refine (isLast_iff_exists_get others _).mpr ⟨place i, hget i, hkey, fun m hm hother => ?_⟩
  -- A row of the key that stands behind it now would have stood behind it before.
  rcases place.surjective m with ⟨j, rfl⟩
  rw [hget] at hother
  rcases Nat.lt_trichotomy i j with hlt | heq | hgt
  · exact hlast j hlt hother
  · rw [Fin.ext heq] at hm
    exact Fin.lt_irrefl _ hm
  · exact absurd (hplace j i hgt (hother.trans hkey.symm)) (Fin.lt_asymm hm)

/-- Two indexes have the same entries exactly if every lookup gives the same in
    both. -/
theorem equiv_iff_forall_getElem?_eq (m n : RowIndex α) :
    m.Equiv n ↔ ∀ k : JoinKey, m[k]? = n[k]? :=
  ⟨fun h _ => h.getElem?_eq, Std.HashMap.Equiv.of_forall_getElem?_eq⟩

/-- The keys of an index are those of the rows. -/
theorem toFinset_keys_ofRows (key : α → JoinKey) (rows : List α) :
    (ofRows key rows).keys.toFinset = (rows.map key).toFinset := by
  ext k
  rw [List.mem_toFinset, List.mem_toFinset, Std.HashMap.mem_keys,
    Std.HashMap.mem_iff_isSome_getElem?, ← Option.ne_none_iff_isSome, ne_eq,
    getElem?_ofRows_eq_none_iff, List.mem_map]
  simp only [ne_eq, not_forall, not_not, exists_prop]

/-- An index has as many entries as the rows have different keys. -/
theorem size_ofRows (key : α → JoinKey) (rows : List α) :
    (ofRows key rows).size = (rows.map key).toFinset.card := by
  rw [← toFinset_keys_ofRows, List.toFinset_card_of_nodup Std.HashMap.nodup_keys,
    Std.HashMap.length_keys]

/-- Two tables have the same index exactly if they have the same last row of
    every key. -/
theorem ofRows_equiv_iff (key : α → JoinKey) (rows others : List α) :
    (ofRows key rows).Equiv (ofRows key others) ↔
      ∀ k row, IsLast (fun r => key r = k) rows row ↔ IsLast (fun r => key r = k) others row := by
  rw [equiv_iff_forall_getElem?_eq]
  refine forall_congr' fun k => ?_
  rw [Option.ext_iff]
  simp only [getElem?_ofRows_eq_some_iff]

/-- The index of a table keeps the last row of every key and nothing else. A lookup
    finds the last row with the key, and nothing if no row has it, and there are
    as many entries as different keys. So two tables have the same index exactly if
    they have the same last row of every key, for example if the rows of one are
    those of the other in an order that is the same among rows of one key. -/
theorem ofRows_keeps_last_of_key (key : α → JoinKey) (rows : List α) :
    (∀ k row, (ofRows key rows)[k]? = some row ↔ IsLast (fun r => key r = k) rows row) ∧
    (∀ k, (ofRows key rows)[k]? = none ↔ ∀ row ∈ rows, key row ≠ k) ∧
    (ofRows key rows).size = (rows.map key).toFinset.card ∧
    (∀ others, (ofRows key rows).Equiv (ofRows key others) ↔
      ∀ k row, IsLast (fun r => key r = k) rows row ↔ IsLast (fun r => key r = k) others row) ∧
    ∀ others, KeepsKeyOrder key rows others → (ofRows key rows).Equiv (ofRows key others) := by
  refine ⟨getElem?_ofRows_eq_some_iff key rows, getElem?_ofRows_eq_none_iff key rows,
    size_ofRows key rows, ofRows_equiv_iff key rows, fun others h => ?_⟩
  exact (ofRows_equiv_iff key rows others).mpr fun k row => ⟨h.isLast, h.symm.isLast⟩

/-- Two shields of one base item around one of another item, whose identifier looks
    like the position of the first, and the same with the first two in the other
    order. -/
theorem ofRows_keeps_last_of_key_shields :
    (ofRows ShieldTypeRow.key
        [⟨.index 1, 20⟩, ⟨.id "1", 25⟩, ⟨.index 1, 30⟩])[JoinKey.index 1]? =
          some ⟨.index 1, 30⟩ ∧
      (ofRows ShieldTypeRow.key [⟨.index 1, 20⟩, ⟨.id "1", 25⟩, ⟨.index 1, 30⟩]).size = 2 ∧
      KeepsKeyOrder ShieldTypeRow.key [⟨.index 1, 20⟩, ⟨.id "1", 25⟩, ⟨.index 1, 30⟩]
        [⟨.id "1", 25⟩, ⟨.index 1, 20⟩, ⟨.index 1, 30⟩] ∧
      (ofRows ShieldTypeRow.key [⟨.index 1, 20⟩, ⟨.id "1", 25⟩, ⟨.index 1, 30⟩]).Equiv
        (ofRows ShieldTypeRow.key [⟨.id "1", 25⟩, ⟨.index 1, 20⟩, ⟨.index 1, 30⟩]) := by
  have hall := ofRows_keeps_last_of_key ShieldTypeRow.key
    [⟨.index 1, 20⟩, ⟨.id "1", 25⟩, ⟨.index 1, 30⟩]
  have hmoved : KeepsKeyOrder ShieldTypeRow.key [⟨.index 1, 20⟩, ⟨.id "1", 25⟩, ⟨.index 1, 30⟩]
      [⟨.id "1", 25⟩, ⟨.index 1, 20⟩, ⟨.index 1, 30⟩] :=
    ⟨(Equiv.swap 0 1 : Equiv.Perm (Fin 3)), by decide, by decide⟩
  refine ⟨(hall.1 _ _).mpr ?_, hall.2.2.1.trans (by decide), hmoved, hall.2.2.2.2 _ hmoved⟩
  exact ⟨[⟨.index 1, 20⟩, ⟨.id "1", 25⟩], [], rfl, rfl, List.forall_mem_nil _⟩

end RowIndex

end LootFilter
