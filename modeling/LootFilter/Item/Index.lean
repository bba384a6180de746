import LootFilter.Table.Row
import Std.Data.HashMap

/-!
# Row Indexes

A satellite table is indexed by the keys of its rows before it is joined, so
that each base item takes one lookup. When two rows have the same key, the later
one counts. Put without the index: a lookup gives the first row with the key
when the table is read backwards.

## Main definitions

* `RowIndex`: The rows of a table by key.
* `RowIndex.ofRows`: The index of a table.

## Theorems

* `RowIndex.getElem?_ofRows`: A lookup gives the last row of its key.
-/

namespace LootFilter

/-- The rows of a table by key, one for each key. -/
abbrev RowIndex (α : Type) :=
  Std.HashMap JoinKey α

namespace RowIndex

variable {α : Type}

/-- The index with some rows added; a row takes the place of an earlier one with
    its key. -/
def insertRows (key : α → JoinKey) (index : RowIndex α) (rows : List α) : RowIndex α :=
  rows.foldl (fun index row => index.insert (key row) row) index

/-- The index of a table. -/
def ofRows (key : α → JoinKey) (rows : List α) : RowIndex α :=
  insertRows key ∅ rows

/-- A lookup finds the last added row of its key, or else what was there
    before. -/
theorem getElem?_insertRows (key : α → JoinKey) (index : RowIndex α) (rows : List α)
    (k : JoinKey) :
    (insertRows key index rows)[k]? = (rows.reverse.find? (key · == k)).or index[k]? := by
  induction rows generalizing index with
  | nil => simp [insertRows]
  | cons row rest ih =>
    have hstep : insertRows key index (row :: rest) =
        insertRows key (index.insert (key row) row) rest := rfl
    rw [hstep, ih, List.reverse_cons, List.find?_append, Option.or_assoc,
      Std.HashMap.getElem?_insert]
    by_cases h : key row = k
    · simp [h]
    · simp [h]

/-- A lookup in the index of a table gives the last row with the key. -/
theorem getElem?_ofRows (key : α → JoinKey) (rows : List α) (k : JoinKey) :
    (ofRows key rows)[k]? = rows.reverse.find? (key · == k) := by
  rw [ofRows, getElem?_insertRows, Std.HashMap.getElem?_empty, Option.or_none]

end RowIndex

end LootFilter
