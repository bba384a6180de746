import LootFilter.Json.Vocabulary
import Mathlib.Data.List.Nodup

/-!
# Reading Back

A writer turns a typed value into a value in memory, and a reader turns that
into a typed value again. `ReadsBack` says that nothing is lost on the way. It
is proved for the readers of simple types, and carried over to lists and to
optional values, so that a compound type only has to say how it is put together.

An optional value is written as `null` in its absence. This loses nothing only
because no present value is written so.

A keyword is found by searching a list of names, where each value can have
several. It is read back because no name stands for two values.

## Main definitions

* `Decode.ReadsBack`: A reader gives back what a writer was given.
* `ReadableVocabulary`: A vocabulary in which no name stands for two values.

## Theorems

* `Decode.ReadsBack.list`, `Decode.ReadsBack.optional`: Lists and optional values.
* `Vocabulary.readsBack_decode`: Keywords.
-/

namespace LootFilter

/-- A value that is seen as a fragment is `null` only if it was. -/
theorem Fragment.ofJson_eq_null_iff (j : Json) : ofJson j = .null ↔ j = .null := by
  cases j with
  | null => simp [ofJson]
  | bool b => simp [ofJson]
  | number n => simp [ofJson]
  | string s => simp [ofJson]
  | array items => simp [ofJson]
  | object members => simp [ofJson]

/-- An entry is found by its key if no other entry has that key. -/
theorem find?_eq_some_of_nodup {α β : Type} [DecidableEq β] {key : α → β} {l : List α}
    (h : (l.map key).Nodup) {a : α} (ha : a ∈ l) : l.find? (fun b => key b == key a) = some a := by
  cases hfind : l.find? fun b => key b == key a with
  | none =>
      rw [List.find?_eq_none] at hfind
      exact absurd (beq_self_eq_true (key a)) (hfind a ha)
  | some b =>
      have hkey : key b = key a := by
        have hfound := List.find?_some hfind
        exact beq_iff_eq.mp hfound
      have hb := List.mem_of_find?_eq_some hfind
      exact congrArg some (List.inj_on_of_nodup_map h hb ha hkey)

namespace Decode

/-- The reader gives back every value that was written. -/
def ReadsBack {α : Type} (read : Decoder α) (write : α → Json) : Prop :=
  ∀ a, read (.ofJson (write a)) = .ok a

/-- A truth value is read back. -/
theorem readsBack_bool : ReadsBack bool .bool := by
  intro b
  rw [Fragment.ofJson, bool]

/-- A text is read back. -/
theorem readsBack_text : ReadsBack text .string := by
  intro s
  rw [Fragment.ofJson, text]

/-- An integer within the bounds is read back. -/
theorem integer_ofJson_int (name : String) {least most n : Int} (h : least ≤ n ∧ n ≤ most) :
    integer name least most (.ofJson (.int n)) = .ok n := by
  rw [Json.int, Fragment.ofJson, integer, if_pos h]

/-- An unsigned 8-bit integer is read back. -/
theorem readsBack_uint8 : ReadsBack uint8 .uint8 := by
  intro n
  have hlt := n.toNat_lt
  rw [uint8, Json.uint8, integer_ofJson_int "u8" (by omega)]
  exact congrArg Except.ok UInt8.ofNat_toNat

/-- An unsigned 32-bit integer is read back. -/
theorem readsBack_uint32 : ReadsBack uint32 .uint32 := by
  intro n
  have hlt := n.toNat_lt
  rw [uint32, Json.uint32, integer_ofJson_int "u32" (by omega)]
  exact congrArg Except.ok UInt32.ofNat_toNat

/-- A signed 32-bit integer is read back. -/
theorem readsBack_int32 : ReadsBack int32 .int32 := by
  intro n
  have hlow := n.le_toInt
  have hhigh := n.toInt_lt
  rw [int32, Json.int32, integer_ofJson_int "i32" (by omega)]
  exact congrArg Except.ok (Int32.ofInt_toInt n)

/-- A double is read back. -/
theorem readsBack_double : ReadsBack double .float := by
  intro x
  rw [Json.float, Fragment.ofJson, double]

/-- There is no double in the place of one that has no spelling. -/
theorem double_ofJson_null : double (.ofJson .null) = .error (.wrongType .null "f64") := by
  rw [Fragment.ofJson]
  rfl

section Compound

variable {α : Type} {read : Decoder α} {write : α → Json}

/-- Items are read back one by one. -/
theorem ReadsBack.items (h : ReadsBack read write) (l : List α) :
    items read (Fragment.ofItems (l.map write)) = .ok l := by
  induction l with
  | nil => rfl
  | cons a rest ih =>
      rw [List.map_cons, Fragment.ofItems, Decode.items, h a, ih]
      rfl

/-- A list is read back if its items are. -/
theorem ReadsBack.list (h : ReadsBack read write) :
    ReadsBack (list read) fun l => .array (l.map write) := by
  intro l
  rw [Fragment.ofJson, Decode.list, h.items l]
  rfl

/-- A present value of an optional type is read back. -/
theorem ReadsBack.optional_some (h : ReadsBack read write) (hnull : ∀ a, write a ≠ .null) (a : α) :
    optional read (.ofJson (write a)) = .ok (some a) := by
  rw [optional]
  · rw [h a]
    rfl
  · rw [Fragment.ofJson_eq_null_iff]
    exact hnull a

/-- An optional value is read back if no present one is written as `null`. -/
theorem ReadsBack.optional (h : ReadsBack read write) (hnull : ∀ a, write a ≠ .null) :
    ReadsBack (optional read) fun x => .orNull (x.map write) := by
  intro x
  cases x with
  | none => rfl
  | some a => exact h.optional_some hnull a

end Compound

/-- A name is looked up where it stands, if it stands there alone. -/
theorem named_eq_ok {α : Type} {known : List (String × α)} (h : (known.map Prod.fst).Nodup)
    {name : String} {a : α} (ha : (name, a) ∈ known) : named known name = .ok a := by
  have hfind := find?_eq_some_of_nodup h ha
  rw [named, hfind]

end Decode

/-- A vocabulary in which no name stands for two values, aliases included. -/
class ReadableVocabulary (α : Type) [Vocabulary α] : Prop where
  names_nodup : ((Vocabulary.names α).map Prod.fst).Nodup

namespace Vocabulary

variable {α : Type} [Vocabulary α]

/-- The token of a value is one of the names that are read. -/
theorem token_mem_names (a : α) : (token a, a) ∈ names α := by
  rw [names, List.mem_flatMap]
  exact ⟨a, mem_all a, List.mem_append_right _ (List.mem_singleton_self _)⟩

/-- A keyword is read back. -/
theorem readsBack_decode [ReadableVocabulary α] (origin : Origin) :
    Decode.ReadsBack (decode α origin) toJson := by
  intro a
  rw [toJson, Fragment.ofJson, decode, Decode.keyword]
  exact Decode.named_eq_ok ReadableVocabulary.names_nodup (token_mem_names a)

end Vocabulary

end LootFilter
