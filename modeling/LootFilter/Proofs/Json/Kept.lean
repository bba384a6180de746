import LootFilter.Proofs.Json.Order
import LootFilter.Proofs.Json.Spelled

/-!
# Values Kept in Memory

A typed value need not be written as a text. It can also be turned into a value that is
kept in memory, and later be read from that. Such a value has lost the same doubles as
a text would, and besides the order of its members: at every depth they stand sorted by
their keys.

A reader is given the members in an order that the writer did not choose. If the slots
of a record are filled in any order in the same way then that does not matter, so for a
record type it remains to say that the members are read in the order in which they are
written.

## Main definitions

* `Json.ordered`: A value with sorted members at every depth.
* `Json.kept`: What is kept of a value in memory.

## Theorems

* `Json.eq_ordered_of_toJson?`: A value that was read from a text is sorted so.
* `Json.sortMembers_perm`: Sorting loses no member if all keys are different.
* `Record.Reads.decode_kept`: A record is read from what is kept.
* `Json.get?_kept_object`: The members that are kept.
-/

namespace LootFilter

namespace Json

/-! ## Sorting -/

/-- A member with a new key goes between the others. -/
theorem insertMember_perm {key : String} {members : List (String × Json)}
    (h : key ∉ members.map Prod.fst) (value : Json) :
    (insertMember key value members).Perm ((key, value) :: members) := by
  induction members with
  | nil => exact .refl _
  | cons m rest ih =>
      rcases m with ⟨k, v⟩
      rw [List.map_cons, List.mem_cons, not_or] at h
      rw [insertMember, if_neg h.1]
      split
      · exact .refl _
      · exact ((ih h.2).cons (k, v)).trans (.swap _ _ _)

/-- Members with new keys go between those that were sorted before. -/
theorem foldl_insertMember_perm (members sorted : List (String × Json))
    (h : ((members ++ sorted).map Prod.fst).Nodup) :
    (members.foldl (fun sorted m => insertMember m.1 m.2 sorted) sorted).Perm
      (members ++ sorted) := by
  induction members generalizing sorted with
  | nil => exact .refl _
  | cons m rest ih =>
      -- The first member has left the unsorted list and is in the sorted one by then.
      rw [List.cons_append, List.map_cons, List.nodup_cons, List.map_append, List.mem_append,
        not_or] at h
      have hmiddle : (rest ++ insertMember m.1 m.2 sorted).Perm (m :: (rest ++ sorted)) :=
        ((insertMember_perm h.1.2 m.2).append_left rest).trans List.perm_middle
      refine (ih _ ?_).trans hmiddle
      rw [(hmiddle.map Prod.fst).nodup_iff, List.map_cons, List.nodup_cons, List.map_append,
        List.mem_append, not_or]
      exact h

/-- Sorting loses no member if all keys are different. -/
theorem sortMembers_perm {members : List (String × Json)} (h : (members.map Prod.fst).Nodup) :
    (sortMembers members).Perm members := by
  have hall := foldl_insertMember_perm members []
  rw [List.append_nil] at hall
  exact hall h

/-- A member is found by its key if all keys are different. -/
theorem find?_key_eq_some_iff {members : List (String × Json)} (h : (members.map Prod.fst).Nodup)
    {key : String} {m : String × Json} :
    members.find? (fun m => m.1 == key) = some m ↔ m ∈ members ∧ m.1 = key := by
  constructor
  · intro hfind
    have hkey := List.find?_some hfind
    exact ⟨List.mem_of_find?_eq_some hfind, beq_iff_eq.mp hkey⟩
  · rintro ⟨hm, rfl⟩
    exact find?_eq_some_of_nodup h hm

mutual

/-- The value with the members of every object sorted by key. -/
def ordered : Json → Json
  | .null => .null
  | .bool b => .bool b
  | .number n => .number n
  | .string s => .string s
  | .array items => .array (orderedItems items)
  | .object members => .object (sortMembers (orderedMembers members))

/-- The items of an array, each sorted so. -/
def orderedItems : List Json → List Json
  | [] => []
  | j :: rest => ordered j :: orderedItems rest

/-- The members of an object as they stand, each value sorted so. -/
def orderedMembers : List (String × Json) → List (String × Json)
  | [] => []
  | (k, v) :: rest => (k, ordered v) :: orderedMembers rest

end

/-- Members are sorted inside one by one. -/
theorem orderedMembers_eq_map (members : List (String × Json)) :
    orderedMembers members = members.map fun m => (m.1, m.2.ordered) := by
  induction members with
  | nil => rw [orderedMembers, List.map_nil]
  | cons m rest ih => rw [orderedMembers, ih, List.map_cons]

mutual

/-- A value that was read from a text is sorted so. -/
theorem eq_ordered_of_toJson? (depth : Nat) (j k : Json)
    (h : (Fragment.ofJson j).toJson? depth = some k) : k = j.ordered := by
  match j with
  | .null =>
      rw [Fragment.ofJson, Fragment.toJson?] at h
      rw [ordered, Option.some.inj h]
  | .bool b =>
      rw [Fragment.ofJson, Fragment.toJson?] at h
      rw [ordered, Option.some.inj h]
  | .number n =>
      rw [Fragment.ofJson, Fragment.toJson?] at h
      rw [ordered, Option.some.inj h]
  | .string s =>
      rw [Fragment.ofJson, Fragment.toJson?] at h
      rw [ordered, Option.some.inj h]
  | .array items =>
      cases depth with
      | zero =>
          rw [Fragment.ofJson, Fragment.toJson?] at h
          cases h
      | succ d =>
          rw [Fragment.ofJson, Fragment.toJson?, if_pos rfl, Option.map_eq_some_iff] at h
          rcases h with ⟨items', hitems, rfl⟩
          rw [ordered, eq_orderedItems_of_toItems? d items items' hitems]
  | .object members =>
      cases depth with
      | zero =>
          rw [Fragment.ofJson, Fragment.toJson?] at h
          cases h
      | succ d =>
          rw [Fragment.ofJson, Fragment.toJson?, if_pos rfl, Option.map_eq_some_iff] at h
          rcases h with ⟨members', hmembers, rfl⟩
          rw [ordered, eq_orderedMembers_of_toMembers? d members members' hmembers]
          rfl

/-- So are the items of an array. -/
theorem eq_orderedItems_of_toItems? (depth : Nat) (items items' : List Json)
    (h : Fragment.toItems? depth (Fragment.ofItems items) = some items') :
    items' = orderedItems items := by
  match items with
  | [] =>
      rw [Fragment.ofItems, Fragment.toItems?] at h
      rw [orderedItems, Option.some.inj h]
  | j :: rest =>
      rw [Fragment.ofItems, Fragment.toItems?, Option.bind_eq_bind, Option.bind_eq_some_iff] at h
      rcases h with ⟨k, hk, hrest⟩
      rw [Option.bind_eq_bind, Option.bind_eq_some_iff] at hrest
      rcases hrest with ⟨rest', hrest', heq⟩
      rw [orderedItems, ← eq_ordered_of_toJson? depth j k hk,
        ← eq_orderedItems_of_toItems? depth rest rest' hrest']
      exact (Option.some.inj heq).symm

/-- So are the values of the members of an object. -/
theorem eq_orderedMembers_of_toMembers? (depth : Nat) (members members' : List (String × Json))
    (h : Fragment.toMembers? depth (Fragment.ofMembers members) = some members') :
    members' = orderedMembers members := by
  match members with
  | [] =>
      rw [Fragment.ofMembers, Fragment.toMembers?] at h
      rw [orderedMembers, Option.some.inj h]
  | (key, j) :: rest =>
      rw [Fragment.ofMembers, Fragment.toMembers?, Option.bind_eq_bind,
        Option.bind_eq_some_iff] at h
      rcases h with ⟨k, hk, hrest⟩
      rw [Option.bind_eq_bind, Option.bind_eq_some_iff] at hrest
      rcases hrest with ⟨rest', hrest', heq⟩
      rw [orderedMembers, ← eq_ordered_of_toJson? depth j k hk,
        ← eq_orderedMembers_of_toMembers? depth rest rest' hrest']
      exact (Option.some.inj heq).symm

end

/-! ## What is kept -/

/-- What is kept of a value in memory: what its text spells, with sorted members. -/
def kept (j : Json) : Json :=
  j.spelled.ordered

/-- An integer is kept. -/
@[simp]
theorem kept_int (n : Int) : (int n).kept = int n := by
  rw [kept, int, spelled, ordered]

/-- A text is kept. -/
@[simp]
theorem kept_string (s : String) : (string s).kept = string s := by
  rw [kept, spelled, ordered]

/-- An absent value is kept as such. -/
@[simp]
theorem kept_null : null.kept = null := by
  rw [kept, spelled, ordered]

/-- A double is kept if it is finite. -/
theorem kept_float {x : Binary64} (h : x.isFinite = true) : (float x).kept = float x := by
  rw [kept, float, spelled, if_pos h, ordered]

/-- The members of an object are kept one by one and then sorted. -/
theorem kept_object (members : List (String × Json)) :
    (object members).kept = object (sortMembers (members.map fun m => (m.1, m.2.kept))) := by
  rw [kept, spelled, ordered, spelledMembers_eq_map, orderedMembers_eq_map, List.map_map]
  rfl

/-- What is kept of an object is not `null`. -/
theorem kept_object_ne_null (members : List (String × Json)) : (object members).kept ≠ null := by
  rw [kept_object]
  exact Json.noConfusion

/-- What may be absent is kept if the value is. -/
theorem kept_orNull (x : Option Json) : (orNull x).kept = orNull (x.map kept) := by
  cases x with
  | none => exact kept_null
  | some j => rfl

/-- A member that may be absent is kept if it is there. -/
theorem map_kept_toList {α : Type} (name : String) (write : α → Json) (x : Option α) :
    ((x.map fun a => (name, write a)).toList.map fun m => (m.1, m.2.kept)) =
      (x.map fun a => (name, (write a).kept)).toList := by
  cases x with
  | none => rfl
  | some a => rfl

/-- A member is found among those that are kept if it was written. -/
theorem get?_kept_object {members : List (String × Json)} (h : (members.map Prod.fst).Nodup)
    (key : String) : (object members).kept.get? key = ((object members).get? key).map kept := by
  have hkeys : ((members.map fun m => (m.1, m.2.kept)).map Prod.fst).Nodup := by
    rw [List.map_map]
    exact h
  have hperm := sortMembers_perm hkeys
  -- Sorted or not, the members are the same and have different keys.
  have hfind : (sortMembers (members.map fun m => (m.1, m.2.kept))).find? (fun m => m.1 == key) =
      (members.map fun m => (m.1, m.2.kept)).find? (fun m => m.1 == key) := by
    ext1 m
    rw [find?_key_eq_some_iff hkeys,
      find?_key_eq_some_iff ((hperm.map Prod.fst).nodup_iff.mpr hkeys), hperm.mem_iff]
  rw [kept_object, get?, hfind, List.find?_map, get?, Option.map_map, Option.map_map]
  rfl

end Json

namespace Decode

variable {α : Type} {read : Decoder α} {write : α → Json}

/-- What is read back is read from what is kept, if all of it is kept. -/
theorem ReadsBack.kept (h : ReadsBack read write) (hkept : ∀ a, (write a).kept = write a) :
    ReadsBack read fun a => (write a).kept := by
  have hwrite : (fun a => (write a).kept) = write := funext hkept
  rwa [hwrite]

/-- A text is read from what is kept. -/
theorem readsKept_text : ReadsBack text fun s => (Json.string s).kept :=
  readsBack_text.kept Json.kept_string

/-- An unsigned 32-bit integer is read from what is kept. -/
theorem readsKept_uint32 : ReadsBack uint32 fun n => (Json.uint32 n).kept :=
  readsBack_uint32.kept fun _ => Json.kept_int _

/-- A signed 32-bit integer is read from what is kept. -/
theorem readsKept_int32 : ReadsBack int32 fun n => (Json.int32 n).kept :=
  readsBack_int32.kept fun _ => Json.kept_int _

/-- A position is read back. -/
theorem readsBack_position : ReadsBack position .position := by
  intro n
  have hlt := n.toNat_lt
  rw [position, Json.position, integer_ofJson_int "usize" (by omega)]
  exact congrArg Except.ok UInt64.ofNat_toNat

/-- A position is read from what is kept. -/
theorem readsKept_position : ReadsBack position fun n => (Json.position n).kept :=
  readsBack_position.kept fun _ => Json.kept_int _

/-- What may be absent is read from what is kept, if no present value is kept as
    `null`. -/
theorem readsKept_optional (h : ReadsBack read fun a => (write a).kept)
    (hnull : ∀ a, (write a).kept ≠ .null) :
    ReadsBack (optional read) fun x => (Json.orNull (x.map write)).kept := by
  intro x
  simp only [Json.kept_orNull, Option.map_map]
  exact h.optional hnull x

/-- A finite double is read from what is kept. -/
theorem double_ofJson_kept {x : Binary64} (h : x.isFinite = true) :
    double (.ofJson (Json.float x).kept) = .ok x := by
  rw [Json.kept_float h]
  exact readsBack_double x

end Decode

/-- Seen as fragments there are the same members. -/
theorem Fragment.ofMembers_eq_map (members : List (String × Json)) :
    ofMembers members = members.map fun m => (.string (some m.1), ofJson m.2) := by
  induction members with
  | nil => rw [ofMembers, List.map_nil]
  | cons m rest ih => rw [ofMembers, ih, List.map_cons]

namespace Record

variable {α : Type} {r : Record α} [r.IsOrderFree] {ms ns : List (String × Json)} {a : α}

/-- Only the order of the members is lost beside what is lost of their values. -/
theorem decode_kept_object {origin : Origin} {name : String} {strict : Bool}
    (hnodup : (ms.map Prod.fst).Nodup)
    (h : r.decode origin name strict
      (.ofJson (.object (ms.map fun m => (m.1, m.2.kept)))) = .ok a) :
    r.decode origin name strict (.ofJson (Json.object ms).kept) = .ok a := by
  have hkeys : ((ms.map fun m => (m.1, m.2.kept)).map Prod.fst).Nodup := by
    rw [List.map_map]
    exact hnodup
  rw [Fragment.ofJson] at h
  rw [Json.kept_object, Fragment.ofJson]
  refine decode_object_perm ?_ h
  rw [Fragment.ofMembers_eq_map, Fragment.ofMembers_eq_map]
  exact (Json.sortMembers_perm hkeys).symm.map _

/-- A record is read from what is kept of an object, if what is kept of its members is
    read in the order in which they were written. -/
theorem Reads.decode_kept (h : r.Reads ns a) (hkept : ns = ms.map fun m => (m.1, m.2.kept))
    (origin : Origin) (name : String) (strict : Bool) :
    r.decode origin name strict (.ofJson (Json.object ms).kept) = .ok a := by
  subst hkept
  have hread := h.decode origin name strict
  rcases h with ⟨slots, hputs, -⟩
  have hnodup := hputs.nodup_keys.1
  rw [List.map_map] at hnodup
  exact decode_kept_object hnodup hread

/-- If all of its members are kept as they are then it is as if the object was. -/
theorem decode_kept_of_flat {origin : Origin} {name : String} {strict : Bool}
    (h : r.decode origin name strict (.ofJson (.object ms)) = .ok a)
    (hnodup : (ms.map Prod.fst).Nodup) (hflat : ∀ m ∈ ms, m.2.kept = m.2) :
    r.decode origin name strict (.ofJson (Json.object ms).kept) = .ok a := by
  have hmembers : ms.map (fun m => (m.1, m.2.kept)) = ms := by
    calc ms.map (fun m => (m.1, m.2.kept))
        = ms.map id := List.map_congr_left fun m hm => Prod.ext rfl (hflat m hm)
      _ = ms := List.map_id ms
  rw [← hmembers] at h
  exact decode_kept_object hnodup h

end Record

end LootFilter
