import LootFilter.Proofs.Json.Member
import LootFilter.Proofs.Json.Record

/-!
# The Order of Members

An object can be read with its members in any order. A value goes into the slot of its
own field, so two values of different fields can be put in either order, and a field is
met or not, whenever that is asked. These two facts about a description are all that
is needed. They follow it as everything does: a single field has no second one to get
in its way, and two descriptions in sequence have slots of their own.

Which fault comes out does depend on the order, since the first one does. So what is
carried over from one order to another is that an object is read, and as what.

## Main definitions

* `Record.IsOrderFree`: Values go into slots of their own.

## Theorems

* `Record.isOrderFree_both`: Two descriptions in sequence.
* `Record.putMembers_perm`: The members of an object in another order.
* `Record.decode_object_perm`: The same for the record that is read.
* `Record.Puts.nodup_keys`: Members that fill slots have different keys.
-/

namespace LootFilter

namespace Record

variable {α β : Type}

/-- Values go into slots of their own. -/
class IsOrderFree (r : Record α) : Prop where
  /-- The field of a value that is put is met then, and no other one. -/
  isSet_put : ∀ {x y : r.Slots} {name : String} {f : Fragment}, name ∈ r.names →
    r.put x name f = .ok y → ∀ other ∈ r.names, r.isSet y other = (other == name || r.isSet x other)
  /-- Values of two fields can be put in either order. -/
  put_comm : ∀ {x y z : r.Slots} {n m : String} {f g : Fragment}, n ∈ r.names → m ∈ r.names →
    n ≠ m → r.put x n f = .ok y → r.put y m g = .ok z →
      ∃ w, r.put x m g = .ok w ∧ r.put w n f = .ok z

/-- A single field has no other one beside it. -/
instance isOrderFree_field (name : String) (read : Decoder α) (absent : Option α) :
    (field name read absent).IsOrderFree where
  isSet_put := by
    intro x y n f hn hput other hother
    have hsame : other = n := (List.mem_singleton.mp hother).trans (List.mem_singleton.mp hn).symm
    rcases (map_eq_ok_iff _ _ _).mp hput with ⟨a, -, rfl⟩
    rw [hsame, beq_self_eq_true, Bool.true_or]
    rfl
  put_comm := by
    intro x y z n m f g hn hm hne
    exact absurd ((List.mem_singleton.mp hn).trans (List.mem_singleton.mp hm).symm) hne

/-- A field that has to be present is a single one. -/
instance isOrderFree_required (name : String) (read : Decoder α) :
    (required name read).IsOrderFree :=
  isOrderFree_field name read none

/-- So is a field that may be absent. -/
instance isOrderFree_optional (name : String) (read : Decoder α) :
    (optional name read).IsOrderFree :=
  isOrderFree_field name (Decode.optional read) (some none)

variable {r : Record α} {s : Record β}

/-- The name of a value that does not go to the first description is one of the
    second. -/
theorem mem_names_right {name : String} (h : name ∈ (r.both s).names) (hleft : name ∉ r.names) :
    name ∈ s.names :=
  (List.mem_append.mp h).resolve_left hleft

/-- A value that is put is in the slots of the one description or the other. -/
theorem put_both_eq_ok_iff (r : Record α) (s : Record β) {x : r.Slots} {y : s.Slots}
    {z : (r.both s).Slots} {name : String} {f : Fragment} :
    (r.both s).put (x, y) name f = .ok z ↔
      name ∈ r.names ∧ (∃ first, r.put x name f = .ok first ∧ (first, y) = z) ∨
        name ∉ r.names ∧ ∃ second, s.put y name f = .ok second ∧ (x, second) = z := by
  by_cases h : name ∈ r.names
  · rw [put_both_left r s h]
    constructor
    · exact fun hput => Or.inl ⟨h, (map_eq_ok_iff _ _ _).mp hput⟩
    · rintro (⟨-, hput⟩ | ⟨hright, -⟩)
      · exact (map_eq_ok_iff _ _ _).mpr hput
      · exact absurd h hright
  · rw [put_both_right r s h]
    constructor
    · exact fun hput => Or.inr ⟨h, (map_eq_ok_iff _ _ _).mp hput⟩
    · rintro (⟨hleft, -⟩ | ⟨-, hput⟩)
      · exact absurd hleft h
      · exact (map_eq_ok_iff _ _ _).mpr hput

/-- Two descriptions in sequence have slots of their own. -/
instance isOrderFree_both [r.IsOrderFree] [s.IsOrderFree] : (r.both s).IsOrderFree where
  isSet_put := by
    rintro ⟨x, y⟩ z name f hname hput other hother
    rcases (put_both_eq_ok_iff r s).mp hput with ⟨hleft, first, hfirst, rfl⟩ |
      ⟨hright, second, hsecond, rfl⟩
    · by_cases hother' : other ∈ r.names
      · rw [isSet_both_left r s hother', isSet_both_left r s hother']
        exact IsOrderFree.isSet_put hleft hfirst other hother'
      · have hne : other ≠ name := fun h => hother' (h ▸ hleft)
        rw [isSet_both_right r s hother', isSet_both_right r s hother',
          beq_eq_false_iff_ne.mpr hne, Bool.false_or]
    · by_cases hother' : other ∈ r.names
      · have hne : other ≠ name := fun h => hright (h ▸ hother')
        rw [isSet_both_left r s hother', isSet_both_left r s hother',
          beq_eq_false_iff_ne.mpr hne, Bool.false_or]
      · rw [isSet_both_right r s hother', isSet_both_right r s hother']
        exact IsOrderFree.isSet_put (mem_names_right hname hright) hsecond other
          (mem_names_right hother hother')
  put_comm := by
    rintro ⟨x, y⟩ z z' n m f g hn hm hne hput hput'
    -- Values for different descriptions meet different slots, and for one of them it
    -- is as that description says.
    rcases (put_both_eq_ok_iff r s).mp hput with ⟨hnl, x', hx, rfl⟩ | ⟨hnr, y', hy, rfl⟩
    · rcases (put_both_eq_ok_iff r s).mp hput' with ⟨hml, x'', hx', rfl⟩ | ⟨hmr, y', hy, rfl⟩
      · rcases IsOrderFree.put_comm hnl hml hne hx hx' with ⟨w, hw, hw'⟩
        exact ⟨(w, y), (put_both_eq_ok_iff r s).mpr (.inl ⟨hml, w, hw, rfl⟩),
          (put_both_eq_ok_iff r s).mpr (.inl ⟨hnl, x'', hw', rfl⟩)⟩
      · exact ⟨(x, y'), (put_both_eq_ok_iff r s).mpr (.inr ⟨hmr, y', hy, rfl⟩),
          (put_both_eq_ok_iff r s).mpr (.inl ⟨hnl, x', hx, rfl⟩)⟩
    · rcases (put_both_eq_ok_iff r s).mp hput' with ⟨hml, x', hx, rfl⟩ | ⟨hmr, y'', hy', rfl⟩
      · exact ⟨(x', y), (put_both_eq_ok_iff r s).mpr (.inl ⟨hml, x', hx, rfl⟩),
          (put_both_eq_ok_iff r s).mpr (.inr ⟨hnr, y', hy, rfl⟩)⟩
      · rcases IsOrderFree.put_comm (mem_names_right hn hnr) (mem_names_right hm hmr) hne hy hy'
          with ⟨w, hw, hw'⟩
        exact ⟨(x, w), (put_both_eq_ok_iff r s).mpr (.inr ⟨hmr, w, hw, rfl⟩),
          (put_both_eq_ok_iff r s).mpr (.inr ⟨hnr, y'', hw', rfl⟩)⟩

/-- What is done to a record at the end has no part in its slots. -/
instance isOrderFree_map [r.IsOrderFree] (f : α → β) : (r.map f).IsOrderFree :=
  ⟨IsOrderFree.isSet_put (r := r), IsOrderFree.put_comm (r := r)⟩

section Members

variable [r.IsOrderFree] {strict : Bool}

/-- Two members can be read in either order. -/
theorem putMember_comm {x y z : r.Slots} {m m' : Fragment × Fragment}
    (h : r.putMember strict x m = .ok y) (h' : r.putMember strict y m' = .ok z) :
    ∃ w, r.putMember strict x m' = .ok w ∧ r.putMember strict w m = .ok z := by
  rcases putMember_eq_ok_iff.mp h with ⟨n, hkey, hm⟩
  rcases putMember_eq_ok_iff.mp h' with ⟨n', hkey', hm'⟩
  rcases hm with ⟨hn, hset, hput⟩ | ⟨hn, hstrict, hclosed, rfl⟩
  · rcases hm' with ⟨hn', hset', hput'⟩ | ⟨hn', hstrict', hclosed', rfl⟩
    · -- The second field was not met behind the first value, so it is another one.
      rw [IsOrderFree.isSet_put hn hput n' hn', Bool.or_eq_false_iff,
        beq_eq_false_iff_ne] at hset'
      rcases IsOrderFree.put_comm hn hn' hset'.1.symm hput hput' with ⟨w, hw, hwz⟩
      refine ⟨w, putMember_eq_ok_iff.mpr ⟨n', hkey', Or.inl ⟨hn', hset'.2, hw⟩⟩,
        putMember_eq_ok_iff.mpr ⟨n, hkey, Or.inl ⟨hn, ?_, hwz⟩⟩⟩
      rw [IsOrderFree.isSet_put hn' hw n hn, hset, Bool.or_false, beq_eq_false_iff_ne]
      exact hset'.1.symm
    · -- A member that is skipped leaves the slots to the other one as they were.
      exact ⟨x, putMember_eq_ok_iff.mpr ⟨n', hkey', Or.inr ⟨hn', hstrict', hclosed', rfl⟩⟩, h⟩
  · exact ⟨z, h', putMember_eq_ok_iff.mpr ⟨n, hkey, Or.inr ⟨hn, hstrict, hclosed, rfl⟩⟩⟩

/-- The members of an object that can be read can be read in any order, and fill the
    slots in the same way. -/
theorem putMembers_perm {ms ns : List (Fragment × Fragment)}
    (hperm : ms.Perm ns) {x y : r.Slots} (h : r.putMembers strict x ms = .ok y) :
    r.putMembers strict x ns = .ok y := by
  -- The induction is on the permutation, and only a swap changes what is read first.
  induction hperm generalizing x with
  | nil => exact h
  | cons m rest ih =>
      rw [putMembers_cons, bind_eq_ok_iff] at h ⊢
      rcases h with ⟨z, hz, hrest⟩
      exact ⟨z, hz, ih hrest⟩
  | swap m m' rest =>
      rw [putMembers_cons, bind_eq_ok_iff] at h
      rcases h with ⟨z, hz, hrest⟩
      rw [putMembers_cons, bind_eq_ok_iff] at hrest
      rcases hrest with ⟨w, hw, hrest⟩
      rcases putMember_comm hz hw with ⟨v, hv, hvw⟩
      rw [putMembers_cons, hv]
      change r.putMembers strict v _ = _
      rw [putMembers_cons, hvw]
      exact hrest
  | trans _ _ ih ih' => exact ih' (ih h)

/-- An object that can be read can be read with its members in any order, and gives
    the same record. -/
theorem decode_object_perm {ms ns : List (Fragment × Fragment)} (hperm : ms.Perm ns)
    {origin : Origin} {name : String} {closed : Bool} {a : α}
    (h : r.decode origin name strict (.object ms closed) = .ok a) :
    r.decode origin name strict (.object ns closed) = .ok a := by
  rw [decode, ofMembers, bind_eq_ok_iff] at h ⊢
  rcases h with ⟨slots, hslots, hrest⟩
  exact ⟨slots, putMembers_perm hperm hslots, hrest⟩

/-- The keys of members that fill slots are different, and none of them was met
    before. -/
theorem Puts.nodup_keys {x y : r.Slots} {ms : List (String × Json)} (h : r.Puts x ms y) :
    (ms.map Prod.fst).Nodup ∧
      ∀ name ∈ ms.map Prod.fst, name ∈ r.names ∧ r.isSet x name = false := by
  induction h with
  | nil slots => exact ⟨List.nodup_nil, fun name h => absurd h List.not_mem_nil⟩
  | @cons x z y name j rest known fresh put hrest ih =>
      -- Behind the first member its field is met, and every other one as before.
      have hbehind : ∀ other ∈ rest.map Prod.fst, other ≠ name ∧ other ∈ r.names ∧
          r.isSet x other = false := by
        intro other hother
        rcases ih.2 other hother with ⟨hknown, hset⟩
        rw [IsOrderFree.isSet_put known put other hknown, Bool.or_eq_false_iff,
          beq_eq_false_iff_ne] at hset
        exact ⟨hset.1, hknown, hset.2⟩
      rw [List.map_cons, List.nodup_cons, List.forall_mem_cons]
      exact ⟨⟨fun hmem => (hbehind name hmem).1 rfl, ih.1⟩, ⟨known, fresh⟩,
        fun other hother => (hbehind other hother).2⟩

end Members

end Record

end LootFilter
