import LootFilter.Json.Vocabulary
import LootFilter.Proofs.Json.Order
import LootFilter.Proofs.Json.Place
import Mathlib.Logic.Relation

/-!
# Trees in Another Order

The members of an object have no order to the reader, and this goes for every object in a
tree at once. A step puts the members of one object into another order, wherever it is,
and a tree in another order is reached by any number of steps. A reader is blind to the
order if a step keeps what it accepts. Then it is not held up by any number of them.

Blindness goes from the parts to the whole, in the way readers are put together. Readers
of plain values have nothing to be reordered. A list asks it of its items, and a record of
the readers of its fields. But a record takes its own members too, and these are read in
any order because each of them has a slot to itself (`Record.IsOrderFree`). It is here
that a member which is skipped must not be forgotten. All that is asked of it is that it
does not break off, and this does not depend on an order.

Nothing is said of what is refused. Of several faults the first one is reported, and which
one that is does depend on the order.

## Main definitions

* `Fragment.Reorder`: The members of one object in another order.
* `Fragment.Reordered`: The members of any objects in another order.
* `Decode.IsOrderBlind`: What is read stays the same after a step.
* `Record.IsOrderBlind`: The same for the values of the fields.

## Theorems

* `Decode.IsOrderBlind.keeps`: What is read stays the same after any number of steps.
* `Decode.isOrderBlind_list`, `Decode.isOrderBlind_keyword`: Lists and keywords.
* `Record.IsOrderBlind.decode`, `Record.IsOrderBlind.decodeTuple`: Records.
-/

namespace LootFilter

namespace Fragment

/-- The members of one object stand in another order. The object is the tree itself, or
    it is somewhere in an item or in the value of a member. -/
inductive Reorder : Fragment → Fragment → Prop where
  | here {ms ns : List (Fragment × Fragment)} (closed : Bool) (perm : ms.Perm ns) :
      Reorder (.object ms closed) (.object ns closed)
  | item {f f' : Fragment} (before after : List Fragment) (closed : Bool)
      (inner : Reorder f f') :
      Reorder (.array (before ++ f :: after) closed) (.array (before ++ f' :: after) closed)
  | member {f f' : Fragment} (before after : List (Fragment × Fragment)) (key : Fragment)
      (closed : Bool) (inner : Reorder f f') :
      Reorder (.object (before ++ (key, f) :: after) closed)
        (.object (before ++ (key, f') :: after) closed)

/-- The members of any objects in the tree stand in another order. -/
def Reordered : Fragment → Fragment → Prop :=
  Relation.ReflTransGen Reorder

namespace Reorder

variable {f f' : Fragment}

/-- Neither tree is `null`. -/
theorem ne_null (h : Reorder f f') : f ≠ .null ∧ f' ≠ .null := by
  cases h with
  | here closed perm => exact ⟨Fragment.noConfusion, Fragment.noConfusion⟩
  | item before after closed inner => exact ⟨Fragment.noConfusion, Fragment.noConfusion⟩
  | member before after key closed inner => exact ⟨Fragment.noConfusion, Fragment.noConfusion⟩

/-- A tree breaks off in any order or in none. -/
theorem isClosed_eq (h : Reorder f f') : f'.isClosed = f.isClosed := by
  cases h with
  | here closed perm => rfl
  | item before after closed inner => rfl
  | member before after key closed inner => rfl

end Reorder

end Fragment

/-- What hinges on a part keeps its value if the part does. -/
theorem HingesOn.keeps {α β : Type} {a a' : Except Fault α} {b b' : Except Fault β}
    (h : HingesOn a a' b b') (hpart : ∀ y, b = .ok y → b' = .ok y) {x : α} (hx : a = .ok x) :
    a' = .ok x := by
  rcases h x hx with ⟨y, hy, hkeep, -⟩
  exact hkeep (hpart y hy)

namespace Decode

variable {α β : Type} {read : Decoder α}

/-- What the reader accepts it reads in the same way when the members of an object are
    put into another order. -/
def IsOrderBlind (read : Decoder α) : Prop :=
  ∀ ⦃f f' : Fragment⦄ ⦃a : α⦄, f.Reorder f' → read f = .ok a → read f' = .ok a

/-- So it does when the members of any number of objects are. -/
theorem IsOrderBlind.keeps (h : IsOrderBlind read) {f f' : Fragment} {a : α}
    (hreordered : f.Reordered f') (hread : read f = .ok a) : read f' = .ok a := by
  induction hreordered with
  | refl => exact hread
  | tail _ hstep ih => exact h hstep ih

/-! ## Plain values -/

/-- A truth value has no members. -/
theorem isOrderBlind_bool : IsOrderBlind bool := by
  intro f f' b h hread
  cases h with
  | here closed perm => cases hread
  | item before after closed inner => cases hread
  | member before after key closed inner => cases hread

/-- Neither has a text. -/
theorem isOrderBlind_text : IsOrderBlind text := by
  intro f f' s h hread
  cases h with
  | here closed perm => cases hread
  | item before after closed inner => cases hread
  | member before after key closed inner => cases hread

/-- Nor has an integer. -/
theorem isOrderBlind_integer (name : String) (least most : Int) :
    IsOrderBlind (integer name least most) := by
  intro f f' n h hread
  cases h with
  | here closed perm => cases hread
  | item before after closed inner => cases hread
  | member before after key closed inner => cases hread

/-- What is done to a value afterwards does not matter. -/
theorem IsOrderBlind.map (h : IsOrderBlind read) (g : α → β) :
    IsOrderBlind fun f => (read f).map g := by
  intro f f' b hstep hread
  rcases (map_eq_ok_iff _ _ _).mp hread with ⟨a, ha, hb⟩
  exact (map_eq_ok_iff _ _ _).mpr ⟨a, h hstep ha, hb⟩

/-- An unsigned 8-bit integer is an integer. -/
theorem isOrderBlind_uint8 : IsOrderBlind uint8 :=
  (isOrderBlind_integer "u8" 0 255).map _

/-- So is an unsigned 32-bit one. -/
theorem isOrderBlind_uint32 : IsOrderBlind uint32 :=
  (isOrderBlind_integer "u32" 0 4294967295).map _

/-! ## Values put together -/

/-- A value that may be absent is read by the reader of the value. -/
theorem IsOrderBlind.optional (h : IsOrderBlind read) : IsOrderBlind (optional read) := by
  intro f f' a hstep hread
  rcases hstep.ne_null with ⟨hf, hf'⟩
  exact (hingesOn_optional hf hf').keeps (fun _ => h hstep) hread

/-- The items of a list keep their order, and each of them is read as before. -/
theorem isOrderBlind_list (h : IsOrderBlind read) : IsOrderBlind (list read) := by
  intro f f' l hstep hread
  cases hstep with
  | here closed perm => cases hread
  | item before after closed inner =>
      exact (hingesOn_list before after _ _ closed).keeps (fun _ => h inner) hread
  | member before after key closed inner => cases hread

/-- A keyword that is written as an object has a single member, and nothing under it. -/
theorem keyword_object {known : List (String × α)} {ms : List (Fragment × Fragment)}
    {closed : Bool} {a : α} (h : keyword .text known (.object ms closed) = .ok a) :
    ∃ key, ms = [(key, .null)] := by
  cases ms with
  | nil => cases h
  | cons m rest =>
      rcases m with ⟨key, content⟩
      cases key with
      | string s =>
          cases s with
          | none => cases h
          | some name =>
              rcases (bind_eq_ok_iff _ _ _).mp h with ⟨b, -, hrest⟩
              rcases (bind_eq_ok_iff _ _ _).mp hrest with ⟨u, hunit, hend⟩
              have hcontent : content = .null := by
                cases content with
                | null => rfl
                | _ => cases hunit
              have hlast : rest = [] := by
                cases rest with
                | nil => rfl
                | cons n more => cases hend
              exact ⟨_, by rw [hcontent, hlast]⟩
      | _ => cases h

/-- So there is nothing in a keyword that could be reordered. -/
theorem isOrderBlind_keyword (known : List (String × α)) : IsOrderBlind (keyword .text known) := by
  intro f f' a hstep hread
  cases hstep with
  | here closed perm =>
      rcases keyword_object hread with ⟨key, rfl⟩
      rwa [List.singleton_perm.mp perm] at hread
  | item before after closed inner => cases hread
  | member before after key closed inner =>
      rcases keyword_object hread with ⟨key', hone⟩
      have hmem : (key, _) ∈ [(key', Fragment.null)] :=
        hone ▸ List.mem_append_right before List.mem_cons_self
      exact absurd (congrArg Prod.snd (List.mem_singleton.mp hmem)) inner.ne_null.1

end Decode

/-- A value of a vocabulary is a keyword. -/
theorem Vocabulary.isOrderBlind_decode (α : Type) [Vocabulary α] :
    Decode.IsOrderBlind (decode α .text) :=
  Decode.isOrderBlind_keyword _

namespace Record

variable {α β : Type} {r : Record α} {s : Record β}

/-- The values of the fields are read in the same way when the members of an object in one
    of them are put into another order. -/
def IsOrderBlind (r : Record α) : Prop :=
  ∀ ⦃x y : r.Slots⦄ ⦃name : String⦄ ⦃f f' : Fragment⦄, name ∈ r.names → f.Reorder f' →
    r.put x name f = .ok y → r.put x name f' = .ok y

namespace IsOrderBlind

/-- A single field is as blind as its reader. -/
theorem field {read : Decoder α} (h : Decode.IsOrderBlind read) (name : String)
    (absent : Option α) : (field name read absent).IsOrderBlind :=
  fun _ _ _ _ _ _ hstep hput => h.map some hstep hput

/-- So is a field that has to be present. -/
theorem required {read : Decoder α} (h : Decode.IsOrderBlind read) (name : String) :
    (required name read).IsOrderBlind :=
  field h name none

/-- So is one that may be absent. -/
theorem optional {read : Decoder α} (h : Decode.IsOrderBlind read) (name : String) :
    (optional name read).IsOrderBlind :=
  field h.optional name (some none)

/-- A value goes to one of two descriptions in sequence. -/
theorem both (hr : r.IsOrderBlind) (hs : s.IsOrderBlind) : (r.both s).IsOrderBlind := by
  rintro ⟨x, y⟩ z name f f' hname hstep hput
  rcases (put_both_eq_ok_iff r s).mp hput with ⟨hleft, first, hfirst, hz⟩ |
    ⟨hright, second, hsecond, hz⟩
  · exact (put_both_eq_ok_iff r s).mpr (.inl ⟨hleft, first, hr hleft hstep hfirst, hz⟩)
  · have hname' : name ∈ s.names := mem_names_right hname hright
    exact (put_both_eq_ok_iff r s).mpr (.inr ⟨hright, second, hs hname' hstep hsecond, hz⟩)

/-- What is done to a record at the end has no part in its fields. -/
theorem map (h : r.IsOrderBlind) (g : α → β) : (r.map g).IsOrderBlind :=
  h

/-- A step of the reader either puts the value of its member or skips the member. -/
theorem putMember (h : r.IsOrderBlind) {strict : Bool} {x y : r.Slots} {key f f' : Fragment}
    (hstep : f.Reorder f') (hput : r.putMember strict x (key, f) = .ok y) :
    r.putMember strict x (key, f') = .ok y := by
  rcases putMember_eq_ok_iff.mp hput with ⟨name, hkey, ⟨hname, hset, hvalue⟩ |
    ⟨hname, hlax, hclosed, hy⟩⟩
  · exact putMember_eq_ok_iff.mpr ⟨name, hkey, .inl ⟨hname, hset, h hname hstep hvalue⟩⟩
  · have hclosed' : f'.isClosed = true := hstep.isClosed_eq.trans hclosed
    exact putMember_eq_ok_iff.mpr ⟨name, hkey, .inr ⟨hname, hlax, hclosed', hy⟩⟩

/-- The members of an object fill the slots in the same way. -/
theorem putMembers (h : r.IsOrderBlind) {strict : Bool} {x y : r.Slots} {key f f' : Fragment}
    (hstep : f.Reorder f') (before after : List (Fragment × Fragment))
    (hput : r.putMembers strict x (before ++ (key, f) :: after) = .ok y) :
    r.putMembers strict x (before ++ (key, f') :: after) = .ok y := by
  rw [putMembers_append, bind_eq_ok_iff] at hput ⊢
  rcases hput with ⟨z, hz, hrest⟩
  refine ⟨z, hz, ?_⟩
  rcases putMembers_cons_eq_ok_iff.mp hrest with ⟨w, hw, hafter⟩
  exact putMembers_cons_eq_ok_iff.mpr ⟨w, h.putMember hstep hw, hafter⟩

/-- So do the items of a list that has none too many. -/
theorem putItems (h : r.IsOrderBlind) {f f' : Fragment} (hstep : f.Reorder f')
    (before after : List Fragment) {names : List String} (hnames : ∀ n ∈ names, n ∈ r.names)
    {x y : r.Slots} (hput : r.putItems x names (before ++ f :: after) = .ok (y, [])) :
    r.putItems x names (before ++ f' :: after) = .ok (y, []) := by
  induction before generalizing x names with
  | nil =>
      cases names with
      | nil => cases hput
      | cons name names =>
          rcases (bind_eq_ok_iff _ _ _).mp hput with ⟨z, hz, hrest⟩
          exact (bind_eq_ok_iff _ _ _).mpr ⟨z, h (hnames name List.mem_cons_self) hstep hz, hrest⟩
  | cons g rest ih =>
      cases names with
      | nil => cases hput
      | cons name names =>
          rcases (bind_eq_ok_iff _ _ _).mp hput with ⟨z, hz, hrest⟩
          exact (bind_eq_ok_iff _ _ _).mpr
            ⟨z, hz, ih (fun n hn => hnames n (List.mem_cons_of_mem name hn)) hrest⟩

/-- The record that is read of a list stays the same. -/
theorem ofItems (h : r.IsOrderBlind) {f f' : Fragment} (hstep : f.Reorder f') {origin : Origin}
    {expected : String} (before after : List Fragment) {closed : Bool} {a : α}
    (hread : r.ofItems origin expected (before ++ f :: after) closed = .ok a) :
    r.ofItems origin expected (before ++ f' :: after) closed = .ok a := by
  have hlength : (before ++ f' :: after).length = (before ++ f :: after).length := by
    rw [List.length_append, List.length_append, List.length_cons, List.length_cons]
  unfold Record.ofItems at hread ⊢
  rcases (bind_eq_ok_iff _ _ _).mp hread with ⟨⟨slots, rest⟩, hitems, hfinish⟩
  -- An item that is left over would be refused, whatever the origin.
  have hrest : rest = [] := by
    cases rest with
    | nil => rfl
    | cons g more =>
        simp only [List.isEmpty_cons, Bool.false_and, Bool.false_eq_true, if_false] at hfinish
        split at hfinish
        · cases hfinish
        · split at hfinish
          · cases hfinish
          · cases origin with
            | text => cases hfinish
            | memory => cases hfinish
  subst hrest
  rw [hlength, bind_eq_ok_iff]
  exact ⟨(slots, []), h.putItems hstep before after (fun _ hn => hn) hitems, hfinish⟩

variable {origin : Origin} {type : String} {strict : Bool}

/-- A record is read in the same way in either form, if its own members may stand in any
    order. -/
theorem decode (h : r.IsOrderBlind)
    (hperm : ∀ {ms ns : List (Fragment × Fragment)} {closed : Bool} {a : α}, ms.Perm ns →
      r.decode origin type strict (.object ms closed) = .ok a →
        r.decode origin type strict (.object ns closed) = .ok a) :
    Decode.IsOrderBlind (r.decode origin type strict) := by
  intro f f' a hstep hread
  cases hstep with
  | here closed perm => exact hperm perm hread
  | item before after closed inner => exact h.ofItems inner before after hread
  | member before after key closed inner =>
      rw [Record.decode, ofMembers, bind_eq_ok_iff] at hread ⊢
      rcases hread with ⟨slots, hslots, hfinish⟩
      exact ⟨slots, h.putMembers inner before after hslots, hfinish⟩

/-- They may if each of them has a slot to itself. -/
theorem decode_of_isOrderFree [r.IsOrderFree] (h : r.IsOrderBlind) :
    Decode.IsOrderBlind (r.decode origin type strict) :=
  h.decode fun hperm => decode_object_perm hperm

/-- A type that has the list form only has no members of its own. -/
theorem decodeTuple (h : r.IsOrderBlind) : Decode.IsOrderBlind (r.decodeTuple origin type) := by
  intro f f' a hstep hread
  cases hstep with
  | here closed perm => cases hread
  | item before after closed inner => exact h.ofItems inner before after hread
  | member before after key closed inner => cases hread

end IsOrderBlind

end Record

end LootFilter
