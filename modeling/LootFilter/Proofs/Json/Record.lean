import LootFilter.Json.Record
import LootFilter.Proofs.Json.Decode

/-!
# Reading Records Back

A record is described by its fields, and the description is put together from
single ones. What is proved here follows it: how a single field is read, and
that the members of two descriptions, one behind the other, are read as both of
them. So for a record type it remains to name its fields.

Two descriptions do not get in each other's way if they have no name in common.
A member goes to the one that has its name, and the slots of the other one stay
as they are.

A list holds the values of all fields in their order, so it is read as the
object would be whose members are these values under the names of the fields.

Where a value cannot be read, the members ahead of it were read all the same. So a
refusal also follows the description, with members that are read in front of the
one that is not.

## Main definitions

* `Record.Puts`: Members fill some slots.
* `Record.Reads`: Members are read as a record.
* `Record.Refuses`: Members are refused with a fault.

## Theorems

* `Record.Reads.both`: Two descriptions in sequence.
* `Record.Reads.decode`: The object of some members.
* `Record.Reads.decodeTuple`: The list of their values.
* `Record.Refuses.both_left`, `Record.Reads.both_refuses`: A refusal in a sequence.
* `Record.Refuses.decode`: The object of refused members.
-/

namespace LootFilter

/-- Seen as fragments there are as many items as before. -/
theorem Fragment.length_ofItems (items : List Json) : (ofItems items).length = items.length := by
  induction items with
  | nil => rfl
  | cons j rest ih => rw [ofItems, List.length_cons, List.length_cons, ih]

namespace Record

variable {α β : Type}

/-- A single field has its own name only. -/
@[simp]
theorem names_field (name : String) (read : Decoder α) (absent : Option α) :
    (field name read absent).names = [name] :=
  rfl

/-- A single field that has to be present has its own name only. -/
@[simp]
theorem names_required (name : String) (read : Decoder α) : (required name read).names = [name] :=
  rfl

/-- A single field that may be absent has its own name only. -/
@[simp]
theorem names_optional (name : String) (read : Decoder α) : (optional name read).names = [name] :=
  rfl

/-- The names of two descriptions in sequence. -/
@[simp]
theorem names_both (r : Record α) (s : Record β) : (r.both s).names = r.names ++ s.names :=
  rfl

section Both

variable (r : Record α) (s : Record β) {name : String}

/-- A value under a name of the first description goes to its slots. -/
theorem put_both_left (h : name ∈ r.names) (x : r.Slots) (y : s.Slots) (f : Fragment) :
    (r.both s).put (x, y) name f = (r.put x name f).map fun first => (first, y) :=
  if_pos (List.contains_iff_mem.mpr h)

/-- A value under another name goes to the slots of the second one. -/
theorem put_both_right (h : name ∉ r.names) (x : r.Slots) (y : s.Slots) (f : Fragment) :
    (r.both s).put (x, y) name f = (s.put y name f).map fun second => (x, second) :=
  if_neg fun hcontains => h (List.contains_iff_mem.mp hcontains)

/-- A name of the first description is looked up in its slots. -/
theorem isSet_both_left (h : name ∈ r.names) (x : r.Slots) (y : s.Slots) :
    (r.both s).isSet (x, y) name = r.isSet x name :=
  if_pos (List.contains_iff_mem.mpr h)

/-- Another name is looked up in the slots of the second one. -/
theorem isSet_both_right (h : name ∉ r.names) (x : r.Slots) (y : s.Slots) :
    (r.both s).isSet (x, y) name = s.isSet y name :=
  if_neg fun hcontains => h (List.contains_iff_mem.mp hcontains)

end Both

/-- The members fill the slots one after another. Each of them belongs to a
    field that has none before. -/
inductive Puts (r : Record α) : r.Slots → List (String × Json) → r.Slots → Prop where
  | nil (slots : r.Slots) : Puts r slots [] slots
  | cons {slots slots' slots'' : r.Slots} {name : String} {j : Json} {ms : List (String × Json)}
      (known : name ∈ r.names) (fresh : r.isSet slots name = false)
      (put : r.put slots name (.ofJson j) = .ok slots') (rest : Puts r slots' ms slots'') :
      Puts r slots ((name, j) :: ms) slots''

namespace Puts

variable {r : Record α} {s : Record β}

/-- Members fill slots in as many steps as one likes. -/
theorem append {x y z : r.Slots} {ms ns : List (String × Json)} (h : r.Puts x ms y)
    (hns : r.Puts y ns z) : r.Puts x (ms ++ ns) z := by
  induction h with
  | nil slots => exact hns
  | cons known fresh put rest ih => exact .cons known fresh put (ih hns)

/-- Members of the first description leave the slots of the second one alone. -/
theorem both_left {x x' : r.Slots} {ms : List (String × Json)} (h : r.Puts x ms x')
    (y : s.Slots) : (r.both s).Puts (x, y) ms (x', y) := by
  induction h with
  | nil slots => exact .nil _
  | @cons slots slots' slots'' name j ms known fresh put rest ih =>
      refine .cons (List.mem_append_left _ known) ?_ ?_ ih
      · rw [isSet_both_left r s known, fresh]
      · rw [put_both_left r s known, put]
        rfl

/-- Members of the second description leave the slots of the first one alone. -/
theorem both_right {y y' : s.Slots} {ms : List (String × Json)} (h : s.Puts y ms y')
    (hnames : r.names.Disjoint s.names) (x : r.Slots) : (r.both s).Puts (x, y) ms (x, y') := by
  induction h with
  | nil slots => exact .nil _
  | @cons slots slots' slots'' name j ms known fresh put rest ih =>
      have hother : name ∉ r.names := fun h => hnames h known
      refine .cons (List.mem_append_right _ known) ?_ ?_ ih
      · rw [isSet_both_right r s hother, fresh]
      · rw [put_both_right r s hother, put]
        rfl

/-- What is done to a record at the end has no part in its slots. -/
theorem map {x x' : r.Slots} {ms : List (String × Json)} (h : r.Puts x ms x') (f : α → β) :
    (r.map f).Puts x ms x' := by
  induction h with
  | nil slots => exact .nil _
  | cons known fresh put rest ih => exact .cons known fresh put ih

/-- An object whose first members these are fills the slots with them, whether or
    not members of other names would be let pass. -/
theorem putMembers_append_eq {x x' : r.Slots} {ms : List (String × Json)} (h : r.Puts x ms x')
    (strict : Bool) (ns : List (String × Json)) :
    r.putMembers strict x (Fragment.ofMembers (ms ++ ns)) =
      r.putMembers strict x' (Fragment.ofMembers ns) := by
  induction h with
  | nil slots => rfl
  | cons known fresh put rest ih =>
      rw [List.cons_append, Fragment.ofMembers, putMembers,
        if_pos (List.contains_iff_mem.mpr known), fresh, put]
      exact ih

/-- An object of the members fills the slots. -/
theorem putMembers_eq {x x' : r.Slots} {ms : List (String × Json)} (h : r.Puts x ms x')
    (strict : Bool) : r.putMembers strict x (Fragment.ofMembers ms) = .ok x' := by
  have hall := h.putMembers_append_eq strict []
  rwa [List.append_nil] at hall

/-- So does a list of the values of the members. -/
theorem putItems_eq {x x' : r.Slots} {ms : List (String × Json)} (h : r.Puts x ms x') :
    r.putItems x (ms.map Prod.fst) (Fragment.ofItems (ms.map Prod.snd)) = .ok (x', []) := by
  induction h with
  | nil slots => rfl
  | cons known fresh put rest ih =>
      rw [List.map_cons, List.map_cons, Fragment.ofItems, putItems, put]
      exact ih

end Puts

/-- The members are read as the record: they fill its slots, and the filled slots
    are the record. -/
def Reads (r : Record α) (ms : List (String × Json)) (a : α) : Prop :=
  ∃ slots, r.Puts r.empty ms slots ∧ r.finish slots = .ok a

/-- A single field is read from its member, and then its default does not matter. -/
theorem reads_field {read : Decoder α} {j : Json} {a : α} (name : String)
    (h : read (.ofJson j) = .ok a) (absent : Option α) :
    (field name read absent).Reads [(name, j)] a :=
  ⟨some a, .cons (List.mem_singleton_self name) rfl (congrArg (Except.map some) h) (.nil _), rfl⟩

/-- A field that has to be present is read from its member. -/
theorem reads_required {read : Decoder α} {j : Json} {a : α} (name : String)
    (h : read (.ofJson j) = .ok a) : (required name read).Reads [(name, j)] a :=
  reads_field name h none

/-- A field that may be absent is read from nothing, or from its member if that can
    be read. -/
theorem reads_optional_of {read : Decoder α} {write : α → Json} (name : String) (x : Option α)
    (h : ∀ a, x = some a → Decode.optional read (.ofJson (write a)) = .ok (some a)) :
    (optional name read).Reads (x.map fun a => (name, write a)).toList x := by
  cases x with
  | none => exact ⟨none, .nil _, rfl⟩
  | some a => exact reads_field name (h a rfl) (some none)

/-- A field that may be absent is read from its member, or from nothing. -/
theorem reads_optional {read : Decoder α} {write : α → Json} (name : String)
    (h : Decode.ReadsBack read write) (hnull : ∀ a, write a ≠ .null) (x : Option α) :
    (optional name read).Reads (x.map fun a => (name, write a)).toList x :=
  reads_optional_of name x fun a _ => h.optional_some hnull a

namespace Reads

variable {r : Record α} {s : Record β} {ms ns : List (String × Json)} {a : α} {b : β}

/-- The members of two descriptions in sequence are read as both. -/
theorem both (hr : r.Reads ms a) (hs : s.Reads ns b) (hnames : r.names.Disjoint s.names) :
    (r.both s).Reads (ms ++ ns) (a, b) := by
  rcases hr with ⟨x, hx, ha⟩
  rcases hs with ⟨y, hy, hb⟩
  refine ⟨(x, y), (hx.both_left s.empty).append (hy.both_right hnames x), ?_⟩
  have hfinish : (r.both s).finish (x, y) =
      r.finish x >>= fun a => s.finish y >>= fun b => pure (a, b) := rfl
  rw [hfinish, ha, hb]
  rfl

/-- What is done to a record at the end is done to what is read. -/
theorem map (h : r.Reads ms a) (f : α → β) : (r.map f).Reads ms (f a) := by
  rcases h with ⟨slots, hputs, hfinish⟩
  exact ⟨slots, hputs.map f, congrArg (Except.map f) hfinish⟩

/-- An object of the members is read as the record. -/
theorem decode (h : r.Reads ms a) (origin : Origin) (name : String) (strict : Bool) :
    r.decode origin name strict (.ofJson (.object ms)) = .ok a := by
  rcases h with ⟨slots, hputs, hfinish⟩
  rw [Fragment.ofJson, Record.decode, Record.ofMembers, hputs.putMembers_eq strict]
  simp only [bind, Except.bind, if_true, hfinish]
  rfl

/-- A list of the values of all members is read as the record. -/
theorem decodeTuple (h : r.Reads ms a) (hnames : ms.map Prod.fst = r.names) (origin : Origin)
    (name : String) :
    r.decodeTuple origin name (.ofJson (.array (ms.map Prod.snd))) = .ok a := by
  rcases h with ⟨slots, hputs, hfinish⟩
  have hitems := hputs.putItems_eq
  rw [hnames] at hitems
  have hlength : ¬ (Fragment.ofItems (ms.map Prod.snd)).length < r.names.length := by
    rw [Fragment.length_ofItems, ← hnames, List.length_map, List.length_map]
    exact Nat.lt_irrefl _
  rw [Fragment.ofJson, Record.decodeTuple]
  unfold Record.ofItems
  rw [hitems]
  simp only [bind, Except.bind, Bool.not_true, Bool.false_and, Bool.false_eq_true, if_false,
    hfinish]
  rfl

end Reads

/-! ## Refused members -/

/-- The members are refused with a fault: those up to one of them fill slots, and
    the value of this one cannot be read. -/
def Refuses (r : Record α) (ms : List (String × Json)) (fault : Fault) : Prop :=
  ∃ before name j after slots, ms = before ++ (name, j) :: after ∧
    r.Puts r.empty before slots ∧ name ∈ r.names ∧ r.isSet slots name = false ∧
      r.put slots name (.ofJson j) = .error fault

/-- A field that has to be present is refused with its value. -/
theorem refuses_required {read : Decoder α} {j : Json} {fault : Fault} (name : String)
    (h : read (.ofJson j) = .error fault) : (required name read).Refuses [(name, j)] fault :=
  ⟨[], name, j, [], none, rfl, .nil _, List.mem_singleton_self name, rfl,
    congrArg (Except.map some) h⟩

/-- A field that may be absent is refused with its value if that is not `null`. -/
theorem refuses_optional {read : Decoder α} {j : Json} {fault : Fault} (name : String)
    (h : read (.ofJson j) = .error fault) (hnull : j ≠ .null) :
    (optional name read).Refuses [(name, j)] fault := by
  refine ⟨[], name, j, [], none, rfl, .nil _, List.mem_singleton_self name, rfl, ?_⟩
  have hoptional : Decode.optional read (.ofJson j) = .error fault := by
    rw [Decode.optional, h]
    · rfl
    · rwa [Fragment.ofJson_eq_null_iff]
  exact congrArg (Except.map some) hoptional

namespace Refuses

variable {r : Record α} {s : Record β} {ms ns : List (String × Json)} {fault : Fault}

/-- What is refused by the first description is refused before the second one has
    its turn. -/
theorem both_left (h : r.Refuses ms fault) (s : Record β) (ns : List (String × Json)) :
    (r.both s).Refuses (ms ++ ns) fault := by
  rcases h with ⟨before, name, j, after, slots, rfl, hputs, hname, hfresh, hput⟩
  -- At the refusal the slots of the second description are still empty.
  refine ⟨before, name, j, after ++ ns, (slots, s.empty), by simp, hputs.both_left s.empty,
    List.mem_append_left _ hname, ?_, ?_⟩
  · rw [isSet_both_left r s hname, hfresh]
  · rw [put_both_left r s hname, hput]
    rfl

/-- What is done to a record at the end has no part in a refusal. -/
theorem map (h : r.Refuses ms fault) (f : α → β) : (r.map f).Refuses ms fault := by
  rcases h with ⟨before, name, j, after, slots, hms, hputs, hrefused⟩
  exact ⟨before, name, j, after, slots, hms, hputs.map f, hrefused⟩

/-- An object of the members is refused with the fault. -/
theorem decode (h : r.Refuses ms fault) (origin : Origin) (name : String) (strict : Bool) :
    r.decode origin name strict (.ofJson (.object ms)) = .error fault := by
  rcases h with ⟨before, key, j, after, slots, rfl, hputs, hname, hfresh, hput⟩
  have hmembers : r.putMembers strict r.empty (Fragment.ofMembers (before ++ (key, j) :: after)) =
      .error fault := by
    -- Behind the member that is refused nothing is looked at.
    rw [hputs.putMembers_append_eq strict, Fragment.ofMembers, putMembers,
      if_pos (List.contains_iff_mem.mpr hname), hfresh, hput]
    rfl
  rw [Fragment.ofJson, Record.decode, Record.ofMembers, hmembers]
  rfl

end Refuses

/-- What is refused by the second description is refused behind members of the
    first one. -/
theorem Reads.both_refuses {r : Record α} {s : Record β} {ms ns : List (String × Json)} {a : α}
    {fault : Fault} (hr : r.Reads ms a) (h : s.Refuses ns fault)
    (hnames : r.names.Disjoint s.names) : (r.both s).Refuses (ms ++ ns) fault := by
  rcases hr with ⟨x, hx, -⟩
  rcases h with ⟨before, name, j, after, slots, rfl, hputs, hname, hfresh, hput⟩
  have hother : name ∉ r.names := fun h => hnames h hname
  -- All members of the first description are in their slots by then.
  refine ⟨ms ++ before, name, j, after, (x, slots), by simp,
    (hx.both_left s.empty).append (hputs.both_right hnames x), List.mem_append_right _ hname,
    ?_, ?_⟩
  · rw [isSet_both_right r s hother, hfresh]
  · rw [put_both_right r s hother, hput]
    rfl

end Record

end LootFilter
