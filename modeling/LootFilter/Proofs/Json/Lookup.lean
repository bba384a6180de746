import LootFilter.Proofs.Json.Order

/-!
# Fields Looked Up

An object that is read as a record holds a value for each field under the name of that
field, or nothing if the field has a default. Which value ends up in which field could go
wrong in the slots: a description is put together from others, and each member is handed
to one of them. So it is shown that nothing gets mixed up on the way. Of two descriptions
in sequence each one finds what it would find in the object by itself, where the members
of the other one are skipped as members of a foreign name are. What a single field finds
is what a lookup of its name gives.

This goes from the whole to the parts, so it can be read off an object that was accepted
without any knowledge of its members, in contrast to `Record.Reads`, which puts the members
of a record together.

## Main definitions

* `Record.Finds`: A record is read from its own members among some.

## Theorems

* `Record.decode_object_eq_ok_iff`: An object is read as what is found in it.
* `Record.Finds.both`: Two descriptions find their fields apart.
* `Record.finds_field_iff`: A field finds what is looked up under its name.
-/

namespace LootFilter

/-- A value in memory does not break off. -/
theorem Fragment.isClosed_ofJson (j : Json) : (ofJson j).isClosed = true := by
  cases j with
  | null => rw [ofJson]; rfl
  | bool b => rw [ofJson]; rfl
  | number n => rw [ofJson]; rfl
  | string s => rw [ofJson]; rfl
  | array items => rw [ofJson]; rfl
  | object members => rw [ofJson]; rfl

namespace Json

/-- The first member is found by its own key. -/
theorem get?_object_cons_self (key : String) (j : Json) (rest : List (String × Json)) :
    (object ((key, j) :: rest)).get? key = some j := by
  simp [get?]

/-- Any other key is looked up behind it. -/
theorem get?_object_cons_of_ne {key other : String} (h : other ≠ key) (j : Json)
    (rest : List (String × Json)) :
    (object ((other, j) :: rest)).get? key = (object rest).get? key := by
  simp [get?, h]

end Json

namespace Record

variable {α β : Type}

/-- The record is read from its own members among some, and all others are skipped. -/
def Finds (r : Record α) (ms : List (String × Json)) (a : α) : Prop :=
  ∃ slots, r.putMembers false r.empty (Fragment.ofMembers ms) = .ok slots ∧ r.finish slots = .ok a

/-- An object is read as the record that is found in it. -/
theorem decode_object_eq_ok_iff {r : Record α} {origin : Origin} {type : String}
    {ms : List (String × Json)} {a : α} :
    r.decode origin type false (.ofJson (.object ms)) = .ok a ↔ r.Finds ms a := by
  rw [Fragment.ofJson, decode, ofMembers, bind_eq_ok_iff, Finds]
  refine exists_congr fun slots => and_congr_right fun _ => ?_
  rw [if_pos rfl]
  cases r.finish slots with
  | ok b =>
      exact ⟨fun h => congrArg _ (Except.ok.inj h), fun h => congrArg _ (Except.ok.inj h)⟩
  | error name => exact iff_of_false (by rintro ⟨⟩) (by rintro ⟨⟩)

/-! ## Sequences -/

section Both

variable {r : Record α} {s : Record β}

/-- A member that is read goes to one of the two descriptions, and the other one would
    skip it. -/
theorem putMember_of_both (hnames : r.names.Disjoint s.names) {x x' : r.Slots} {y y' : s.Slots}
    {m : Fragment × Fragment} (hclosed : m.2.isClosed = true)
    (h : (r.both s).putMember false (x, y) m = .ok (x', y')) :
    r.putMember false x m = .ok x' ∧ s.putMember false y m = .ok y' := by
  rcases putMember_eq_ok_iff.mp h with ⟨name, hkey, ⟨hname, hset, hput⟩ | ⟨hname, -, -, heq⟩⟩
  · rcases (put_both_eq_ok_iff r s).mp hput with ⟨hleft, first, hfirst, heq⟩ |
      ⟨hright, second, hsecond, heq⟩
    · cases heq
      rw [isSet_both_left r s hleft] at hset
      exact ⟨putMember_eq_ok_iff.mpr ⟨name, hkey, Or.inl ⟨hleft, hset, hfirst⟩⟩,
        putMember_eq_ok_iff.mpr
          ⟨name, hkey, Or.inr ⟨fun hmem => hnames hleft hmem, rfl, hclosed, rfl⟩⟩⟩
    · cases heq
      rw [isSet_both_right r s hright] at hset
      exact ⟨putMember_eq_ok_iff.mpr ⟨name, hkey, Or.inr ⟨hright, rfl, hclosed, rfl⟩⟩,
        putMember_eq_ok_iff.mpr
          ⟨name, hkey, Or.inl ⟨mem_names_right hname hright, hset, hsecond⟩⟩⟩
  · -- A member that neither of them has is skipped by both.
    cases heq
    rw [names_both, List.mem_append, not_or] at hname
    exact ⟨putMember_eq_ok_iff.mpr ⟨name, hkey, Or.inr ⟨hname.1, rfl, hclosed, rfl⟩⟩,
      putMember_eq_ok_iff.mpr ⟨name, hkey, Or.inr ⟨hname.2, rfl, hclosed, rfl⟩⟩⟩

/-- So all members of an object can be read by either description alone. -/
theorem putMembers_of_both (hnames : r.names.Disjoint s.names) {ms : List (String × Json)}
    {x x' : r.Slots} {y y' : s.Slots}
    (h : (r.both s).putMembers false (x, y) (Fragment.ofMembers ms) = .ok (x', y')) :
    r.putMembers false x (Fragment.ofMembers ms) = .ok x' ∧
      s.putMembers false y (Fragment.ofMembers ms) = .ok y' := by
  induction ms generalizing x y with
  | nil =>
      rw [Fragment.ofMembers] at h ⊢
      cases h
      exact ⟨rfl, rfl⟩
  | cons m rest ih =>
      rw [Fragment.ofMembers] at h ⊢
      rcases putMembers_cons_eq_ok_iff.mp h with ⟨⟨x₁, y₁⟩, hstep, hrest⟩
      rcases putMember_of_both hnames (Fragment.isClosed_ofJson m.2) hstep with ⟨hx, hy⟩
      rcases ih hrest with ⟨hxrest, hyrest⟩
      exact ⟨putMembers_cons_eq_ok_iff.mpr ⟨x₁, hx, hxrest⟩,
        putMembers_cons_eq_ok_iff.mpr ⟨y₁, hy, hyrest⟩⟩

/-- Two descriptions in sequence find their fields apart. -/
theorem Finds.both {ms : List (String × Json)} {p : α × β} (h : (r.both s).Finds ms p)
    (hnames : (r.both s).names.Nodup) : r.Finds ms p.1 ∧ s.Finds ms p.2 := by
  rcases h with ⟨⟨x, y⟩, hmembers, hfinish⟩
  rcases putMembers_of_both (List.disjoint_of_nodup_append hnames) hmembers with ⟨hx, hy⟩
  rcases (bind_eq_ok_iff _ _ _).mp hfinish with ⟨a, ha, hrest⟩
  rcases (bind_eq_ok_iff _ _ _).mp hrest with ⟨b, hb, hpair⟩
  cases hpair
  exact ⟨⟨x, hx, ha⟩, y, hy, hb⟩

end Both

/-- What is done to a record at the end is done to what was found. -/
theorem Finds.map {r : Record α} {f : α → β} {ms : List (String × Json)} {b : β}
    (h : (r.map f).Finds ms b) : ∃ a, r.Finds ms a ∧ f a = b := by
  have hsame {x y : r.Slots} {ns : List (Fragment × Fragment)}
      (hns : (r.map f).putMembers false x ns = .ok y) : r.putMembers false x ns = .ok y := by
    induction ns generalizing x with
    | nil => exact hns
    | cons n rest ih =>
        rcases putMembers_cons_eq_ok_iff.mp hns with ⟨z, hz, hrest⟩
        exact putMembers_cons_eq_ok_iff.mpr ⟨z, hz, ih hrest⟩
  rcases h with ⟨slots, hslots, hfinish⟩
  rcases (map_eq_ok_iff _ _ _).mp hfinish with ⟨a, ha, hb⟩
  exact ⟨a, ⟨slots, hsame hslots, ha⟩, hb⟩

/-! ## Single fields -/

section Field

variable {name : String} {read : Decoder α} {absent : Option α}

/-- A member of another name is skipped. -/
theorem putMember_field_of_ne {key : String} (h : key ≠ name) (slot : Option α) (j : Json) :
    (field name read absent).putMember false slot (.string (some key), .ofJson j) = .ok slot := by
  refine putMember_eq_ok_iff.mpr ⟨key, rfl, Or.inr ⟨?_, rfl, Fragment.isClosed_ofJson j, rfl⟩⟩
  exact fun hmem => h (List.mem_singleton.mp hmem)

/-- A member of the name is read if none was met before. -/
theorem putMember_field_eq_ok_iff (slot x : Option α) (j : Json) :
    (field name read absent).putMember false slot (.string (some name), .ofJson j) = .ok x ↔
      slot = none ∧ ∃ a, read (.ofJson j) = .ok a ∧ some a = x := by
  refine putMember_eq_ok_iff.trans ⟨?_, ?_⟩
  · rintro ⟨key, hkey, ⟨-, hset, hput⟩ | ⟨hother, -⟩⟩
    · exact ⟨Option.isNone_iff_eq_none.mp (Option.isSome_eq_false_iff.mp hset),
        (map_eq_ok_iff _ _ _).mp hput⟩
    · cases hkey
      exact absurd (List.mem_singleton_self name) hother
  · rintro ⟨rfl, hread⟩
    exact ⟨name, rfl, Or.inl ⟨List.mem_singleton_self name, rfl, (map_eq_ok_iff _ _ _).mpr hread⟩⟩

/-- Behind the first member of the name there is no other one. -/
theorem putMembers_field_of_some {ms : List (String × Json)} {a : α} {x : Option α}
    (h : (field name read absent).putMembers false (some a) (Fragment.ofMembers ms) = .ok x) :
    x = some a := by
  induction ms with
  | nil =>
      rw [Fragment.ofMembers] at h
      exact (Except.ok.inj h).symm
  | cons m rest ih =>
      rw [Fragment.ofMembers] at h
      rcases putMembers_cons_eq_ok_iff.mp h with ⟨y, hy, hrest⟩
      by_cases hkey : m.1 = name
      · rw [hkey] at hy
        cases ((putMember_field_eq_ok_iff _ _ _).mp hy).1
      · cases hy.symm.trans (putMember_field_of_ne hkey _ _)
        exact ih hrest

/-- The slot of a field holds what is looked up under its name. -/
theorem putMembers_field {ms : List (String × Json)} {x : Option α}
    (h : (field name read absent).putMembers false none (Fragment.ofMembers ms) = .ok x) :
    match (Json.object ms).get? name with
    | some j => ∃ a, read (.ofJson j) = .ok a ∧ x = some a
    | none => x = none := by
  induction ms with
  | nil =>
      rw [Fragment.ofMembers] at h
      exact (Except.ok.inj h).symm
  | cons m rest ih =>
      rcases m with ⟨key, j⟩
      rw [Fragment.ofMembers] at h
      rcases putMembers_cons_eq_ok_iff.mp h with ⟨y, hy, hrest⟩
      by_cases hkey : key = name
      · subst hkey
        rcases (putMember_field_eq_ok_iff _ _ _).mp hy with ⟨-, a, ha, rfl⟩
        rw [Json.get?_object_cons_self]
        exact ⟨a, ha, putMembers_field_of_some hrest⟩
      · cases hy.symm.trans (putMember_field_of_ne hkey _ _)
        rw [Json.get?_object_cons_of_ne hkey]
        exact ih hrest

/-- A field is what is read of the member under its name, or its default if there is no
    such member. -/
theorem Finds.field {ms : List (String × Json)} {a : α}
    (h : (Record.field name read absent).Finds ms a) :
    match (Json.object ms).get? name with
    | some j => read (.ofJson j) = .ok a
    | none => absent = some a := by
  rcases h with ⟨x, hx, hfinish⟩
  have hslot := putMembers_field hx
  cases hlookup : (Json.object ms).get? name with
  | none =>
      rw [hlookup] at hslot
      subst hslot
      cases absent with
      | none => cases hfinish
      | some b => exact congrArg some (Except.ok.inj hfinish)
  | some j =>
      rw [hlookup] at hslot
      rcases hslot with ⟨b, hb, rfl⟩
      rw [← Except.ok.inj hfinish]
      exact hb

end Field

end Record

end LootFilter
