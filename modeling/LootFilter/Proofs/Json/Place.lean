import LootFilter.Proofs.Json.Member

/-!
# Places in an Object

What is read of a tree depends on what is read of its parts, and on each of them in the
same way. If the tree is accepted then so is the part at any place. A part that reads
the same can be put there without any change to what is read of the tree, and a part
that is refused makes the tree be refused for the same reason, since all that stands in
front of it is accepted. `HingesOn` says this of two pairs of results, and it is carried
from place to place: over steps in front of the part and behind it, into the members of
an object and the items of a list.

One more thing can be done to an object than to change its members: another one can be
added. What comes of a member that the record does not have is up to whether the record
is strict.

## Main definitions

* `HingesOn`: The result of a whole hinges on that of a part.
* `Record.HingesAt`: The values of a field are read by a reader.

## Theorems

* `Record.HingesAt.decode_object`, `Record.HingesAt.decode_array`: A record hinges on
  the values of its fields.
* `Record.decode_undeclared`: A member is added to an object that is accepted.
* `Record.declared_of_decode`: A strict object has declared members only.
-/

namespace LootFilter

variable {α β γ : Type}

/-- The result of a whole hinges on that of a part, where both are changed at the same
    time. If the whole is accepted then the part is. The whole stays what it is if the
    part does, and it is refused for the reason for which the part is. -/
def HingesOn (whole whole' : Except Fault α) (part part' : Except Fault β) : Prop :=
  ∀ a, whole = .ok a → ∃ b, part = .ok b ∧ (part' = .ok b → whole' = .ok a) ∧
    ∀ fault, part' = .error fault → whole' = .error fault

namespace HingesOn

variable {a a' : Except Fault α} {b b' : Except Fault β} {c c' : Except Fault γ}

/-- A result hinges on itself. -/
theorem refl (a a' : Except Fault α) : HingesOn a a' a a' :=
  fun x hx => ⟨x, hx, id, fun _ => id⟩

/-- What hinges on a part hinges on the parts of that. -/
theorem trans (h : HingesOn a a' b b') (h' : HingesOn b b' c c') : HingesOn a a' c c' := by
  intro x hx
  rcases h x hx with ⟨y, hy, hkeep, hfail⟩
  rcases h' y hy with ⟨z, hz, hkeep', hfail'⟩
  exact ⟨z, hz, fun hc => hkeep (hkeep' hc), fun fault hc => hfail fault (hfail' fault hc)⟩

/-- Steps behind a part do not matter. -/
theorem bind (h : HingesOn a a' b b') (next : α → Except Fault γ) :
    HingesOn (a >>= next) (a' >>= next) b b' := by
  intro z hz
  rcases (bind_eq_ok_iff _ _ _).mp hz with ⟨x, hx, hnext⟩
  rcases h x hx with ⟨y, hy, hkeep, hfail⟩
  refine ⟨y, hy, fun hb => ?_, fun fault hb => ?_⟩
  · rw [hkeep hb]
    exact hnext
  · rw [hfail fault hb]
    rfl

/-- What is done to a result does not matter. -/
theorem map (h : HingesOn a a' b b') (f : α → γ) : HingesOn (a.map f) (a'.map f) b b' := by
  intro z hz
  rcases (map_eq_ok_iff _ _ _).mp hz with ⟨x, hx, rfl⟩
  rcases h x hx with ⟨y, hy, hkeep, hfail⟩
  refine ⟨y, hy, fun hb => ?_, fun fault hb => ?_⟩
  · rw [hkeep hb]
    rfl
  · rw [hfail fault hb]
    rfl

/-- Steps in front of a part do not matter. -/
theorem after (first : Except Fault γ) {next next' : γ → Except Fault α}
    (h : ∀ x, first = .ok x → HingesOn (next x) (next' x) b b') :
    HingesOn (first >>= next) (first >>= next') b b' := by
  cases first with
  | error fault =>
      intro a ha
      cases ha
  | ok x => exact h x rfl

end HingesOn

namespace Decode

variable {read : Decoder α}

/-- A value that may be absent hinges on the value if both are present. -/
theorem hingesOn_optional {f f' : Fragment} (hf : f ≠ .null) (hf' : f' ≠ .null) :
    HingesOn (optional read f) (optional read f') (read f) (read f') := by
  rw [optional, optional]
  · exact (HingesOn.refl _ _).map some
  · exact hf'
  · exact hf

/-- A list hinges on each of its items. -/
theorem hingesOn_items (before after : List Fragment) (f f' : Fragment) :
    HingesOn (items read (before ++ f :: after)) (items read (before ++ f' :: after)) (read f)
      (read f') := by
  induction before with
  | nil => exact (HingesOn.refl _ _).bind _
  | cons g rest ih => exact .after _ fun _ _ => ih.bind _

/-- So does what is read of it. -/
theorem hingesOn_list (before after : List Fragment) (f f' : Fragment) (closed : Bool) :
    HingesOn (list read (.array (before ++ f :: after) closed))
      (list read (.array (before ++ f' :: after) closed)) (read f) (read f') :=
  (hingesOn_items before after f f').bind _

end Decode

namespace Record

/-- The values of a field are read by a reader, once they are present. -/
def HingesAt (r : Record α) (name : String) (read : Decoder β) : Prop :=
  name ∈ r.names ∧ ∀ (slots : r.Slots) (f f' : Fragment), f ≠ .null → f' ≠ .null →
    HingesOn (r.put slots name f) (r.put slots name f') (read f) (read f')

/-- The value of a field that may be absent is read by its reader. -/
theorem hingesAt_optional (name : String) (read : Decoder β) :
    (optional name read).HingesAt name read :=
  ⟨List.mem_singleton_self name, fun _ _ _ hf hf' => (Decode.hingesOn_optional hf hf').map some⟩

namespace HingesAt

variable {r : Record α} {s : Record γ} {name : String} {read : Decoder β}

/-- The fields of the first of two descriptions. -/
theorem both_left (h : r.HingesAt name read) (s : Record γ) : (r.both s).HingesAt name read := by
  refine ⟨List.mem_append_left _ h.1, ?_⟩
  rintro ⟨x, y⟩ f f' hf hf'
  rw [put_both_left r s h.1, put_both_left r s h.1]
  exact (h.2 x f f' hf hf').map _

/-- The fields of the second one. -/
theorem both_right (h : s.HingesAt name read) (hname : name ∉ r.names) :
    (r.both s).HingesAt name read := by
  refine ⟨List.mem_append_right _ h.1, ?_⟩
  rintro ⟨x, y⟩ f f' hf hf'
  rw [put_both_right r s hname, put_both_right r s hname]
  exact (h.2 y f f' hf hf').map _

/-- What is done to a record at the end has no part in its fields. -/
theorem map (h : r.HingesAt name read) (g : α → γ) : (r.map g).HingesAt name read :=
  ⟨h.1, h.2⟩

/-- A step hinges on the value of its member. -/
theorem putMember (h : r.HingesAt name read) (strict : Bool) (slots : r.Slots) {f f' : Fragment}
    (hf : f ≠ .null) (hf' : f' ≠ .null) :
    HingesOn (r.putMember strict slots (.string (some name), f))
      (r.putMember strict slots (.string (some name), f')) (read f) (read f') := by
  have hcontains : r.names.contains name = true := List.contains_iff_mem.mpr h.1
  rw [Record.putMember, Record.putMember, if_pos hcontains, if_pos hcontains]
  by_cases hset : r.isSet slots name = true
  · -- A field that was met before is refused without a look at its value.
    rw [if_pos hset]
    intro a ha
    cases ha
  · rw [if_neg hset, if_neg hset]
    exact h.2 slots f f' hf hf'

/-- An object hinges on the values of its members. -/
theorem decode_object (h : r.HingesAt name read) (origin : Origin) (type : String) (strict : Bool)
    (before after : List (Fragment × Fragment)) {f f' : Fragment} (closed : Bool)
    (hf : f ≠ .null) (hf' : f' ≠ .null) :
    HingesOn
      (r.decode origin type strict (.object (before ++ (.string (some name), f) :: after) closed))
      (r.decode origin type strict (.object (before ++ (.string (some name), f') :: after) closed))
      (read f) (read f') := by
  rw [decode, decode, ofMembers, ofMembers, putMembers_append, putMembers_append]
  refine HingesOn.bind (.after _ fun slots _ => ?_) _
  rw [putMembers_cons, putMembers_cons]
  exact (h.putMember strict slots hf hf').bind _

/-- The values of a list hinge on each of them. -/
theorem putItems (h : r.HingesAt name read) (before after : List Fragment) {f f' : Fragment}
    (hf : f ≠ .null) (hf' : f' ≠ .null) (slots : r.Slots) (names : List String)
    (hplace : names[before.length]? = some name) :
    HingesOn (r.putItems slots names (before ++ f :: after))
      (r.putItems slots names (before ++ f' :: after)) (read f) (read f') := by
  induction before generalizing slots names with
  | nil =>
      cases names with
      | nil => cases hplace
      | cons n rest =>
          cases hplace
          exact (h.2 slots f f' hf hf').bind _
  | cons g more ih =>
      cases names with
      | nil => cases hplace
      | cons n rest => exact .after _ fun slots _ => ih slots rest hplace

/-- A list hinges on the value in the place of each field. -/
theorem decode_array (h : r.HingesAt name read) (origin : Origin) (type : String) (strict : Bool)
    (before after : List Fragment) {f f' : Fragment} (closed : Bool) (hf : f ≠ .null)
    (hf' : f' ≠ .null) (hplace : r.names[before.length]? = some name) :
    HingesOn (r.decode origin type strict (.array (before ++ f :: after) closed))
      (r.decode origin type strict (.array (before ++ f' :: after) closed)) (read f) (read f') := by
  have hlength : (before ++ f' :: after).length = (before ++ f :: after).length := by
    rw [List.length_append, List.length_append, List.length_cons, List.length_cons]
  rw [decode, decode]
  unfold ofItems
  -- What is done behind the items depends on their number, which is the same.
  rw [hlength]
  exact (h.putItems before after hf hf' r.empty r.names hplace).bind _

end HingesAt

/-! ## Undeclared members -/

variable {r : Record α} {origin : Origin} {type : String} {strict : Bool}

/-- The keys that are read without a fault are declared if the record is strict. -/
theorem declared_of_putMembers (hstrict : strict = true) {ms : List (Fragment × Fragment)}
    {x y : r.Slots} (h : r.putMembers strict x ms = .ok y) :
    ∀ m ∈ ms, ∃ name ∈ r.names, m.1 = .string (some name) := by
  induction ms generalizing x with
  | nil => exact fun m hm => absurd hm List.not_mem_nil
  | cons m rest ih =>
      rw [putMembers_cons, bind_eq_ok_iff] at h
      rcases h with ⟨z, hz, hrest⟩
      rw [List.forall_mem_cons]
      refine ⟨?_, ih hrest⟩
      rcases putMember_eq_ok_iff.mp hz with ⟨name, hkey, ⟨hname, -⟩ | ⟨-, hlax, -⟩⟩
      · exact ⟨name, hname, hkey⟩
      · rw [hstrict] at hlax
        cases hlax

/-- A strict object that is accepted has declared keys only. -/
theorem declared_of_decode (hstrict : strict = true) {ms : List (Fragment × Fragment)} {a : α}
    (h : r.decode origin type strict (.object ms true) = .ok a) :
    ∀ m ∈ ms, ∃ name ∈ r.names, m.1 = .string (some name) := by
  rw [decode, ofMembers, bind_eq_ok_iff] at h
  rcases h with ⟨slots, hslots, -⟩
  exact declared_of_putMembers hstrict hslots

/-- A member that is not declared is added to an object that is accepted. A strict record
    refuses the object for it, and any other one skips the member. -/
theorem decode_undeclared {before after : List (Fragment × Fragment)} {key : String}
    {v : Fragment} {a : α} (hkey : key ∉ r.names) (hv : v.isClosed = true)
    (h : r.decode origin type strict (.object (before ++ after) true) = .ok a) :
    r.decode origin type strict (.object (before ++ (.string (some key), v) :: after) true) =
      if strict then .error (.unknownField key r.names) else .ok a := by
  have hcontains : ¬ r.names.contains key = true := fun hmem =>
    hkey (List.contains_iff_mem.mp hmem)
  rw [decode, ofMembers, putMembers_append, bind_eq_ok_iff] at h
  rcases h with ⟨slots, hslots, hfinish⟩
  rcases (bind_eq_ok_iff _ _ _).mp hslots with ⟨x, hx, hafter⟩
  -- The members in front are read as before, so the new one is met with the same slots.
  rw [decode, ofMembers, putMembers_append, hx]
  change (r.putMembers strict x _ >>= _) = _
  rw [putMembers_cons, putMember, if_neg hcontains]
  cases strict with
  | true => rfl
  | false =>
      rw [if_neg Bool.false_ne_true, if_pos hv, if_neg Bool.false_ne_true]
      change (r.putMembers false x after >>= _) = _
      rw [hafter]
      exact hfinish

end Record

end LootFilter
