import LootFilter.Proofs.Json.Record
import LootFilter.Proofs.Source.Failure
import Mathlib.Tactic.SplitIfs

/-!
# Single Members

The members of an object are read one after another, and what is done to one of them
depends on those ahead of it through the slots only. So the reading of an object is
taken apart into steps, one per member, and a list of members can be cut anywhere.

A step that succeeds is one of two things. Either it decodes a value into a slot that
had none, or it skips a member that the record does not have, which leaves all slots as
they were.

## Main definitions

* `Record.putMember`: What is done to one member.

## Theorems

* `Record.putMembers_append`: The members behind others.
* `Record.putMembers_cons_eq_ok_iff`: Members are read one after another.
* `Record.putMember_eq_ok_iff`: What a step that succeeds does.
-/

namespace LootFilter

namespace Record

variable {α : Type} (r : Record α) (strict : Bool)

/-- Reads one member of an object into the slots. -/
def putMember (slots : r.Slots) : Fragment × Fragment → Except Fault r.Slots
  | (.string (some name), f) =>
    if r.names.contains name then
      if r.isSet slots name then .error (.duplicateField name) else r.put slots name f
    else if strict then .error (.unknownField name r.names)
    else if f.isClosed then .ok slots
    else .error .invalidJson
  | _ => .error .invalidJson

/-- A member whose key is no text is not read. -/
theorem putMember_of_not_text {key f : Fragment} (h : ∀ name, key ≠ .string (some name))
    (slots : r.Slots) : r.putMember strict slots (key, f) = .error .invalidJson := by
  rw [putMember]
  intro name g heq
  exact h name (congrArg Prod.fst heq)

/-- The members behind the first one are read when that one is. -/
theorem putMembers_cons (slots : r.Slots) (m : Fragment × Fragment)
    (rest : List (Fragment × Fragment)) : r.putMembers strict slots (m :: rest) =
      r.putMember strict slots m >>= fun slots => r.putMembers strict slots rest := by
  rcases m with ⟨key, f⟩
  by_cases hkey : ∃ name, key = .string (some name)
  · rcases hkey with ⟨name, rfl⟩
    rw [putMembers, putMember]
    split_ifs with hknown hset hstrict hclosed
    · rfl
    · rfl
    · rfl
    · rfl
    · rfl
  · have htext : ∀ name, key ≠ .string (some name) := fun name h => hkey ⟨name, h⟩
    rw [putMember_of_not_text r strict htext, putMembers]
    · rfl
    · intro name g heq
      exact htext name (congrArg Prod.fst heq)

/-- The members behind some others are read when those are. -/
theorem putMembers_append (slots : r.Slots) (ms ns : List (Fragment × Fragment)) :
    r.putMembers strict slots (ms ++ ns) =
      r.putMembers strict slots ms >>= fun slots => r.putMembers strict slots ns := by
  induction ms generalizing slots with
  | nil => rfl
  | cons m rest ih =>
      rw [List.cons_append, putMembers_cons, putMembers_cons, bind_assoc]
      exact congrArg (r.putMember strict slots m >>= ·) (funext ih)

variable {r strict}

/-- The members of an object are read if the first one is and then those behind it. -/
theorem putMembers_cons_eq_ok_iff {x z : r.Slots} {m : Fragment × Fragment}
    {rest : List (Fragment × Fragment)} : r.putMembers strict x (m :: rest) = .ok z ↔
      ∃ y, r.putMember strict x m = .ok y ∧ r.putMembers strict y rest = .ok z := by
  rw [putMembers_cons, bind_eq_ok_iff]

/-- A step that succeeds decodes the value of a field that had none, or it skips a
    member that the record does not have. -/
theorem putMember_eq_ok_iff {x y : r.Slots} {m : Fragment × Fragment} :
    r.putMember strict x m = .ok y ↔ ∃ name, m.1 = .string (some name) ∧
      (name ∈ r.names ∧ r.isSet x name = false ∧ r.put x name m.2 = .ok y ∨
        name ∉ r.names ∧ strict = false ∧ m.2.isClosed = true ∧ y = x) := by
  rcases m with ⟨key, f⟩
  constructor
  · intro h
    by_cases hkey : ∃ name, key = .string (some name)
    · rcases hkey with ⟨name, rfl⟩
      rw [putMember] at h
      refine ⟨name, rfl, ?_⟩
      split_ifs at h with hknown hset hstrict hclosed
      · exact Or.inl ⟨List.contains_iff_mem.mp hknown, Bool.eq_false_iff.mpr hset, h⟩
      · have hunknown : name ∉ r.names := fun hmem => hknown (List.contains_iff_mem.mpr hmem)
        exact Or.inr ⟨hunknown, Bool.eq_false_iff.mpr hstrict, hclosed, (Except.ok.inj h).symm⟩
    · have htext : ∀ name, key ≠ .string (some name) := fun name h => hkey ⟨name, h⟩
      rw [putMember_of_not_text r strict htext] at h
      cases h
  · rintro ⟨name, rfl, ⟨hknown, hset, hput⟩ | ⟨hunknown, hstrict, hclosed, rfl⟩⟩
    · have hcontains : r.names.contains name = true := List.contains_iff_mem.mpr hknown
      rwa [putMember, if_pos hcontains, hset]
    · have hcontains : ¬ r.names.contains name = true := fun h =>
        hunknown (List.contains_iff_mem.mp h)
      rw [putMember, if_neg hcontains, hstrict, if_neg Bool.false_ne_true, if_pos hclosed]

end Record

end LootFilter
