import Mathlib.Data.List.Basic

/-!
# First Failures

Whatever is done to the entries of a list one after another ends at the first
entry on which it fails. `FailsFirst` names this failure without any order of
steps, by splitting the list at the entry, and `FailsFirstAt` names the place of
the entry as well.

Two steps in sequence fail if the first one does, and otherwise as the second one
does; `bind_eq_error_iff` is what a chain of steps is taken apart by.

## Main definitions

* `FailsFirstAt`, `FailsFirst`: The first failure in a list.

## Theorems

* `failsFirst_cons_iff`: The first failure is at the head or in what follows.
* `map_eq_ok_iff`: What a step with something done to its result comes to.
* `bind_eq_ok_iff`, `bind_eq_error_iff`: What two steps in sequence come to.
-/

namespace LootFilter

section Failures

variable {α ε : Type} {β : α → Type} {f : (a : α) → Except ε (β a)}

/-- The first entry of a list that fails is at a place, with a failure. -/
def FailsFirstAt (f : (a : α) → Except ε (β a)) (l : List α) (i : Nat) (e : ε) : Prop :=
  ∃ before a after, l = before ++ a :: after ∧ before.length = i ∧
    (∀ b ∈ before, ∃ c, f b = .ok c) ∧ f a = .error e

/-- The first entry of a list that fails has a failure. -/
def FailsFirst (f : (a : α) → Except ε (β a)) (l : List α) (e : ε) : Prop :=
  ∃ i, FailsFirstAt f l i e

/-- Nothing fails in an empty list. -/
theorem not_failsFirstAt_nil (i : Nat) (e : ε) : ¬ FailsFirstAt f [] i e := by
  rintro ⟨before, a, after, hsplit, -⟩
  exact List.append_ne_nil_of_right_ne_nil before (List.cons_ne_nil a after) hsplit.symm

/-- The first failure is at the head of a list, or else the head succeeds and it
    is the first one of the rest. -/
theorem failsFirstAt_cons_iff (a : α) (l : List α) (i : Nat) (e : ε) :
    FailsFirstAt f (a :: l) i e ↔ (f a = .error e ∧ i = 0) ∨
      ∃ c j, f a = .ok c ∧ FailsFirstAt f l j e ∧ i = j + 1 := by
  constructor
  · rintro ⟨before, b, after, hsplit, hplace, hbefore, hb⟩
    cases before with
    | nil =>
        rcases List.cons.inj hsplit with ⟨rfl, -⟩
        exact Or.inl ⟨hb, hplace.symm⟩
    | cons d more =>
        rcases List.cons.inj hsplit with ⟨rfl, hrest⟩
        rcases List.forall_mem_cons.mp hbefore with ⟨⟨c, hc⟩, hmore⟩
        exact Or.inr ⟨c, more.length, hc, ⟨more, b, after, hrest, rfl, hmore, hb⟩, hplace.symm⟩
  · rintro (⟨ha, rfl⟩ | ⟨c, j, hc, ⟨before, b, after, rfl, rfl, hbefore, hb⟩, rfl⟩)
    · exact ⟨[], a, l, rfl, rfl, fun b hb => absurd hb List.not_mem_nil, ha⟩
    · exact ⟨a :: before, b, after, rfl, rfl, List.forall_mem_cons.mpr ⟨⟨c, hc⟩, hbefore⟩, hb⟩

/-- Nothing fails in an empty list. -/
theorem not_failsFirst_nil (e : ε) : ¬ FailsFirst f [] e := by
  rintro ⟨i, hi⟩
  exact not_failsFirstAt_nil i e hi

/-- The first failure is that of the head, or else the head succeeds and it is
    the first one of the rest. -/
theorem failsFirst_cons_iff (a : α) (l : List α) (e : ε) :
    FailsFirst f (a :: l) e ↔ f a = .error e ∨ (∃ c, f a = .ok c) ∧ FailsFirst f l e := by
  simp only [FailsFirst, failsFirstAt_cons_iff]
  constructor
  · rintro ⟨i, ⟨ha, -⟩ | ⟨c, j, hc, hj, -⟩⟩
    · exact Or.inl ha
    · exact Or.inr ⟨⟨c, hc⟩, j, hj⟩
  · rintro (ha | ⟨⟨c, hc⟩, j, hj⟩)
    · exact ⟨0, Or.inl ⟨ha, rfl⟩⟩
    · exact ⟨j + 1, Or.inr ⟨c, j, hc, hj, rfl⟩⟩

/-- A step gives the image of a result if it gives the result. -/
theorem map_eq_ok_iff {β γ : Type} (x : Except ε β) (g : β → γ) (c : γ) :
    x.map g = .ok c ↔ ∃ b, x = .ok b ∧ g b = c := by
  cases x with
  | error d =>
      constructor
      · intro h
        cases h
      · rintro ⟨b, hb, -⟩
        cases hb
  | ok b =>
      constructor
      · intro h
        cases h
        exact ⟨b, rfl, rfl⟩
      · rintro ⟨b, ⟨rfl⟩, rfl⟩
        rfl

/-- Two steps give a result if both of them do. -/
theorem bind_eq_ok_iff {β γ : Type} (x : Except ε β) (g : β → Except ε γ) (c : γ) :
    (x >>= g) = .ok c ↔ ∃ b, x = .ok b ∧ g b = .ok c := by
  cases x with
  | error d =>
      constructor
      · intro h
        cases h
      · rintro ⟨b, hb, -⟩
        cases hb
  | ok b =>
      constructor
      · exact fun h => ⟨b, rfl, h⟩
      · rintro ⟨b, ⟨rfl⟩, h⟩
        exact h

/-- Two steps fail if the first one does, or the second one after it. -/
theorem bind_eq_error_iff {β γ : Type} (x : Except ε β) (g : β → Except ε γ) (e : ε) :
    (x >>= g) = .error e ↔ x = .error e ∨ ∃ b, x = .ok b ∧ g b = .error e := by
  cases x with
  | error d =>
      constructor
      · intro h
        cases h
        exact Or.inl rfl
      · rintro (h | ⟨b, hb, -⟩)
        · cases h
          rfl
        · cases hb
  | ok b =>
      constructor
      · exact fun h => Or.inr ⟨b, rfl, h⟩
      · rintro (h | ⟨b, ⟨rfl⟩, h⟩)
        · cases h
        · exact h

end Failures

end LootFilter
