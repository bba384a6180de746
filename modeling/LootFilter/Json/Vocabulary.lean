import LootFilter.Json.Decode

/-!
# Vocabularies

A finite type whose values are written as tokens. The values are listed once
with their tokens, and that the list misses nothing and that no token stands
for two values are part of the vocabulary. A value may have other names beside
its token, which are read but never written.

## Main definitions

* `Vocabulary`: All values of a type with their tokens.
* `Vocabulary.names`: The names that are read, in the order of messages.
* `Vocabulary.decode`: The reader of a value.

## Theorems

* `Vocabulary.token_injective`: A token stands for one value.
-/

namespace LootFilter

/-- A finite type whose values are written as tokens. -/
class Vocabulary (α : Type) where
  /-- Every value, in declaration order. -/
  all : List α
  /-- What is written for a value. -/
  token : α → String
  /-- What is read as a value beside its token. -/
  aliases : α → List String := fun _ => []
  /-- The list misses no value. -/
  mem_all : ∀ a, a ∈ all
  /-- No two values in the list have the same token. -/
  token_nodup : (all.map token).Nodup

namespace Vocabulary

/-- The names that are read, each with its value: aliases first, then the
    token, value after value. -/
def names (α : Type) [Vocabulary α] : List (String × α) :=
  (all : List α).flatMap fun a => (aliases a).map (fun s => (s, a)) ++ [(token a, a)]

/-- The reader of a keyword. -/
def decode (α : Type) [Vocabulary α] (origin : Origin) : Decoder α :=
  Decode.keyword origin (names α)

/-- The token of a value as a JSON text. -/
def toJson {α : Type} [Vocabulary α] (a : α) : Json :=
  .string (token a)

/-- A token stands for one value. -/
theorem token_injective {α : Type} [Vocabulary α] {a b : α} (h : token a = token b) : a = b := by
  have hpair := token_nodup (α := α)
  rw [List.nodup_iff_pairwise_ne, List.pairwise_map, List.pairwise_iff_getElem] at hpair
  rcases List.getElem_of_mem (mem_all a) with ⟨i, hi, hai⟩
  rcases List.getElem_of_mem (mem_all b) with ⟨j, hj, hbj⟩
  rcases Nat.lt_trichotomy i j with hij | hij | hij
  · exact absurd (by rw [hai, hbj, h]) (hpair i j hi hj hij)
  · subst hij
    exact hai.symm.trans hbj
  · exact absurd (by rw [hai, hbj, h]) (hpair j i hj hi hij)

end Vocabulary

end LootFilter
