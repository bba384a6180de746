import LootFilter.Proofs.Filter.Validation
import LootFilter.Proofs.Text.Separated

/-!
# Rules One Behind the Other

Two lists of rules can be compiled and validated apart and put together
afterwards. All that the second list has to know of the first one is how long it
is, since a refusal gives the position of its rule, and that position counts the
rules in front.

The position of a rule enters its refusals and nothing else. So it is enough to
see what another position does to a single refusal (`refusal?_raise`), and from
there on the recursions over fields and over rules carry it along. The texts of
the two lists are joined as blocks are. The one case that does not fit is a list
without rules: its document is the empty text, and no blank line stands between
that and the other document.

Compiling both lists at once is then one equation, `compile_append`. It says in
which order the outcomes of the two are looked at, and every case of it can be
read off.

## Main definitions

* `MalformedValue.atRule`: A refusal at another position.
* `MalformedValue.raise`: A refusal with more rules in front of its own.
* `Document.joined`: Two documents as one.

## Theorems

* `Rule.block_atRule`: What a position means to a block.
* `Document.malformedFrom_append`, `Document.validate_append`: The refusals of two
  lists.
* `Document.text_append`: The text of two lists.
* `Document.compile_append`: The document of two lists, or the first refusal.
* `Document.compile_and_validate_append`: The cases of it, and the report.
-/

namespace LootFilter

namespace MalformedValue

/-- The refusal as it is if its rule stands at another position. -/
def atRule (index : Nat) (e : MalformedValue) : MalformedValue :=
  ⟨index, e.field, e.reason⟩

/-- The refusal as it is if so many more rules stand in front of its own. -/
def raise (count : Nat) (e : MalformedValue) : MalformedValue :=
  e.atRule (count + e.rule)

end MalformedValue

/-- What is done to a refusal is done to the first one of a list, which is the one
    that counts. -/
theorem guarded_mapError {α : Type} (f : MalformedValue → MalformedValue)
    (refused : List MalformedValue) (a : α) :
    (guarded refused a).mapError f = guarded (refused.map f) a := by
  cases refused with
  | nil => rfl
  | cons e rest => rfl

namespace Rule

/-- The refusal of a field at one position is that at another one, moved there. -/
theorem refusal?_atRule (i j : Nat) (p : FieldSpec × FieldValue) :
    refusal? j p = (refusal? i p).map (MalformedValue.atRule j) := by
  unfold refusal?
  cases p.1.check p.2 with
  | error reason => rfl
  | ok u => rfl

/-- Further down in a list its position is raised by as much. -/
theorem refusal?_raise (count i : Nat) (p : FieldSpec × FieldValue) :
    refusal? (count + i) p = (refusal? i p).map (MalformedValue.raise count) := by
  unfold refusal?
  cases p.1.check p.2 with
  | error reason => rfl
  | ok u => rfl

/-- The refusals of a rule at one position are those at another one, moved
    there. -/
theorem malformed_atRule (r : Rule) (i j : Nat) :
    r.malformed j = (r.malformed i).map (MalformedValue.atRule j) := by
  rw [malformed_eq, malformed_eq, List.map_filterMap]
  exact List.filterMap_congr fun p _ => refusal?_atRule i j p

/-- Further down in a list their positions are raised by as much. -/
theorem malformed_raise (r : Rule) (count i : Nat) :
    r.malformed (count + i) = (r.malformed i).map (MalformedValue.raise count) := by
  rw [malformed_eq, malformed_eq, List.map_filterMap]
  exact List.filterMap_congr fun p _ => refusal?_raise count i p

/-- The block of a rule is the same at every position. If it has none then the
    refusal says where the rule stands and is otherwise the same. -/
theorem block_atRule (r : Rule) (i j : Nat) :
    r.block j = (r.block i).mapError (MalformedValue.atRule j) := by
  rw [block_eq, block_eq, guarded_mapError, ← malformed_atRule]

end Rule

namespace Document

/-- The refusals of two lists of rules: those of the first list, and those of the
    second one at the positions behind it. -/
theorem malformedFrom_append (start : Nat) (xs ys : List Rule) :
    malformedFrom start (xs ++ ys) =
      malformedFrom start xs ++ malformedFrom (start + xs.length) ys := by
  induction xs generalizing start with
  | nil => rfl
  | cons r rest ih =>
      have hstart : start + 1 + rest.length = start + (rest.length + 1) := by omega
      rw [List.cons_append, malformedFrom, ih, malformedFrom, List.append_assoc, List.length_cons,
        hstart]

/-- The refusals of a list that starts further down are those of the list with
    their positions raised. -/
theorem malformedFrom_raise (count start : Nat) (rules : List Rule) :
    malformedFrom (count + start) rules =
      (malformedFrom start rules).map (MalformedValue.raise count) := by
  induction rules generalizing start with
  | nil => rfl
  | cons r rest ih =>
      rw [malformedFrom, malformedFrom, List.map_append, Rule.malformed_raise, Nat.add_assoc, ih]

/-- The report of two lists of rules: that of the first list, and that of the
    second one with its positions raised. -/
theorem validate_append (xs ys : List Rule) : validate (xs ++ ys) =
    validate xs ++ (validate ys).map (MalformedValue.raise xs.length) := by
  rw [validate, validate, validate, malformedFrom_append, ← malformedFrom_raise, Nat.zero_add,
    Nat.add_zero]

/-- The documents of two lists of rules as one. A list without rules has no part
    in it. -/
def joined (xs ys : List Rule) (d d' : String) : String :=
  if xs.isEmpty then d'
  else if ys.isEmpty then d
  else d ++ "\n\n" ++ d'

/-- The text of two lists of rules. -/
theorem text_append (xs ys : List Rule) : text (xs ++ ys) = joined xs ys (text xs) (text ys) := by
  unfold joined
  by_cases hxs : xs = []
  · subst hxs
    rfl
  · rw [if_neg (by simpa using hxs)]
    by_cases hys : ys = []
    · subst hys
      rw [List.append_nil]
      rfl
    · -- With rules on both sides the blocks are joined at the seam as anywhere else.
      rw [if_neg (by simpa using hys)]
      apply String.toList_injective
      unfold text
      simp only [String.toList_append, String.toList_intercalate, List.map_append]
      exact Text.intercalate_append _ _ _ (by simpa using hxs) (by simpa using hys)

/-- Compiling two lists of rules at once is compiling the first one and then the
    second one. The first refusal is the outcome, with its position raised if it
    comes from the second list. -/
theorem compile_append (xs ys : List Rule) : compile (xs ++ ys) =
    compile xs >>= fun d =>
      (compile ys).mapError (MalformedValue.raise xs.length) >>= fun d' =>
        pure (joined xs ys d d') := by
  rw [compile_eq, compile_eq, compile_eq, validate_append, text_append, guarded_mapError]
  symm
  apply guarded_bind
  exact guarded_bind_pure _ _ fun d' => joined xs ys (text xs) d'

/-- Compiling and validating two lists of rules, one behind the other. If the first
    list fails then both do, in the same way. If only the second one fails then
    both fail with the same field and reason, and at the position behind the first
    list. If neither fails then the documents are joined. The reports are put
    together in the same way, and the text of a rule is that of every other
    position. -/
theorem compile_and_validate_append (xs ys : List Rule) :
    (∀ e, compile xs = .error e → compile (xs ++ ys) = .error e) ∧
    (∀ d e, compile xs = .ok d → compile ys = .error e →
      compile (xs ++ ys) = .error ⟨xs.length + e.rule, e.field, e.reason⟩) ∧
    (∀ d d', compile xs = .ok d → compile ys = .ok d' →
      compile (xs ++ ys) = .ok (joined xs ys d d')) ∧
    validate (xs ++ ys) =
      validate xs ++ (validate ys).map (fun e => ⟨xs.length + e.rule, e.field, e.reason⟩) ∧
    ∀ (r : Rule) (i j : Nat), r.block j = (r.block i).mapError fun e => ⟨j, e.field, e.reason⟩ := by
  rw [compile_append]
  refine ⟨fun e he => ?_, fun d e hd he => ?_, fun d d' hd hd' => ?_, validate_append xs ys,
    fun r i j => r.block_atRule i j⟩
  · rw [he]
    rfl
  · rw [hd, he]
    rfl
  · rw [hd, hd']
    rfl

/-- A rule behind which two more stand, of which the last one is refused, and the
    same without that one. -/
theorem compile_and_validate_append_hide :
    compile [.ofBlockType .hides] = .ok "Hide" ∧
      compile [.ofBlockType .shows] = .ok "Show" ∧
      compile ([.ofBlockType .hides] ++ [.ofBlockType .shows]) = .ok "Hide\n\nShow" ∧
      compile [.ofBlockType .shows, ⟨.shows, some (Settings.empty.set .hasEnchantment ""), none⟩] =
        .error ⟨1, "HasEnchantment", .emptyText⟩ ∧
      compile ([.ofBlockType .hides] ++
        [.ofBlockType .shows, ⟨.shows, some (Settings.empty.set .hasEnchantment ""), none⟩]) =
          .error ⟨2, "HasEnchantment", .emptyText⟩ := by
  have hfirst : compile [.ofBlockType .hides] = .ok "Hide" := by rfl
  have hshow : compile [.ofBlockType .shows] = .ok "Show" := by rfl
  have hrefused : compile
      [.ofBlockType .shows, ⟨.shows, some (Settings.empty.set .hasEnchantment ""), none⟩] =
        .error ⟨1, "HasEnchantment", .emptyText⟩ := by rfl
  exact ⟨hfirst, hshow, (compile_and_validate_append _ _).2.2.1 _ _ hfirst hshow, hrefused,
    (compile_and_validate_append _ _).2.1 _ _ hfirst hrefused⟩

end Document

end LootFilter
