import LootFilter.Proofs.Json.Prefix
import LootFilter.Proofs.Json.Written

/-!
# The Grammar of JSON Texts

The reader works from left to right and with a bound, so it says little about how a text
is made of the texts of its parts. `Fragment.Spells` says this and nothing else: a value is
spelled by a word, a token, or a pair of brackets around items or members, with white space
around any of these. The tokens are those of the reader. What is denied here is everything
that may go wrong: what is spelled has no break, so all that is left of defects are tokens
without a value.

A text spells a tree if and only if the reader gives this tree and is through with the text
then. In one direction the induction is on the way in which the text is made. It carries a
rest behind the text, of which a value asks only that it does not continue a number, and the
white space that the reader leaves in front of the rest. In the other direction it is on the
bound, and each step adds the white space that it skipped to the text of its part.

So whoever moves the texts of members around within their object can say what the reader
makes of it without a look at the reader.

## Main definitions

* `Fragment.Phrase`: A value, or the items or members between two brackets.
* `Fragment.Spells`: A text of a phrase.
* `Fragment.Phrase.IsRead`: What the reader does in front of any rest.
* `Fragment.IsSpelled`: What is read within a bound is spelled.

## Theorems

* `Fragment.Spells.isRead`: What a text spells is read.
* `Fragment.isSpelled`: What is read is spelled by the text in front of the rest.
* `Fragment.ofText_eq_iff_spells`: Both, for whole texts.
-/

namespace LootFilter

namespace Fragment

/-! ## White space -/

/-- The text is made of white space. -/
def IsSpace (cs : List Char) : Prop :=
  ∀ c ∈ cs, isSpace c = true

/-- White space in front of a text is skipped. -/
theorem skipSpace_append {space : List Char} (h : IsSpace space) (cs : List Char) :
    skipSpace (space ++ cs) = skipSpace cs :=
  List.dropWhile_append_of_pos h

/-- A text is white space and what is left when that is skipped. -/
theorem exists_space_append (cs : List Char) :
    ∃ space, IsSpace space ∧ cs = space ++ skipSpace cs :=
  ⟨cs.takeWhile isSpace, List.all_eq_true.mp List.all_takeWhile,
    List.takeWhile_append_dropWhile.symm⟩

/-- White space is skipped at once. -/
theorem skipSpace_skipSpace (cs : List Char) : skipSpace (skipSpace cs) = skipSpace cs := by
  rcases exists_space_append cs with ⟨space, hspace, hcs⟩
  exact (skipSpace_append hspace _).symm.trans (congrArg skipSpace hcs.symm)

/-- What is behind a text has no part in how it starts. -/
theorem skipSpace_append_of_eq_cons {cs more : List Char} {c : Char}
    (h : skipSpace cs = c :: more) (rest : List Char) :
    skipSpace (cs ++ rest) = c :: (more ++ rest) := by
  rcases exists_space_append cs with ⟨space, hspace, hcs⟩
  have hc : isSpace c = false := by
    have hstop := List.head?_dropWhile_not isSpace cs
    rw [skipSpace] at h
    rw [h] at hstop
    exact hstop
  rw [hcs, h, List.append_assoc, skipSpace_append hspace, List.cons_append, skipSpace_cons hc]

/-- White space does not continue a number. -/
theorem endsNumber_append {space rest : List Char} (hspace : IsSpace space)
    (hrest : EndsNumber rest) : EndsNumber (space ++ rest) := by
  cases space with
  | nil => exact hrest
  | cons c more =>
      intro d hd
      cases hd
      have hc := hspace c List.mem_cons_self
      simp only [isSpace, Bool.or_eq_true, beq_iff_eq] at hc
      rcases hc with ((rfl | rfl) | rfl) | rfl
      all_goals decide

/-- A value is read from where the white space in front of it ends. -/
theorem value_eq_of_skipSpace_eq {cs ds : List Char} (h : skipSpace cs = skipSpace ds)
    (fuel : Nat) : value fuel cs = value fuel ds := by
  cases fuel with
  | zero => rfl
  | succ fuel => rw [value, value, h]

/-- So are the items of an array. -/
theorem items_skipSpace (fuel : Nat) (cs : List Char) :
    items fuel (skipSpace cs) = items fuel cs := by
  cases fuel with
  | zero => rfl
  | succ fuel =>
      rw [items, items, value_eq_of_skipSpace_eq (skipSpace_skipSpace cs)]

/-- So are the members of an object. -/
theorem members_skipSpace (fuel : Nat) (cs : List Char) :
    members fuel (skipSpace cs) = members fuel cs := by
  cases fuel with
  | zero => rfl
  | succ fuel =>
      rw [members, members, value_eq_of_skipSpace_eq (skipSpace_skipSpace cs)]

/-! ## Texts of phrases -/

/-- What a text can spell: a value, or what is between the brackets of an array or the
    braces of an object. -/
inductive Phrase where
  | value (f : Fragment)
  | items (fs : List Fragment)
  | members (ms : List (Fragment × Fragment))

/-- The text spells the phrase. -/
inductive Spells : List Char → Phrase → Prop where
  | null : Spells ['n', 'u', 'l', 'l'] (.value .null)
  | yes : Spells ['t', 'r', 'u', 'e'] (.value (.bool true))
  | no : Spells ['f', 'a', 'l', 's', 'e'] (.value (.bool false))
  | number {cs : List Char} {t : NumberToken} (token : NumberToken.split? cs = some (t, [])) :
      Spells cs (.value (.number t.value?))
  | string {cs : List Char} {pieces : List StringPiece}
      (token : splitString? cs = some (pieces, [])) :
      Spells ('"' :: cs) (.value (.string ((StringPiece.join? pieces).map String.ofList)))
  | emptyArray {space : List Char} (blank : IsSpace space) :
      Spells ('[' :: (space ++ [']'])) (.value (.array [] true))
  | array {cs : List Char} {fs : List Fragment} (items : Spells cs (.items fs)) :
      Spells ('[' :: (cs ++ [']'])) (.value (.array fs true))
  | emptyObject {space : List Char} (blank : IsSpace space) :
      Spells ('{' :: (space ++ ['}'])) (.value (.object [] true))
  | object {cs : List Char} {ms : List (Fragment × Fragment)} (members : Spells cs (.members ms)) :
      Spells ('{' :: (cs ++ ['}'])) (.value (.object ms true))
  /-- White space around a value. -/
  | around {cs before after : List Char} {f : Fragment} (front : IsSpace before)
      (back : IsSpace after) (value : Spells cs (.value f)) :
      Spells (before ++ (cs ++ after)) (.value f)
  | item {cs : List Char} {f : Fragment} (value : Spells cs (.value f)) : Spells cs (.items [f])
  | moreItems {cs more : List Char} {f : Fragment} {fs : List Fragment}
      (value : Spells cs (.value f)) (rest : Spells more (.items fs)) :
      Spells (cs ++ ',' :: more) (.items (f :: fs))
  | member {key cs : List Char} {s : Option String} {f : Fragment}
      (name : Spells key (.value (.string s))) (value : Spells cs (.value f)) :
      Spells (key ++ ':' :: cs) (.members [(.string s, f)])
  | moreMembers {key cs more : List Char} {s : Option String} {f : Fragment}
      {ms : List (Fragment × Fragment)} (name : Spells key (.value (.string s)))
      (value : Spells cs (.value f)) (rest : Spells more (.members ms)) :
      Spells (key ++ ':' :: (cs ++ ',' :: more)) (.members ((.string s, f) :: ms))

/-- A text of a phrase does not start with a closing bracket or brace. -/
theorem Spells.exists_skipSpace_eq_cons {cs : List Char} {p : Phrase} (h : Spells cs p) :
    ∃ c more, skipSpace cs = c :: more ∧ c ≠ ']' ∧ c ≠ '}' := by
  induction h with
  | null => exact ⟨'n', _, rfl, by decide, by decide⟩
  | yes => exact ⟨'t', _, rfl, by decide, by decide⟩
  | no => exact ⟨'f', _, rfl, by decide, by decide⟩
  | number token =>
      rcases NumberToken.split?_append token with ⟨c, more, hcs, hc, -⟩
      refine ⟨c, more ++ [], hcs ▸ skipSpace_cons (isSpace_eq_false hc) _, ?_, ?_⟩
      · rintro rfl
        exact absurd hc (by decide)
      · rintro rfl
        exact absurd hc (by decide)
  | string token => exact ⟨'"', _, rfl, by decide, by decide⟩
  | emptyArray blank => exact ⟨'[', _, rfl, by decide, by decide⟩
  | array items ih => exact ⟨'[', _, rfl, by decide, by decide⟩
  | emptyObject blank => exact ⟨'{', _, rfl, by decide, by decide⟩
  | object members ih => exact ⟨'{', _, rfl, by decide, by decide⟩
  | around front back value ih =>
      rcases ih with ⟨c, more, hcs, hc⟩
      exact ⟨c, _, by rw [skipSpace_append front, skipSpace_append_of_eq_cons hcs], hc⟩
  | item value ih => exact ih
  | moreItems value rest ih _ =>
      rcases ih with ⟨c, more, hcs, hc⟩
      exact ⟨c, _, skipSpace_append_of_eq_cons hcs _, hc⟩
  | member name value ih _ =>
      rcases ih with ⟨c, more, hcs, hc⟩
      exact ⟨c, _, skipSpace_append_of_eq_cons hcs _, hc⟩
  | moreMembers name value rest ih _ _ =>
      rcases ih with ⟨c, more, hcs, hc⟩
      exact ⟨c, _, skipSpace_append_of_eq_cons hcs _, hc⟩

/-! ## What is spelled is read -/

/-- What the reader does with a text in front of any rest, as long as its bound allows. It
    leaves white space behind a value, and the rest. -/
def Phrase.IsRead (cs : List Char) : Phrase → Prop
  | .value f => ∀ fuel rest, cs.length < fuel → EndsNumber rest →
      ∃ space, IsSpace space ∧ Fragment.value fuel (cs ++ rest) = (f, some (space ++ rest))
  | .items fs => ∀ fuel rest, cs.length + 1 < fuel →
      Fragment.items fuel (cs ++ ']' :: rest) = ((fs, true), some rest)
  | .members ms => ∀ fuel rest, cs.length + 1 < fuel →
      Fragment.members fuel (cs ++ '}' :: rest) = ((ms, true), some rest)

/-- Behind the white space that a value leaves, the rest is met. -/
theorem skipSpace_append_cons {space : List Char} (h : IsSpace space) {c : Char}
    (hc : isSpace c = false) (rest : List Char) : skipSpace (space ++ c :: rest) = c :: rest :=
  (skipSpace_append h _).trans (skipSpace_cons hc rest)

/-- A text that ends with its last character leaves the rest as it is. -/
theorem Phrase.isRead_value {cs : List Char} {f : Fragment}
    (h : ∀ fuel rest, cs.length ≤ fuel → EndsNumber rest →
      Fragment.value (fuel + 1) (cs ++ rest) = (f, some rest)) : (Phrase.value f).IsRead cs := by
  intro fuel rest hfuel hrest
  rcases Nat.exists_eq_add_one_of_ne_zero (Nat.ne_zero_of_lt hfuel) with ⟨fuel, rfl⟩
  exact ⟨[], List.forall_mem_nil _, h fuel rest (Nat.le_of_lt_succ hfuel) hrest⟩

/-- A bracket behind white space closes an array without items. -/
theorem value_emptyArray (fuel : Nat) {space : List Char} (h : IsSpace space) (rest : List Char) :
    value (fuel + 1) ('[' :: (space ++ ']' :: rest)) = (.array [] true, some rest) := by
  rw [value, skipSpace_cons (by decide)]
  simp only [skipSpace_append_cons h (show isSpace ']' = false by decide)]

/-- A brace behind white space closes an object without members. -/
theorem value_emptyObject (fuel : Nat) {space : List Char} (h : IsSpace space) (rest : List Char) :
    value (fuel + 1) ('{' :: (space ++ '}' :: rest)) = (.object [] true, some rest) := by
  rw [value, skipSpace_cons (by decide)]
  simp only [skipSpace_append_cons h (show isSpace '}' = false by decide)]

/-- What a text spells is read, whatever stands behind the text. -/
theorem Spells.isRead {cs : List Char} {p : Phrase} (h : Spells cs p) : p.IsRead cs := by
  -- The induction is on the grammar. A part is shorter than the whole by what separates
  -- the parts, so what is left of the bound at each step is enough for it.
  induction h with
  | null => exact Phrase.isRead_value fun fuel rest _ _ => rfl
  | yes => exact Phrase.isRead_value fun fuel rest _ _ => rfl
  | no => exact Phrase.isRead_value fun fuel rest _ _ => rfl
  | number token =>
      rcases NumberToken.split?_append token with ⟨c, more, hcs, hc, hall⟩
      rw [List.append_nil] at hcs
      refine Phrase.isRead_value fun fuel rest _ hrest => ?_
      rw [hcs, List.cons_append, value_number fuel hc, ← List.cons_append, numberValue,
        hall rest (Or.inr hrest)]
  | string token =>
      rcases exists_splitString?_append token with ⟨cs, hcs, hall⟩
      rw [List.append_nil] at hcs
      refine Phrase.isRead_value fun fuel rest _ _ => ?_
      rw [hcs, List.cons_append, value_string, stringValue, hall rest]
  | emptyArray blank =>
      refine Phrase.isRead_value fun fuel rest _ _ => ?_
      rw [List.cons_append, List.append_assoc]
      exact value_emptyArray fuel blank rest
  | array items ih =>
      refine Phrase.isRead_value fun fuel rest hfuel _ => ?_
      rw [List.length_cons, List.length_append, List.length_singleton] at hfuel
      -- What comes behind the bracket does not close it, so the reader goes on to the items.
      rcases items.exists_skipSpace_eq_cons with ⟨c, more, hcs, hc, -⟩
      have hstart := skipSpace_append_of_eq_cons hcs (']' :: rest)
      have hitems := ih fuel rest hfuel
      rw [← items_skipSpace, hstart] at hitems
      rw [List.cons_append, List.append_assoc, List.singleton_append, value_array fuel hstart hc,
        hitems]
  | emptyObject blank =>
      refine Phrase.isRead_value fun fuel rest _ _ => ?_
      rw [List.cons_append, List.append_assoc]
      exact value_emptyObject fuel blank rest
  | object members ih =>
      refine Phrase.isRead_value fun fuel rest hfuel _ => ?_
      rw [List.length_cons, List.length_append, List.length_singleton] at hfuel
      rcases members.exists_skipSpace_eq_cons with ⟨c, more, hcs, -, hc⟩
      have hstart := skipSpace_append_of_eq_cons hcs ('}' :: rest)
      have hmembers := ih fuel rest hfuel
      rw [← members_skipSpace, hstart] at hmembers
      rw [List.cons_append, List.append_assoc, List.singleton_append,
        value_object fuel hstart hc, hmembers]
  | @around cs before after f front back value ih =>
      intro fuel rest hfuel hrest
      -- White space in front is skipped, and white space behind is left with the rest.
      rw [List.length_append, List.length_append] at hfuel
      rcases ih fuel (after ++ rest) (by omega) (endsNumber_append back hrest)
        with ⟨space, hspace, hvalue⟩
      refine ⟨space ++ after, List.forall_mem_append.mpr ⟨hspace, back⟩, ?_⟩
      have hskip : skipSpace (before ++ (cs ++ after) ++ rest) =
          skipSpace (cs ++ (after ++ rest)) := by
        rw [List.append_assoc, skipSpace_append front, List.append_assoc]
      rw [value_eq_of_skipSpace_eq hskip, hvalue, List.append_assoc]
  | @item cs f value ih =>
      intro fuel rest hfuel
      rcases Nat.exists_eq_add_one_of_ne_zero (Nat.ne_zero_of_lt hfuel) with ⟨fuel, rfl⟩
      rcases ih fuel (']' :: rest) (by omega) (endsNumber_cons (by decide) rest)
        with ⟨space, hspace, hvalue⟩
      exact items_last hvalue (skipSpace_append_cons hspace (by decide) rest)
  | @moreItems cs more f fs value rest ih ihrest =>
      intro fuel rest hfuel
      rw [List.length_append, List.length_cons] at hfuel
      rcases Nat.exists_eq_add_one_of_ne_zero (Nat.ne_zero_of_lt hfuel) with ⟨fuel, rfl⟩
      rw [List.append_assoc, List.cons_append]
      rcases ih fuel (',' :: (more ++ ']' :: rest)) (by omega) (endsNumber_cons (by decide) _)
        with ⟨space, hspace, hvalue⟩
      exact items_more hvalue (skipSpace_append_cons hspace (by decide) _)
        (ihrest fuel rest (by omega))
  | @member key cs s f name value ihname ih =>
      intro fuel rest hfuel
      rw [List.length_append, List.length_cons] at hfuel
      rcases Nat.exists_eq_add_one_of_ne_zero (Nat.ne_zero_of_lt hfuel) with ⟨fuel, rfl⟩
      rw [List.append_assoc, List.cons_append]
      rcases ihname fuel (':' :: (cs ++ '}' :: rest)) (by omega) (endsNumber_cons (by decide) _)
        with ⟨space, hspace, hname⟩
      rcases ih fuel ('}' :: rest) (by omega) (endsNumber_cons (by decide) _)
        with ⟨space', hspace', hvalue⟩
      exact members_last hname (skipSpace_append_cons hspace (by decide) _) hvalue
        (skipSpace_append_cons hspace' (by decide) rest)
  | @moreMembers key cs more s f ms name value rest ihname ih ihrest =>
      intro fuel rest hfuel
      rw [List.length_append, List.length_cons, List.length_append, List.length_cons] at hfuel
      rcases Nat.exists_eq_add_one_of_ne_zero (Nat.ne_zero_of_lt hfuel) with ⟨fuel, rfl⟩
      rw [List.append_assoc, List.cons_append, List.append_assoc, List.cons_append]
      rcases ihname fuel (':' :: (cs ++ ',' :: (more ++ '}' :: rest))) (by omega)
        (endsNumber_cons (by decide) _) with ⟨space, hspace, hname⟩
      rcases ih fuel (',' :: (more ++ '}' :: rest)) (by omega) (endsNumber_cons (by decide) _)
        with ⟨space', hspace', hvalue⟩
      exact members_more hname (skipSpace_append_cons hspace (by decide) _) hvalue
        (skipSpace_append_cons hspace' (by decide) _) (ihrest fuel rest (by omega))

/-! ## What is read is spelled -/

/-- White space that is skipped in front of a value belongs to its text. -/
theorem Spells.of_skipSpace {cs rest : List Char} {f : Fragment} (token : List Char)
    (hcs : skipSpace cs = token ++ rest) (h : Spells token (.value f)) :
    ∃ text, cs = text ++ rest ∧ Spells text (.value f) := by
  rcases exists_space_append cs with ⟨space, hspace, happend⟩
  refine ⟨space ++ (token ++ []), ?_, .around hspace (List.forall_mem_nil _) h⟩
  rw [List.append_nil, List.append_assoc, ← hcs]
  exact happend

/-- White space that is skipped behind a value belongs to its text too. -/
theorem Spells.append_space {token behind rest : List Char} {f : Fragment} {c : Char}
    (h : Spells token (.value f)) (hbehind : skipSpace behind = c :: rest) :
    ∃ text, token ++ behind = text ++ c :: rest ∧ Spells text (.value f) := by
  rcases exists_space_append behind with ⟨space, hspace, happend⟩
  refine ⟨[] ++ (token ++ space), ?_, .around (List.forall_mem_nil _) hspace h⟩
  rw [List.nil_append, List.append_assoc, ← hbehind, ← happend]

/-- Whatever the reader gets through within a bound, the text in front of the rest
    spells. -/
structure IsSpelled (fuel : Nat) : Prop where
  value : ∀ {cs rest : List Char} {f : Fragment}, value fuel cs = (f, some rest) →
    ∃ text, cs = text ++ rest ∧ Spells text (.value f)
  items : ∀ {cs rest : List Char} {fs : List Fragment} {closed : Bool},
    items fuel cs = ((fs, closed), some rest) →
      closed = true ∧ ∃ text, cs = text ++ ']' :: rest ∧ Spells text (.items fs)
  members : ∀ {cs rest : List Char} {ms : List (Fragment × Fragment)} {closed : Bool},
    members fuel cs = ((ms, closed), some rest) →
      closed = true ∧ ∃ text, cs = text ++ '}' :: rest ∧ Spells text (.members ms)

namespace IsSpelled

variable {fuel : Nat}

/-- A value is spelled if its items or members are. -/
theorem value_succ (ih : IsSpelled fuel) {cs rest : List Char} {f : Fragment}
    (h : Fragment.value (fuel + 1) cs = (f, some rest)) :
    ∃ text, cs = text ++ rest ∧ Spells text (.value f) := by
  rw [Fragment.value] at h
  -- There is a case for each start of a value that the reader knows.
  split at h
  · rename_i heq
    cases h
    exact Spells.of_skipSpace ['n', 'u', 'l', 'l'] heq .null
  · rename_i heq
    cases h
    exact Spells.of_skipSpace ['t', 'r', 'u', 'e'] heq .yes
  · rename_i heq
    cases h
    exact Spells.of_skipSpace ['f', 'a', 'l', 's', 'e'] heq .no
  · rename_i behind heq
    rw [stringValue] at h
    split at h
    · rename_i pieces end' hsplit
      cases h
      rcases exists_splitString?_append hsplit with ⟨token, htoken, hall⟩
      have hself := hall []
      rw [List.append_nil] at hself
      exact Spells.of_skipSpace ('"' :: token) (by rw [heq, htoken, List.cons_append])
        (.string hself)
    · cases h
  · rename_i inner heq
    split at h
    · rename_i behind hclose
      cases h
      rcases exists_space_append inner with ⟨space, hspace, hinner⟩
      refine Spells.of_skipSpace ('[' :: (space ++ [']'])) ?_ (.emptyArray hspace)
      rw [heq, hinner, hclose, List.cons_append, List.append_assoc, List.singleton_append]
    · rcases hread : Fragment.items fuel (skipSpace inner) with ⟨⟨fs, closed⟩, behind⟩
      rw [hread] at h
      cases h
      rw [items_skipSpace] at hread
      rcases ih.items hread with ⟨rfl, text, hinner, hspells⟩
      refine Spells.of_skipSpace ('[' :: (text ++ [']'])) ?_ (.array hspells)
      rw [heq, hinner, List.cons_append, List.append_assoc, List.singleton_append]
  · rename_i inner heq
    split at h
    · rename_i behind hclose
      cases h
      rcases exists_space_append inner with ⟨space, hspace, hinner⟩
      refine Spells.of_skipSpace ('{' :: (space ++ ['}'])) ?_ (.emptyObject hspace)
      rw [heq, hinner, hclose, List.cons_append, List.append_assoc, List.singleton_append]
    · rcases hread : Fragment.members fuel (skipSpace inner) with ⟨⟨ms, closed⟩, behind⟩
      rw [hread] at h
      cases h
      rw [members_skipSpace] at hread
      rcases ih.members hread with ⟨rfl, text, hinner, hspells⟩
      refine Spells.of_skipSpace ('{' :: (text ++ ['}'])) ?_ (.object hspells)
      rw [heq, hinner, List.cons_append, List.append_assoc, List.singleton_append]
  · rw [numberValue] at h
    split at h
    · rename_i t end' hsplit
      cases h
      rcases NumberToken.split?_append hsplit with ⟨c, token, htoken, -, hall⟩
      have hself := hall [] (Or.inr endsNumber_nil)
      rw [List.append_nil] at hself
      exact Spells.of_skipSpace _ htoken (.number hself)
    · cases h

/-- Items are spelled if each of them is. -/
theorem items_succ (ih : IsSpelled fuel) {cs rest : List Char} {fs : List Fragment} {closed : Bool}
    (h : Fragment.items (fuel + 1) cs = ((fs, closed), some rest)) :
    closed = true ∧ ∃ text, cs = text ++ ']' :: rest ∧ Spells text (.items fs) := by
  rw [Fragment.items] at h
  split at h
  · cases h
  · rename_i f behind hvalue
    rcases ih.value hvalue with ⟨token, rfl, hspells⟩
    split at h
    · rename_i inner hcomma
      rcases hread : Fragment.items fuel inner with ⟨⟨more, closed'⟩, end'⟩
      rw [hread] at h
      cases h
      rcases ih.items hread with ⟨hclosed, text, rfl, hmore⟩
      rcases hspells.append_space hcomma with ⟨first, hfirst, hspells'⟩
      refine ⟨hclosed, first ++ ',' :: text, ?_, .moreItems hspells' hmore⟩
      rw [hfirst, List.append_assoc, List.cons_append]
    · rename_i inner hclose
      cases h
      rcases hspells.append_space hclose with ⟨first, hfirst, hspells'⟩
      exact ⟨rfl, first, hfirst, .item hspells'⟩
    · cases h

/-- Members are spelled if each key and each value is. -/
theorem members_succ (ih : IsSpelled fuel) {cs rest : List Char}
    {ms : List (Fragment × Fragment)} {closed : Bool}
    (h : Fragment.members (fuel + 1) cs = ((ms, closed), some rest)) :
    closed = true ∧ ∃ text, cs = text ++ '}' :: rest ∧ Spells text (.members ms) := by
  rw [Fragment.members] at h
  split at h
  · rename_i s colon hkey
    rcases ih.value hkey with ⟨key, rfl, hname⟩
    split at h
    · rename_i inner hcolon
      rcases hname.append_space hcolon with ⟨key', hkey', hname'⟩
      split at h
      · cases h
      · rename_i f behind hvalue
        rcases ih.value hvalue with ⟨token, rfl, hspells⟩
        split at h
        · rename_i next hcomma
          rcases hread : Fragment.members fuel next with ⟨⟨more, closed'⟩, end'⟩
          rw [hread] at h
          cases h
          rcases ih.members hread with ⟨hclosed, text, rfl, hmore⟩
          rcases hspells.append_space hcomma with ⟨first, hfirst, hspells'⟩
          refine ⟨hclosed, key' ++ ':' :: (first ++ ',' :: text), ?_,
            .moreMembers hname' hspells' hmore⟩
          rw [hkey', hfirst, List.append_assoc, List.cons_append, List.append_assoc,
            List.cons_append]
        · rename_i next hclose
          cases h
          rcases hspells.append_space hclose with ⟨first, hfirst, hspells'⟩
          refine ⟨rfl, key' ++ ':' :: first, ?_, .member hname' hspells'⟩
          rw [hkey', hfirst, List.append_assoc, List.cons_append]
        · cases h
    · cases h
  · cases h

end IsSpelled

/-- What is read within any bound is spelled. -/
theorem isSpelled (fuel : Nat) : IsSpelled fuel := by
  induction fuel with
  | zero =>
      refine ⟨fun h => ?_, fun h => ?_, fun h => ?_⟩
      · cases h
      · cases h
      · cases h
  | succ fuel ih => exact ⟨ih.value_succ, ih.items_succ, ih.members_succ⟩

/-- A text spells a tree if and only if the reader gives the tree and nothing but white
    space follows it. -/
theorem ofText_eq_iff_spells {text : String} {f : Fragment} :
    ofText text = (f, true) ↔ Spells text.toList (.value f) := by
  rw [ofText]
  constructor
  · intro h
    split at h
    · rename_i g behind hvalue
      rw [Prod.mk.injEq, List.isEmpty_iff] at h
      rcases (isSpelled _).value hvalue with ⟨token, htext, hspells⟩
      rcases exists_space_append behind with ⟨space, hspace, hbehind⟩
      rw [h.2, List.append_nil] at hbehind
      have haround := Spells.around (List.forall_mem_nil _) hspace hspells
      rw [htext, hbehind, ← h.1]
      exact haround
    · cases h
  · intro h
    rcases h.isRead (text.toList.length + 1) [] (Nat.lt_succ_self _) endsNumber_nil
      with ⟨space, hspace, hvalue⟩
    have hempty : skipSpace (space ++ []) = [] := skipSpace_append hspace []
    rw [List.append_nil] at hvalue
    simp only [hvalue, hempty, List.isEmpty_nil]

end Fragment

end LootFilter
