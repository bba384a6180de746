import LootFilter.Proofs.Filter.Acceptance
import LootFilter.Proofs.Text.Separated

/-!
# Lines

What stands on the line of an accepted value. A line begins with a keyword and a
space, and the keyword is a word, so the first space of a line is where its
value begins. No part of an accepted value breaks the line: numbers are digits,
points and minus signs, tokens are words, and a text with a line break would
have been refused.

So the lines of a block of accepted values are lines of the document, none of
them empty, which is what it takes to find the blocks in a document again
(`Rule.isBlock_lines`).

## Theorems

* `Scalar.render_ofNat`: A whole number is written by its digits.
* `Scalar.not_mem_render`: An accepted value neither breaks its line nor quotes.
* `FieldSpec.not_mem_render`: No accepted value of any shape breaks its line.
* `Rule.isBlock_lines`: The lines of a rule of which nothing is refused.
-/

namespace LootFilter

namespace Text

/-- Digits are not blank. -/
theorem isBlank_of_isDigit {c : Char} (h : c.isDigit = true) : isBlank c = false := by
  simp only [Char.isDigit, Bool.and_eq_true, decide_eq_true_eq] at h
  have hlow : 48 ≤ c.toNat := UInt32.le_iff_toNat_le.mp h.1
  have hhigh : c.toNat ≤ 57 := UInt32.le_iff_toNat_le.mp h.2
  simp only [isBlank, Bool.or_eq_false_iff, Bool.and_eq_false_iff, beq_eq_false_iff_ne,
    decide_eq_false_iff_not]
  omega

/-- A character that would end a line. -/
def IsBreak (c : Char) : Prop :=
  c = '\n' ∨ c = '\r'

/-- Line breaks are blank. -/
theorem IsBreak.isBlank {c : Char} (h : IsBreak c) : isBlank c = true := by
  rcases h with rfl | rfl
  · decide
  · decide

/-- A line break is none of the characters that the program puts on a line. -/
theorem IsBreak.ne_of_mem {c d : Char} (h : IsBreak c) (hd : d ∈ [' ', '"', '.', '-']) :
    c ≠ d := by
  intro hcd
  rw [← hcd] at hd
  rcases h with rfl | rfl
  · exact absurd hd (by decide)
  · exact absurd hd (by decide)

/-- A word does not break a line. -/
theorem IsBreak.not_mem_of_isWord {c : Char} (h : IsBreak c) {s : String} (hs : IsWord s) :
    c ∉ s.toList :=
  hs.not_mem_of_isBlank h.isBlank

/-- A text that can be quoted does not break a line. -/
theorem IsBreak.not_mem_of_isQuotable {c : Char} (h : IsBreak c) {s : String}
    (hs : IsQuotable s) : c ∉ s.toList := by
  rcases h with rfl | rfl
  · exact hs.no_lineFeed
  · exact hs.no_return

/-- A text between quotes does not break a line if the text does not. -/
theorem IsBreak.not_mem_quote {c : Char} (h : IsBreak c) {s : String} (hs : c ∉ s.toList) :
    c ∉ (Scalar.quote s).toList := by
  have hquote : c ≠ '"' := h.ne_of_mem (by decide)
  rw [toList_quote, List.mem_cons, List.mem_append, List.mem_singleton]
  rintro (hc | hc | hc)
  · exact hquote hc
  · exact hs hc
  · exact hquote hc

/-- Words that do not break a line do not break it together. -/
theorem IsBreak.not_mem_spaced {c : Char} (h : IsBreak c) {ws : List String}
    (hws : ∀ w ∈ ws, c ∉ w.toList) : c ∉ (spaced ws).toList := by
  intro hc
  rcases eq_space_or_exists_of_mem_spaced ws c hc with hspace | ⟨w, hw, hmem⟩
  · exact h.ne_of_mem (by decide) hspace
  · exact hws w hw hmem

end Text

namespace Scalar

/-- A whole number that fits into the format is written by its digits. -/
theorem render_ofNat (n : Nat) (h : n < Nat.pow 10 15) : (ofNat n).render = Nat.repr n := by
  -- Fifteen digits are fewer than a double holds without rounding.
  have hexact : n < Nat.pow 2 53 := Nat.lt_trans h (by decide)
  rw [ofNat, render, numberText, Binary64.toNat?_ofNat n hexact]
  simp only [if_pos h, Binary64.isNegative_ofNat n hexact, Bool.false_and, Bool.false_eq_true,
    if_false, String.empty_append]
  rfl

/-- The digits of a number are no blanks. -/
theorem isBlank_of_mem_repr (n : Nat) (c : Char) (h : c ∈ (Nat.repr n).toList) :
    Text.isBlank c = false := by
  rw [Nat.toList_repr] at h
  exact Text.isBlank_of_isDigit (Nat.isDigit_of_mem_toDigits (by decide) (by decide) h)

/-- The characters of a finite number on a line. -/
theorem mem_numberText (x : Binary64) (hx : x.isFinite = true) (c : Char)
    (h : c ∈ (numberText x).toList) : c.isDigit = true ∨ c = '.' ∨ c = '-' := by
  unfold numberText at h
  cases hn : x.toNat? with
  | none =>
      rw [hn] at h
      exact Binary64.mem_plain x hx c h
  | some n =>
      rw [hn] at h
      simp only at h
      by_cases hsmall : n < Nat.pow 10 15
      · rw [if_pos hsmall, String.toList_append, List.mem_append] at h
        rcases h with h | h
        · -- Only the minus sign can stand ahead of the digits.
          split at h
          · exact Or.inr (Or.inr (List.mem_singleton.mp h))
          · exact absurd h List.not_mem_nil
        · have hdigits : c ∈ Nat.toDigits 10 n := by
            rwa [← Nat.toList_repr]
          exact Or.inl (Nat.isDigit_of_mem_toDigits (by decide) (by decide) hdigits)
      · rw [if_neg hsmall] at h
        exact Binary64.mem_plain x hx c h

/-- An accepted single value is written without quotes and without line breaks. -/
theorem not_mem_render (spec : FieldSpec) (inTuple bare : Bool) (v : Scalar)
    (h : spec.checkScalar inTuple bare v = .ok ()) {c : Char} (hc : c = '"' ∨ Text.IsBreak c) :
    c ∉ v.render.toList := by
  cases v with
  | number x =>
      intro hmem
      -- Anything but a finite number would have been refused.
      have hfinite : x.isFinite = true := by
        by_contra hx
        rw [FieldSpec.checkScalar, if_neg hx] at h
        exact absurd h (by simp only [reduceCtorEq, not_false_eq_true])
      have hnumber := mem_numberText x hfinite c hmem
      rcases hc with rfl | rfl | rfl
      · exact absurd hnumber (by decide)
      · exact absurd hnumber (by decide)
      · exact absurd hnumber (by decide)
  | text s =>
      rcases (FieldSpec.checkText_eq_ok_iff inTuple bare s).mp h with
        ⟨-, hquote, hfeed, hreturn, -⟩
      rcases hc with rfl | rfl | rfl
      · exact hquote
      · exact hfeed
      · exact hreturn
  | bool b =>
      have hword : Text.IsWord (Scalar.bool b).render := by
        cases b with
        | true => decide
        | false => decide
      rcases hc with rfl | hbreak
      · exact hword.no_quote
      · exact hbreak.not_mem_of_isWord hword
  | absent => exact List.not_mem_nil

/-- It does not break its line when it is quoted either. -/
theorem not_mem_renderWith (spec : FieldSpec) (inTuple bare : Bool) (quoting : Quoting) (v : Scalar)
    (h : spec.checkScalar inTuple bare v = .ok ()) {c : Char} (hc : Text.IsBreak c) :
    c ∉ (v.renderWith quoting).toList := by
  have hrender := not_mem_render spec inTuple bare v h (Or.inr hc)
  cases v with
  | text s =>
      cases quoting with
      | bare => exact hrender
      | quoted => exact hc.not_mem_quote hrender
  | number x => exact hrender
  | bool b => exact hrender
  | absent => exact hrender

end Scalar

namespace FieldSpec

/-- The characters of a line: those of the keyword, a space, and those of the
    value. -/
theorem toList_renderLine (spec : FieldSpec) (value : FieldValue) :
    (spec.renderLine value).toList = spec.keyword.toList ++ ' ' :: (spec.render value).toList := by
  rw [renderLine, String.toList_append, String.toList_append, List.append_assoc]
  rfl

/-- The characters of a comparison: those of the operator, a space, and those of
    the values. -/
theorem toList_render_comparison (spec : FieldSpec) (op : Operator) (values : List Scalar) :
    (spec.render (.comparison op values)).toList =
      (Vocabulary.token op).toList ++
        ' ' :: (spaced (values.map (Scalar.renderWith spec.quoting))).toList := by
  rw [render, String.toList_append, String.toList_append, List.append_assoc]
  rfl

/-- An accepted value does not break its line. -/
theorem not_mem_render (spec : FieldSpec) (value : FieldValue) (h : spec.check value = .ok ())
    {c : Char} (hc : Text.IsBreak c) : c ∉ (spec.render value).toList := by
  cases value with
  | scalar v =>
      rw [check_scalar_iff] at h
      exact v.not_mem_render spec _ _ h (Or.inr hc)
  | quotedList texts =>
      rw [check_quotedList_iff] at h
      refine hc.not_mem_spaced (List.forall_mem_map.mpr fun s hs => ?_)
      exact hc.not_mem_quote (hc.not_mem_of_isQuotable (h.2 s hs))
  | comparison op values =>
      rw [check_comparison_iff] at h
      rw [toList_render_comparison, List.mem_append, List.mem_cons, not_or, not_or]
      refine ⟨hc.not_mem_of_isWord (WordVocabulary.isWord_token op), hc.ne_of_mem (by decide), ?_⟩
      refine hc.not_mem_spaced (List.forall_mem_map.mpr fun v hv => ?_)
      exact v.not_mem_renderWith spec _ _ _ (h.2 v hv) hc
  | tuple slots =>
      rw [check_tuple_iff] at h
      refine hc.not_mem_spaced (List.forall_mem_map.mpr fun v hv => ?_)
      exact v.not_mem_render spec _ _ (h v hv) (Or.inr hc)

/-- The line of an accepted value does not break, if the keyword is a word. -/
theorem not_mem_renderLine (spec : FieldSpec) (hkeyword : Text.IsWord spec.keyword)
    (value : FieldValue) (h : spec.check value = .ok ()) {c : Char} (hc : Text.IsBreak c) :
    c ∉ (spec.renderLine value).toList := by
  rw [toList_renderLine, List.mem_append, List.mem_cons, not_or, not_or]
  exact ⟨hc.not_mem_of_isWord hkeyword, hc.ne_of_mem (by decide), spec.not_mem_render value h hc⟩

/-- The keywords of the catalogue are words. -/
theorem isWord_keyword_of_mem_catalogue {spec : FieldSpec} (h : spec ∈ catalogue) :
    Text.IsWord spec.keyword := by
  have hall : ∀ spec ∈ catalogue, Text.IsWord spec.keyword := by decide +kernel
  exact hall spec h

end FieldSpec

namespace Field

/-- The keywords of settings are words. -/
theorem isWord_keyword (f : Field) : Text.IsWord f.spec.keyword :=
  FieldSpec.isWord_keyword_of_mem_catalogue f.spec_mem_catalogue

end Field

namespace Rule

/-- A line of a rule is the token of its block type or the line of a field. -/
theorem mem_lines_iff (r : Rule) (line : String) :
    line ∈ r.lines ↔ line = Vocabulary.token r.blockType ∨
      ∃ (f : Field) (v : f.kind.Value), r.get f = some v ∧
        line = f.spec.renderLine (f.kind.shape v) := by
  rw [lines, List.mem_cons, List.mem_map]
  constructor
  · rintro (h | ⟨p, hp, rfl⟩)
    · exact Or.inl h
    · rcases (mem_fields_iff r p).mp hp with ⟨f, v, hv, rfl⟩
      exact Or.inr ⟨f, v, hv, rfl⟩
  · rintro (h | ⟨f, v, hv, rfl⟩)
    · exact Or.inl h
    · exact Or.inr ⟨(f.spec, f.kind.shape v), (mem_fields_iff r _).mpr ⟨f, v, hv, rfl⟩, rfl⟩

/-- The lines of a rule of which nothing is refused form a block. -/
theorem isBlock_lines (r : Rule) (h : r.IsAccepted) :
    Text.IsBlock '\n' (r.lines.map String.toList) := by
  have hfeed : Text.IsBreak '\n' := Or.inl rfl
  refine ⟨?_, ?_, ?_⟩
  · rw [lines, List.map_cons]
    exact List.cons_ne_nil _ _
  · intro hempty
    rcases List.mem_map.mp hempty with ⟨line, hline, hnil⟩
    rcases (mem_lines_iff r line).mp hline with rfl | ⟨f, v, -, rfl⟩
    · exact (WordVocabulary.isWord_token r.blockType).nonempty (String.toList_eq_nil_iff.mp hnil)
    · -- Even a value without any text leaves the keyword and its space.
      rw [FieldSpec.toList_renderLine] at hnil
      exact absurd hnil (List.append_ne_nil_of_right_ne_nil _ (List.cons_ne_nil _ _))
  · refine List.forall_mem_map.mpr fun line hline => ?_
    rcases (mem_lines_iff r line).mp hline with rfl | ⟨f, v, hv, rfl⟩
    · exact hfeed.not_mem_of_isWord (WordVocabulary.isWord_token r.blockType)
    · exact f.spec.not_mem_renderLine f.isWord_keyword _ (h f v hv) hfeed

end Rule

end LootFilter
