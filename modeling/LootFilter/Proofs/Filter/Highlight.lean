import LootFilter.Proofs.Filter.Preset
import LootFilter.Proofs.Filter.Correspondence

/-!
# Highlighted Rules

What the highlight does to a rule that may be any rule, also one of which something is
refused. It sets five actions and leaves everything else alone, so both the fields of
the rule and what is refused of it fall into two parts. The part that belongs to the
five actions is the same for every rule, and nothing of it is refused. The other part
is that of the rule as it was.

The two parts are taken out of a list by the keyword. The fields of a rule are in the
order of the catalogue whatever they are, so the two parts tell the whole list. A
refusal carries the keyword of its field, so taking some keywords out of what is
refused is the same as looking at these fields only (`Rule.filter_malformed`), and the
refusals of a highlighted rule follow from its fields.

## Main definitions

* `Field.highlighted`: The settings that the highlight sets.
* `Field.highlightKeywords`: Their keywords.

## Theorems

* `Rule.filter_fields`, `Rule.filter_malformed`: Fields and refusals by keyword.
* `Rule.get_highlight_of_notMem`: All other settings keep their values.
* `Rule.filter_fields_highlight`, `Rule.filter_not_fields_highlight`: The fields of a
  highlighted rule.
* `Rule.malformed_highlight`: What is refused of a highlighted rule.
* `Rule.highlight_highlight`: A highlight is not put on twice.
* `Rule.highlight_changes_five_actions`: All of this, for every rule.
-/

namespace LootFilter

/-- What some entries of a list lead to is filtered by filtering the entries, if the
    test can be made on them. -/
theorem filter_filterMap_of_agree {α β : Type} (g : α → Option β) (q : β → Bool) (t : α → Bool)
    (h : ∀ a b, g a = some b → q b = t a) (l : List α) :
    (l.filterMap g).filter q = (l.filter t).filterMap g := by
  rw [List.filter_filterMap, List.filterMap_filter]
  refine List.filterMap_congr fun a _ => ?_
  cases hg : g a with
  | none =>
      rw [Option.filter_none]
      split
      all_goals rfl
  | some b => rw [Option.filter_some, h a b hg]

namespace Field

/-- The settings that the highlight sets, in the order of the catalogue. -/
def highlighted : List Field :=
  [.action .setBorderColor, .action .setTextColor, .action .setFontSize, .action .playAlertSound,
    .action .minimapIcon]

/-- The settings that the highlight sets are those that have a value in it. -/
theorem mem_highlighted_iff (f : Field) : f ∈ highlighted ↔ f.highlight?.isSome = true := by
  rcases f with c | a
  · simp [highlighted, highlight?]
  · cases a <;> decide

/-- The keywords of these settings. -/
def highlightKeywords : List String :=
  ["SetBorderColor", "SetTextColor", "SetFontSize", "PlayAlertSound", "MinimapIcon"]

/-- A keyword is one of them exactly if its setting is highlighted. -/
theorem keyword_mem_highlightKeywords_iff (f : Field) :
    f.keyword ∈ highlightKeywords ↔ f ∈ highlighted := by
  have hkeywords : highlightKeywords = highlighted.map keyword := rfl
  rw [hkeywords, List.mem_map]
  constructor
  · rintro ⟨g, hg, hkeyword⟩
    rwa [← keyword_injective hkeyword]
  · intro hf
    exact ⟨f, hf, rfl⟩

/-- The highlighted settings, taken out of the catalogue by their keywords. -/
theorem filter_keyword_mem_highlightKeywords :
    all.filter (fun f => f.keyword ∈ highlightKeywords) = highlighted := by
  decide +kernel

end Field

namespace Rule

/-! ## Fields and refusals by keyword -/

/-- Some keywords take those fields out of a rule that belong to their settings. -/
theorem filter_fields (r : Rule) (q : String → Bool) :
    r.fields.filter (fun p => q p.1.keyword) =
      (Field.all.filter fun f => q f.keyword).filterMap r.fieldOf := by
  rw [fields_eq]
  refine filter_filterMap_of_agree r.fieldOf _ _ (fun f p hp => ?_) Field.all
  rcases (r.fieldOf_eq_some_iff f p).mp hp with ⟨v, -, rfl⟩
  rw [f.keyword_spec]

/-- They take the refusals of these fields out of what is refused of the rule. -/
theorem filter_malformed (r : Rule) (index : Nat) (q : String → Bool) :
    (r.malformed index).filter (fun e => q e.field) =
      (r.fields.filter fun p => q p.1.keyword).filterMap (refusal? index) := by
  refine filter_filterMap_of_agree (refusal? index) _ _ (fun p e he => ?_) r.fields
  rw [((refusal?_eq_some_iff index p e).mp he).2.1]

/-! ## The highlight -/

/-- A setting that is not highlighted keeps its value. -/
theorem get_highlight_of_notMem (r : Rule) {f : Field} (h : f ∉ Field.highlighted) :
    r.highlight.get f = r.get f := by
  rw [Field.mem_highlighted_iff, Option.not_isSome_iff_eq_none] at h
  rw [get_highlight, h, Option.none_or]

/-- The highlighted fields of a rule are the same for every rule. -/
theorem filter_fields_highlight (r : Rule) :
    r.highlight.fields.filter (fun p => p.1.keyword ∈ Field.highlightKeywords) =
      Field.highlightFields := by
  rw [r.highlight.filter_fields (· ∈ Field.highlightKeywords),
    Field.filter_keyword_mem_highlightKeywords]
  rfl

/-- Its other fields are those that it had before. -/
theorem filter_not_fields_highlight (r : Rule) :
    r.highlight.fields.filter (fun p => p.1.keyword ∉ Field.highlightKeywords) =
      r.fields.filter (fun p => p.1.keyword ∉ Field.highlightKeywords) := by
  rw [r.highlight.filter_fields (· ∉ Field.highlightKeywords),
    r.filter_fields (· ∉ Field.highlightKeywords)]
  refine List.filterMap_congr fun f hf => ?_
  rw [List.mem_filter, decide_eq_true_eq, Field.keyword_mem_highlightKeywords_iff] at hf
  rw [fieldOf, shape?, get_highlight_of_notMem r hf.2, fieldOf, shape?]

/-- What is refused of a highlighted rule is what was refused of its other fields. -/
theorem malformed_highlight (r : Rule) (index : Nat) :
    r.highlight.malformed index =
      (r.malformed index).filter fun e => e.field ∉ Field.highlightKeywords := by
  have hnone : (r.highlight.malformed index).filter (fun e => e.field ∈ Field.highlightKeywords) =
      [] := by
    rw [filter_malformed _ _ (· ∈ Field.highlightKeywords), filter_fields_highlight,
      filterMap_refusal?_highlightFields]
  have hall : (r.highlight.malformed index).filter (fun e => e.field ∉ Field.highlightKeywords) =
      r.highlight.malformed index := by
    rw [List.filter_eq_nil_iff] at hnone
    refine List.filter_eq_self.mpr fun e he => ?_
    have hfield := hnone e he
    rwa [decide_eq_true_eq] at hfield ⊢
  calc r.highlight.malformed index
      = (r.highlight.malformed index).filter fun e => e.field ∉ Field.highlightKeywords := hall.symm
    _ = (r.highlight.fields.filter fun p => p.1.keyword ∉ Field.highlightKeywords).filterMap
          (refusal? index) := filter_malformed _ _ (· ∉ Field.highlightKeywords)
    _ = (r.fields.filter fun p => p.1.keyword ∉ Field.highlightKeywords).filterMap
          (refusal? index) := by rw [filter_not_fields_highlight]
    _ = (r.malformed index).filter fun e => e.field ∉ Field.highlightKeywords :=
          (filter_malformed _ _ (· ∉ Field.highlightKeywords)).symm

/-- Nothing is refused of a highlighted rule exactly if all that was refused of it
    belongs to the settings of the highlight. -/
theorem malformed_highlight_eq_nil_iff (r : Rule) (index : Nat) :
    r.highlight.malformed index = [] ↔
      ∀ e ∈ r.malformed index, e.field ∈ Field.highlightKeywords := by
  rw [malformed_highlight, List.filter_eq_nil_iff]
  simp only [decide_eq_true_eq, not_not]

/-- The actions of a highlighted rule: each has its value in the highlight, or else the
    value that it had before. -/
theorem actions_highlight (r : Rule) : r.highlight.actions =
    some ⟨fun a => (Field.action a).highlight?.or (r.get (.action a))⟩ :=
  congrArg some (Settings.ext (funext fun a => r.get_highlight (.action a)))

/-- A highlighted rule does not change when it is highlighted again. -/
theorem highlight_highlight (r : Rule) : r.highlight.highlight = r.highlight := by
  have hactions : r.highlight.highlight.actions = r.highlight.actions := by
    rw [actions_highlight, actions_highlight]
    simp only [get_highlight, ← Option.or_assoc, Option.or_self]
  calc r.highlight.highlight
      = ⟨r.blockType, r.conditions, r.highlight.highlight.actions⟩ := rfl
    _ = ⟨r.blockType, r.conditions, r.highlight.actions⟩ := by rw [hactions]
    _ = r.highlight := rfl

/-- The highlight of any rule, at any position. It keeps the block type, the conditions
    and all actions but five. Of the fields, which are in the order of the catalogue,
    the five have their own values in every highlighted rule and the others are those
    that the rule had before. What is refused is what was refused of these others. So
    a rule that has a block still has one. Nothing is refused any more, and there is a
    block, exactly if all that was refused belongs to the five. A second highlight
    changes nothing. -/
theorem highlight_changes_five_actions (r : Rule) (i : Nat) :
    r.highlight.blockType = r.blockType ∧ r.highlight.conditions = r.conditions ∧
    (∀ a, .action a ∉ Field.highlighted → r.highlight.get (.action a) = r.get (.action a)) ∧
    (r.highlight.fields.Pairwise fun p q =>
      cataloguePlace p.1.keyword < cataloguePlace q.1.keyword) ∧
    r.highlight.fields.filter (fun p => p.1.keyword ∈ Field.highlightKeywords) =
      [((Field.action .setBorderColor).spec, .tuple [.ofNat 255, .ofNat 0, .ofNat 0, .absent]),
        ((Field.action .setTextColor).spec, .tuple [.ofNat 255, .ofNat 0, .ofNat 0, .absent]),
        ((Field.action .setFontSize).spec, .scalar (.ofNat 35)),
        ((Field.action .playAlertSound).spec, .tuple [.ofNat 1, .ofNat 100]),
        ((Field.action .minimapIcon).spec, .tuple [.ofNat 0, .text "Red", .text "Circle"])] ∧
    r.highlight.fields.filter (fun p => p.1.keyword ∉ Field.highlightKeywords) =
      r.fields.filter (fun p => p.1.keyword ∉ Field.highlightKeywords) ∧
    r.highlight.malformed i =
      (r.malformed i).filter (fun e => e.field ∉ Field.highlightKeywords) ∧
    ((∃ b, r.block i = .ok b) → ∃ b, r.highlight.block i = .ok b) ∧
    (r.highlight.malformed i = [] ↔ ∀ e ∈ r.malformed i, e.field ∈ Field.highlightKeywords) ∧
    ((∃ b, r.highlight.block i = .ok b) ↔
      ∀ e ∈ r.malformed i, e.field ∈ Field.highlightKeywords) ∧
    r.highlight.highlight = r.highlight := by
  refine ⟨rfl, rfl, fun a ha => r.get_highlight_of_notMem ha, r.highlight.pairwise_fields,
    r.filter_fields_highlight, r.filter_not_fields_highlight, r.malformed_highlight i,
    fun hblock => ?_, r.malformed_highlight_eq_nil_iff i, ?_, r.highlight_highlight⟩
  · rw [exists_block_eq_ok_iff] at hblock ⊢
    rw [malformed_highlight, hblock, List.filter_nil]
  · rw [exists_block_eq_ok_iff, malformed_highlight_eq_nil_iff]

/-- A rule whose font is too large and which silences its drops. -/
def ofLargeFont : Rule :=
  ⟨.shows, none, some ((Settings.empty.set .setFontSize (90 : UInt32)).set .disableDropSound true)⟩

/-- The highlight makes its font smaller, after which nothing of it is refused. The
    drops stay silent. A second highlight finds a rule that has a block, and so leaves
    one. -/
theorem highlight_changes_five_actions_ofLargeFont :
    ofLargeFont.malformed 0 = [⟨0, "SetFontSize", .outside (.ofNat 90) 1 45⟩] ∧
      (∃ b, ofLargeFont.highlight.block 0 = .ok b) ∧
      ofLargeFont.highlight.get (.action .disableDropSound) = some true ∧
      ∃ b, ofLargeFont.highlight.highlight.block 0 = .ok b := by
  rcases highlight_changes_five_actions ofLargeFont 0 with
    ⟨-, -, hothers, -, -, -, -, -, -, hblock, -⟩
  rcases highlight_changes_five_actions ofLargeFont.highlight 0 with
    ⟨-, -, -, -, -, -, -, hstays, -⟩
  have hrefused : ofLargeFont.malformed 0 =
      [⟨0, "SetFontSize", .outside (.ofNat 90) 1 45⟩] := by
    decide +kernel
  have hvalid : ∃ b, ofLargeFont.highlight.block 0 = .ok b := by
    refine hblock.mpr fun e he => ?_
    rw [hrefused, List.mem_singleton] at he
    rw [he]
    decide
  exact ⟨hrefused, hvalid, hothers .disableDropSound (by decide), hstays hvalid⟩

end Rule

end LootFilter

