import LootFilter.Proofs.Filter.Value
import Mathlib.Data.List.Forall2

/-!
# Unambiguous Documents

A compiled document tells the rules that it was compiled from. It is taken apart
in the order opposite to that in which it was put together: the document into
blocks, a block into lines, and a line into its field and the value. What makes
this possible on every level is that nothing has been refused. Without the checks
a text with a line break in it could pass for two lines, or a bare text with a
blank in it for two texts.

One thing about a rule does not show. A section without a value for any setting
has no line, and so it looks the same as a section that is absent. Apart from
this, rules that compile to the same document are the same
(`Document.compile_determines_rules`), and rules that are the same in this sense
compile to the same document.

## Main definitions

* `Rule.SameSettings`: Rules that are equal, up to absent sections.

## Theorems

* `Rule.sameSettings_of_get_eq`: When two rules have the same settings.
* `Rule.lines_eq_iff`: The lines of a block tell the rule.
* `Document.text_eq_iff`: The text of a document tells the rules.
* `Document.compile_determines_rules`: A compiled document tells the rules.
-/

namespace LootFilter

namespace Rule

/-- Two rules with the same block type and the same sections. A section that is absent
    counts as one without any value. -/
structure SameSettings (r s : Rule) : Prop where
  blockType : r.blockType = s.blockType
  conditions : r.conditions.getD .empty = s.conditions.getD .empty
  actions : r.actions.getD .empty = s.actions.getD .empty

/-- Rules with the same settings have the same value of every setting. -/
theorem SameSettings.get_eq {r s : Rule} (h : r.SameSettings s) (f : Field) :
    r.get f = s.get f := by
  cases f with
  | condition c => rw [get_condition, get_condition, h.conditions]
  | action a => rw [get_action, get_action, h.actions]

/-- Rules have the same settings if each setting has the same value in both or no
    value in either. -/
theorem sameSettings_of_get_eq {r s : Rule} (hblock : r.blockType = s.blockType)
    (h : ∀ f, r.get f = s.get f) : r.SameSettings s := by
  refine ⟨hblock, ?_, ?_⟩
  · ext c : 2
    rw [← get_condition, ← get_condition, h]
  · ext a : 2
    rw [← get_action, ← get_action, h]

/-- Rules with the same settings have the same lines. -/
theorem SameSettings.lines_eq {r s : Rule} (h : r.SameSettings s) : r.lines = s.lines := by
  have hfields : r.fields = s.fields := by
    rw [fields_eq, fields_eq]
    refine List.filterMap_congr fun f _ => ?_
    rw [fieldOf, shape?, h.get_eq, fieldOf, shape?]
  rw [lines, lines, h.blockType, hfields]

/-- Of rules with the same settings the same is refused, so nothing of one if
    nothing of the other. -/
theorem SameSettings.isAccepted {r s : Rule} (h : r.SameSettings s) (hr : r.IsAccepted) :
    s.IsAccepted := by
  intro f v hv
  rw [← h.get_eq f] at hv
  exact hr f v hv

/-- A value that the lines of one rule show is a value of every rule with the
    same lines. -/
theorem get_eq_some_of_lines_eq {r s : Rule} (hr : r.IsAccepted) (hs : s.IsAccepted)
    (h : r.lines = s.lines) (f : Field) (v : f.kind.Value) (hv : r.get f = some v) :
    s.get f = some v := by
  have hline : f.spec.renderLine (f.kind.shape v) ∈ s.lines := by
    rw [← h, mem_lines_iff]
    exact Or.inr ⟨f, v, hv, rfl⟩
  rcases (mem_lines_iff s _).mp hline with hhead | ⟨g, w, hw, heq⟩
  · -- The line of a field has a space in it, and the one of the block type has none.
    have hspace := (WordVocabulary.isWord_token s.blockType).space_not_mem
    rw [← hhead, FieldSpec.toList_renderLine] at hspace
    exact absurd (List.mem_append_right _ List.mem_cons_self) hspace
  · rcases Field.eq_of_renderLine_eq f g v w (hr f v hv) (hs g w hw) heq with ⟨rfl, hvw⟩
    rw [eq_of_heq hvw]
    exact hw

/-- The lines of rules of which nothing is refused tell their settings. -/
theorem lines_eq_iff {r s : Rule} (hr : r.IsAccepted) (hs : s.IsAccepted) :
    r.lines = s.lines ↔ r.SameSettings s := by
  constructor
  · intro h
    have hget (f : Field) : r.get f = s.get f := by
      -- A value that one rule has is found on its lines, and so in the other rule.
      refine Option.ext fun v => ⟨fun hv => ?_, fun hv => ?_⟩
      · exact get_eq_some_of_lines_eq hr hs h f v hv
      · exact get_eq_some_of_lines_eq hs hr h.symm f v hv
    rw [lines, lines] at h
    exact sameSettings_of_get_eq (Vocabulary.token_injective (List.cons.inj h).1) hget
  · exact SameSettings.lines_eq

end Rule

namespace Document

/-- The lines of a document, block by block, as lists of characters. -/
def characters (rules : List Rule) : List (List (List Char)) :=
  rules.map fun r => r.lines.map String.toList

/-- The characters of a document are those of its lines. -/
theorem toList_text (rules : List Rule) :
    (text rules).toList =
      ['\n', '\n'].intercalate ((characters rules).map ['\n'].intercalate) := by
  rw [text, String.toList_intercalate, characters, List.map_map, List.map_map]
  have hblock : String.toList ∘ Rule.text =
      ['\n'].intercalate ∘ fun r : Rule => r.lines.map String.toList := by
    ext r : 1
    exact String.toList_intercalate
  rw [hblock]
  rfl

/-- Every rule leaves something in the document. -/
theorem intercalate_characters_ne_nil (r : Rule) (rest : List Rule) :
    ['\n', '\n'].intercalate ((characters (r :: rest)).map ['\n'].intercalate) ≠ [] := by
  have htoken : (Vocabulary.token r.blockType).toList ≠ [] := by
    rw [ne_eq, String.toList_eq_nil_iff]
    exact (WordVocabulary.isWord_token r.blockType).nonempty
  have hblock : ['\n'].intercalate (r.lines.map String.toList) ≠ [] :=
    Text.intercalate_cons_ne_nil ['\n'] _ _ htoken
  exact Text.intercalate_cons_ne_nil ['\n', '\n'] _ _ hblock

/-- The lines of rules of which nothing is refused tell their settings, rule by
    rule. -/
theorem characters_eq_iff {rs ss : List Rule} (hr : ∀ r ∈ rs, r.IsAccepted)
    (hs : ∀ s ∈ ss, s.IsAccepted) :
    characters rs = characters ss ↔ List.Forall₂ Rule.SameSettings rs ss := by
  induction rs generalizing ss with
  | nil =>
      rw [List.forall₂_nil_left_iff, eq_comm]
      exact List.map_eq_nil_iff
  | cons r rest ih =>
      cases ss with
      | nil =>
          rw [List.forall₂_nil_right_iff]
          exact List.map_eq_nil_iff
      | cons s more =>
          rw [List.forall_mem_cons] at hr hs
          have hhead : characters (r :: rest) = characters (s :: more) ↔
              r.lines = s.lines ∧ characters rest = characters more := by
            rw [characters, List.map_cons, characters, List.map_cons, List.cons.injEq,
              Text.map_toList_inj]
            exact Iff.rfl
          rw [hhead, Rule.lines_eq_iff hr.1 hs.1, ih hr.2 hs.2, List.forall₂_cons]

/-- The text of rules of which nothing is refused tells their lines. -/
theorem text_eq_iff {rs ss : List Rule} (hr : ∀ r ∈ rs, r.IsAccepted)
    (hs : ∀ s ∈ ss, s.IsAccepted) : text rs = text ss ↔ characters rs = characters ss := by
  have hblocks (rules : List Rule) (hrules : ∀ r ∈ rules, r.IsAccepted) :
      ∀ b ∈ characters rules, Text.IsBlock '\n' b :=
    List.forall_mem_map.mpr fun r hmem => r.isBlock_lines (hrules r hmem)
  rw [← String.toList_inj, toList_text, toList_text]
  constructor
  · intro h
    cases rs with
    | nil =>
        -- No rules and a single empty block would give the same text.
        cases ss with
        | nil => rfl
        | cons s more => exact absurd h.symm (intercalate_characters_ne_nil s more)
    | cons r rest =>
        cases ss with
        | nil => exact absurd h (intercalate_characters_ne_nil r rest)
        | cons s more =>
            exact Text.eq_of_blocks_eq (List.cons_ne_nil _ _) (List.cons_ne_nil _ _)
              (hblocks _ hr) (hblocks _ hs) h
  · intro h
    rw [h]

/-- Rules with the same settings are accepted together. -/
theorem isAccepted_of_forall₂ {rs ss : List Rule} (h : List.Forall₂ Rule.SameSettings rs ss)
    (hr : ∀ r ∈ rs, r.IsAccepted) : ∀ s ∈ ss, s.IsAccepted := by
  induction h with
  | nil => exact hr
  | cons hrs _ ih =>
      rw [List.forall_mem_cons] at hr
      exact List.forall_mem_cons.mpr ⟨hrs.isAccepted hr.1, ih hr.2⟩

/-- A compiled document tells the rules: another list of rules compiles to it
    exactly when it has as many rules and, one by one, the same settings. -/
theorem compile_determines_rules {rs : List Rule} {d : String} (h : compile rs = .ok d)
    (ss : List Rule) : compile ss = .ok d ↔ List.Forall₂ Rule.SameSettings rs ss := by
  rw [compile_eq_ok_iff, validate_eq_nil_iff] at h
  rcases h with ⟨hr, rfl⟩
  rw [compile_eq_ok_iff, validate_eq_nil_iff]
  constructor
  · rintro ⟨hs, htext⟩
    exact (characters_eq_iff hr hs).mp ((text_eq_iff hs hr).mp htext).symm
  · intro hsame
    have hs := isAccepted_of_forall₂ hsame hr
    exact ⟨hs, (text_eq_iff hs hr).mpr ((characters_eq_iff hr hs).mpr hsame).symm⟩

/-- A rule for one base, without a section of actions and with one that holds
    nothing. -/
theorem compile_determines_rules_empty_actions :
    compile [⟨.shows, some (Settings.empty.set .baseType ⟨.eq, ["Chaos Orb"]⟩), none⟩] =
        .ok "Show\nBaseType = \"Chaos Orb\"" ∧
      compile [⟨.shows, some (Settings.empty.set .baseType ⟨.eq, ["Chaos Orb"]⟩), some .empty⟩] =
        .ok "Show\nBaseType = \"Chaos Orb\"" := by
  have hcompile : compile
      [⟨.shows, some (Settings.empty.set .baseType ⟨.eq, ["Chaos Orb"]⟩), none⟩] =
      .ok "Show\nBaseType = \"Chaos Orb\"" := by rfl
  refine ⟨hcompile, (compile_determines_rules hcompile _).mpr (.cons ?_ .nil)⟩
  exact ⟨rfl, rfl, rfl⟩

end Document

end LootFilter
