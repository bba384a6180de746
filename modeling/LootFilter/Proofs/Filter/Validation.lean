import LootFilter.Filter.Document
import LootFilter.Proofs.Filter.Catalogue
import Mathlib.Data.List.Pairwise

/-!
# Compilation and Validation

Compiling stops at the first value that its field refuses, and validating goes
on and collects all of them. The two are written as separate recursions, over
rules and over the fields of each rule, and what ties them together is one
equation: compiling gives the text of the rules unless validation has something
to report, and then the first thing that it reports.

The equation is proved from the inside out, for the fields of a rule, for a
block, for the blocks of a list and for a document. `guarded` is the shape that
all four have in common. Refusals in sequence are a single sequence of
refusals, so `guarded_bind` is the only place where the failing of a step and
the failing of what follows it meet.

The order of the report follows from the two lists behind it. The rules are
walked by position and the settings of a rule in the order of the catalogue, so
the refusals come in the lexicographic order of rule and place, and no two of
them belong to the same field of the same rule.

## Main definitions

* `guarded`: A result that stands only if nothing was refused.
* `Rule.refusal?`: The refusal of one field.
* `Rule.IsAccepted`: Nothing of a rule is refused.
* `Rule.lines`, `Rule.text`: The block of a rule, whatever its values are.
* `Document.text`: The document of some rules, whatever their values are.
* `MalformedValue.Precedes`: The order of rules and catalogue places.
* `MalformedValue.SameField`: Two refusals of one field of one rule.

## Theorems

* `Rule.block_eq`: A block is its text, unless a field is refused.
* `Document.compile_eq`: A document is its text, unless a field is refused.
* `Document.compile_eq_ok_iff`, `Document.compile_eq_error_iff`: When a document
  is compiled, and what it fails with.
* `Document.mem_validate_iff`: What a report holds.
* `Document.pairwise_validate`: The order in which it holds it.
* `Document.compile_agrees_with_validate`: The two agree on every list of
  rules.
-/

namespace LootFilter

/-- A result that stands only if nothing was refused. Otherwise the first
    refusal is the outcome. -/
def guarded {α : Type} : List MalformedValue → α → Except MalformedValue α
  | [], a => .ok a
  | e :: _, _ => .error e

section Guarded

variable {α β : Type}

/-- A result stands exactly when nothing was refused. -/
theorem guarded_eq_ok_iff (refused : List MalformedValue) (a b : α) :
    guarded refused a = .ok b ↔ refused = [] ∧ a = b := by
  cases refused with
  | nil => simp [guarded]
  | cons e rest => simp [guarded]

/-- The outcome of a failure is the first refusal. -/
theorem guarded_eq_error_iff (refused : List MalformedValue) (a : α) (e : MalformedValue) :
    guarded refused a = .error e ↔ refused.head? = some e := by
  cases refused with
  | nil => simp [guarded]
  | cons d rest => simp [guarded]

/-- Two guarded steps in sequence are one step that is guarded by the refusals
    of both. The second one only has to be known at the result of the first. -/
theorem guarded_bind (refused more : List MalformedValue) (a : α) (b : β)
    (next : α → Except MalformedValue β) (h : next a = guarded more b) :
    (guarded refused a >>= next) = guarded (refused ++ more) b := by
  cases refused with
  | nil => exact h
  | cons e rest => rfl

/-- What is done to a result afterwards cannot be refused. -/
theorem guarded_bind_pure (refused : List MalformedValue) (a : α) (g : α → β) :
    (guarded refused a >>= fun x => pure (g x)) = guarded refused (g a) := by
  have h := guarded_bind refused [] a (g a) (fun x => pure (g x)) rfl
  rwa [List.append_nil] at h

end Guarded

namespace MalformedValue

/-- A refusal comes before another one: it belongs to an earlier rule, or to the
    same rule and to a field that is earlier in the catalogue. -/
def Precedes (d e : MalformedValue) : Prop :=
  d.rule < e.rule ∨ d.rule = e.rule ∧ cataloguePlace d.field < cataloguePlace e.field

/-- Two refusals belong to the same field of the same rule. -/
def SameField (d e : MalformedValue) : Prop :=
  d.rule = e.rule ∧ d.field = e.field

/-- A refusal that comes before another one belongs to a different field. -/
theorem Precedes.not_sameField {d e : MalformedValue} (h : d.Precedes e) : ¬ d.SameField e := by
  rintro ⟨hrule, hfield⟩
  rcases h with h | ⟨-, h⟩
  · exact Nat.ne_of_lt h hrule
  · rw [hfield] at h
    exact Nat.lt_irrefl _ h

/-- Belonging to different fields does not depend on which of the two refusals
    is named first. -/
theorem symm_not_sameField : Std.Symm fun d e : MalformedValue => ¬ d.SameField e :=
  ⟨fun _ _ h hsame => h ⟨hsame.1.symm, hsame.2.symm⟩⟩

end MalformedValue

namespace Rule

/-- The refusal of a field, if its entry in the catalogue refuses the value. -/
def refusal? (index : Nat) (p : FieldSpec × FieldValue) : Option MalformedValue :=
  match p.1.check p.2 with
  | .error reason => some ⟨index, p.1.keyword, reason⟩
  | .ok () => none

/-- The refused values of a rule are the refusals of its fields. -/
theorem malformed_eq (r : Rule) (index : Nat) :
    r.malformed index = r.fields.filterMap (refusal? index) :=
  rfl

/-- A refusal says which rule, which field and why. -/
theorem refusal?_eq_some_iff (index : Nat) (p : FieldSpec × FieldValue) (e : MalformedValue) :
    refusal? index p = some e ↔
      index = e.rule ∧ p.1.keyword = e.field ∧ p.1.check p.2 = .error e.reason := by
  unfold refusal?
  cases h : p.1.check p.2 with
  | error reason =>
      rcases e with ⟨i, k, why⟩
      simp
  | ok u => simp

/-- The lines of the block of a rule, whether or not its values can stand on
    them. -/
def lines (r : Rule) : List String :=
  Vocabulary.token r.blockType :: r.fields.map fun p => p.1.renderLine p.2

/-- The lines of the block of a rule as one text. -/
def text (r : Rule) : String :=
  "\n".intercalate r.lines

/-- The lines of some fields stand unless one of the fields is refused. -/
theorem fieldLines_eq (index : Nat) (fields : List (FieldSpec × FieldValue)) :
    fieldLines index fields =
      guarded (fields.filterMap (refusal? index)) (fields.map fun p => p.1.renderLine p.2) := by
  induction fields with
  | nil => rfl
  | cons p rest ih =>
      rcases p with ⟨spec, value⟩
      rw [fieldLines, List.filterMap_cons, refusal?, List.map_cons]
      cases h : spec.check value with
      | error reason => rfl
      | ok u =>
          -- Nothing is refused here, so the refusals are those of the rest.
          simp only [ih]
          exact guarded_bind_pure _ _ fun lines => spec.renderLine value :: lines

/-- A block is its text, unless a field of the rule is refused. -/
theorem block_eq (r : Rule) (index : Nat) :
    r.block index = guarded (r.malformed index) r.text := by
  rw [block, fieldLines_eq, ← malformed_eq]
  exact guarded_bind_pure _ _ fun lines => "\n".intercalate (Vocabulary.token r.blockType :: lines)

/-- A rule has a block exactly if nothing of it is refused. -/
theorem exists_block_eq_ok_iff (r : Rule) (index : Nat) :
    (∃ b, r.block index = .ok b) ↔ r.malformed index = [] := by
  rw [block_eq]
  simp only [guarded_eq_ok_iff, exists_and_left, exists_eq', and_true]

/-- What is refused of a rule: those of its values that their fields refuse. -/
theorem mem_malformed_iff (r : Rule) (index : Nat) (e : MalformedValue) :
    e ∈ r.malformed index ↔ ∃ (f : Field) (v : f.kind.Value), r.get f = some v ∧
      index = e.rule ∧ f.keyword = e.field ∧
        f.spec.check (f.kind.shape v) = .error e.reason := by
  rw [malformed_eq, List.mem_filterMap]
  constructor
  · rintro ⟨p, hp, he⟩
    rcases (mem_fields_iff r p).mp hp with ⟨f, v, hv, rfl⟩
    have hrefused := (refusal?_eq_some_iff index _ e).mp he
    rw [f.keyword_spec] at hrefused
    exact ⟨f, v, hv, hrefused⟩
  · rintro ⟨f, v, hv, he⟩
    rw [← f.keyword_spec] at he
    exact ⟨(f.spec, f.kind.shape v), (mem_fields_iff r _).mpr ⟨f, v, hv, rfl⟩,
      (refusal?_eq_some_iff index _ e).mpr he⟩

/-- Nothing of the rule is refused. -/
def IsAccepted (r : Rule) : Prop :=
  ∀ (f : Field) (v : f.kind.Value), r.get f = some v → f.spec.check (f.kind.shape v) = .ok ()

/-- A rule has no refusals, at whatever position, exactly when nothing of it is
    refused. -/
theorem malformed_eq_nil_iff (r : Rule) (index : Nat) : r.malformed index = [] ↔ r.IsAccepted := by
  rw [List.eq_nil_iff_forall_not_mem]
  constructor
  · intro h f v hv
    cases hcheck : f.spec.check (f.kind.shape v) with
    | ok u => rfl
    | error reason =>
        exact absurd ((r.mem_malformed_iff index _).mpr ⟨f, v, hv, rfl, rfl, hcheck⟩)
          (h ⟨index, f.keyword, reason⟩)
  · intro h e he
    rcases (r.mem_malformed_iff index e).mp he with ⟨f, v, hv, -, -, hcheck⟩
    rw [h f v hv] at hcheck
    cases hcheck

/-- The refusals of a rule come in the order of the catalogue, since its fields
    do. -/
theorem pairwise_malformed (r : Rule) (index : Nat) :
    (r.malformed index).Pairwise MalformedValue.Precedes := by
  rw [malformed_eq, List.pairwise_filterMap]
  refine r.pairwise_fields.imp fun hpq d hd e he => ?_
  rcases (refusal?_eq_some_iff index _ d).mp hd with ⟨hdrule, hdfield, -⟩
  rcases (refusal?_eq_some_iff index _ e).mp he with ⟨herule, hefield, -⟩
  right
  rw [← hdrule, ← herule, ← hdfield, ← hefield]
  exact ⟨rfl, hpq⟩

end Rule

namespace Document

/-- The document of a list of rules, whether or not their values can stand in
    it. -/
def text (rules : List Rule) : String :=
  "\n\n".intercalate (rules.map Rule.text)

/-- The blocks of some rules stand unless a field of one of them is refused. -/
theorem blocks_eq (start : Nat) (rules : List Rule) :
    blocks start rules = guarded (malformedFrom start rules) (rules.map Rule.text) := by
  induction rules generalizing start with
  | nil => rfl
  | cons r rest ih =>
      rw [blocks, malformedFrom, List.map_cons, Rule.block_eq]
      refine guarded_bind _ _ _ _ _ ?_
      rw [ih (start + 1)]
      exact guarded_bind_pure _ _ fun more => r.text :: more

/-- A document is its text, unless a field of one of the rules is refused. -/
theorem compile_eq (rules : List Rule) :
    compile rules = guarded (validate rules) (text rules) := by
  rw [compile, blocks_eq, validate]
  exact guarded_bind_pure _ _ fun blocks => "\n\n".intercalate blocks

/-- A document is compiled exactly when nothing is refused, and then it is the
    text of its rules. -/
theorem compile_eq_ok_iff (rules : List Rule) (d : String) :
    compile rules = .ok d ↔ validate rules = [] ∧ text rules = d := by
  rw [compile_eq, guarded_eq_ok_iff]

/-- Compiling succeeds exactly when nothing is refused. -/
theorem exists_compile_eq_ok_iff (rules : List Rule) :
    (∃ d, compile rules = .ok d) ↔ validate rules = [] := by
  constructor
  · rintro ⟨d, hd⟩
    exact ((compile_eq_ok_iff rules d).mp hd).1
  · intro h
    exact ⟨text rules, (compile_eq_ok_iff rules _).mpr ⟨h, rfl⟩⟩

/-- Compiling fails exactly with the first refusal. -/
theorem compile_eq_error_iff (rules : List Rule) (e : MalformedValue) :
    compile rules = .error e ↔ (validate rules).head? = some e := by
  rw [compile_eq, guarded_eq_error_iff]

/-- A refusal in a part of a list that starts at some position belongs to the
    rule that lies as far behind that position as the refusal says. -/
theorem mem_malformedFrom_iff (start : Nat) (rules : List Rule) (e : MalformedValue) :
    e ∈ malformedFrom start rules ↔
      ∃ (i : Nat) (r : Rule), rules[i]? = some r ∧ e ∈ r.malformed (start + i) := by
  induction rules generalizing start with
  | nil => simp [malformedFrom]
  | cons r rest ih =>
      rw [malformedFrom, List.mem_append, ih]
      constructor
      · rintro (h | ⟨i, q, hq, h⟩)
        · exact ⟨0, r, rfl, h⟩
        · refine ⟨i + 1, q, hq, ?_⟩
          rwa [show start + (i + 1) = start + 1 + i by omega]
      · rintro ⟨i, q, hq, h⟩
        cases i with
        | zero =>
            rw [List.getElem?_cons_zero, Option.some.injEq] at hq
            rw [hq]
            exact Or.inl h
        | succ j =>
            rw [List.getElem?_cons_succ] at hq
            refine Or.inr ⟨j, q, hq, ?_⟩
            rwa [show start + 1 + j = start + (j + 1) by omega]

/-- A report holds the values that their fields refuse, each with the position
    of its rule, its keyword and the reason. -/
theorem mem_validate_iff (rules : List Rule) (i : Nat) (f : Field) (reason : Malformed) :
    ⟨i, f.keyword, reason⟩ ∈ validate rules ↔ ∃ (r : Rule) (v : f.kind.Value),
      rules[i]? = some r ∧ r.Sets f v ∧
        f.spec.check (f.kind.shape v) = .error reason := by
  rw [validate, mem_malformedFrom_iff]
  simp only [Rule.sets_iff_get]
  constructor
  · rintro ⟨j, r, hr, he⟩
    rcases (Rule.mem_malformed_iff r _ _).mp he with ⟨g, v, hv, hj, hg, hcheck⟩
    -- The keyword names the field, so the refused field is the given one.
    rcases Field.keyword_injective hg
    have hji : j = i := (Nat.zero_add j).symm.trans hj
    rw [hji] at hr
    exact ⟨r, v, hr, hv, hcheck⟩
  · rintro ⟨r, v, hr, hv, hcheck⟩
    exact ⟨i, r, hr, (Rule.mem_malformed_iff r _ _).mpr
      ⟨f, v, hv, Nat.zero_add i, rfl, hcheck⟩⟩

/-- Nothing of a part of a list is refused exactly when every rule in it is
    accepted. -/
theorem malformedFrom_eq_nil_iff (start : Nat) (rules : List Rule) :
    malformedFrom start rules = [] ↔ ∀ r ∈ rules, r.IsAccepted := by
  induction rules generalizing start with
  | nil => exact iff_of_true rfl (List.forall_mem_nil _)
  | cons r rest ih =>
      rw [malformedFrom, List.append_eq_nil_iff, Rule.malformed_eq_nil_iff, ih,
        List.forall_mem_cons]

/-- There is nothing to report exactly when every value is accepted by its
    field. -/
theorem validate_eq_nil_iff (rules : List Rule) :
    validate rules = [] ↔ ∀ r ∈ rules, r.IsAccepted :=
  malformedFrom_eq_nil_iff 0 rules

/-- The first refusal is the first one of the first rule that has any. -/
theorem head?_malformedFrom_iff (start : Nat) (rules : List Rule) (e : MalformedValue) :
    (malformedFrom start rules).head? = some e ↔
      ∃ before r after, rules = before ++ r :: after ∧ (∀ q ∈ before, q.IsAccepted) ∧
        (r.malformed (start + before.length)).head? = some e := by
  induction rules generalizing start with
  | nil =>
      rw [malformedFrom, List.head?_nil]
      constructor
      · intro h
        cases h
      · rintro ⟨before, r, after, hsplit, -⟩
        exact absurd hsplit.symm (List.append_ne_nil_of_right_ne_nil _ (List.cons_ne_nil _ _))
  | cons p rest ih =>
      rw [malformedFrom, List.head?_append]
      constructor
      · intro h
        cases hhead : (p.malformed start).head? with
        | some d =>
            rw [hhead, Option.some_or] at h
            exact ⟨[], p, rest, rfl, fun q hq => absurd hq List.not_mem_nil, hhead.trans h⟩
        | none =>
            -- The first rule is accepted, so the refusal comes from the rest.
            rw [hhead, Option.none_or, ih] at h
            rcases h with ⟨before, r, after, rfl, hbefore, hr⟩
            have hp := (p.malformed_eq_nil_iff start).mp (List.head?_eq_none_iff.mp hhead)
            refine ⟨p :: before, r, after, rfl, List.forall_mem_cons.mpr ⟨hp, hbefore⟩, ?_⟩
            rwa [List.length_cons, show start + (before.length + 1) = start + 1 + before.length by
              omega]
      · rintro ⟨before, r, after, hsplit, hbefore, hr⟩
        cases before with
        | nil =>
            rw [List.nil_append, List.cons.injEq] at hsplit
            rw [hsplit.1, show (r.malformed start).head? = some e from hr, Option.some_or]
        | cons q more =>
            rw [List.cons_append, List.cons.injEq] at hsplit
            rcases hsplit with ⟨rfl, rfl⟩
            rw [List.forall_mem_cons] at hbefore
            rw [(p.malformed_eq_nil_iff start).mpr hbefore.1, List.head?_nil, Option.none_or, ih]
            refine ⟨more, r, after, rfl, hbefore.2, ?_⟩
            rwa [show start + 1 + more.length = start + (more.length + 1) by omega]

/-- A report mentions no keyword that is not in the catalogue. -/
theorem field_of_mem_validate (rules : List Rule) (e : MalformedValue)
    (h : e ∈ validate rules) : ∃ f : Field, f.keyword = e.field := by
  rcases (mem_malformedFrom_iff 0 rules e).mp h with ⟨i, r, -, he⟩
  rcases (Rule.mem_malformed_iff r _ e).mp he with ⟨f, -, -, -, hf, -⟩
  exact ⟨f, hf⟩

/-- The refusals of a list of rules come in the order of rules and catalogue
    places. -/
theorem pairwise_malformedFrom (start : Nat) (rules : List Rule) :
    (malformedFrom start rules).Pairwise MalformedValue.Precedes := by
  induction rules generalizing start with
  | nil => exact List.Pairwise.nil
  | cons r rest ih =>
      rw [malformedFrom, List.pairwise_append]
      refine ⟨r.pairwise_malformed start, ih (start + 1), fun d hd e he => ?_⟩
      -- The refusals of the first rule are at its position, all others behind.
      rcases (Rule.mem_malformed_iff r start d).mp hd with ⟨-, -, -, hdrule, -⟩
      rcases (mem_malformedFrom_iff (start + 1) rest e).mp he with ⟨i, q, -, hq⟩
      rcases (Rule.mem_malformed_iff q _ e).mp hq with ⟨-, -, -, herule, -⟩
      left
      omega

/-- A report is in the order of rules and catalogue places. -/
theorem pairwise_validate (rules : List Rule) :
    (validate rules).Pairwise MalformedValue.Precedes :=
  pairwise_malformedFrom 0 rules

/-- A report has at most one refusal for a field of a rule. -/
theorem eq_of_mem_validate (rules : List Rule) {d e : MalformedValue}
    (hd : d ∈ validate rules) (he : e ∈ validate rules) (hsame : d.SameField e) : d = e := by
  by_contra hne
  have := MalformedValue.symm_not_sameField
  -- Two entries of the report are in one order or in the other.
  have hdiffer := (pairwise_validate rules).imp MalformedValue.Precedes.not_sameField
  exact hdiffer.forall hd he hne hsame

/-- Compilation and validation agree on every list of rules. Compiling succeeds
    exactly when there is nothing to report, and otherwise fails with the first
    refusal of the report. The report holds a refusal for a field of a rule
    exactly when the field has a value that its entry in the catalogue refuses,
    and is strictly in the order of rules and catalogue places. -/
theorem compile_agrees_with_validate (rules : List Rule) :
    ((∃ d, compile rules = .ok d) ↔ validate rules = []) ∧
    (∀ e, compile rules = .error e ↔ (validate rules).head? = some e) ∧
    (validate rules).Pairwise MalformedValue.Precedes ∧
    (∀ d ∈ validate rules, ∀ e ∈ validate rules, d.SameField e → d = e) ∧
    (∀ e ∈ validate rules, ∃ f : Field, f.keyword = e.field) ∧
    ∀ (i : Nat) (f : Field) (reason : Malformed),
      ⟨i, f.keyword, reason⟩ ∈ validate rules ↔ ∃ (r : Rule) (v : f.kind.Value),
        rules[i]? = some r ∧ r.Sets f v ∧
          f.spec.check (f.kind.shape v) = .error reason := by
  exact ⟨exists_compile_eq_ok_iff rules, compile_eq_error_iff rules, pairwise_validate rules,
    fun d hd e he => eq_of_mem_validate rules hd he, field_of_mem_validate rules,
    mem_validate_iff rules⟩

end Document

/-- A rule that sets the size of the font and nothing else. -/
def Rule.ofFontSize (size : UInt32) : Rule :=
  ⟨.shows, none, some (Settings.empty.set .setFontSize size)⟩

namespace Document

/-- Two rules with a size that is refused, behind one whose size is not. Compiling fails
    with the first refusal, and validating reports the second one too. -/
theorem compile_agrees_with_validate_fontSizes :
    compile [.ofFontSize 45, .ofFontSize 0, .ofFontSize 99] =
        .error ⟨1, "SetFontSize", .outside (.ofNat 0) 1 45⟩ ∧
      ⟨2, "SetFontSize", .outside (.ofNat 99) 1 45⟩ ∈
        validate [.ofFontSize 45, .ofFontSize 0, .ofFontSize 99] := by
  have hall := compile_agrees_with_validate [.ofFontSize 45, .ofFontSize 0, .ofFontSize 99]
  have hkeyword : (Field.action .setFontSize).keyword = "SetFontSize" := by decide +kernel
  have hcheck : (Field.action .setFontSize).spec.check (.scalar (.ofNat (99 : UInt32).toNat)) =
      .error (.outside (.ofNat 99) 1 45) := by decide +kernel
  have hmem := hall.2.2.2.2.2 2 (.action .setFontSize) (.outside (.ofNat 99) 1 45)
  rw [hkeyword] at hmem
  constructor
  · rw [hall.2.1]
    decide +kernel
  · exact hmem.mpr ⟨.ofFontSize 99, (99 : UInt32), rfl, ⟨_, rfl, rfl⟩, hcheck⟩

end Document

end LootFilter
