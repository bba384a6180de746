import LootFilter.Proofs.Filter.Line

/-!
# Quotes on a Line

Where the double quotes of a line stand. The program writes them in pairs around
texts, in a list of quoted texts and in the comparisons of a field that quotes its
texts, and it escapes nothing. So a reader can only find the end of a text if the
text has no quote of its own, and a value can only be kept to its line if nothing in
it ends the line. Both are left to the check, and this module says what the check
achieves.

It is said of any value in any field, also of values that no setting of a rule has: a
comparison that mixes numbers with texts, a list in a field without quoting, a tuple
with any slots. What is said of the line is `Text.QuotesOnly`: some texts stand
between quotes, in this order, and there is no quote beside these. The rest of the
line is free. In particular, a tuple whose first slot is absent puts a second space
behind the keyword.

## Main definitions

* `Text.QuotesOnly`: The quotes of a line are pairs around some texts.
* `FieldSpec.quotedTexts`: The texts of a value that are written between quotes.

## Theorems

* `Text.QuotesOnly.count`: There are two quotes for each text.
* `Text.quotesOnly_spaced`: The quotes of spaced words.
* `FieldSpec.quotesOnly_render`: The quotes of an accepted value.
* `FieldSpec.renderLine_stays_on_line`: The line of an accepted value.
-/

namespace LootFilter

namespace Text

/-- The quotes among some characters are pairs around the given texts, in the order
    of the texts, and no text has a quote in it. -/
inductive QuotesOnly : List String → List Char → Prop where
  /-- There is no quote. -/
  | none {cs : List Char} : '"' ∉ cs → QuotesOnly [] cs
  /-- The first two quotes are around the first text. -/
  | pair {s : String} {texts : List String} {before rest : List Char} :
      '"' ∉ before → '"' ∉ s.toList → QuotesOnly texts rest →
        QuotesOnly (s :: texts) (before ++ '"' :: (s.toList ++ '"' :: rest))

/-- A space is no quote. -/
theorem quote_not_mem_space : '"' ∉ [' '] := by
  decide

namespace QuotesOnly

/-- There are two quotes for each text. -/
theorem count {texts : List String} {cs : List Char} (h : QuotesOnly texts cs) :
    cs.count '"' = 2 * texts.length := by
  induction h with
  | none hcs => exact List.count_eq_zero_of_not_mem hcs
  | pair hbefore hs _ ih =>
      rw [List.count_append, List.count_cons_self, List.count_append, List.count_cons_self,
        List.count_eq_zero_of_not_mem hbefore, List.count_eq_zero_of_not_mem hs, ih,
        List.length_cons]
      omega

/-- Characters without a quote can be put in front. -/
theorem prepend {texts : List String} {cs front : List Char} (hfront : '"' ∉ front)
    (h : QuotesOnly texts cs) : QuotesOnly texts (front ++ cs) := by
  cases h with
  | none hcs => exact .none fun hmem => (List.mem_append.mp hmem).elim hfront hcs
  | pair hbefore hs hrest =>
      rw [← List.append_assoc]
      exact .pair (fun hmem => (List.mem_append.mp hmem).elim hfront hbefore) hs hrest

/-- What is put behind adds its own texts. -/
theorem append {texts more : List String} {cs ds : List Char} (h : QuotesOnly texts cs)
    (hmore : QuotesOnly more ds) : QuotesOnly (texts ++ more) (cs ++ ds) := by
  induction h with
  | none hcs => exact prepend hcs hmore
  | pair hbefore hs _ ih =>
      simp only [List.append_assoc, List.cons_append]
      exact .pair hbefore hs ih

end QuotesOnly

/-- A text between quotes. -/
theorem quotesOnly_quote {s : String} (h : '"' ∉ s.toList) :
    QuotesOnly [s] (Scalar.quote s).toList := by
  rw [toList_quote]
  have hbefore : '"' ∉ ([] : List Char) := List.not_mem_nil
  exact .pair hbefore h (.none List.not_mem_nil)

/-- The quotes of spaced words are those of each word. -/
theorem quotesOnly_spaced {α : Type} (texts : α → List String) (word : α → String) (as : List α)
    (h : ∀ a ∈ as, QuotesOnly (texts a) (word a).toList) :
    QuotesOnly (as.flatMap texts) (spaced (as.map word)).toList := by
  induction as with
  | nil => exact .none List.not_mem_nil
  | cons a rest ih =>
      rw [List.forall_mem_cons] at h
      rw [List.flatMap_cons, List.map_cons]
      by_cases hrest : rest = []
      · subst hrest
        rw [List.flatMap_nil, List.append_nil]
        exact h.1
      · have hne : rest.map word ≠ [] := by
          rwa [ne_eq, List.map_eq_nil_iff]
        rw [toList_spaced_cons _ hne]
        exact h.1.append (.prepend quote_not_mem_space (ih h.2))

end Text

namespace Scalar

/-- The texts of a single value that are written between quotes. -/
def quotedTexts (quoting : Quoting) : Scalar → List String
  | .text s =>
    match quoting with
    | .quoted => [s]
    | .bare => []
  | _ => []

/-- The quotes of an accepted single value. -/
theorem quotesOnly_renderWith (spec : FieldSpec) (inTuple bare : Bool) (quoting : Quoting)
    (v : Scalar) (h : spec.checkScalar inTuple bare v = .ok ()) :
    Text.QuotesOnly (v.quotedTexts quoting) (v.renderWith quoting).toList := by
  have hrender := not_mem_render spec inTuple bare v h (Or.inl rfl)
  cases v with
  | text s =>
      cases quoting with
      | bare => exact .none hrender
      | quoted => exact Text.quotesOnly_quote hrender
  | number x => exact .none hrender
  | bool b => exact .none hrender
  | absent => exact .none hrender

end Scalar

namespace FieldSpec

/-- The texts of a value that are written between quotes: all of a quoted list, and
    those among the values of a comparison if the field quotes its texts. -/
def quotedTexts (spec : FieldSpec) : FieldValue → List String
  | .scalar _ => []
  | .quotedList texts => texts
  | .comparison _ values => values.flatMap (Scalar.quotedTexts spec.quoting)
  | .tuple _ => []

/-- The quotes of an accepted value. -/
theorem quotesOnly_render (spec : FieldSpec) (value : FieldValue) (h : spec.check value = .ok ()) :
    Text.QuotesOnly (spec.quotedTexts value) (spec.render value).toList := by
  cases value with
  | scalar v =>
      rw [check_scalar_iff] at h
      exact .none (v.not_mem_render spec _ _ h (Or.inl rfl))
  | quotedList texts =>
      rw [check_quotedList_iff] at h
      have htexts := Text.quotesOnly_spaced (fun s => [s]) Scalar.quote texts fun s hs =>
        Text.quotesOnly_quote (h.2 s hs).no_quote
      rwa [List.flatMap_singleton'] at htexts
  | comparison op values =>
      rw [check_comparison_iff] at h
      rw [toList_render_comparison]
      have hvalues := Text.quotesOnly_spaced (Scalar.quotedTexts spec.quoting)
        (Scalar.renderWith spec.quoting) values fun v hv =>
          v.quotesOnly_renderWith spec _ _ _ (h.2 v hv)
      exact .prepend (WordVocabulary.isWord_token op).no_quote
        (.prepend Text.quote_not_mem_space hvalues)
  | tuple slots =>
      rw [check_tuple_iff] at h
      have hslots := Text.quotesOnly_spaced (fun _ => []) Scalar.render slots fun v hv =>
        .none (v.not_mem_render spec _ _ (h v hv) (Or.inl rfl))
      rwa [List.flatMap_eq_nil_iff.mpr fun _ _ => rfl] at hslots

/-- The line of an accepted value, whatever field of the catalogue and whatever value
    it is. It is the keyword, a space and the value. It does not break. Its quotes are
    pairs around the texts that are to be quoted, two for each of them, all in the
    part that is the value. -/
theorem renderLine_stays_on_line {spec : FieldSpec} (hspec : spec ∈ catalogue)
    {value : FieldValue} (h : spec.check value = .ok ()) :
    spec.renderLine value = spec.keyword ++ " " ++ spec.render value ∧
    '\n' ∉ (spec.renderLine value).toList ∧ '\r' ∉ (spec.renderLine value).toList ∧
    Text.QuotesOnly (spec.quotedTexts value) (spec.render value).toList ∧
    Text.QuotesOnly (spec.quotedTexts value) (spec.renderLine value).toList ∧
    (spec.render value).toList.count '"' = 2 * (spec.quotedTexts value).length ∧
    '"' ∉ spec.keyword.toList := by
  have hkeyword := isWord_keyword_of_mem_catalogue hspec
  have hvalue := spec.quotesOnly_render value h
  refine ⟨rfl, spec.not_mem_renderLine hkeyword value h (Or.inl rfl),
    spec.not_mem_renderLine hkeyword value h (Or.inr rfl), hvalue, ?_, hvalue.count,
    hkeyword.no_quote⟩
  rw [toList_renderLine]
  exact .prepend hkeyword.no_quote (.prepend Text.quote_not_mem_space hvalue)

/-- A comparison of names with a number between them, which no rule has. The number
    stands without quotes. -/
theorem renderLine_stays_on_line_mixed :
    (Field.condition .baseType).spec ∈ catalogue ∧
      (Field.condition .baseType).spec.check
        (.comparison .eq [.text "Crude Bow", .ofNat 3, .text "Wand"]) = .ok () ∧
      (Field.condition .baseType).spec.renderLine
        (.comparison .eq [.text "Crude Bow", .ofNat 3, .text "Wand"]) =
          "BaseType = \"Crude Bow\" 3 \"Wand\"" ∧
      Text.QuotesOnly ["Crude Bow", "Wand"] "BaseType = \"Crude Bow\" 3 \"Wand\"".toList := by
  have hspec : (Field.condition .baseType).spec ∈ catalogue :=
    Field.spec_mem_catalogue _
  have hcheck : (Field.condition .baseType).spec.check
      (.comparison .eq [.text "Crude Bow", .ofNat 3, .text "Wand"]) = .ok () := by
    decide +kernel
  have hline : (Field.condition .baseType).spec.renderLine
      (.comparison .eq [.text "Crude Bow", .ofNat 3, .text "Wand"]) =
        "BaseType = \"Crude Bow\" 3 \"Wand\"" := by
    decide +kernel
  have hquotes := (renderLine_stays_on_line hspec hcheck).2.2.2.2.1
  rw [hline] at hquotes
  exact ⟨hspec, hcheck, hline, hquotes⟩

end FieldSpec

end LootFilter
