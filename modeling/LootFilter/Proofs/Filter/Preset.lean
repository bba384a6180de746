import LootFilter.Preset
import LootFilter.Proofs.Filter.Layout
import LootFilter.Proofs.Filter.Acceptance

/-!
# Preset Documents

The preset rules from the choice of items to the text of the filter. A preset
rule is made of fixed values except for the name of its item, so what can be
refused of it is that name and nothing else, and a name is only refused if it
would end its quotes or its line. An empty name would be refused too, but an
item is chosen for a word in its name.

The choice is told again without the search that makes it: a name mentions a
word if it is something before the word, the word, and something behind it. The
rules then correspond to the chosen items one by one, expert bases ahead of
wands, and the position in a refusal counts the chosen items and not the items
that they were chosen from.

## Main definitions

* `Item.IsShieldExpert`, `Item.IsProperWand`: The items of the presets.
* `Item.chosen`: The items with a preset rule, in the order of the rules.
* `Item.IsShownBy`: A rule shows the base of an item with the highlight.
* `Text.IsPlain`, `Text.flaw?`: What can be wrong with a name between quotes.
* `Item.presetBlock`: The seven lines of a preset rule.

## Theorems

* `Rule.get_highlight`: What the highlight sets, and what it keeps.
* `Item.malformed_preset`: A preset rule is refused for its name only.
* `Document.compile_presetRules`: The rules and the document for a list of
  items.
-/

namespace LootFilter

namespace Text

/-- The text is something before the word, the word, and something behind it. -/
def Holds (s word : String) : Prop :=
  ∃ before after : String, s = before ++ word ++ after

/-- The search for a word finds it exactly if the text holds it. -/
theorem mentions_iff_holds (s word : String) : mentions s word = true ↔ Holds s word := by
  rw [mentions, occursIn_iff]
  constructor
  · rintro ⟨before, after, h⟩
    refine ⟨String.ofList before, String.ofList after, String.toList_inj.mp ?_⟩
    rw [String.toList_append, String.toList_append, String.toList_ofList, String.toList_ofList, h]
  · rintro ⟨before, after, rfl⟩
    exact ⟨before.toList, after.toList, by rw [String.toList_append, String.toList_append]⟩

instance decidableHolds (s word : String) : Decidable (Holds s word) :=
  decidable_of_iff _ (mentions_iff_holds s word)

/-- A text that holds a word is not empty. -/
theorem Holds.nonempty {s word : String} (h : Holds s word) (hword : word ≠ "") : s ≠ "" := by
  rcases h with ⟨before, after, rfl⟩
  intro hempty
  have hchars := congrArg String.toList hempty
  rw [String.toList_append, String.toList_append] at hchars
  have hpair := List.append_eq_nil_iff.mp (List.append_eq_nil_iff.mp hchars).1
  exact hword (String.toList_eq_nil_iff.mp hpair.2)

/-- The text neither ends its quotes nor its line. -/
def IsPlain (s : String) : Prop :=
  '"' ∉ s.toList ∧ '\n' ∉ s.toList ∧ '\r' ∉ s.toList

/-- What is wrong with a text that is not plain. A quote is found before a line
    break, wherever the two stand. -/
def flaw? (s : String) : Option Malformed :=
  if '"' ∈ s.toList then some (.doubleQuote s)
  else if '\n' ∈ s.toList ∨ '\r' ∈ s.toList then some (.lineBreak s)
  else none

/-- Nothing is wrong with a plain text. -/
theorem flaw?_eq_none_iff (s : String) : flaw? s = none ↔ IsPlain s := by
  unfold flaw? IsPlain
  split_ifs with hquote hbreak
  · simp [hquote]
  · rw [← not_or]
    simp [hbreak]
  · rw [not_or] at hbreak
    simp [hquote, hbreak]

/-- A text that is not empty is refused between quotes for what is wrong with
    it. -/
theorem checkText_quoted_eq {s : String} (h : s ≠ "") :
    FieldSpec.checkText false false s = (flaw? s).elim (.ok ()) .error := by
  have hempty : s.toList.isEmpty = false := by
    rwa [List.isEmpty_eq_false_iff, ne_eq, String.toList_eq_nil_iff]
  have hbreak : (s.toList.any fun c => c == '\n' || c == '\r') = true ↔
      '\n' ∈ s.toList ∨ '\r' ∈ s.toList := by
    simp [List.any_eq_true, and_or_left, exists_or]
  unfold FieldSpec.checkText flaw?
  simp only [hempty, Bool.false_and, Bool.false_eq_true, if_false, List.contains_iff_mem, hbreak]
  split_ifs
  all_goals rfl

end Text

/-! ## The choice of items -/

namespace Item

/-- The item has energy shield and no other armour, and its name holds the word
    of the expert tier. -/
def IsShieldExpert (i : Item) : Prop :=
  (∃ a, i.armour = some a ∧ 0 < a.energyShield.min.toInt ∧ a.evasion.min.toInt ≤ 0 ∧
    a.armour.min.toInt ≤ 0) ∧ Text.Holds i.base.name "Expert"

/-- The item is a wand by its name, and not one that stands for random ones. -/
def IsProperWand (i : Item) : Prop :=
  Text.Holds i.base.name "Wand" ∧ ¬ Text.Holds i.base.name "Random"

/-- The test for expert bases finds them. -/
theorem isEnergyShieldExpertBase_iff (i : Item) :
    i.isEnergyShieldExpertBase = true ↔ i.IsShieldExpert := by
  unfold isEnergyShieldExpertBase IsShieldExpert
  cases i.armour with
  | none => simp
  | some a =>
      have hzero : Int32.toInt 0 = 0 := by decide
      simp only [Bool.and_eq_true, decide_eq_true_eq, Text.mentions_iff_holds,
        Int32.lt_iff_toInt_lt, Int32.le_iff_toInt_le, hzero, Option.some.injEq, exists_eq_left',
        and_assoc]

/-- The test for wands finds them. -/
theorem isWand_iff (i : Item) : i.isWand = true ↔ i.IsProperWand := by
  rw [isWand, IsProperWand, Bool.and_eq_true, Bool.not_eq_true', ← Bool.not_eq_true,
    Text.mentions_iff_holds, Text.mentions_iff_holds]

instance : DecidablePred IsShieldExpert :=
  fun i => decidable_of_iff _ i.isEnergyShieldExpertBase_iff

instance : DecidablePred IsProperWand :=
  fun i => decidable_of_iff _ i.isWand_iff

/-- The items with a preset rule, in the order of the rules. -/
def chosen (items : List Item) : List Item :=
  items.filter (fun i => i.IsShieldExpert) ++ items.filter (fun i => i.IsProperWand)

/-- There is a preset rule for each chosen item. -/
theorem presetRules_eq (items : List Item) :
    presetRules items = (chosen items).map fun i => i.showBaseType.highlight := by
  have hexpert : ∀ i ∈ items, i.isEnergyShieldExpertBase = decide i.IsShieldExpert := by
    intro i _
    rw [Bool.eq_iff_iff, decide_eq_true_eq]
    exact i.isEnergyShieldExpertBase_iff
  have hwand : ∀ i ∈ items, i.isWand = decide i.IsProperWand := by
    intro i _
    rw [Bool.eq_iff_iff, decide_eq_true_eq]
    exact i.isWand_iff
  rw [presetRules, chosen, List.filter_congr hexpert, List.filter_congr hwand]

/-- A chosen item has a name, since its name holds a word. -/
theorem name_ne_empty_of_mem_chosen {items : List Item} {i : Item} (h : i ∈ chosen items) :
    i.base.name ≠ "" := by
  rw [chosen, List.mem_append, List.mem_filter, List.mem_filter, decide_eq_true_eq,
    decide_eq_true_eq] at h
  rcases h with ⟨-, -, hname⟩ | ⟨-, hname, -⟩
  · exact hname.nonempty (by decide)
  · exact hname.nonempty (by decide)

end Item

/-! ## The rule of an item -/

namespace Field

/-- The value that a setting has in the highlight. -/
def highlight? : (f : Field) → Option f.kind.Value
  | .action .setBorderColor => some Color.signalRed
  | .action .setTextColor => some Color.signalRed
  | .action .setFontSize => some (35 : UInt32)
  | .action .playAlertSound => some (AlertSound.mk (some 1) 100)
  | .action .minimapIcon => some (MinimapIcon.mk 0 .red .circle)
  | _ => none

/-- The fields that the highlight sets, in catalogue order. -/
def highlightFields : List (FieldSpec × FieldValue) :=
  all.filterMap fun f => f.highlight?.map fun v => (f.spec, f.kind.shape v)

/-- A value without entries and free texts has only the limits of its field to
    keep. -/
theorem check_of_allows {f : Field} {v : f.kind.Value} (hlist : f.kind.entryCount? v = none)
    (htexts : f.kind.freeTexts v = []) (hnumbers : ∀ n ∈ f.kind.numbersOf v, f.spec.Allows n) :
    f.spec.check (f.kind.shape v) = .ok () := by
  refine (f.check_eq_ok_iff v).mpr ⟨?_, ?_, hnumbers⟩
  · rw [hlist]
    exact (Option.some_ne_none 0).symm
  · rw [htexts]
    exact fun s hs => absurd hs List.not_mem_nil

/-- The values of the highlight are within the limits of their fields. -/
theorem check_highlight {f : Field} {v : f.kind.Value} (h : f.highlight? = some v) :
    f.spec.check (f.kind.shape v) = .ok () := by
  unfold highlight? at h
  split at h
  · cases h
    exact check_of_allows rfl rfl fun n _ => FieldSpec.allows_of_range_eq_none rfl n
  · cases h
    exact check_of_allows rfl rfl fun n _ => FieldSpec.allows_of_range_eq_none rfl n
  · cases h
    refine check_of_allows rfl rfl fun n hn => ?_
    rw [FieldSpec.allows_iff_of_range 1 45 rfl]
    revert n
    decide
  · cases h
    refine check_of_allows rfl rfl fun n hn => ?_
    rw [FieldSpec.allows_iff_of_range 0 300 rfl]
    revert n
    decide
  · cases h
    refine check_of_allows rfl rfl fun n hn => ?_
    rw [FieldSpec.allows_iff_of_range 0 2 rfl]
    revert n
    decide
  · cases h

end Field

namespace Rule

/-- A setting has its value in the highlight, if it has one there, and otherwise
    the value that it had before. -/
theorem get_highlight (r : Rule) (f : Field) :
    r.highlight.get f = (f.highlight?).or (r.get f) := by
  cases f with
  | condition c => rfl
  | action a =>
      rcases r with ⟨b, cs, _ | s⟩
      · cases a <;> rfl
      · cases a <;> rfl

/-- No field of the highlight is refused. -/
theorem filterMap_refusal?_highlightFields (index : Nat) :
    Field.highlightFields.filterMap (refusal? index) = [] := by
  rw [List.filterMap_eq_nil_iff]
  intro p hp
  rw [Field.highlightFields, List.mem_filterMap] at hp
  rcases hp with ⟨f, -, hp⟩
  rw [Option.map_eq_some_iff] at hp
  rcases hp with ⟨v, hv, rfl⟩
  rw [refusal?, Field.check_highlight hv]

end Rule

namespace Item

/-- The rule shows the base type of the item with the highlight, and asks and
    does nothing else. -/
structure IsShownBy (i : Item) (r : Rule) : Prop where
  blockType : r.blockType = .shows
  baseType : r.get (.condition .baseType) = some ⟨.eq, [i.base.name]⟩
  otherConditions : ∀ c, c ≠ .baseType → r.get (.condition c) = none
  actions : ∀ a, r.get (.action a) = (Field.action a).highlight?

/-- The preset rule of an item shows it. -/
theorem isShownBy_preset (i : Item) : i.IsShownBy i.showBaseType.highlight := by
  refine ⟨rfl, rfl, fun c hc => ?_, fun a => ?_⟩
  · exact Settings.get_set_of_ne Settings.empty _ hc
  · rw [Rule.get_highlight]
    exact Option.or_none

/-- The seven lines of the preset rule of an item. The colours leave their alpha
    to the game, so a space remains at the end of their lines. -/
def presetBlock (i : Item) : String :=
  "\n".intercalate ["Show", "BaseType = \"" ++ i.base.name ++ "\"", "SetBorderColor 255 0 0 ",
    "SetTextColor 255 0 0 ", "SetFontSize 35", "PlayAlertSound 1 100", "MinimapIcon 0 Red Circle"]

/-- The fields of the preset rule of an item: its name, and the highlight. -/
theorem fields_preset (i : Item) :
    i.showBaseType.highlight.fields =
      ((Field.condition .baseType).spec, .comparison .eq [.text i.base.name]) ::
        Field.highlightFields :=
  rfl

/-- The text of the preset rule of an item. -/
theorem text_preset (i : Item) : i.showBaseType.highlight.text = i.presetBlock := by
  have hfixed : (Field.highlightFields.map fun p => p.1.renderLine p.2) =
      ["SetBorderColor 255 0 0 ", "SetTextColor 255 0 0 ", "SetFontSize 35",
        "PlayAlertSound 1 100", "MinimapIcon 0 Red Circle"] := by
    decide +kernel
  rw [Rule.text, Rule.lines, fields_preset, List.map_cons, hfixed]
  rfl

/-- The preset rule of an item is refused for what is wrong with its name, and
    for nothing else. -/
theorem malformed_preset (i : Item) (h : i.base.name ≠ "") (index : Nat) :
    i.showBaseType.highlight.malformed index =
      ((Text.flaw? i.base.name).map fun reason => ⟨index, "BaseType", reason⟩).toList := by
  have hname : (Field.condition .baseType).spec.check (.comparison .eq [.text i.base.name]) =
      (Text.flaw? i.base.name).elim (.ok ()) .error := by
    -- The name is the only value of a comparison whose texts are quoted.
    have hcheck : (Field.condition .baseType).spec.check (.comparison .eq [.text i.base.name]) =
        (FieldSpec.checkText false false i.base.name >>= fun _ => .ok ()) := rfl
    rw [hcheck, Text.checkText_quoted_eq h]
    cases Text.flaw? i.base.name with
    | none => rfl
    | some reason => rfl
  rw [Rule.malformed_eq, fields_preset, List.filterMap_cons,
    Rule.filterMap_refusal?_highlightFields, Rule.refusal?, hname]
  cases Text.flaw? i.base.name with
  | none => rfl
  | some reason => rfl

/-- The preset rule of an item is accepted exactly if its name is plain. -/
theorem isAccepted_preset_iff (i : Item) (h : i.base.name ≠ "") :
    i.showBaseType.highlight.IsAccepted ↔ Text.IsPlain i.base.name := by
  rw [← Rule.malformed_eq_nil_iff _ 0, malformed_preset i h, Option.toList_eq_nil_iff,
    Option.map_eq_none_iff, Text.flaw?_eq_none_iff]

end Item

namespace Document

/-- Nothing of the preset rules is refused exactly if all chosen items have plain
    names. -/
theorem validate_presetRules_iff (items : List Item) :
    validate (presetRules items) = [] ↔ ∀ i ∈ Item.chosen items, Text.IsPlain i.base.name := by
  rw [validate_eq_nil_iff, Item.presetRules_eq, List.forall_mem_map]
  exact forall₂_congr fun i hi => i.isAccepted_preset_iff (Item.name_ne_empty_of_mem_chosen hi)

/-- The first refusal of the preset rules is for the first chosen item whose name
    is not plain. -/
theorem head?_validate_presetRules_iff (items : List Item) (e : MalformedValue) :
    (validate (presetRules items)).head? = some e ↔
      ∃ before i after, Item.chosen items = before ++ i :: after ∧
        (∀ j ∈ before, Text.IsPlain j.base.name) ∧ Text.flaw? i.base.name = some e.reason ∧
          e.field = "BaseType" ∧ e.rule = before.length := by
  have hname : ∀ i ∈ Item.chosen items, i.base.name ≠ "" :=
    fun i hi => Item.name_ne_empty_of_mem_chosen hi
  rw [validate, head?_malformedFrom_iff, Item.presetRules_eq]
  constructor
  · rintro ⟨rulesBefore, r, rulesAfter, hsplit, hbefore, hr⟩
    -- The rules are split where the chosen items are.
    rcases List.map_eq_append_iff.mp hsplit with ⟨before, rest, hchosen, rfl, hrest⟩
    rcases List.map_eq_cons_iff.mp hrest with ⟨i, after, rfl, rfl, rfl⟩
    rw [hchosen] at hname
    rw [List.forall_mem_append, List.forall_mem_cons] at hname
    rw [List.forall_mem_map] at hbefore
    rw [Item.malformed_preset i hname.2.1, Option.head?_toList, Option.map_eq_some_iff,
      List.length_map, Nat.zero_add] at hr
    rcases hr with ⟨reason, hreason, rfl⟩
    exact ⟨before, i, after, hchosen,
      fun j hj => (j.isAccepted_preset_iff (hname.1 j hj)).mp (hbefore j hj), hreason, rfl, rfl⟩
  · rintro ⟨before, i, after, hchosen, hbefore, hreason, hfield, hrule⟩
    rw [hchosen] at hname ⊢
    rw [List.forall_mem_append, List.forall_mem_cons] at hname
    refine ⟨_, _, _, List.map_append, ?_, ?_⟩
    · rw [List.forall_mem_map]
      exact fun j hj => (j.isAccepted_preset_iff (hname.1 j hj)).mpr (hbefore j hj)
    · rw [Item.malformed_preset i hname.2.1, hreason, List.length_map, Nat.zero_add, ← hrule,
        ← hfield]
      rfl

/-- The preset rules of a list of items. There is one for each expert base and
    then one for each wand, in the order of the items. They compile exactly if
    no chosen name has a quote or a line break in it, to seven lines for each
    chosen item. Otherwise the failure names the first chosen item with such a
    name, by its position among the chosen ones. -/
theorem compile_presetRules (items : List Item) :
    List.Forall₂ Item.IsShownBy
      (items.filter (fun i => i.IsShieldExpert) ++ items.filter (fun i => i.IsProperWand))
      (presetRules items) ∧
    (∀ d, compile (presetRules items) = .ok d ↔
      (∀ i ∈ Item.chosen items, Text.IsPlain i.base.name) ∧
        d = "\n\n".intercalate ((Item.chosen items).map Item.presetBlock)) ∧
    ∀ e, compile (presetRules items) = .error e ↔
      ∃ before i after, Item.chosen items = before ++ i :: after ∧
        (∀ j ∈ before, Text.IsPlain j.base.name) ∧ Text.flaw? i.base.name = some e.reason ∧
          e.field = "BaseType" ∧ e.rule = before.length := by
  have htext : text (presetRules items) =
      "\n\n".intercalate ((Item.chosen items).map Item.presetBlock) := by
    rw [text, Item.presetRules_eq, List.map_map]
    exact congrArg _ (List.map_congr_left fun i _ => i.text_preset)
  refine ⟨?_, fun d => ?_, fun e => ?_⟩
  · rw [Item.presetRules_eq, List.forall₂_map_right_iff]
    exact List.forall₂_same.mpr fun i _ => i.isShownBy_preset
  · rw [compile_eq_ok_iff, validate_presetRules_iff, htext, eq_comm]
  · rw [compile_eq_error_iff, head?_validate_presetRules_iff]

end Document

end LootFilter
