import LootFilter.Filter.Document
import LootFilter.Proofs.Json.Grammar
import LootFilter.Proofs.Json.Reorder
import LootFilter.Proofs.Rule.RoundTrip
import LootFilter.Proofs.Rule.Undeclared

/-!
# Rule Files in Another Order

The order in which a rule file writes its keys has no meaning. This is more than it says
of one object, since there are objects within objects: the comparison of a condition within
a section within a rule. The reader goes through them in the order of the text and stops at
the first problem, so what has to be shown is that it finds no problem in any other order
if it found none in this one, and that it ends up with the same rules.

Everything in a rule file is read by readers that are put together from others, and a reader
that is blind to the order is made of blind ones. Only a section needs a look at its members.
It remembers the keys that it met in the order in which it met them, so two orders do not
end in the same state, but in states that differ in nothing else (`Settings.SameSlots`).

A tree in another order says nothing about texts by itself. What it has to do with them is
said by the grammar: a text that is accepted spells a tree, and any text that spells the tree
in its new order is what is meant by the file with its keys moved around.

## Main definitions

* `Settings.SameSlots`: The same keys were met, in any order.

## Theorems

* `Settings.putMembers_perm`: The members of a section can be read in any order.
* `Kind.isOrderBlind_decode`, `Rule.isOrderBlind_decode`: Values and rules.
* `Rule.ofText_of_reordered`: The order of keys in a rule file does not matter.
-/

namespace LootFilter

namespace Settings

variable {ι : Type} [RuleSection ι] [DecidableEq ι]

/-- Two settings are updated in either order. -/
theorem update_comm (s : Settings ι) {i j : ι} (h : i ≠ j)
    (v : Option (RuleSection.kind i).Value) (w : Option (RuleSection.kind j).Value) :
    (s.update i v).update j w = (s.update j w).update i v := by
  ext1
  funext k
  by_cases hi : k = i
  · subst hi
    simp [update, h]
  · simp [update, hi]

variable {origin : Origin}

/-- A value under the key of a setting is read by the reader of its kind. -/
theorem put_under_key (x : List String × Settings ι) (i : ι) (f : Fragment) :
    (record origin).put x (RuleSection.key i) f =
      (Decode.optional ((RuleSection.kind i).decode origin) f).map fun value =>
        (RuleSection.key i :: x.1, x.2.update i value) := by
  simp only [record, RuleSection.ofKey?_key]

/-- A step of the reader gives a value to a setting whose key was not met before, or
    deprives it of one. -/
theorem putMember_eq_ok_iff {x y : (record (ι := ι) origin).Slots} {m : Fragment × Fragment} :
    (record origin).putMember true x m = .ok y ↔
      ∃ (i : ι) (value : Option (RuleSection.kind i).Value),
        m.1 = .string (some (RuleSection.key i)) ∧ RuleSection.key i ∉ x.1 ∧
          Decode.optional ((RuleSection.kind i).decode origin) m.2 = .ok value ∧
            y = (RuleSection.key i :: x.1, x.2.update i value) := by
  refine Record.putMember_eq_ok_iff.trans ⟨?_, ?_⟩
  · rintro ⟨name, hkey, ⟨hname, hset, hput⟩ | ⟨-, hlax, -⟩⟩
    · rcases List.mem_map.mp hname with ⟨i, -, rfl⟩
      rcases (map_eq_ok_iff _ _ _).mp ((put_under_key x i m.2).symm.trans hput)
        with ⟨value, hvalue, hy⟩
      refine ⟨i, value, hkey, fun hmem => ?_, hvalue, hy.symm⟩
      exact Bool.eq_false_iff.mp hset (List.contains_iff_mem.mpr hmem)
    · cases hlax
  · rintro ⟨i, value, hkey, hfresh, hvalue, rfl⟩
    have hknown : RuleSection.key i ∈ (record (ι := ι) origin).names :=
      List.mem_map_of_mem (RuleSection.mem_all i)
    refine ⟨RuleSection.key i, hkey, Or.inl ⟨hknown, ?_, ?_⟩⟩
    · exact Bool.eq_false_iff.mpr fun hset => hfresh (List.contains_iff_mem.mp hset)
    · exact (put_under_key x i m.2).trans (congrArg (Except.map _) hvalue)

/-- The same settings have values, and the same keys were met, in whatever order. -/
def SameSlots (x y : List String × Settings ι) : Prop :=
  x.1.Perm y.1 ∧ x.2 = y.2

/-- The order in which keys were met does not matter to the members behind them. -/
theorem putMembers_of_sameSlots {ms : List (Fragment × Fragment)}
    {x x' y : (record (ι := ι) origin).Slots} (hx : SameSlots x x')
    (h : (record origin).putMembers true x ms = .ok y) :
    ∃ y', (record origin).putMembers true x' ms = .ok y' ∧ SameSlots y y' := by
  induction ms generalizing x x' with
  | nil =>
      cases h
      exact ⟨x', rfl, hx⟩
  | cons m rest ih =>
      rcases Record.putMembers_cons_eq_ok_iff.mp h with ⟨z, hz, hrest⟩
      rcases putMember_eq_ok_iff.mp hz with ⟨i, value, hkey, hfresh, hvalue, rfl⟩
      have hfresh' : RuleSection.key i ∉ x'.1 := fun hmem => hfresh (hx.1.mem_iff.mpr hmem)
      have hsame : SameSlots (RuleSection.key i :: x.1, x.2.update i value)
          (RuleSection.key i :: x'.1, x'.2.update i value) :=
        ⟨hx.1.cons _, congrArg (fun s => s.update i value) hx.2⟩
      rcases ih hsame hrest with ⟨y', hy', hyy'⟩
      exact ⟨y', Record.putMembers_cons_eq_ok_iff.mpr
        ⟨_, putMember_eq_ok_iff.mpr ⟨i, value, hkey, hfresh', hvalue, rfl⟩, hy'⟩, hyy'⟩

/-- Two members can be read in either order. -/
theorem putMember_comm {x y z : (record (ι := ι) origin).Slots} {m m' : Fragment × Fragment}
    (h : (record origin).putMember true x m = .ok y)
    (h' : (record origin).putMember true y m' = .ok z) :
    ∃ w z', (record origin).putMember true x m' = .ok w ∧
      (record origin).putMember true w m = .ok z' ∧ SameSlots z z' := by
  rcases putMember_eq_ok_iff.mp h with ⟨i, v, hkey, hfresh, hv, rfl⟩
  rcases putMember_eq_ok_iff.mp h' with ⟨j, w, hkey', hfresh', hw, rfl⟩
  -- The second key was not met behind the first one, so it is another one.
  rw [List.mem_cons, not_or] at hfresh'
  have hne : i ≠ j := fun hij => hfresh'.1 (hij ▸ rfl)
  have hbehind : RuleSection.key i ∉ RuleSection.key j :: x.1 := by
    rw [List.mem_cons, not_or]
    exact ⟨fun hsame => hfresh'.1 hsame.symm, hfresh⟩
  exact ⟨_, _, putMember_eq_ok_iff.mpr ⟨j, w, hkey', hfresh'.2, hw, rfl⟩,
    putMember_eq_ok_iff.mpr ⟨i, v, hkey, hbehind, hv, rfl⟩, .swap _ _ _,
    update_comm x.2 hne v w⟩

/-- The members of a section can be read in any order, and give the same values. -/
theorem putMembers_perm {ms ns : List (Fragment × Fragment)} (hperm : ms.Perm ns)
    {x y : (record (ι := ι) origin).Slots} (h : (record origin).putMembers true x ms = .ok y) :
    ∃ y', (record origin).putMembers true x ns = .ok y' ∧ SameSlots y y' := by
  induction hperm generalizing x y with
  | nil => exact ⟨y, h, .refl _, rfl⟩
  | cons m rest ih =>
      rcases Record.putMembers_cons_eq_ok_iff.mp h with ⟨z, hz, hrest⟩
      rcases ih hrest with ⟨y', hy', hyy'⟩
      exact ⟨y', Record.putMembers_cons_eq_ok_iff.mpr ⟨z, hz, hy'⟩, hyy'⟩
  | swap m m' rest =>
      rcases Record.putMembers_cons_eq_ok_iff.mp h with ⟨z, hz, hmore⟩
      rcases Record.putMembers_cons_eq_ok_iff.mp hmore with ⟨u, hu, hrest⟩
      rcases putMember_comm hz hu with ⟨w, u', hw, hu', hsame⟩
      rcases putMembers_of_sameSlots hsame hrest with ⟨y', hy', hyy'⟩
      exact ⟨y', Record.putMembers_cons_eq_ok_iff.mpr
        ⟨w, hw, Record.putMembers_cons_eq_ok_iff.mpr ⟨u', hu', hy'⟩⟩, hyy'⟩
  | trans _ _ ih ih' =>
      rcases ih h with ⟨z, hz, hyz⟩
      rcases ih' hz with ⟨w, hw, hzw⟩
      exact ⟨w, hw, hyz.1.trans hzw.1, hyz.2.trans hzw.2⟩

/-- So the object of a section is read in the same way with its members in any order. -/
theorem decode_object_perm {ms ns : List (Fragment × Fragment)} (hperm : ms.Perm ns)
    {type : String} {closed : Bool} {s : Settings ι}
    (h : (record origin).decode origin type true (.object ms closed) = .ok s) :
    (record origin).decode origin type true (.object ns closed) = .ok s := by
  rw [Record.decode, Record.ofMembers, bind_eq_ok_iff] at h ⊢
  rcases h with ⟨x, hx, hfinish⟩
  rcases putMembers_perm hperm hx with ⟨x', hx', hsame⟩
  refine ⟨x', hx', ?_⟩
  -- Which keys were met is forgotten at the end.
  change (if closed = true then Except.ok x'.2 else Except.error Fault.invalidJson) = .ok s
  rw [← hsame.2]
  exact hfinish

/-- The values of a section are read by the readers of their kinds. -/
theorem isOrderBlind_record
    (h : ∀ k : Kind, Decode.IsOrderBlind (k.decode origin)) :
    (record (ι := ι) origin).IsOrderBlind := by
  intro x y name f f' hname hstep hput
  rcases List.mem_map.mp hname with ⟨i, -, rfl⟩
  rcases (map_eq_ok_iff _ _ _).mp ((put_under_key x i f).symm.trans hput) with ⟨value, hvalue, hy⟩
  exact (put_under_key x i f').trans
    ((map_eq_ok_iff _ _ _).mpr ⟨value, (h _).optional hstep hvalue, hy⟩)

end Settings

/-- The slots of a colour hold numbers. -/
theorem Color.isOrderBlind_slots : slots.IsOrderBlind :=
  have number (name : String) := Record.IsOrderBlind.required Decode.isOrderBlind_uint8 name
  ((number "0").both ((number "1").both ((number "2").both
    (.required Decode.isOrderBlind_uint8.optional "3")))).map _

/-- Those of a sound do too. -/
theorem AlertSound.isOrderBlind_slots : slots.IsOrderBlind :=
  ((Record.IsOrderBlind.required Decode.isOrderBlind_uint32.optional "0").both
    (.required Decode.isOrderBlind_uint32 "1")).map _

/-- Those of an icon hold a number and keywords. -/
theorem MinimapIcon.isOrderBlind_slots : (slots .text).IsOrderBlind :=
  ((Record.IsOrderBlind.required Decode.isOrderBlind_uint8 "0").both
    ((Record.IsOrderBlind.required (Vocabulary.isOrderBlind_decode StandardColor) "1").both
      (.required (Vocabulary.isOrderBlind_decode IconShape) "2"))).map _

/-- Those of a beam hold keywords. -/
theorem PlayEffect.isOrderBlind_slots : (slots .text).IsOrderBlind :=
  ((Record.IsOrderBlind.required (Vocabulary.isOrderBlind_decode StandardColor) "0").both
    (.required (Vocabulary.isOrderBlind_decode EffectDuration).optional "1")).map _

/-- The operator and the values of a comparison have slots of their own. -/
instance Comparison.isOrderFree_record {α : Type} (origin : Origin) (item : Decoder α) :
    (record origin item).IsOrderFree :=
  Record.isOrderFree_map _

/-- A comparison is read in the same way with its members in either order. -/
theorem Comparison.isOrderBlind_decode {α : Type} {item : Decoder α}
    (h : Decode.IsOrderBlind item) : Decode.IsOrderBlind (decode .text item) := by
  have hrecord : (record .text item).IsOrderBlind :=
    ((Record.IsOrderBlind.required (Vocabulary.isOrderBlind_decode Operator) _).both
      (.required (Decode.isOrderBlind_list h) _)).map _
  exact hrecord.decode_of_isOrderFree

/-- The values of every kind. -/
theorem Kind.isOrderBlind_decode (k : Kind) : Decode.IsOrderBlind (k.decode .text) := by
  cases k with
  | numbers => exact Comparison.isOrderBlind_decode Decode.isOrderBlind_uint32
  | rarities => exact Comparison.isOrderBlind_decode (Vocabulary.isOrderBlind_decode Rarity)
  | texts => exact Comparison.isOrderBlind_decode Decode.isOrderBlind_text
  | textList => exact Decode.isOrderBlind_list Decode.isOrderBlind_text
  | flag => exact Decode.isOrderBlind_bool
  | number => exact Decode.isOrderBlind_uint32
  | word => exact Decode.isOrderBlind_text
  | quotedText => exact Decode.isOrderBlind_text
  | gemQuality => exact Vocabulary.isOrderBlind_decode GemQualityType
  | influence => exact Vocabulary.isOrderBlind_decode Influence
  | color => exact Color.isOrderBlind_slots.decodeTuple
  | sound => exact AlertSound.isOrderBlind_slots.decodeTuple
  | icon => exact MinimapIcon.isOrderBlind_slots.decodeTuple
  | effect => exact PlayEffect.isOrderBlind_slots.decodeTuple

/-- The settings of a section may stand in any order. -/
theorem Settings.isOrderBlind_decode {ι : Type} [RuleSection ι] [DecidableEq ι] (name : String) :
    Decode.IsOrderBlind (decode (ι := ι) .text name) :=
  (isOrderBlind_record Kind.isOrderBlind_decode).decode fun hperm => decode_object_perm hperm

namespace Rule

/-- The members of a rule have slots of their own. -/
instance isOrderFree_record (origin : Origin) : (record origin).IsOrderFree :=
  Record.isOrderFree_map _

/-- So may the members of a rule. -/
theorem isOrderBlind_decode : Decode.IsOrderBlind (decode .text) := by
  have hrecord : (record .text).IsOrderBlind :=
    ((Record.IsOrderBlind.required (Vocabulary.isOrderBlind_decode BlockType) _).both
      ((Record.IsOrderBlind.optional (Settings.isOrderBlind_decode _) _).both
        (.optional (Settings.isOrderBlind_decode _) _))).map _
  exact hrecord.decode_of_isOrderFree

/-- The order of keys in a rule file does not matter. A rule file that is accepted spells a
    tree, and the members of any objects in the tree, at any depth, are put into another
    order. Then every text that spells the tree in its new order is accepted too. It has the
    same rules, so validation finds the same values, and the same document is compiled. It
    does not matter either whether an object has a key twice: where that is accepted, the
    key is not looked at. -/
theorem ofText_of_reordered {text : String} {rules : List Rule} (h : ofText text = .ok rules) :
    ∃ file, Fragment.Spells text.toList (.value file) ∧
      ∀ (file' : Fragment) (text' : String), file.Reordered file' →
        Fragment.Spells text'.toList (.value file') → ofText text' = .ok rules ∧
          (ofText text').map Document.validate = (ofText text).map Document.validate ∧
          (ofText text').map Document.compile = (ofText text).map Document.compile := by
  rcases htext : Fragment.ofText text with ⟨file, ended⟩
  have hended : ended = true := by
    have hsnd := snd_ofText_of_ok h
    rwa [htext] at hsnd
  subst hended
  refine ⟨file, Fragment.ofText_eq_iff_spells.mp htext, fun file' text' hreordered hspells => ?_⟩
  have hsame : ofText text' = .ok rules := by
    have htext' := Fragment.ofText_eq_iff_spells.mpr hspells
    unfold ofText at h ⊢
    rw [htext, bind_eq_ok_iff] at h
    rw [htext', bind_eq_ok_iff]
    rcases h with ⟨rules', hlist, hrules⟩
    exact ⟨rules', (Decode.isOrderBlind_list isOrderBlind_decode).keeps hreordered hlist, hrules⟩
  rw [hsame, h]
  exact ⟨rfl, rfl, rfl⟩

/-- A rule with two conditions, with the keys in the order in which they are declared. -/
def orderedText : String :=
  "[\x7b\"blockType\":\"Hide\",\"conditions\":" ++
    "\x7b\"quality\":\x7b\"op\":\">\",\"values\":[5]\x7d,\"corrupted\":true\x7d\x7d]"

/-- The same rule with the keys of all three objects in reverse order. -/
def reversedText : String :=
  "[\x7b\"conditions\":\x7b\"corrupted\":true,\"quality\":" ++
    "\x7b\"values\":[5],\"op\":\">\"\x7d\x7d,\"blockType\":\"Hide\"\x7d]"

/-- The member of a key. -/
def keyed (key : String) (f : Fragment) : Fragment × Fragment :=
  (.string (some key), f)

/-- The tree of a file with one rule, where each of its three objects has an order of its
    members. -/
def hidingTree (outer middle inner : List (Fragment × Fragment) → List (Fragment × Fragment)) :
    Fragment :=
  .array [.object (outer [keyed "blockType" (.string (some "Hide")),
    keyed "conditions" (.object (middle [
      keyed "quality" (.object (inner [keyed "op" (.string (some ">")),
        keyed "values" (.array [.number (some (.int 5))] true)]) true),
      keyed "corrupted" (.bool true)]) true)]) true] true

/-- All three orders can be reversed. -/
theorem reordered_hidingTree :
    (hidingTree id id id).Reordered (hidingTree List.reverse List.reverse List.reverse) := by
  have hreverse (ms : List (Fragment × Fragment)) : ms.Perm ms.reverse :=
    (List.reverse_perm ms).symm
  have hinner : (hidingTree id id id).Reorder (hidingTree id id List.reverse) :=
    .item [] [] true (.member [_] [] _ true (.member [] [_] _ true (.here true (hreverse _))))
  have hmiddle : (hidingTree id id List.reverse).Reorder
      (hidingTree id List.reverse List.reverse) :=
    .item [] [] true (.member [_] [] _ true (.here true (hreverse _)))
  have houter : (hidingTree id List.reverse List.reverse).Reorder
      (hidingTree List.reverse List.reverse List.reverse) :=
    .item [] [] true (.here true (hreverse _))
  exact ((Relation.ReflTransGen.single hinner).tail hmiddle).tail houter

/-- The rule that hides corrupted items of good quality. -/
def hidingRule : Rule :=
  ⟨.hides, some ((Settings.empty.set .quality (Comparison.mk .gt [5])).set .corrupted true), none⟩

/-- The tree of the text. -/
theorem ofText_orderedText : Fragment.ofText orderedText = (hidingTree id id id, true) :=
  Fragment.ofText_of_compact_eq
    (j := .array [.object [("blockType", .string "Hide"),
      ("conditions", .object [("quality", .object [("op", .string ">"),
        ("values", .array [.uint32 5])]), ("corrupted", .bool true)])]])
    (by simp [Json.IsWhole, Json.IsWholeItems, Json.IsWholeMembers, Json.isWhole_uint32])
    (by decide +kernel)

/-- The tree of the text with its keys in reverse order. -/
theorem ofText_reversedText : Fragment.ofText reversedText =
    (hidingTree List.reverse List.reverse List.reverse, true) :=
  Fragment.ofText_of_compact_eq
    (j := .array [.object [("conditions", .object [("corrupted", .bool true),
      ("quality", .object [("values", .array [.uint32 5]), ("op", .string ">")])]),
        ("blockType", .string "Hide")]])
    (by simp [Json.IsWhole, Json.IsWholeItems, Json.IsWholeMembers, Json.isWhole_uint32])
    (by decide +kernel)

/-- The rule is read of either text. -/
theorem ofText_of_reordered_reversed :
    ofText orderedText = .ok [hidingRule] ∧ ofText reversedText = .ok [hidingRule] := by
  have hordered : ofText orderedText = .ok [hidingRule] := by
    rw [ofText, ofText_orderedText]
    rfl
  refine ⟨hordered, ?_⟩
  rcases ofText_of_reordered hordered with ⟨file, hfile, hall⟩
  have hsame : (hidingTree id id id, true) = (file, true) :=
    ofText_orderedText.symm.trans (Fragment.ofText_eq_iff_spells.mpr hfile)
  cases hsame
  exact (hall _ reversedText reordered_hidingTree
    (Fragment.ofText_eq_iff_spells.mp ofText_reversedText)).1

end Rule

end LootFilter
