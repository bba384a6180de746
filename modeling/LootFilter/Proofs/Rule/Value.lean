import LootFilter.Proofs.Json.Record
import LootFilter.Proofs.Json.Written
import LootFilter.Rule.Value

/-!
# Reading Values Back

The value of a setting is read as it was written, whatever its kind. Each
compound type is put together from readers that are known to read back, in the
way in which its description is put together.

Two more facts about the spelling are needed where values stand in an object.
No value is written as `null`, which would be taken for an absent one. And all
numbers are integers, so the spelling keeps its numbers in a text.

The words of a list have names too, their positions, and a list is read as the
object with these names would be.

## Theorems

* `Kind.readsBack_decode`: A value is read as it was written.
* `Kind.toJson_ne_null`: No value is written as `null`.
* `Kind.isWhole_toJson`: The numbers of a value are integers of 64 bits.
-/

namespace LootFilter

instance : ReadableVocabulary BlockType := ⟨by decide⟩
instance : ReadableVocabulary Rarity := ⟨by decide⟩
instance : ReadableVocabulary GemQualityType := ⟨by decide⟩
instance : ReadableVocabulary Influence := ⟨by decide⟩
instance : ReadableVocabulary StandardColor := ⟨by decide⟩
instance : ReadableVocabulary IconShape := ⟨by decide⟩
instance : ReadableVocabulary EffectDuration := ⟨by decide⟩
instance : ReadableVocabulary Operator := ⟨by decide⟩

/-! ## Compound values -/

/-- A comparison is read back if its values are. -/
theorem Comparison.readsBack_decode {α : Type} {read : Decoder α} {write : α → Json}
    (origin : Origin) (h : Decode.ReadsBack read write) :
    Decode.ReadsBack (decode origin read) (toJson write) := by
  intro c
  have hop := Record.reads_required "op" (Vocabulary.readsBack_decode origin c.op)
  have hvalues := Record.reads_required "values" (h.list c.values)
  exact ((hop.both hvalues (by simp)).map _).decode origin "Comparison" false

/-- A colour is read back. -/
theorem Color.readsBack_slots (origin : Origin) :
    Decode.ReadsBack (slots.decodeTuple origin "Color") toJson := by
  intro c
  have hred := Record.reads_required "0" (Decode.readsBack_uint8 c.red)
  have hgreen := Record.reads_required "1" (Decode.readsBack_uint8 c.green)
  have hblue := Record.reads_required "2" (Decode.readsBack_uint8 c.blue)
  have halpha := Record.reads_required "3"
    (Decode.readsBack_uint8.optional (fun _ => Json.noConfusion) c.alpha)
  have hslots := hred.both (hgreen.both (hblue.both halpha (by simp)) (by simp)) (by simp)
  exact (hslots.map _).decodeTuple rfl origin "Color"

/-- A sound is read back. -/
theorem AlertSound.readsBack_slots (origin : Origin) :
    Decode.ReadsBack (slots.decodeTuple origin "AlertSound") toJson := by
  intro s
  have hid := Record.reads_required "0"
    (Decode.readsBack_uint32.optional (fun _ => Json.noConfusion) s.id)
  have hvolume := Record.reads_required "1" (Decode.readsBack_uint32 s.volume)
  exact ((hid.both hvolume (by simp)).map _).decodeTuple rfl origin "AlertSound"

/-- An icon is read back. -/
theorem MinimapIcon.readsBack_slots (origin : Origin) :
    Decode.ReadsBack ((slots origin).decodeTuple origin "MinimapIcon") toJson := by
  intro i
  have hsize := Record.reads_required "0" (Decode.readsBack_uint8 i.size)
  have hcolor := Record.reads_required "1" (Vocabulary.readsBack_decode origin i.color)
  have hshape := Record.reads_required "2" (Vocabulary.readsBack_decode origin i.shape)
  have hslots := hsize.both (hcolor.both hshape (by simp)) (by simp)
  exact (hslots.map _).decodeTuple rfl origin "MinimapIcon"

/-- A beam is read back. -/
theorem PlayEffect.readsBack_slots (origin : Origin) :
    Decode.ReadsBack ((slots origin).decodeTuple origin "PlayEffect") toJson := by
  intro e
  have hcolor := Record.reads_required "0" (Vocabulary.readsBack_decode origin e.color)
  have hduration := Record.reads_required "1"
    ((Vocabulary.readsBack_decode origin).optional (fun _ => Json.noConfusion) e.duration)
  exact ((hcolor.both hduration (by simp)).map _).decodeTuple rfl origin "PlayEffect"

namespace Json

/-- An unsigned 8-bit number is an integer of 64 bits. -/
theorem isWhole_uint8 (n : UInt8) : IsWhole (.uint8 n) := by
  have hlt := n.toNat_lt
  rw [uint8, int, IsWhole, Number.IsWhole]
  omega

/-- An unsigned 32-bit number is an integer of 64 bits. -/
theorem isWhole_uint32 (n : UInt32) : IsWhole (.uint32 n) := by
  have hlt := n.toNat_lt
  rw [uint32, int, IsWhole, Number.IsWhole]
  omega

/-- A text has no numbers. -/
theorem isWhole_string (s : String) : IsWhole (.string s) := by
  rw [IsWhole]
  trivial

/-- An optional value has at most the numbers of the value. -/
theorem isWhole_orNull {α : Type} {write : α → Json} (h : ∀ a, IsWhole (write a))
    (x : Option α) : IsWhole (.orNull (x.map write)) := by
  cases x with
  | none =>
      rw [Option.map_none, orNull, IsWhole]
      trivial
  | some a => exact h a

/-- A list of values has the numbers of its values. -/
theorem isWhole_map {α : Type} {write : α → Json} (h : ∀ a, IsWhole (write a)) (l : List α) :
    IsWhole (.array (l.map write)) := by
  rw [isWhole_array_iff]
  intro j hj
  rcases List.mem_map.mp hj with ⟨a, -, rfl⟩
  exact h a

end Json

/-- A comparison has the numbers of its values. -/
theorem Comparison.isWhole_toJson {α : Type} {write : α → Json} (h : ∀ a, (write a).IsWhole)
    (c : Comparison α) : (c.toJson write).IsWhole := by
  rw [toJson, Json.isWhole_object_iff]
  simp only [List.forall_mem_cons, List.not_mem_nil, false_imp_iff, implies_true, and_true]
  exact ⟨Json.isWhole_string _, Json.isWhole_map h c.values⟩

namespace Kind

/-- A value is read as it was written. -/
theorem readsBack_decode (origin : Origin) (k : Kind) :
    Decode.ReadsBack (k.decode origin) k.toJson := by
  cases k with
  | numbers => exact Comparison.readsBack_decode origin Decode.readsBack_uint32
  | rarities => exact Comparison.readsBack_decode origin (Vocabulary.readsBack_decode origin)
  | texts => exact Comparison.readsBack_decode origin Decode.readsBack_text
  | textList => exact Decode.readsBack_text.list
  | flag => exact Decode.readsBack_bool
  | number => exact Decode.readsBack_uint32
  | word => exact Decode.readsBack_text
  | quotedText => exact Decode.readsBack_text
  | gemQuality => exact Vocabulary.readsBack_decode origin
  | influence => exact Vocabulary.readsBack_decode origin
  | color => exact Color.readsBack_slots origin
  | sound => exact AlertSound.readsBack_slots origin
  | icon => exact MinimapIcon.readsBack_slots origin
  | effect => exact PlayEffect.readsBack_slots origin

/-- No value is written as `null`, so a present value is never taken for an
    absent one. -/
theorem toJson_ne_null (k : Kind) (v : k.Value) : k.toJson v ≠ .null := by
  cases k
  all_goals exact Json.noConfusion

/-- The numbers of a value are integers of 64 bits. -/
theorem isWhole_toJson (k : Kind) (v : k.Value) : (k.toJson v).IsWhole := by
  cases k with
  | numbers => exact Comparison.isWhole_toJson Json.isWhole_uint32 v
  | rarities => exact Comparison.isWhole_toJson (fun _ => Json.isWhole_string _) v
  | texts => exact Comparison.isWhole_toJson Json.isWhole_string v
  | textList => exact Json.isWhole_map Json.isWhole_string v
  | flag => exact trivial
  | number => exact Json.isWhole_uint32 v
  | word => exact Json.isWhole_string v
  | quotedText => exact Json.isWhole_string v
  | gemQuality => exact Json.isWhole_string _
  | influence => exact Json.isWhole_string _
  | color =>
      exact ⟨Json.isWhole_uint8 _, Json.isWhole_uint8 _, Json.isWhole_uint8 _,
        Json.isWhole_orNull Json.isWhole_uint8 _, trivial⟩
  | sound =>
      exact ⟨Json.isWhole_orNull Json.isWhole_uint32 _, Json.isWhole_uint32 _, trivial⟩
  | icon =>
      exact ⟨Json.isWhole_uint8 _, Json.isWhole_string _, Json.isWhole_string _, trivial⟩
  | effect =>
      exact ⟨Json.isWhole_string _, Json.isWhole_orNull (fun _ => Json.isWhole_string _) _,
        trivial⟩

end Kind

end LootFilter
