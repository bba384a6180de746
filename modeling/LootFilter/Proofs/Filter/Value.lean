import LootFilter.Proofs.Filter.Line
import Std.Data.String.ToNat

/-!
# Values on a Line

The text of an accepted value tells which value it is, as long as the kind of
the value is known. The keyword at the start of a line gives the kind away, so
nothing more is needed to read a line.

The kinds are written in three ways. Numbers, tokens and bare texts are words
without spaces and can be told apart at the spaces; an absent slot is an empty
word, which no number and no token is. Texts between quotes can be told apart at
the quotes. An operator stands ahead of the values of a comparison, and since it
is a word too, the first space is the end of it.

Refusals matter only in two places. A list without entries would read as a list
with one empty entry, and texts with quotes or, where they stand bare, with
blanks would read as several texts.

## Theorems

* `Text.eq_of_spaced_map_eq`: Things that are written as words can be told
  apart.
* `FieldSpec.eq_of_render_comparison_eq`: So can the operator and the values of
  a comparison.
* `Kind.eq_of_render_eq`: The text of a value tells the value.
* `Field.eq_of_renderLine_eq`: A line tells its field and the value.
-/

namespace LootFilter

namespace Text

/-- Things that are written as words without spaces, each as its own one, can be
    told apart. -/
theorem eq_of_spaced_map_eq {α : Type} (word : α → String) (hspace : ∀ a, ' ' ∉ (word a).toList)
    (hword : ∀ a b, word a = word b → a = b) {as bs : List α} (has : as ≠ []) (hbs : bs ≠ [])
    (h : spaced (as.map word) = spaced (bs.map word)) : as = bs := by
  have hmap : as.map word = bs.map word := by
    refine eq_of_spaced_eq (List.forall_mem_map.mpr fun a _ => hspace a)
      (List.forall_mem_map.mpr fun b _ => hspace b) ?_ ?_ h
    · rwa [ne_eq, List.map_eq_nil_iff]
    · rwa [ne_eq, List.map_eq_nil_iff]
  exact (List.map_inj_right hword).mp hmap

/-- A word holds no space. -/
theorem IsWord.space_not_mem {s : String} (h : IsWord s) : ' ' ∉ s.toList :=
  h.not_mem_of_isBlank (by decide)

/-- A word between quotes holds no space either. -/
theorem IsWord.space_not_mem_quote {s : String} (h : IsWord s) :
    ' ' ∉ (Scalar.quote s).toList := by
  rw [toList_quote, List.mem_cons, List.mem_append, List.mem_singleton]
  rintro (hc | hc | hc)
  · exact absurd hc (by decide)
  · exact h.space_not_mem hc
  · exact absurd hc (by decide)

/-- A text is what stands between its quotes. -/
theorem eq_of_quote_eq {s t : String} (h : Scalar.quote s = Scalar.quote t) : s = t := by
  have hchars := congrArg String.toList h
  rw [toList_quote, toList_quote] at hchars
  exact String.toList_inj.mp (List.append_cancel_right (List.cons.inj hchars).2)

end Text

namespace Scalar

/-- Digits are a word. -/
theorem isWord_repr (n : Nat) : Text.IsWord (Nat.repr n) := by
  refine ⟨?_, ?_, isBlank_of_mem_repr n⟩
  · intro hempty
    have hchars := congrArg String.toList hempty
    rw [Nat.toList_repr] at hchars
    exact Nat.toDigits_ne_nil hchars
  · rw [Nat.toList_repr]
    intro hquote
    have hdigit := Nat.isDigit_of_mem_toDigits (by decide) (by decide) hquote
    exact absurd hdigit (by decide)

/-- A number of eight bits is written by its digits. -/
theorem render_uint8 (n : UInt8) : (ofNat n.toNat).render = Nat.repr n.toNat :=
  render_ofNat n.toNat (Nat.lt_trans n.toNat_lt (by decide))

/-- A number of thirty-two bits is written by its digits. -/
theorem render_uint32 (n : UInt32) : (ofNat n.toNat).render = Nat.repr n.toNat :=
  render_ofNat n.toNat (Nat.lt_trans n.toNat_lt (by decide))

/-- A number of eight bits can be read from its digits. -/
theorem eq_of_repr_uint8_eq {m n : UInt8} (h : Nat.repr m.toNat = Nat.repr n.toNat) : m = n :=
  UInt8.toNat_inj.mp (Nat.repr_injective h)

/-- A number of thirty-two bits can be read from its digits. -/
theorem eq_of_repr_uint32_eq {m n : UInt32} (h : Nat.repr m.toNat = Nat.repr n.toNat) : m = n :=
  UInt32.toNat_inj.mp (Nat.repr_injective h)

end Scalar

/-- A comparison is its operator and its values. -/
theorem Comparison.eq_of_parts_eq {α : Type} {c d : Comparison α} (hop : c.op = d.op)
    (hvalues : c.values = d.values) : c = d := by
  rcases c with ⟨o, vs⟩
  rcases d with ⟨p, ws⟩
  rw [Comparison.mk.injEq]
  exact ⟨hop, hvalues⟩

namespace FieldSpec

/-- The text of a comparison tells its operator and the text of its values. -/
theorem eq_of_render_comparison_eq (spec : FieldSpec) {o p : Operator} {vs ws : List Scalar}
    (h : spec.render (.comparison o vs) = spec.render (.comparison p ws)) :
    o = p ∧ spaced (vs.map (Scalar.renderWith spec.quoting)) =
      spaced (ws.map (Scalar.renderWith spec.quoting)) := by
  have hchars := congrArg String.toList h
  rw [toList_render_comparison, toList_render_comparison] at hchars
  rcases Text.eq_of_append_cons_eq (WordVocabulary.isWord_token o).space_not_mem
    (WordVocabulary.isWord_token p).space_not_mem hchars with ⟨hop, hvalues⟩
  exact ⟨Vocabulary.token_injective (String.toList_inj.mp hop), String.toList_inj.mp hvalues⟩

/-- Values of a comparison that are written as words, each as its own one, can
    be told apart. -/
theorem eq_of_render_comparison_map_eq (spec : FieldSpec) {α : Type} (scalar : α → Scalar)
    (hspace : ∀ a, ' ' ∉ ((scalar a).renderWith spec.quoting).toList)
    (hword : ∀ a b, (scalar a).renderWith spec.quoting = (scalar b).renderWith spec.quoting → a = b)
    {c d : Comparison α} (hc : c.values ≠ []) (hd : d.values ≠ [])
    (h : spec.render (.comparison c.op (c.values.map scalar)) =
      spec.render (.comparison d.op (d.values.map scalar))) : c = d := by
  rcases spec.eq_of_render_comparison_eq h with ⟨hop, hvalues⟩
  rw [List.map_map, List.map_map] at hvalues
  have hlists := Text.eq_of_spaced_map_eq _ hspace hword hc hd hvalues
  exact Comparison.eq_of_parts_eq hop hlists

/-- The texts of a comparison can be told apart, bare ones at the spaces and
    quoted ones at the quotes. -/
theorem eq_of_render_texts_eq (spec : FieldSpec) {c d : Comparison String}
    (hc : c.values ≠ []) (hd : d.values ≠ []) (hcfits : ∀ s ∈ c.values, spec.quoting.Fits s)
    (hdfits : ∀ s ∈ d.values, spec.quoting.Fits s)
    (h : spec.render (.comparison c.op (c.values.map .text)) =
      spec.render (.comparison d.op (d.values.map .text))) : c = d := by
  rcases spec.eq_of_render_comparison_eq h with ⟨hop, hvalues⟩
  rw [List.map_map, List.map_map] at hvalues
  have hlists : c.values = d.values := by
    -- The spaces separate bare texts, but between quotes they are part of a text.
    cases hq : spec.quoting with
    | bare =>
        rw [hq] at hvalues hcfits hdfits
        have hbare : Scalar.renderWith .bare ∘ Scalar.text = id := rfl
        rw [hbare, List.map_id, List.map_id] at hvalues
        exact Text.eq_of_spaced_eq (fun s hs => (hcfits s hs).space_not_mem)
          (fun s hs => (hdfits s hs).space_not_mem) hc hd hvalues
    | quoted =>
        rw [hq] at hvalues hcfits hdfits
        exact Text.eq_of_spaced_quote_eq (fun s hs => (hcfits s hs).no_quote)
          (fun s hs => (hdfits s hs).no_quote) hvalues
  exact Comparison.eq_of_parts_eq hop hlists

end FieldSpec

namespace Scalar

/-- A slot that a rule can fill holds a word or nothing at all. -/
def IsSlot (v : Scalar) : Prop :=
  v.render = "" ∨ Text.IsWord v.render

/-- A slot holds no space. -/
theorem IsSlot.space_not_mem {v : Scalar} (h : IsSlot v) : ' ' ∉ v.render.toList := by
  rcases h with h | h
  · rw [h]
    exact List.not_mem_nil
  · exact h.space_not_mem

/-- An absent slot holds nothing. -/
theorem isSlot_absent : IsSlot .absent :=
  Or.inl rfl

/-- A slot with a token holds a word. -/
theorem isSlot_token {α : Type} [Vocabulary α] [WordVocabulary α] (a : α) :
    IsSlot (.text (Vocabulary.token a)) :=
  Or.inr (WordVocabulary.isWord_token a)

/-- A slot with a number of eight bits holds a word. -/
theorem isSlot_uint8 (n : UInt8) : IsSlot (.ofNat n.toNat) := by
  right
  rw [render_uint8]
  exact isWord_repr _

/-- A slot with a number of thirty-two bits holds a word. -/
theorem isSlot_uint32 (n : UInt32) : IsSlot (.ofNat n.toNat) := by
  right
  rw [render_uint32]
  exact isWord_repr _

/-- The slots of a tuple can be told apart. -/
theorem render_slots_eq (spec : FieldSpec) {vs ws : List Scalar} (hv : ∀ v ∈ vs, IsSlot v)
    (hw : ∀ w ∈ ws, IsSlot w) (hvs : vs ≠ []) (hws : ws ≠ [])
    (h : spec.render (.tuple vs) = spec.render (.tuple ws)) :
    vs.map Scalar.render = ws.map Scalar.render := by
  refine Text.eq_of_spaced_eq (List.forall_mem_map.mpr fun v hmem => (hv v hmem).space_not_mem)
    (List.forall_mem_map.mpr fun w hmem => (hw w hmem).space_not_mem) ?_ ?_ h
  · rwa [ne_eq, List.map_eq_nil_iff]
  · rwa [ne_eq, List.map_eq_nil_iff]

end Scalar

namespace Kind

open Scalar

variable (spec : FieldSpec)

/-- What fills a slot that may be left out tells whether it is left out, and if
    not, what it is. -/
theorem eq_of_elim_eq {α : Type} (absent : String) (word : α → String)
    (habsent : ∀ a, word a ≠ absent) (hword : ∀ a b, word a = word b → a = b) {x y : Option α}
    (h : x.elim absent word = y.elim absent word) : x = y := by
  cases x with
  | none =>
      cases y with
      | none => rfl
      | some b => exact absurd h.symm (habsent b)
  | some a =>
      cases y with
      | none => exact absurd h (habsent a)
      | some b => rw [hword a b h]

/-- The words of a colour. -/
theorem render_scalars_color (c : Color) :
    (color.shape c).scalars.map render =
      [Nat.repr c.red.toNat, Nat.repr c.green.toNat, Nat.repr c.blue.toNat,
        c.alpha.elim "" fun a => Nat.repr a.toNat] := by
  rcases c with ⟨r, g, b, _ | a⟩
  · simp only [shape, FieldValue.scalars, List.map_cons, render_uint8]
    rfl
  · simp only [shape, FieldValue.scalars, List.map_cons, render_uint8]
    rfl

/-- The text of a colour tells the colour. -/
theorem eq_of_render_color_eq {c d : Color}
    (h : spec.render (color.shape c) = spec.render (color.shape d)) : c = d := by
  have hslots (c : Color) : ∀ v ∈ (color.shape c).scalars, IsSlot v := by
    rcases c with ⟨r, g, b, _ | a⟩
    · simp [shape, FieldValue.scalars, isSlot_uint8, isSlot_absent]
    · simp [shape, FieldValue.scalars, isSlot_uint8]
  have hwords := render_slots_eq spec (hslots c) (hslots d) (List.cons_ne_nil _ _)
    (List.cons_ne_nil _ _) h
  rw [render_scalars_color, render_scalars_color] at hwords
  simp only [List.cons.injEq, and_true] at hwords
  rcases hwords with ⟨hred, hgreen, hblue, halpha⟩
  rcases c with ⟨cred, cgreen, cblue, calpha⟩
  rcases d with ⟨dred, dgreen, dblue, dalpha⟩
  rw [Color.mk.injEq]
  exact ⟨eq_of_repr_uint8_eq hred, eq_of_repr_uint8_eq hgreen, eq_of_repr_uint8_eq hblue,
    eq_of_elim_eq "" _ (fun a => (isWord_repr _).nonempty) (fun a b => eq_of_repr_uint8_eq) halpha⟩

/-- The words of a sound. -/
theorem render_scalars_sound (s : AlertSound) :
    (sound.shape s).scalars.map render =
      [s.id.elim "None" fun id => Nat.repr id.toNat, Nat.repr s.volume.toNat] := by
  rcases s with ⟨_ | id, volume⟩
  · simp only [shape, FieldValue.scalars, List.map_cons, render_uint32]
    rfl
  · simp only [shape, FieldValue.scalars, List.map_cons, render_uint32]
    rfl

/-- No number is written by the word that stands for no sound. -/
theorem repr_ne_none (n : Nat) : Nat.repr n ≠ "None" := by
  intro h
  -- The first letter of the word would have to be a digit.
  have hmem : 'N' ∈ (Nat.repr n).toList := by
    rw [h]
    decide
  rw [Nat.toList_repr] at hmem
  exact absurd (Nat.isDigit_of_mem_toDigits (by decide) (by decide) hmem) (by decide)

/-- The text of a sound tells the sound. -/
theorem eq_of_render_sound_eq {s t : AlertSound}
    (h : spec.render (sound.shape s) = spec.render (sound.shape t)) : s = t := by
  have hnone : IsSlot (.text "None") := Or.inr (by decide)
  have hslots (s : AlertSound) : ∀ v ∈ (sound.shape s).scalars, IsSlot v := by
    rcases s with ⟨_ | id, volume⟩
    · simp [shape, FieldValue.scalars, isSlot_uint32, hnone]
    · simp [shape, FieldValue.scalars, isSlot_uint32]
  have hwords := render_slots_eq spec (hslots s) (hslots t) (List.cons_ne_nil _ _)
    (List.cons_ne_nil _ _) h
  rw [render_scalars_sound, render_scalars_sound] at hwords
  simp only [List.cons.injEq, and_true] at hwords
  rcases hwords with ⟨hid, hvolume⟩
  rcases s with ⟨sid, svolume⟩
  rcases t with ⟨tid, tvolume⟩
  rw [AlertSound.mk.injEq]
  exact ⟨eq_of_elim_eq "None" _ (fun id => repr_ne_none _) (fun a b => eq_of_repr_uint32_eq) hid,
    eq_of_repr_uint32_eq hvolume⟩

/-- The text of an icon tells the icon. -/
theorem eq_of_render_icon_eq {i j : MinimapIcon}
    (h : spec.render (icon.shape i) = spec.render (icon.shape j)) : i = j := by
  have hslots (i : MinimapIcon) : ∀ v ∈ (icon.shape i).scalars, IsSlot v := by
    simp [shape, FieldValue.scalars, isSlot_uint8, isSlot_token]
  have hwords := render_slots_eq spec (hslots i) (hslots j) (List.cons_ne_nil _ _)
    (List.cons_ne_nil _ _) h
  simp only [shape, FieldValue.scalars, List.map_cons, List.map_nil, List.cons.injEq, render_uint8,
    and_true] at hwords
  rcases hwords with ⟨hsize, hcolor, hshape⟩
  rcases i with ⟨isize, icolor, ishape⟩
  rcases j with ⟨jsize, jcolor, jshape⟩
  rw [MinimapIcon.mk.injEq]
  exact ⟨eq_of_repr_uint8_eq hsize, Vocabulary.token_injective hcolor,
    Vocabulary.token_injective hshape⟩

/-- The words of a beam. -/
theorem render_scalars_effect (e : PlayEffect) :
    (effect.shape e).scalars.map render =
      [Vocabulary.token e.color, e.duration.elim "" Vocabulary.token] := by
  rcases e with ⟨color, _ | d⟩
  · rfl
  · rfl

/-- The text of a beam tells the beam. -/
theorem eq_of_render_effect_eq {e f : PlayEffect}
    (h : spec.render (effect.shape e) = spec.render (effect.shape f)) : e = f := by
  have hslots (e : PlayEffect) : ∀ v ∈ (effect.shape e).scalars, IsSlot v := by
    rcases e with ⟨color, _ | d⟩
    · simp [shape, FieldValue.scalars, isSlot_token, isSlot_absent]
    · simp [shape, FieldValue.scalars, isSlot_token]
  have hwords := render_slots_eq spec (hslots e) (hslots f) (List.cons_ne_nil _ _)
    (List.cons_ne_nil _ _) h
  rw [render_scalars_effect, render_scalars_effect] at hwords
  simp only [List.cons.injEq, and_true] at hwords
  rcases hwords with ⟨hcolor, hduration⟩
  rcases e with ⟨ecolor, eduration⟩
  rcases f with ⟨fcolor, fduration⟩
  rw [PlayEffect.mk.injEq]
  exact ⟨Vocabulary.token_injective hcolor, eq_of_elim_eq "" _
    (fun d => (WordVocabulary.isWord_token d).nonempty) (fun _ _ => Vocabulary.token_injective)
    hduration⟩

/-- The text of an accepted value tells the value, kind by kind. -/
theorem eq_of_render_eq (k : Kind) (v w : k.Value) (hv : spec.check (k.shape v) = .ok ())
    (hw : spec.check (k.shape w) = .ok ())
    (h : spec.render (k.shape v) = spec.render (k.shape w)) : v = w := by
  cases k with
  | numbers =>
      rw [shape, FieldSpec.check_comparison_iff, ne_eq, List.map_eq_nil_iff] at hv hw
      -- Only texts are ever quoted, so numbers look the same in every field.
      have hword (n : UInt32) : (Scalar.ofNat n.toNat).renderWith spec.quoting = Nat.repr n.toNat :=
        render_uint32 n
      refine spec.eq_of_render_comparison_map_eq (fun n : UInt32 => Scalar.ofNat n.toNat)
        (fun n => ?_) (fun m n hmn => ?_) hv.1 hw.1 h
      · rw [hword]
        exact (isWord_repr _).space_not_mem
      · rw [hword, hword] at hmn
        exact eq_of_repr_uint32_eq hmn
  | rarities =>
      rw [shape, FieldSpec.check_comparison_iff, ne_eq, List.map_eq_nil_iff] at hv hw
      refine spec.eq_of_render_comparison_map_eq (fun r => .text (Vocabulary.token r)) (fun r => ?_)
        (fun r q hrq => ?_) hv.1 hw.1 h
      · cases hquoting : spec.quoting with
        | bare => exact (WordVocabulary.isWord_token r).space_not_mem
        | quoted => exact (WordVocabulary.isWord_token r).space_not_mem_quote
      · -- No field quotes rarities, but nothing would be lost if one did.
        cases hquoting : spec.quoting with
        | bare =>
            rw [hquoting] at hrq
            exact Vocabulary.token_injective hrq
        | quoted =>
            rw [hquoting] at hrq
            exact Vocabulary.token_injective (Text.eq_of_quote_eq hrq)
  | texts =>
      rw [shape, FieldSpec.check_comparison_iff, ne_eq, List.map_eq_nil_iff,
        List.forall_mem_map] at hv hw
      simp only [FieldSpec.checkScalar_text, FieldSpec.checkText_iff_fits] at hv hw
      exact spec.eq_of_render_texts_eq hv.1 hw.1 hv.2 hw.2 h
  | textList =>
      rw [shape, FieldSpec.check_quotedList_iff] at hv hw
      exact Text.eq_of_spaced_quote_eq (fun s hs => (hv.2 s hs).no_quote)
        (fun s hs => (hw.2 s hs).no_quote) h
  | flag =>
      have hwords : Scalar.render (.bool v) = Scalar.render (.bool w) := h
      cases v with
      | true =>
          cases w with
          | true => rfl
          | false => exact absurd hwords (by decide)
      | false =>
          cases w with
          | true => exact absurd hwords (by decide)
          | false => rfl
  | number =>
      have hdigits : Nat.repr v.toNat = Nat.repr w.toNat := by
        rw [shape, shape, FieldSpec.render, FieldSpec.render, render_uint32, render_uint32] at h
        exact h
      exact eq_of_repr_uint32_eq hdigits
  | word => exact h
  | quotedText => exact Text.eq_of_quote_eq h
  | gemQuality => exact Vocabulary.token_injective h
  | influence => exact Vocabulary.token_injective h
  | color => exact eq_of_render_color_eq spec h
  | sound => exact eq_of_render_sound_eq spec h
  | icon => exact eq_of_render_icon_eq spec h
  | effect => exact eq_of_render_effect_eq spec h

end Kind

namespace Field

/-- A line tells its field and the value. The keyword ends at the first space
    and belongs to one field, and what follows it is the text of the value. -/
theorem eq_of_renderLine_eq (f g : Field) (v : f.kind.Value) (w : g.kind.Value)
    (hv : f.spec.check (f.kind.shape v) = .ok ()) (hw : g.spec.check (g.kind.shape w) = .ok ())
    (h : f.spec.renderLine (f.kind.shape v) = g.spec.renderLine (g.kind.shape w)) :
    f = g ∧ v ≍ w := by
  have hchars := congrArg String.toList h
  rw [FieldSpec.toList_renderLine, FieldSpec.toList_renderLine] at hchars
  rcases Text.eq_of_append_cons_eq f.isWord_keyword.space_not_mem
    g.isWord_keyword.space_not_mem hchars with ⟨hkeyword, hvalue⟩
  rw [keyword_spec, keyword_spec] at hkeyword
  obtain rfl : f = g := keyword_injective (String.toList_inj.mp hkeyword)
  refine ⟨rfl, heq_of_eq ?_⟩
  exact Kind.eq_of_render_eq f.spec f.kind v w hv hw (String.toList_inj.mp hvalue)

end Field

end LootFilter
