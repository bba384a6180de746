import LootFilter.Json.Reader
import LootFilter.Json.Writer
import Mathlib.Tactic.IntervalCases

/-!
# Written Tokens

The tokens of a written JSON text, read again. Every statement has a rest behind
the token, because a token of a text is never read by itself, and says that
reading stops where the rest begins.

A string token ends at its closing quote, whatever follows. Its characters are
written one by one and read one by one: most as themselves, some by a short
escape, and the control characters without one by the number that they have
(`StringPiece.ofChar`). None of the numbers is a surrogate, so the pieces are put
together again without looking at their neighbours.

A number has no closing character. It ends at the first character that cannot
continue it, and `EndsNumber` asks this of the rest.

## Main definitions

* `StringPiece.ofChar`: What is read of a written character.
* `EndsNumber`: A text that does not continue a number.
* `NumberToken.ofInt`: The token of an integer.
* `Json.Number.IsWhole`: The number is an integer of 64 bits.

## Theorems

* `Fragment.stringValue_escaped`: A written string is read as itself.
* `NumberToken.split?_intChars`: A written integer is split off.
* `Fragment.numberValue_numberChars`: A written integer is read as itself.
-/

namespace LootFilter

/-! ## Strings -/

namespace StringPiece

/-- What is read of a character that was written. A control character without a
    short escape comes back as its number. -/
def ofChar (c : Char) : StringPiece :=
  if c.toNat < 32 ∧ c ∉ ['\x08', '\x0c', '\n', '\r', '\t'] then .unit c.toNat else .char c

/-- Written characters are put together again. -/
theorem join?_map_ofChar (cs : List Char) : join? (cs.map ofChar) = some cs := by
  induction cs with
  | nil => rfl
  | cons c cs ih =>
      rw [List.map_cons, ofChar]
      by_cases h : c.toNat < 32 ∧ c ∉ ['\x08', '\x0c', '\n', '\r', '\t']
      · -- A control character is far below the surrogates.
        have hlow : c.toNat < 0xD800 ∨ 0xDFFF < c.toNat := Or.inl (by omega)
        rw [if_pos h, join?.eq_def]
        simp only [if_pos hlow, ih, Option.map_some, Char.ofNat_toNat]
      · rw [if_neg h, join?, ih, Option.map_some]

end StringPiece

namespace Fragment

/-- Four digits of a control character give its number. -/
theorem hexUnit?_hexDigits (n : Nat) (h : n < 32) :
    (n < 16 → ∃ d, Text.hexDigits n = [d] ∧ hexUnit? '0' '0' '0' d = some n) ∧
      (16 ≤ n → ∃ e d, Text.hexDigits n = [e, d] ∧ hexUnit? '0' '0' e d = some n) := by
  constructor
  · intro hn
    interval_cases n
    all_goals exact ⟨_, rfl, rfl⟩
  · intro hn
    interval_cases n
    all_goals exact ⟨_, _, rfl, rfl⟩

/-- A numeric escape is read as the number that its digits give. -/
theorem splitString?_unit (a b c d : Char) (n : Nat) (h : hexUnit? a b c d = some n)
    (cs : List Char) : splitString? ('\\' :: 'u' :: a :: b :: c :: d :: cs) =
      (splitString? cs).map fun p => (.unit n :: p.1, p.2) := by
  rw [splitString?, h]
  cases splitString? cs with
  | none => rfl
  | some p => rfl

/-- A character that needs no escape is read as itself. -/
theorem splitString?_char (c : Char) (hquote : c ≠ '"') (hslash : c ≠ '\\')
    (hcontrol : ¬ c.toNat < 32) (cs : List Char) :
    splitString? (c :: cs) = (splitString? cs).map fun p => (.char c :: p.1, p.2) := by
  rw [splitString?]
  · rw [if_neg (not_or.mpr ⟨hslash, hcontrol⟩)]
  · exact hquote
  · intro _ _ _ _ _ h
    exact absurd h hslash
  · intro _ _ h
    exact absurd h hslash

/-- A written character is read as one piece. -/
theorem splitString?_escapedChar (c : Char) (cs : List Char) :
    splitString? (Json.escapedChar c ++ cs) =
      (splitString? cs).map fun p => (StringPiece.ofChar c :: p.1, p.2) := by
  unfold Json.escapedChar
  split
  -- The first seven characters have short escapes.
  iterate 7
    · cases h : splitString? cs with
      | none => simp [splitString?, shortEscape?, h]
      | some p => simp [splitString?, shortEscape?, h, StringPiece.ofChar]
  · rename_i hquote hslash hb hf hn hr ht
    by_cases hcontrol : c.toNat < 32
    · have hpiece : StringPiece.ofChar c = .unit c.toNat := by
        rw [StringPiece.ofChar, if_pos]
        refine ⟨hcontrol, ?_⟩
        simp only [List.mem_cons, List.not_mem_nil, or_false, not_or]
        exact ⟨hb, hf, hn, hr, ht⟩
      rw [hpiece]
      rcases hexUnit?_hexDigits c.toNat hcontrol with ⟨hone, htwo⟩
      by_cases hsmall : c.toNat < 16
      · rcases hone hsmall with ⟨d, hdigits, hunit⟩
        rw [if_pos hsmall, hdigits]
        exact splitString?_unit '0' '0' '0' d _ hunit cs
      · rcases htwo (Nat.le_of_not_lt hsmall) with ⟨e, d, hdigits, hunit⟩
        rw [if_neg hsmall, if_pos hcontrol, hdigits]
        exact splitString?_unit '0' '0' e d _ hunit cs
    · have hpiece : StringPiece.ofChar c = .char c := by
        rw [StringPiece.ofChar, if_neg (fun h => hcontrol h.1)]
      have hsmall : ¬ c.toNat < 16 := by omega
      rw [hpiece, if_neg hsmall, if_neg hcontrol]
      exact splitString?_char c hquote hslash hcontrol cs

/-- Written characters are read up to the closing quote. -/
theorem splitString?_escaped (cs rest : List Char) :
    splitString? (cs.flatMap Json.escapedChar ++ '"' :: rest) =
      some (cs.map StringPiece.ofChar, rest) := by
  induction cs with
  | nil => rw [List.flatMap_nil, List.nil_append, splitString?, List.map_nil]
  | cons c cs ih =>
      rw [List.flatMap_cons, List.append_assoc, splitString?_escapedChar, ih]
      rfl

/-- A written string is read as itself. -/
theorem stringValue_escaped (s : String) (rest : List Char) :
    stringValue (s.toList.flatMap Json.escapedChar ++ '"' :: rest) =
      (.string (some s), some rest) := by
  rw [stringValue, splitString?_escaped]
  simp only [StringPiece.join?_map_ofChar, Option.map_some, String.ofList_toList]

end Fragment

/-! ## Numbers -/

/-- The text does not continue a number that stands ahead of it. -/
def EndsNumber (rest : List Char) : Prop :=
  ∀ c, rest.head? = some c → c.isDigit = false ∧ c ≠ '.' ∧ c ≠ 'e' ∧ c ≠ 'E'

/-- Nothing ends a number too. -/
theorem endsNumber_nil : EndsNumber [] := by
  intro c h
  cases h

/-- A separator or a closing bracket ends a number. -/
theorem endsNumber_cons {c : Char} (h : c ∈ [',', ':', ']', '}']) (rest : List Char) :
    EndsNumber (c :: rest) := by
  intro d hd
  rw [List.head?_cons, Option.some.injEq] at hd
  subst hd
  simp only [List.mem_cons, List.not_mem_nil, or_false] at h
  rcases h with rfl | rfl | rfl | rfl
  all_goals decide

namespace NumberToken

/-- The token of an integer. -/
def ofInt (n : Int) : NumberToken :=
  ⟨decide (n < 0), Nat.toDigits 10 n.natAbs, none, none⟩

/-- The digits of a number start with a digit. -/
theorem exists_toDigits_eq_cons (n : Nat) :
    ∃ d ds, Nat.toDigits 10 n = d :: ds ∧ d.isDigit = true := by
  cases h : Nat.toDigits 10 n with
  | nil => exact absurd h Nat.toDigits_ne_nil
  | cons d ds =>
      have hd : d ∈ Nat.toDigits 10 n := h ▸ List.mem_cons_self
      exact ⟨d, ds, rfl, Nat.isDigit_of_mem_toDigits (by decide) (by decide) hd⟩

/-- The digits of a number are all of its token that they are part of. -/
theorem takeWhile_toDigits_append (n : Nat) {rest : List Char} (h : EndsNumber rest) :
    (Nat.toDigits 10 n ++ rest).takeWhile Char.isDigit = Nat.toDigits 10 n ∧
      (Nat.toDigits 10 n ++ rest).dropWhile Char.isDigit = rest := by
  have hdigits : ∀ c ∈ Nat.toDigits 10 n, c.isDigit = true := fun c hc =>
    Nat.isDigit_of_mem_toDigits (by decide) (by decide) hc
  rw [List.takeWhile_append_of_pos hdigits, List.dropWhile_append_of_pos hdigits]
  cases rest with
  | nil => exact ⟨List.append_nil _, rfl⟩
  | cons c rest =>
      have hc := (h c rfl).1
      simp [hc]

/-- Only zero is written with a zero in front. -/
theorem toDigits_eq_zero_cons {n : Nat} {ds : List Char} (h : Nat.toDigits 10 n = '0' :: ds) :
    n = 0 := by
  induction n using Nat.strong_induction_on generalizing ds with
  | _ n ih =>
      by_cases hn : n < 10
      · -- A single digit is a zero only if the number is.
        rw [Nat.toDigits_of_lt_base hn, List.cons.injEq] at h
        interval_cases n
        · rfl
        all_goals exact absurd h.1 (by decide)
      · rw [Nat.toDigits_of_base_le (by decide) (Nat.le_of_not_lt hn)] at h
        -- The leading digits are those of a tenth, which is not zero.
        rcases exists_toDigits_eq_cons (n / 10) with ⟨d, more, hhead, -⟩
        rw [hhead, List.cons_append, List.cons.injEq] at h
        rw [h.1] at hhead
        have := ih (n / 10) (by omega) hhead
        omega

/-- The digits of a written integer are split off. -/
theorem splitWhole?_toDigits_append (n : Nat) {rest : List Char} (h : EndsNumber rest) :
    splitWhole? (Nat.toDigits 10 n ++ rest) = some (Nat.toDigits 10 n, rest) := by
  by_cases hn : n = 0
  · rw [hn, Nat.toDigits_zero, List.singleton_append, splitWhole?]
    cases rest with
    | nil => rfl
    | cons c rest => simp [(h c rfl).1]
  · rcases takeWhile_toDigits_append n h with ⟨htake, hdrop⟩
    have hne : Nat.toDigits 10 n ≠ [] := Nat.toDigits_ne_nil
    rw [splitWhole?]
    · simp only [htake, hdrop, List.isEmpty_iff, hne, if_false]
    · intro cs hcs
      -- A zero in front would be the number zero.
      rcases exists_toDigits_eq_cons n with ⟨d, ds, hdigits, -⟩
      rw [hdigits, List.cons_append, List.cons.injEq] at hcs
      rw [hcs.1] at hdigits
      exact hn (toDigits_eq_zero_cons hdigits)

/-- There is no fraction behind the end of a number. -/
theorem splitFraction?_of_endsNumber {rest : List Char} (h : EndsNumber rest) :
    splitFraction? rest = some (none, rest) := by
  rw [splitFraction?]
  intro cs hcs
  rw [hcs] at h
  exact (h '.' rfl).2.1 rfl

/-- There is no exponent behind the end of a number. -/
theorem splitExponent?_of_endsNumber {rest : List Char} (h : EndsNumber rest) :
    splitExponent? rest = some (none, rest) := by
  cases rest with
  | nil => rfl
  | cons c rest =>
      rcases h c rfl with ⟨-, -, he, hE⟩
      rw [splitExponent?, if_neg (not_or.mpr ⟨he, hE⟩)]

/-- A written integer is split off. -/
theorem split?_intChars (n : Int) {rest : List Char} (h : EndsNumber rest) :
    split? (Json.intChars n ++ rest) = some (ofInt n, rest) := by
  have hwhole := splitWhole?_toDigits_append n.natAbs h
  have hfraction := splitFraction?_of_endsNumber h
  have hexponent := splitExponent?_of_endsNumber h
  rw [Json.intChars, ofInt]
  by_cases hn : n < 0
  · rw [if_pos hn, decide_eq_true hn, List.cons_append, split?]
    simp only [hwhole, hfraction, hexponent, Option.bind_eq_bind, Option.bind_some]
    rfl
  · rw [if_neg hn, decide_eq_false hn, split?]
    · simp only [hwhole, hfraction, hexponent, Option.bind_eq_bind, Option.bind_some]
      rfl
    · -- A digit is no minus sign.
      intro cs hcs
      rcases exists_toDigits_eq_cons n.natAbs with ⟨d, ds, hdigits, hd⟩
      rw [hdigits, List.cons_append, List.cons.injEq] at hcs
      rw [hcs.1] at hd
      exact absurd hd (by decide)

/-- The digits of a number have its value. -/
theorem digitsValue_toDigits (n : Nat) : digitsValue (Nat.toDigits 10 n) = n :=
  Nat.ofDigitChars_ten_toDigits

end NumberToken

namespace Json.Number

/-- The number is an integer that fits into 64 bits, with or without a sign. -/
def IsWhole : Number → Prop
  | .int n => -9223372036854775808 ≤ n ∧ n ≤ 18446744073709551615
  | .float _ => False

end Json.Number

namespace NumberToken

/-- The token of an integer of 64 bits has its value. -/
theorem value?_ofInt (n : Int) (h : (Json.Number.int n).IsWhole) :
    (ofInt n).value? = some (.int n) := by
  rcases h with ⟨hleast, hmost⟩
  have hsize : UInt64.size = 18446744073709551616 := rfl
  simp only [value?, ofInt, digitsValue_toDigits, hsize, Option.isNone_none, Bool.true_and]
  by_cases hn : n < 0
  · have hnonzero : n.natAbs ≠ 0 := by omega
    have hfits : 2 * n.natAbs ≤ 18446744073709551616 := by omega
    simp only [decide_eq_true hn, Bool.not_true, Bool.false_and, Bool.false_eq_true, if_false,
      Bool.true_and, hnonzero, ne_eq, not_false_eq_true, decide_true, hfits, if_true,
      Option.some.injEq, Json.Number.int.injEq]
    omega
  · have hfits : n.natAbs < 18446744073709551616 := by omega
    simp only [decide_eq_false hn, Bool.not_false, Bool.true_and, decide_eq_true hfits, if_true,
      Option.some.injEq, Json.Number.int.injEq]
    omega

end NumberToken

namespace Fragment

/-- A written integer of 64 bits is read as itself. -/
theorem numberValue_numberChars (n : Json.Number) (h : n.IsWhole) {rest : List Char}
    (hrest : EndsNumber rest) :
    numberValue (Json.numberChars n ++ rest) = (.number (some n), some rest) := by
  cases n with
  | int n =>
      rw [Json.numberChars, numberValue, NumberToken.split?_intChars n hrest]
      simp only [NumberToken.value?_ofInt n h]
  | float x => exact h.elim

end Fragment

end LootFilter
