import LootFilter.Proofs.Json.Token

/-!
# Tokens in Front of Any Rest

A token that was split off a text is split off again if something else stands behind it.
This is what makes the tokens of a text things of their own, which can be moved to another
place.

For a string token it is true of any rest, since the token has a closing quote. A number
ends where it cannot go on. So the new rest has to stop it, and it does if it starts with the
same character as the old one or if it could not continue any number (`StopsLike`). The
first condition is there for the parts of a number. What follows the digits before the point
is the point, which continues the number but not the digits, and it is still the same
character when something else stands behind the whole number.

## Main definitions

* `StopsLike`: A text stops a number as another one does.
* `NumberToken.SplitsOff`: A part of a number is split off whatever follows.

## Theorems

* `Fragment.exists_splitString?_append`: String tokens.
* `NumberToken.split?_append`: Number tokens.
-/

namespace LootFilter

/-! ## Strings -/

namespace Fragment

/-- A short escape is read as the character that it stands for. -/
theorem splitString?_short {e c : Char} (h : shortEscape? e = some c) (cs : List Char) :
    splitString? ('\\' :: e :: cs) = (splitString? cs).map fun p => (.char c :: p.1, p.2) := by
  have hu : e ≠ 'u' := by
    rintro rfl
    cases h
  rw [splitString?]
  · rw [h]
    cases splitString? cs with
    | none => rfl
    | some p => rfl
  · intro a b c d more he
    exact absurd he hu

/-- A piece is split off in front of a token that is. -/
theorem exists_append_of_piece {piece : StringPiece} (head : List Char)
    (hhead : ∀ cs, splitString? (head ++ cs) = (splitString? cs).map fun p => (piece :: p.1, p.2))
    {cs rest : List Char} {pieces : List StringPiece}
    (ih : ∀ {pieces}, splitString? cs = some (pieces, rest) → ∃ token, cs = token ++ rest ∧
      ∀ other, splitString? (token ++ other) = some (pieces, other))
    (h : splitString? (head ++ cs) = some (pieces, rest)) :
    ∃ token, head ++ cs = token ++ rest ∧
      ∀ other, splitString? (token ++ other) = some (pieces, other) := by
  rw [hhead] at h
  rcases Option.map_eq_some_iff.mp h with ⟨⟨pieces', rest'⟩, hsplit, heq⟩
  cases heq
  rcases ih hsplit with ⟨token, hcs, hall⟩
  refine ⟨head ++ token, by rw [hcs, List.append_assoc], fun other => ?_⟩
  rw [List.append_assoc, hhead, hall]
  rfl

/-- A string token ends at its closing quote, so it is split off whatever follows. -/
theorem exists_splitString?_append {cs rest : List Char} {pieces : List StringPiece}
    (h : splitString? cs = some (pieces, rest)) : ∃ token, cs = token ++ rest ∧
      ∀ other, splitString? (token ++ other) = some (pieces, other) := by
  induction cs using splitString?.induct generalizing pieces with
  | case1 => cases h
  | case2 cs =>
      cases h
      exact ⟨['"'], rfl, fun other => rfl⟩
  | case3 a b c d cs ih =>
      cases hunit : hexUnit? a b c d with
      | none =>
          rw [splitString?, hunit] at h
          cases h
      | some n =>
          exact exists_append_of_piece ['\\', 'u', a, b, c, d]
            (splitString?_unit a b c d n hunit) ih h
  | case4 e cs hunit ih =>
      cases hshort : shortEscape? e with
      | none =>
          rw [splitString?, hshort] at h
          · cases h
          · exact hunit
      | some c => exact exists_append_of_piece ['\\', e] (splitString?_short hshort) ih h
  | case5 c cs hquote hunit hslash hbad =>
      rw [splitString?, if_pos hbad] at h
      · cases h
      · exact hquote
      · exact hunit
      · exact hslash
  | case6 c cs hquote hunit hslash hgood ih =>
      rw [not_or] at hgood
      exact exists_append_of_piece [c] (splitString?_char c hquote hgood.1 hgood.2) ih h

end Fragment

/-! ## Numbers -/

/-- A text stops a number as another one does: it starts in the same way, or it does not
    continue any number. -/
def StopsLike (rest other : List Char) : Prop :=
  other.head? = rest.head? ∨ EndsNumber other

/-- What stands ahead of two texts makes them start in the same way. -/
theorem StopsLike.append_left {rest other : List Char} (h : StopsLike rest other)
    (token : List Char) : StopsLike (token ++ rest) (token ++ other) := by
  cases token with
  | nil => exact h
  | cons c more => exact Or.inl rfl

namespace NumberToken

/-- The text starts with a digit. -/
def startsWithDigit (cs : List Char) : Bool :=
  (cs.head?.map Char.isDigit).getD false

/-- Where the digits end there is none. -/
theorem startsWithDigit_dropWhile (cs : List Char) :
    startsWithDigit (cs.dropWhile Char.isDigit) = false := by
  have hstop := List.head?_dropWhile_not Char.isDigit cs
  rw [startsWithDigit]
  cases hhead : (cs.dropWhile Char.isDigit).head? with
  | none => rfl
  | some c =>
      rw [hhead] at hstop
      exact hstop

/-- Digits are all the digits that a text starts with if no other one follows. -/
theorem takeWhile_dropWhile_append {digits rest : List Char}
    (hdigits : ∀ c ∈ digits, c.isDigit = true) (hrest : startsWithDigit rest = false) :
    (digits ++ rest).takeWhile Char.isDigit = digits ∧
      (digits ++ rest).dropWhile Char.isDigit = rest := by
  rw [List.takeWhile_append_of_pos hdigits, List.dropWhile_append_of_pos hdigits]
  cases rest with
  | nil => exact ⟨List.append_nil _, rfl⟩
  | cons c more =>
      have hc : c.isDigit = false := hrest
      simp [hc]

section Stops

variable {rest other : List Char}

/-- A text does not start with a digit if it stops a number like one that does not. -/
theorem startsWithDigit_eq_false (h : StopsLike rest other) (hrest : startsWithDigit rest = false) :
    startsWithDigit other = false := by
  rcases h with heq | hends
  · rw [startsWithDigit, heq]
    exact hrest
  · cases other with
    | nil => rfl
    | cons c more => exact (hends c rfl).1

/-- The same for any other character that continues a number. -/
theorem head?_ne_of_stopsLike (h : StopsLike rest other) {c : Char} (hc : c ∈ ['.', 'e', 'E'])
    (hrest : rest.head? ≠ some c) : other.head? ≠ some c := by
  intro hother
  rcases h with heq | hends
  · exact hrest (heq.symm.trans hother)
  · rcases hends c hother with ⟨-, hpoint, he, hE⟩
    simp only [List.mem_cons, List.not_mem_nil, or_false] at hc
    rcases hc with rfl | rfl | rfl
    · exact hpoint rfl
    · exact he rfl
    · exact hE rfl

end Stops

/-- A part of a number token is split off whatever follows, if that stops it alike. -/
def SplitsOff {α : Type} (split? : List Char → Option (α × List Char)) : Prop :=
  ∀ ⦃cs : List Char⦄ ⦃part : α⦄ ⦃rest : List Char⦄, split? cs = some (part, rest) →
    ∃ token, cs = token ++ rest ∧
      ∀ other, StopsLike rest other → split? (token ++ other) = some (part, other)

/-- Splits digits off, of which there is at least one. -/
def splitDigits? (cs : List Char) : Option (List Char × List Char) :=
  if (cs.takeWhile Char.isDigit).isEmpty then none
  else some (cs.takeWhile Char.isDigit, cs.dropWhile Char.isDigit)

/-- Digits that are split off are the same in front of any text that stops them alike. -/
theorem splitDigits?_append {cs digits rest : List Char}
    (h : splitDigits? cs = some (digits, rest)) : cs = digits ++ rest ∧
      startsWithDigit digits = true ∧
        ∀ other, StopsLike rest other → splitDigits? (digits ++ other) = some (digits, other) := by
  rw [splitDigits?] at h
  split at h
  · cases h
  · rename_i hsome
    cases h
    have hdigits : ∀ c ∈ cs.takeWhile Char.isDigit, c.isDigit = true :=
      List.all_eq_true.mp List.all_takeWhile
    refine ⟨List.takeWhile_append_dropWhile.symm, ?_, fun other hother => ?_⟩
    · rcases hcs : cs.takeWhile Char.isDigit with _ | ⟨d, ds⟩
      · rw [hcs] at hsome
        exact absurd rfl hsome
      · exact hdigits d (hcs ▸ List.mem_cons_self)
    · rcases takeWhile_dropWhile_append hdigits
        (startsWithDigit_eq_false hother (startsWithDigit_dropWhile cs)) with ⟨htake, hdrop⟩
      rw [splitDigits?, htake, hdrop, if_neg hsome]

/-- The digits before the point. -/
theorem splitWhole?_append {cs whole rest : List Char}
    (h : splitWhole? cs = some (whole, rest)) : cs = whole ++ rest ∧
      startsWithDigit whole = true ∧
        ∀ other, StopsLike rest other → splitWhole? (whole ++ other) = some (whole, other) := by
  by_cases hzero : ∃ more, cs = '0' :: more
  · -- A zero is not followed by another digit.
    rcases hzero with ⟨more, rfl⟩
    rw [splitWhole?] at h
    split at h
    · cases h
    · rename_i hstop
      cases h
      refine ⟨rfl, rfl, fun other hother => ?_⟩
      have hother' := startsWithDigit_eq_false hother (Bool.eq_false_iff.mpr hstop)
      exact if_neg (Bool.eq_false_iff.mp hother')
  · have hdigits (ds : List Char) (hds : ∀ more, ds = '0' :: more → False) :
        splitWhole? ds = splitDigits? ds := by
      rw [splitWhole?, splitDigits?]
      exact hds
    rw [hdigits cs fun more hmore => hzero ⟨more, hmore⟩] at h
    rcases splitDigits?_append h with ⟨rfl, hstart, hall⟩
    refine ⟨rfl, hstart, fun other hother => ?_⟩
    rw [hdigits, hall other hother]
    intro more hmore
    -- The first digit is not the last one, since it is no zero.
    cases whole with
    | nil => cases hstart
    | cons d ds => exact hzero ⟨ds ++ rest, by rw [List.cons_append, (List.cons.inj hmore).1]⟩

/-- The digits after the point. -/
theorem splitsOff_splitFraction? : SplitsOff splitFraction? := by
  intro cs fraction rest h
  by_cases hpoint : ∃ more, cs = '.' :: more
  · rcases hpoint with ⟨more, rfl⟩
    have hdigits (ds : List Char) :
        splitFraction? ('.' :: ds) = (splitDigits? ds).map fun p => (some p.1, p.2) := by
      rw [splitFraction?, splitDigits?]
      split
      · rfl
      · rfl
    rw [hdigits] at h
    rcases Option.map_eq_some_iff.mp h with ⟨⟨digits, rest'⟩, hsplit, heq⟩
    cases heq
    rcases splitDigits?_append hsplit with ⟨hmore, -, hall⟩
    refine ⟨'.' :: digits, congrArg _ hmore, fun other hother => ?_⟩
    rw [List.cons_append, hdigits, hall other hother]
    rfl
  · have hnone (ds : List Char) (hds : ∀ more, ds = '.' :: more → False) :
        splitFraction? ds = some (none, ds) := by
      rw [splitFraction?]
      exact hds
    rw [hnone cs fun more hmore => hpoint ⟨more, hmore⟩] at h
    cases h
    refine ⟨[], rfl, fun other hother => hnone other ?_⟩
    rintro more rfl
    refine head?_ne_of_stopsLike hother (by decide) (fun hhead => ?_) rfl
    rcases List.head?_eq_some_iff.mp hhead with ⟨more, hmore⟩
    exact hpoint ⟨more, hmore⟩

/-- A sign is split off whatever digits follow. -/
theorem exists_takeSign_append (cs : List Char) : ∃ sign, cs = sign ++ (takeSign cs).2 ∧
    ∀ ds, startsWithDigit ds = true → takeSign (sign ++ ds) = ((takeSign cs).1, ds) := by
  by_cases hsign : ∃ c more, (c = '-' ∨ c = '+') ∧ cs = c :: more
  · rcases hsign with ⟨c, more, rfl | rfl, rfl⟩
    · exact ⟨['-'], rfl, fun ds _ => rfl⟩
    · exact ⟨['+'], rfl, fun ds _ => rfl⟩
  · have hnone (ds : List Char) (hds : ¬ ∃ c more, (c = '-' ∨ c = '+') ∧ ds = c :: more) :
        takeSign ds = (false, ds) := by
      rw [takeSign]
      · exact fun more h => hds ⟨_, more, Or.inl rfl, h⟩
      · exact fun more h => hds ⟨_, more, Or.inr rfl, h⟩
    rw [hnone cs hsign]
    refine ⟨[], rfl, fun ds hds => hnone ds ?_⟩
    rintro ⟨c, more, rfl | rfl, rfl⟩
    · cases hds
    · cases hds

/-- The exponent. -/
theorem splitsOff_splitExponent? : SplitsOff splitExponent? := by
  intro cs exponent rest h
  by_cases hletter : ∃ c more, (c = 'e' ∨ c = 'E') ∧ cs = c :: more
  · rcases hletter with ⟨c, more, hc, rfl⟩
    have hdigits (ds : List Char) : splitExponent? (c :: ds) =
        (splitDigits? (takeSign ds).2).map fun p => (some ((takeSign ds).1, p.1), p.2) := by
      rw [splitExponent?, if_pos hc, splitDigits?]
      rcases takeSign ds with ⟨negative, digits⟩
      dsimp only
      split
      · rfl
      · rfl
    rw [hdigits] at h
    rcases Option.map_eq_some_iff.mp h with ⟨⟨digits, rest'⟩, hsplit, heq⟩
    cases heq
    rcases splitDigits?_append hsplit with ⟨hmore, hstart, hall⟩
    rcases exists_takeSign_append more with ⟨sign, hsign, htake⟩
    refine ⟨c :: (sign ++ digits), ?_, fun other hother => ?_⟩
    · rw [hsign, hmore, List.cons_append, List.append_assoc]
    · have hstart' : startsWithDigit (digits ++ other) = true := by
        cases digits with
        | nil => cases hstart
        | cons d ds => exact hstart
      rw [List.cons_append, List.append_assoc, hdigits, htake _ hstart', hall other hother]
      rfl
  · have hnone (ds : List Char) (hds : ¬ ∃ c more, (c = 'e' ∨ c = 'E') ∧ ds = c :: more) :
        splitExponent? ds = some (none, ds) := by
      cases ds with
      | nil => rfl
      | cons c more => rw [splitExponent?, if_neg fun hc => hds ⟨c, more, hc, rfl⟩]
    rw [hnone cs hletter] at h
    cases h
    refine ⟨[], rfl, fun other hother => hnone other ?_⟩
    rintro ⟨c, more, hc, rfl⟩
    have hmem : c ∈ ['.', 'e', 'E'] := by
      rcases hc with rfl | rfl
      · decide
      · decide
    refine head?_ne_of_stopsLike hother hmem (fun hhead => ?_) rfl
    rcases List.head?_eq_some_iff.mp hhead with ⟨more, hmore⟩
    exact hletter ⟨c, more, hc, hmore⟩

/-- Splits a number token off, of which the sign is known. -/
def splitUnsigned? (negative : Bool) (cs : List Char) : Option (NumberToken × List Char) := do
  let (whole, cs) ← splitWhole? cs
  let (fraction, cs) ← splitFraction? cs
  let (exponent, cs) ← splitExponent? cs
  return (⟨negative, whole, fraction, exponent⟩, cs)

/-- A token without its sign starts with a digit and is split off whatever follows. -/
theorem splitUnsigned?_append {negative : Bool} {cs rest : List Char} {t : NumberToken}
    (h : splitUnsigned? negative cs = some (t, rest)) : ∃ token, cs = token ++ rest ∧
      startsWithDigit token = true ∧ ∀ other, StopsLike rest other →
        splitUnsigned? negative (token ++ other) = some (t, other) := by
  rcases Option.bind_eq_some_iff.mp h with ⟨⟨whole, cs₁⟩, hwhole, h⟩
  rcases Option.bind_eq_some_iff.mp h with ⟨⟨fraction, cs₂⟩, hfraction, h⟩
  rcases Option.bind_eq_some_iff.mp h with ⟨⟨exponent, cs₃⟩, hexponent, h⟩
  cases h
  rcases splitWhole?_append hwhole with ⟨rfl, hstart, hwhole'⟩
  rcases splitsOff_splitFraction? hfraction with ⟨point, rfl, hfraction'⟩
  rcases splitsOff_splitExponent? hexponent with ⟨power, rfl, hexponent'⟩
  refine ⟨whole ++ (point ++ power), by simp only [List.append_assoc], ?_, fun other hother => ?_⟩
  · cases whole with
    | nil => cases hstart
    | cons d ds => exact hstart
  · have hpower := hother.append_left power
    rw [splitUnsigned?, List.append_assoc, List.append_assoc,
      hwhole' _ (hpower.append_left point)]
    simp only [Option.bind_eq_bind, Option.bind_some, hfraction' _ hpower, hexponent' _ hother]
    rfl

/-- A number token starts with a minus or a digit, and it is split off whatever follows. -/
theorem split?_append {cs rest : List Char} {t : NumberToken} (h : split? cs = some (t, rest)) :
    ∃ c token, cs = c :: token ++ rest ∧ (c = '-' ∨ c.isDigit = true) ∧
      ∀ other, StopsLike rest other → split? (c :: token ++ other) = some (t, other) := by
  by_cases hminus : ∃ more, cs = '-' :: more
  · rcases hminus with ⟨more, rfl⟩
    have hunsigned (ds : List Char) : split? ('-' :: ds) = splitUnsigned? true ds := rfl
    rw [hunsigned] at h
    rcases splitUnsigned?_append h with ⟨token, rfl, -, hall⟩
    exact ⟨'-', token, rfl, Or.inl rfl, fun other hother => hall other hother⟩
  · have hunsigned (ds : List Char) (hds : ∀ more, ds = '-' :: more → False) :
        split? ds = splitUnsigned? false ds := by
      rw [split?]
      · rfl
      · exact hds
    rw [hunsigned cs fun more hmore => hminus ⟨more, hmore⟩] at h
    rcases splitUnsigned?_append h with ⟨token, rfl, hstart, hall⟩
    cases token with
    | nil => cases hstart
    | cons c token =>
        refine ⟨c, token, rfl, Or.inr hstart, fun other hother => ?_⟩
        rw [hunsigned, hall other hother]
        intro more hmore
        exact hminus ⟨token ++ rest, by rw [List.cons_append, (List.cons.inj hmore).1]⟩

end NumberToken

end LootFilter
