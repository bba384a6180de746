/-!
# Blank Characters

The white space that separates the tokens of a filter line and that is
trimmed from version tags and source addresses. The set is that of the
Unicode property `White_Space`, which has twenty-five members. It is wider
than the class that core's `Char.isWhitespace` knows: the no-break space, the
next-line control and the two Unicode separators belong to it. The zero width
space and the byte order mark do not, since they carry no width and separate
nothing.

## Main definitions

* `Text.isBlank`: The character is white space.
* `Text.trim`: A text without the blanks at its two ends.

## Theorems

* `Text.trim_eq_empty_iff`: Nothing is left exactly of the blank texts.
-/

namespace LootFilter

namespace Text

/-- The character has the Unicode property `White_Space`. -/
def isBlank (c : Char) : Bool :=
  let n := c.toNat
  (9 ≤ n && n ≤ 13) || n == 32 || n == 0x85 || n == 0xA0 || n == 0x1680 ||
    (0x2000 ≤ n && n ≤ 0x200A) || n == 0x2028 || n == 0x2029 || n == 0x202F ||
    n == 0x205F || n == 0x3000

/-- The characters that are left when the blanks at both ends are dropped. -/
def trimChars (cs : List Char) : List Char :=
  ((cs.dropWhile isBlank).reverse.dropWhile isBlank).reverse

/-- A text without the blanks at its two ends. -/
def trim (s : String) : String :=
  String.ofList (trimChars s.toList)

/-- Dropping a prefix leaves nothing exactly when the whole list was to be
    dropped. -/
private theorem dropWhile_eq_nil_iff_all (p : Char → Bool) (cs : List Char) :
    cs.dropWhile p = [] ↔ cs.all p = true := by
  induction cs with
  | nil => simp
  | cons c cs ih =>
    by_cases h : p c = true
    · simp [List.dropWhile, h, ih]
    · simp [List.dropWhile, h]

/-- What follows a dropped prefix is blank throughout only if the prefix took
    everything, since it stops before a character that is not blank. -/
private theorem all_dropWhile_iff_all (p : Char → Bool) (cs : List Char) :
    (cs.dropWhile p).all p = true ↔ cs.all p = true := by
  induction cs with
  | nil => simp
  | cons c cs ih =>
    by_cases h : p c = true
    · simp only [List.dropWhile, h, List.all_cons, Bool.true_and, ih]
    · simp [List.dropWhile, h]

/-- Trimming leaves nothing exactly of a text of blanks alone. -/
theorem trim_eq_empty_iff (s : String) : trim s = "" ↔ s.toList.all isBlank = true := by
  have hempty : trim s = "" ↔ trimChars s.toList = [] := by
    constructor
    · intro h
      have := congrArg String.toList h
      simpa [trim] using this
    · intro h
      simp [trim, h]
  rw [hempty, trimChars, List.reverse_eq_nil_iff, dropWhile_eq_nil_iff_all, List.all_reverse,
    all_dropWhile_iff_all]

end Text

end LootFilter
