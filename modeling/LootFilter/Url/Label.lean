import LootFilter.Text.Composition
import LootFilter.Text.Direction
import LootFilter.Text.Joining
import LootFilter.Url.Mapping
import LootFilter.Url.Punycode

/-!
# Labels of Domain Names

A domain name is a sequence of labels. A label with characters beyond ASCII has
an ASCII form, which starts with a sign of its own; a label that is given in
this form already has to be the form of some label.

Three rules keep labels apart that would look alike. No label starts with a
combining mark. The two invisible joiners stand only where a script needs them.
And if any label of a name is written from right to left, then each of them has
one direction.

## Main definitions

* `Domain.Label`: A label with its ASCII form.
* `Domain.Label.ofText?`: The label that a text is.
* `Domain.joinersFit`: The joiners stand where they may.
* `Domain.hasOneDirection`: The rule for names with two directions of writing.
-/

namespace LootFilter

namespace Domain

/-! ## Joiners -/

/-- The joiner that asks for a joined form. -/
def joiner : Char :=
  '\u200D'

/-- The joiner that asks for a form that is not joined. -/
def nonJoiner : Char :=
  '\u200C'

/-- The nearest character that does not let the joining through has one of the
    given parts in it. -/
def meetsJoining (parts : List Text.Joining) : List Char → Bool
  | [] => false
  | c :: rest =>
    match Text.joining? c with
    | some .transparent => meetsJoining parts rest
    | some part => parts.contains part
    | none => false

/-- The joiners of a text stand where they may: both of them behind a virama, and
    the one that keeps letters apart also between letters that would be joined.
    The characters before the text are `before`, the last one first. -/
def joinersFit (before : List Char) : List Char → Bool
  | [] => true
  | c :: rest =>
    let followsVirama := before.head?.any Text.isVirama
    let isFit :=
      if c = joiner then followsVirama
      else if c = nonJoiner then
        followsVirama || (meetsJoining [.dual, .left] before && meetsJoining [.dual, .right] rest)
      else true
    isFit && joinersFit (c :: before) rest

/-! ## Directions -/

/-- A character of the class can stand between the ends of a label whatever its
    direction is. -/
def fitsEitherWay (d : Text.Direction) : Bool :=
  [.europeanNumber, .europeanSeparator, .commonSeparator, .europeanTerminator, .otherNeutral,
    .boundaryNeutral, .nonspacingMark].contains d

/-- Characters of these classes make a label of one direction, which the first
    one sets. Marks at the end do not count, and what stands before them is a
    letter of the direction or a number. From right to left all numbers are
    European or all are Arabic. -/
def hasOneDirection : List Text.Direction → Bool
  | [] => true
  | first :: rest =>
    let body := (rest.reverse.dropWhile (· == .nonspacingMark)).reverse
    let inner := body.dropLast
    if first = .leftToRight then
      (body.getLast?.all fun d => d == .leftToRight || d == .europeanNumber) &&
        inner.all fun d => d == .leftToRight || fitsEitherWay d
    else if first.isRightToLeft then
      (body.getLast?.all fun d =>
        d.isRightToLeft || d == .europeanNumber || d == .arabicNumber) &&
        (inner.all fun d => d.isRightToLeft || d == .arabicNumber || fitsEitherWay d) &&
        !(body.contains .europeanNumber && body.contains .arabicNumber)
    else false

/-! ## Labels -/

/-- What starts the ASCII form of a label. -/
def asciiMark : List Char :=
  ['x', 'n', '-', '-']

/-- A label with its ASCII form. -/
structure Label where
  chars : List Char
  ascii : List Char
  deriving DecidableEq

namespace Label

/-- Some of the label is written from right to left, if only a number. -/
def turnsLeft (label : Label) : Bool :=
  label.chars.any fun c =>
    (Text.direction c).isRightToLeft || Text.direction c == .arabicNumber

/-- The label has one direction. -/
def isOneWay (label : Label) : Bool :=
  hasOneDirection (label.chars.map Text.direction)

/-- The character is an ASCII one. -/
def isAscii (c : Char) : Bool :=
  c.toNat < 128

/-- The most characters of a label beyond ASCII. -/
def longest : Nat :=
  1000

/-- The most characters of an ASCII form behind its start. -/
def longestForm : Nat :=
  2000

/-- The characters can stand together in a label beyond ASCII. -/
def isSound (chars : List Char) : Bool :=
  !chars.head?.any Text.isMark && joinersFit [] chars && chars.length ≤ longest

/-- The label whose ASCII form ends in the given characters. The label has to
    consist of characters that count as themselves, and they have to be
    composed. -/
def ofForm? (form : List Char) : Option Label :=
  if form.length ≤ longestForm then
    match Punycode.decode? form with
    | some chars =>
      if chars.any (!isAscii ·) && Punycode.encode chars == form && chars.all isStable &&
          Text.normalForm chars == chars && isSound chars then
        some ⟨chars, asciiMark ++ form⟩
      else none
    | none => none
  else none

/-- The label that a text is, whose characters have been replaced and composed. -/
def ofText? (text : List Char) : Option Label :=
  if asciiMark.isPrefixOf text then ofForm? (text.drop asciiMark.length)
  else if text.all isAscii then some ⟨text, text⟩
  else if isSound text then some ⟨text, asciiMark ++ Punycode.encode text⟩
  else none

end Label

end Domain

end LootFilter
