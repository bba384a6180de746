import LootFilter.Text.Hexadecimal

/-!
# Percent Encoding

A character that cannot stand in a part of a URL is written as the bytes of its
UTF-8 form, each as a percent sign and two hexadecimal digits. What has to be
written so depends on the part. Controls and everything beyond ASCII always do.
A percent sign never does, so text that is already encoded stays as it is.

## Main definitions

* `Url.isEscapedInPath` and its siblings: The characters that a part escapes.
* `Url.encode`: A text with these characters escaped.
* `Url.decodeBytes`, `Url.decodeText?`: A text with its escapes resolved, as
  bytes and as characters.
-/

namespace LootFilter

namespace Url

/-- A control character, or a character beyond ASCII. -/
def isControlOrWide (c : Char) : Bool :=
  c.toNat < 32 || 126 < c.toNat

/-- The characters that a query escapes. -/
def isEscapedInQuery (c : Char) : Bool :=
  isControlOrWide c || [' ', '"', '#', '<', '>'].contains c

/-- The characters that the query of a special scheme escapes. -/
def isEscapedInSpecialQuery (c : Char) : Bool :=
  isEscapedInQuery c || c == '\''

/-- The characters that a fragment escapes; the last one is the grave accent. -/
def isEscapedInFragment (c : Char) : Bool :=
  isControlOrWide c || [' ', '"', '<', '>', '\x60'].contains c

/-- The characters that a path escapes. -/
def isEscapedInPath (c : Char) : Bool :=
  isEscapedInFragment c || ['#', '?', '{', '}'].contains c

/-- The characters that a user name and a password escape. -/
def isEscapedInUserinfo (c : Char) : Bool :=
  isEscapedInPath c || ['/', ':', ';', '=', '@', '[', '\\', ']', '^', '|'].contains c

/-- A hexadecimal digit below sixteen, in upper case. -/
def hexDigit (n : Nat) : Char :=
  if n < 10 then Char.ofNat ('0'.toNat + n) else Char.ofNat ('A'.toNat + n - 10)

/-- A byte as a percent sign and two digits. -/
def escapeByte (b : UInt8) : List Char :=
  ['%', hexDigit (b.toNat / 16), hexDigit (b.toNat % 16)]

/-- A character with all of its bytes escaped. -/
def escape (c : Char) : List Char :=
  (String.utf8EncodeChar c).flatMap escapeByte

/-- A character, escaped if it has to be. -/
def encodeChar (isEscaped : Char → Bool) (c : Char) : List Char :=
  if isEscaped c then escape c else [c]

/-- A text with the characters escaped that have to be. -/
def encode (isEscaped : Char → Bool) (cs : List Char) : List Char :=
  cs.flatMap (encodeChar isEscaped)

/-- The bytes of a text with its escapes resolved. A percent sign without two
    digits behind it stands for itself. -/
def decodeBytes : List Char → List UInt8
  | [] => []
  | '%' :: a :: b :: rest =>
    match Text.hexValue? a, Text.hexValue? b with
    | some x, some y => UInt8.ofNat (16 * x + y) :: decodeBytes rest
    | _, _ => UInt8.ofNat '%'.toNat :: decodeBytes (a :: b :: rest)
  | c :: rest => String.utf8EncodeChar c ++ decodeBytes rest

/-- The text that is left when the escapes of a text are resolved; `none` if it
    is not UTF-8. -/
def decodeText? (cs : List Char) : Option (List Char) :=
  (String.fromUTF8? ⟨(decodeBytes cs).toArray⟩).map String.toList

end Url

end LootFilter
