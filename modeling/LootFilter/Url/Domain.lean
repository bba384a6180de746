import LootFilter.Url.Encoding
import LootFilter.Url.Label

/-!
# Domain Names

The domain name that the host of a web address denotes. Escapes are resolved
first. Then every character is replaced by what it counts as, the text is
composed, and each of its labels takes its ASCII form. What stands for the name
afterwards is ASCII alone, and some ASCII characters cannot stand in a name.

## Main definitions

* `Domain.isForbidden`: The ASCII characters that stand in no name.
* `Domain.ofText?`: The name that a host denotes.
-/

namespace LootFilter

namespace Domain

/-- The ASCII character stands in no name. -/
def isForbidden (c : Char) : Bool :=
  c.toNat ≤ 32 || c.toNat == 127 ||
    ['%', '#', '/', ':', '<', '>', '?', '@', '[', '\\', ']', '^', '|'].contains c

/-- The labels go together: if there is text that is written from right to left,
    each of them has one direction. -/
def agree (labels : List Label) : Bool :=
  !labels.any Label.turnsLeft || labels.all Label.isOneWay

/-- The domain name that a host denotes. -/
def ofText? (host : List Char) : Option (List Char) := do
  let text ← Url.decodeText? host
  let replaced ← text.mapM replacement?
  let labels ← ((Text.normalForm replaced.flatten).splitOn '.').mapM Label.ofText?
  let name := ['.'].intercalate (labels.map Label.ascii)
  if name.any isForbidden || !agree labels then none else return name

end Domain

end LootFilter
