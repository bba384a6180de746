/-!
# Paths of Files

A path is a text in which slashes separate names. A path behind another one
continues it, unless it starts with a slash, which makes it stand for itself.

## Main definitions

* `Path.join`: A path behind another one.
* `Path.isAbsolute`: The path starts at the root.
* `Path.names`: The names of a path.
-/

namespace LootFilter

namespace Path

/-- The path starts at the root and not at the working folder. -/
def isAbsolute (path : String) : Bool :=
  ['/'].isPrefixOf path.toList

/-- A path behind another one. A slash is put between them where none is. -/
def join (path next : String) : String :=
  if isAbsolute next || path.isEmpty then next
  else if path.toList.getLast? = some '/' then path ++ next
  else path ++ "/" ++ next

/-- The names of a path. Several slashes separate like one. -/
def names (path : String) : List String :=
  ((path.toList.splitOn '/').filter (!·.isEmpty)).map String.ofList

end Path

end LootFilter
