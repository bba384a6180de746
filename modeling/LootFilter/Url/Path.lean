import LootFilter.Url.Basic

/-!
# Paths of URLs

A path is read segment by segment. A segment of one dot stands for the place
where it is, and a segment of two dots goes back over the segment before it; a
dot can also be written as an escape. The root is never left, and neither is a
drive letter. In the path of a file the first segment can be a drive letter,
and then the file needs no host.

Tabs and line breaks do not count. The one trace that they leave is in the path
of a file: behind a drive letter they cut it from what follows.

## Main definitions

* `Url.PathSoFar`: What has been read of a path.
* `Url.appendSegment`: A path with one more segment.
* `Url.readSegments`, `Url.readPath`: The path at the start of a text, and what
  follows it.
* `Url.filePath`: The form that the path of a file takes.
-/

namespace LootFilter

namespace Url

/-- The character is dropped wherever it stands. -/
def isIgnored (c : Char) : Bool :=
  c == '\t' || c == '\n' || c == '\r'

/-- A letter followed by a colon, or by a bar in the place of one. -/
def isDriveLetter : List Char → Bool
  | [c, d] => c.isAlpha && (d == ':' || d == '|')
  | _ => false

/-- A drive letter with its colon. -/
def isPlainDriveLetter : List Char → Bool
  | [c, ':'] => c.isAlpha
  | _ => false

/-- The number of dots in a segment of nothing but dots. -/
def dots? : List Char → Option Nat
  | [] => some 0
  | '.' :: rest => (dots? rest).map (· + 1)
  | '%' :: '2' :: e :: rest => if e == 'e' || e == 'E' then (dots? rest).map (· + 1) else none
  | _ => none

/-- A path up to its last slash. -/
def folder (path : List Char) : List Char :=
  (path.reverse.dropWhile (· != '/')).reverse

/-- The last segment of a path that ends in a slash. -/
def lastSegment (path : List Char) : List Char :=
  (path.dropLast.reverse.takeWhile (· != '/')).reverse

/-- The path one segment up from a path that ends in a slash. A drive letter is
    not left. A backslash ends one here even where it is no slash. -/
def parent (path : List Char) : List Char :=
  if path.length ≤ 1 || isDriveLetter ((lastSegment path).takeWhile (· != '\\')) then path
  else folder path.dropLast

/-- What has been read of a path. -/
structure PathSoFar where
  chars : List Char
  /-- A drive letter has been the first segment of a file's path. -/
  hasDrive : Bool
  deriving DecidableEq

/-- A path with one more segment, which a slash may end. A drive letter at the
    start of a file's path gets its colon. -/
def appendSegment (kind : SchemeKind) (path : PathSoFar) (segment : List Char) (slash : Bool) :
    PathSoFar :=
  match dots? segment with
  | some 1 => path
  | some 2 => { path with chars := parent path.chars }
  | _ =>
    let slashChars := if slash then ['/'] else []
    if kind = .file ∧ path.chars = ['/'] ∧ isDriveLetter segment then
      ⟨'/' :: segment.take 1 ++ [':'] ++ slashChars, true⟩
    else { path with chars := path.chars ++ segment ++ slashChars }

/-- The character ends the path within a whole URL. -/
def endsPath (c : Char) : Bool :=
  c == '?' || c == '#'

/-- The drive letter with which the path of a file starts is cut off here: what
    follows is neither the end of the path nor a slash. -/
def cutsDrive (kind : SchemeKind) (path : PathSoFar) (segment rest : List Char) : Bool :=
  kind == .file && path.chars == ['/'] && isPlainDriveLetter segment &&
    match rest.dropWhile isIgnored with
    | c :: _ => !(kind.isSlash c || endsPath c)
    | [] => false

/-- Continues a path with the segments of a text. `segment` is what has been read
    of the current one. Unless the text `isWhole`ly belongs to the path, it ends
    at a query or a fragment. What follows a drive letter that is cut off counts
    to the segment of the colon. -/
def readSegments (kind : SchemeKind) (isWhole : Bool) :
    (path : PathSoFar) → (segment : List Char) → List Char → PathSoFar × List Char
  | path, segment, [] => (appendSegment kind path segment false, [])
  | path, segment, c :: rest =>
    if isIgnored c then
      if cutsDrive kind path segment rest then
        readSegments kind isWhole { path with chars := path.chars ++ segment.take 1 }
          (segment.drop 1 ++ ['/']) rest
      else readSegments kind isWhole path segment rest
    else if kind.isSlash c then
      readSegments kind isWhole (appendSegment kind path segment true) [] rest
    else if !isWhole && endsPath c then (appendSegment kind path segment false, c :: rest)
    else readSegments kind isWhole path (segment ++ encodeChar isEscapedInPath c) rest

/-- Continues a path with the text that follows it, up to a query or a
    fragment. -/
def continuePath (kind : SchemeKind) (path text : List Char) : PathSoFar × List Char :=
  readSegments kind false ⟨path, false⟩ [] text

/-- Reads the path behind an authority. It starts with a slash, even where the
    text leaves it out; only a scheme that is not special can have no path. -/
def readPath (kind : SchemeKind) (isWhole : Bool) (text : List Char) : PathSoFar × List Char :=
  let root : PathSoFar := ⟨['/'], false⟩
  match text with
  | [] => (if kind = .other then ⟨[], false⟩ else root, [])
  | c :: rest =>
    if kind.isSlash c then readSegments kind isWhole root [] rest
    else if kind = .other ∧ endsPath c then (⟨[], false⟩, text)
    else readSegments kind isWhole root [] text

/-- The path of a file, which starts with exactly one slash. -/
def filePath (path : List Char) : List Char :=
  '/' :: path.dropWhile (· == '/')

end Url

end LootFilter
