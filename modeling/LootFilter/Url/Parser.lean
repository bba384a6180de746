import LootFilter.Url.Path

/-!
# Reading URLs

A text is read from left to right: scheme, authority, path, query, fragment.
Blanks and controls around it are dropped, and so are tabs and line breaks
within it. A text without a scheme is a reference relative to another URL, from
which it takes everything that it does not say itself.

A file URL is read by rules of its own, since its host is nearly always empty
and its path may start with a drive letter.

## Main definitions

* `Url.parse`: The URL that a text is.
* `Url.join`: The URL that a text refers to from another URL.
* `Url.setPath`: A URL with another path.
-/

namespace LootFilter

namespace Url

/-- The character is dropped at both ends of a text. -/
def isPadding (c : Char) : Bool :=
  c.toNat ≤ 32

/-- The characters of a text without what is dropped at its ends. -/
def trimmed (s : String) : List Char :=
  ((s.toList.dropWhile isPadding).reverse.dropWhile isPadding).reverse

/-- The characters of a text that count. -/
def readable (text : List Char) : List Char :=
  text.filter (!isIgnored ·)

/-! ## Parts -/

/-- The scheme at the start of a text, in lower case, and what follows its
    colon. -/
def splitScheme? (text : List Char) : Option (List Char × List Char) :=
  let (scheme, rest) := text.span fun c =>
    c.isAlphanum || c == '+' || c == '-' || c == '.' || isIgnored c
  match readable scheme, rest with
  | c :: cs, ':' :: rest => if c.isAlpha then some ((c :: cs).map Char.toLower, rest) else none
  | _, _ => none

/-- The character ends an authority. -/
def endsAuthority (kind : SchemeKind) (c : Char) : Bool :=
  kind.isSlash c || c == '?' || c == '#'

/-- Splits at the last at sign. -/
def splitCredentials (cs : List Char) : Option (List Char) × List Char :=
  match cs.reverse.span (· != '@') with
  | (host, _ :: credentials) => (some credentials.reverse, host.reverse)
  | (_, []) => (none, cs)

/-- User name and password, escaped. An empty password is left out with its
    colon. -/
def credentialChars (cs : List Char) : List Char :=
  let (name, password) := cs.span (· != ':')
  encode isEscapedInUserinfo name ++
    match password.drop 1 with
    | [] => []
    | cs => ':' :: encode isEscapedInUserinfo cs

/-- Splits the host off. A colon ends it unless it stands between brackets. -/
def splitHost (bracketed : Bool) : List Char → List Char × List Char
  | [] => ([], [])
  | c :: rest =>
    if c == ':' && !bracketed then ([], c :: rest)
    else
      let (host, after) := splitHost ((bracketed || c == '[') && c != ']') rest
      (c :: host, after)

/-- Reads a port behind its colon. The usual port of the scheme counts as none.
    Only a backslash can follow, where it is no slash. -/
def readPort (scheme : List Char) : List Char → Except UrlError (Option Nat × List Char)
  | ':' :: rest =>
    let (digits, rest) := rest.span Char.isDigit
    match Host.digits? 10 digits with
    | none => .error .invalidPort
    | some port =>
      if 65535 < port then .error .invalidPort
      else if rest.isEmpty || ['\\'].isPrefixOf rest then
        .ok (if digits.isEmpty || usualPort? scheme = some port then none else some port, rest)
      else .error .invalidPort
  | rest => .ok (none, rest)

/-- Reads the authority of a scheme that is not the one of files. -/
def readAuthority (scheme text : List Char) : Except UrlError (Authority × List Char) := do
  let kind := SchemeKind.ofScheme scheme
  let (body, rest) := text.span (!endsAuthority kind ·)
  let (credentials?, body) := splitCredentials body
  if credentials? = some [] ∧ body.isEmpty ∧ !rest.isEmpty then throw .emptyHost
  let credentials := credentialChars (credentials?.getD [])
  let (hostText, afterHost) := splitHost false body
  if kind = .web ∧ hostText.isEmpty then throw .emptyHost
  let host ← if kind = .web then Host.parse hostText else Host.parseOther hostText
  if host = .domain [] ∧ (!credentials.isEmpty ∨ [':'].isPrefixOf afterHost) then
    throw .emptyHost
  let (port, afterPort) ← readPort scheme afterHost
  return (⟨credentials, host, port⟩, afterPort ++ rest)

/-- Reads a query and a fragment. -/
def readTail (kind : SchemeKind) (text : List Char) : Option (List Char) × Option (List Char) :=
  let (query, rest) := match readable text with
    | '?' :: cs =>
      let (query, rest) := cs.span (· != '#')
      let isEscaped := if kind.isSpecial then isEscapedInSpecialQuery else isEscapedInQuery
      (some (encode isEscaped query), rest)
    | cs => (none, cs)
  match rest with
  | '#' :: cs => (query, some (encode isEscapedInFragment cs))
  | _ => (query, none)

/-- A URL up to its path, completed by the query and the fragment of a text. -/
def withTail (scheme : List Char) (authority : Option Authority) (path text : List Char) : Url :=
  let (query, fragment) := readTail (.ofScheme scheme) text
  ⟨scheme, authority, path, query, fragment⟩

/-- The URL of a scheme whose authority starts a text. -/
def ofAuthority (scheme text : List Char) : Except UrlError Url := do
  let (authority, rest) ← readAuthority scheme text
  let (path, rest) := readPath (.ofScheme scheme) false rest
  return withTail scheme (some authority) path.chars rest

/-! ## Relative references -/

/-- The URL with another fragment, which a text writes behind a number sign. -/
def withFragment (u : Url) (text : List Char) : Url :=
  { u with fragment := (readTail u.kind text).2 }

/-- The path in which the relative references of a URL are looked up. -/
def referencePath (u : Url) : List Char :=
  let path := folder u.path
  if path.isEmpty then ['/'] else path

/-- The URL that a reference without a scheme means, read from a URL of a scheme
    that is not the one of files. -/
def ofReference (base : Url) (text : List Char) : Except UrlError Url :=
  match text with
  | [] => .ok { base with fragment := none }
  | '?' :: _ => .ok (withTail base.scheme base.authority base.path text)
  | '#' :: _ => .ok (base.withFragment text)
  | c :: rest =>
    if c = '/' ∨ c = '\\' then
      match rest with
      | d :: _ =>
        if d = '/' ∨ d = '\\' then
          -- Two slashes start an authority; more of them only count if one of the two is
          -- a backslash.
          if c = '/' ∧ d = '/' then ofAuthority base.scheme (rest.drop 1)
          else ofAuthority base.scheme (rest.dropWhile fun c => c == '/' || c == '\\')
        else
          let (path, rest) := continuePath base.kind ['/'] rest
          .ok (withTail base.scheme base.authority path.chars rest)
      | [] => .ok (withTail base.scheme base.authority ['/'] [])
    else
      let (path, rest) := continuePath base.kind base.referencePath text
      .ok (withTail base.scheme base.authority path.chars rest)

/-! ## Files -/

/-- The scheme of files. -/
def fileScheme : List Char :=
  ['f', 'i', 'l', 'e']

/-- A file URL up to its path, completed by the query and the fragment of a
    text. -/
def file (host : Host) (path text : List Char) : Url :=
  withTail fileScheme (some ⟨[], host, none⟩) (filePath path) text

/-- The first character of a text that counts, and what follows it. -/
def next? (text : List Char) : Option (Char × List Char) :=
  match text.dropWhile isIgnored with
  | c :: rest => some (c, rest)
  | [] => none

/-- The text starts with a segment that is a drive letter. -/
def startsWithDriveSegment (text : List Char) : Bool :=
  isDriveLetter ((readable text).takeWhile fun c => !endsAuthority .file c)

/-- The file URL whose host starts a text. A path that starts with a drive letter
    has no host. Without a host the path is read with its slash as a segment of
    its own, so a bar behind a drive letter stays. -/
def fileOfHost (text : List Char) : Except UrlError Url := do
  let (hostText, afterHost) := text.span (!endsAuthority .file ·)
  let hostText := readable hostText
  if isDriveLetter hostText then
    let (path, rest) := continuePath .file ['/'] text
    return file (.domain []) path.chars rest
  let host ← if hostText.isEmpty then pure (.domain []) else Host.parse hostText
  if host = .domain [] ∨ host = .domain "localhost".toList then
    let (path, rest) := continuePath .file ['/'] afterHost
    return file (.domain []) path.chars rest
  let (path, rest) := readPath .file false afterHost
  return file (if path.hasDrive then .domain [] else host) path.chars rest

/-- The host of a file URL. -/
def fileHost (u : Url) : Host :=
  (u.authority.getD .blank).host

/-- The file URL of a text that starts with a single slash, with what follows
    the slash. The drive letter of the base stays, or else its host. -/
def fileOfRoot (base? : Option Url) (text afterSlash : List Char) : Url :=
  let (host, start) := match base? with
    | some base =>
      let first := (base.path.drop 1).takeWhile (· != '/')
      if startsWithDriveSegment afterSlash then (.domain [], [])
      else if isPlainDriveLetter first then (.domain [], '/' :: first)
      else (base.fileHost, [])
    | none => (.domain [], [])
  let (path, rest) := continuePath .file start text
  file host path.chars rest

/-- The path in which the relative references of a file URL are looked up. A
    drive letter at its end is not left. -/
def fileReferencePath (u : Url) : List Char :=
  let folder := folder u.path
  if isPlainDriveLetter (u.path.drop folder.length) then
    if folder = ['/'] then u.path ++ ['/'] else u.path
  else folder

/-- The file URL that a text without slashes at its start means. -/
def fileOfReference (base? : Option Url) (text : List Char) : Url :=
  match base? with
  | some base =>
    match next? text with
    | none => { base with fragment := none }
    | some ('?', _) => withTail base.scheme base.authority base.path text
    | some ('#', _) => base.withFragment text
    | some _ =>
      if startsWithDriveSegment text then
        let (path, rest) := continuePath .file ['/'] text
        file (.domain []) path.chars rest
      else
        let (path, rest) := continuePath .file base.fileReferencePath text
        file base.fileHost path.chars rest
  | none =>
    let (path, rest) := continuePath .file ['/'] text
    file (.domain []) path.chars rest

/-- The file URL that a text means behind its scheme, or without one. -/
def ofFileText (base? : Option Url) (text : List Char) : Except UrlError Url :=
  let isSlash := SchemeKind.isSlash .file
  match next? text with
  | some (c, rest) =>
    if isSlash c then
      match next? rest with
      | some (d, afterSlashes) =>
        if isSlash d then fileOfHost afterSlashes else .ok (fileOfRoot base? text rest)
      | none => .ok (fileOfRoot base? text rest)
    else .ok (fileOfReference base? text)
  | none => .ok (fileOfReference base? text)

/-! ## Whole texts -/

/-- The URL of a text behind its scheme. -/
def ofScheme (base? : Option Url) (scheme text : List Char) : Except UrlError Url :=
  let base? := base?.filter (·.scheme == scheme)
  match SchemeKind.ofScheme scheme with
  | .file => ofFileText base? text
  | .web =>
    let (slashes, rest) := (readable text).span fun c => c == '/' || c == '\\'
    match base? with
    | some base =>
      if slashes.length < 2 then ofReference base (readable text) else ofAuthority scheme rest
    | none => ofAuthority scheme rest
  | .other =>
    match readable text with
    | '/' :: '/' :: rest => ofAuthority scheme rest
    | '/' :: rest =>
      let (path, rest) := continuePath .other ['/'] rest
      .ok (withTail scheme none path.chars rest)
    | text =>
      let (path, rest) := text.span (!endsPath ·)
      .ok (withTail scheme none (encode isControlOrWide path) rest)

/-- The URL that a text is. -/
def parse (s : String) : Except UrlError Url :=
  match splitScheme? (trimmed s) with
  | some (scheme, text) => ofScheme none scheme text
  | none => .error .noBase

/-- The URL that a text refers to from another URL. -/
def join (base : Url) (s : String) : Except UrlError Url :=
  let text := trimmed s
  match splitScheme? text with
  | some (scheme, rest) => ofScheme (some base) scheme rest
  | none =>
    if ['#'].isPrefixOf (readable text) then .ok (base.withFragment text)
    else if !base.isHierarchical then .error .unsuitableBase
    else if base.kind = .file then ofFileText (some base) text
    else ofReference base (readable text)

/-- The URL with another path. -/
def setPath (u : Url) (path : List Char) : Url :=
  let (path, _) := readPath u.kind true path
  { u with path := if u.kind = .file then filePath path.chars else path.chars }

end Url

end LootFilter
