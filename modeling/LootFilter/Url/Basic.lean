import LootFilter.Url.Host

/-!
# URLs

A URL has a scheme, a path, and perhaps an authority, a query and a fragment.
Everything is kept in the form in which it is written, escapes included, so
writing a URL only puts the separators in.

A few schemes are special. Those of the web always have a host, take a
backslash for a slash, and leave out their usual port. Files have a path with
drive letters. A URL of any other scheme may do without an authority, and then
its path need not start with a slash. Nothing can be relative to such a URL.

## Main definitions

* `SchemeKind`: How the scheme of a URL is treated.
* `Authority`: The credentials, the host and the port.
* `Url`: A URL.
* `Url.toText`: The text of a URL.
-/

namespace LootFilter

/-- How the scheme of a URL is treated. -/
inductive SchemeKind where
  /-- A scheme of the web, which needs a host. -/
  | web
  | file
  | other
  deriving DecidableEq

namespace SchemeKind

/-- The kind of a scheme in lower case. -/
def ofScheme (scheme : List Char) : SchemeKind :=
  if ["http", "https", "ws", "wss", "ftp"].contains (String.ofList scheme) then .web
  else if String.ofList scheme = "file" then .file
  else .other

/-- The scheme takes a backslash for a slash. -/
def isSpecial : SchemeKind → Bool
  | .other => false
  | _ => true

/-- The character separates the segments of a path. -/
def isSlash (kind : SchemeKind) (c : Char) : Bool :=
  c == '/' || (c == '\\' && kind.isSpecial)

end SchemeKind

/-- The port that a scheme uses when none is given. -/
def usualPort? (scheme : List Char) : Option Nat :=
  match String.ofList scheme with
  | "http" => some 80
  | "ws" => some 80
  | "https" => some 443
  | "wss" => some 443
  | "ftp" => some 21
  | _ => none

/-- What stands between the scheme and the path. -/
structure Authority where
  /-- The user name, and a password behind a colon; empty if there is neither. -/
  credentials : List Char
  host : Host
  port : Option Nat
  deriving DecidableEq

namespace Authority

/-- The authority without a host. -/
def blank : Authority :=
  ⟨[], .domain [], none⟩

/-- The user name, with its escapes resolved. -/
def userName? (a : Authority) : Option (List Char) :=
  Url.decodeText? (a.credentials.takeWhile (· != ':'))

/-- The password, if there is one, with its escapes resolved. -/
def password? (a : Authority) : Option (List Char) :=
  match a.credentials.dropWhile (· != ':') with
  | _ :: password => Url.decodeText? password
  | [] => none

/-- Somebody can log in with the credentials: the user name is a text, and there
    is a password that is one if the name is empty. -/
def hasLogin (a : Authority) : Bool :=
  match a.userName? with
  | some name => !name.isEmpty || a.password?.isSome
  | none => false

/-- The text of an authority. -/
def toChars (a : Authority) : List Char :=
  (if a.credentials.isEmpty then [] else a.credentials ++ ['@']) ++ a.host.toChars ++
    match a.port with
    | some port => ':' :: Nat.toDigits 10 port
    | none => []

end Authority

/-- A URL, with each part as it is written. -/
structure Url where
  scheme : List Char
  authority : Option Authority
  path : List Char
  query : Option (List Char)
  fragment : Option (List Char)
  deriving DecidableEq

namespace Url

/-- How the scheme of the URL is treated. -/
def kind (u : Url) : SchemeKind :=
  .ofScheme u.scheme

/-- A reference can be relative to the URL. -/
def isHierarchical (u : Url) : Bool :=
  u.authority.isSome || ['/'].isPrefixOf u.path

/-- The URL without the credentials that somebody can log in with. Credentials
    that are of no use stay. -/
def withoutLogin (u : Url) : Url :=
  { u with authority := u.authority.map fun a =>
      if a.hasLogin then { a with credentials := [] } else a }

/-- An optional part behind its separator. -/
def part (separator : Char) : Option (List Char) → List Char
  | some cs => separator :: cs
  | none => []

/-- The text of a URL. A path that would look like an authority is kept apart by
    a dot segment. -/
def toChars (u : Url) : List Char :=
  u.scheme ++ [':'] ++
    (match u.authority with
    | some a => ['/', '/'] ++ a.toChars
    | none => if ['/', '/'].isPrefixOf u.path then ['/', '.'] else []) ++
    u.path ++ part '?' u.query ++ part '#' u.fragment

/-- The text of a URL. -/
def toText (u : Url) : String :=
  String.ofList u.toChars

end Url

end LootFilter
