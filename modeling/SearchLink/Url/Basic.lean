import SearchLink.Text.Decimal
import SearchLink.Url.Host

/-!
# `SearchLink.Url.Basic`: URLs and their parts

A URL is held in parts, each as it is written: percent-encoded, in lower case where case does
not matter, and without a port that the scheme implies. `Url.href` joins the parts again.

Some schemes are special: they always have a host and a path that begins with a slash, and a
backslash in them is a slash.
-/

set_option autoImplicit false

namespace SearchLink

/-! ### Schemes -/

/-- What a scheme says about the rest of a URL. -/
inductive SchemeKind where
  /-- It names files, on a host or without one. -/
  | file
  /-- It always has a host. -/
  | special
  /-- Nothing is known of it. -/
  | other
  deriving Repr, DecidableEq

/-- The port that a scheme implies. -/
def defaultPort? (scheme : Text) : Option Nat :=
  match String.ofList scheme with
  | "http" => some 80
  | "https" => some 443
  | "ws" => some 80
  | "wss" => some 443
  | "ftp" => some 21
  | _ => none

/-- The kind of a scheme. -/
def SchemeKind.ofScheme (scheme : Text) : SchemeKind :=
  if String.ofList scheme = "file" then .file
  else if (defaultPort? scheme).isSome then .special
  else .other

/-- Whether a backslash is a slash under this kind of scheme. -/
def SchemeKind.isSpecial (k : SchemeKind) : Bool := k ≠ .other

/-- Whether a character separates the segments of a path under this kind of scheme. -/
def SchemeKind.isSlash (k : SchemeKind) (c : Char) : Bool :=
  c = '/' || (c = '\\' && k.isSpecial)

/-! ### Characters that are percent-encoded -/

/-- The characters that a fragment does not show. -/
def isFragmentEscaped (c : Char) : Bool :=
  Host.isControl c || [' ', '"', '<', '>', '\x60'].contains c

/-- The characters that a query does not show. -/
def isQueryEscaped (k : SchemeKind) (c : Char) : Bool :=
  Host.isControl c || [' ', '"', '#', '<', '>'].contains c || (k.isSpecial && c = '\x27')

/-- The characters that a path does not show. -/
def isPathEscaped (c : Char) : Bool :=
  isFragmentEscaped c || ['#', '?', '\x7b', '\x7d'].contains c

/-- The characters that a user name or a password does not show. -/
def isCredentialEscaped (c : Char) : Bool :=
  isPathEscaped c || ['/', ':', ';', '=', '@', '[', '\\', ']', '^', '|'].contains c

/-! ### URLs -/

/-- Who is asked for what a URL names. -/
structure Authority where
  /-- The user name; empty when there is none. -/
  username : Text := []
  /-- The password; empty when there is none. -/
  password : Text := []
  /-- The host, unless it is left empty. -/
  host : Option Host := none
  /-- The port, unless it is the one that the scheme implies. -/
  port : Option Nat := none
  deriving Repr, DecidableEq

/-- A URL in parts. -/
structure Url where
  /-- The scheme, in lower case and without its colon. -/
  scheme : Text
  /-- The authority, if there is one. -/
  authority : Option Authority
  /-- The path. -/
  path : Text
  /-- The query, without its question mark. -/
  query : Option Text
  /-- The fragment, without its hash sign. -/
  fragment : Option Text
  deriving Repr, DecidableEq

/-- The user name and password in front of a host. -/
def Authority.writeCredentials (a : Authority) : Text :=
  if a.username.isEmpty && a.password.isEmpty then []
  else if a.password.isEmpty then a.username ++ ['@']
  else a.username ++ ':' :: a.password ++ ['@']

/-- The host of an authority, as written. -/
def Authority.writeHost (a : Authority) : Text := (a.host.map Host.write).getD []

/-- The port behind a host. -/
def Authority.writePort (a : Authority) : Text :=
  match a.port with
  | some port => ':' :: Text.ofNatural port
  | none => []

/-- An authority, as written behind two slashes. -/
def Authority.write (a : Authority) : Text :=
  a.writeCredentials ++ a.writeHost ++ a.writePort

namespace Url

/-- What stands between the scheme and the path. A path that begins with two slashes would be
taken for an authority, so a segment that means nothing is put in front of it. -/
def writeAuthority (u : Url) : Text :=
  match u.authority with
  | some a => '/' :: '/' :: a.write
  | none => if Text.startsWith ['/', '/'] u.path then ['/', '.'] else []

/-- A part behind its mark, if the part is there. -/
def behind (mark : Char) : Option Text → Text
  | some part => mark :: part
  | none => []

/-- A whole URL. -/
def href (u : Url) : Text :=
  u.scheme ++ ':' :: u.writeAuthority ++ u.path ++ behind '?' u.query ++ behind '#' u.fragment

/-- The host of a URL as written; empty when there is none. -/
def hostname (u : Url) : Text := (u.authority.map Authority.writeHost).getD []

/-- The port of a URL, unless its scheme implies it. -/
def port? (u : Url) : Option Nat := u.authority.bind Authority.port

end Url

end SearchLink
