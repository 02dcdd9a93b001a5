import SearchLink.Text.Basic

/-!
# `SearchLink.Http.Target`: what a request asks for

The target of a request is a path with a query, a whole URL, an authority alone, or an
asterisk. Only the path and the query are kept: the service answers the same under every name.
A fragment is dropped without being looked at.
-/

set_option autoImplicit false

namespace SearchLink.Http

/-- Why a request is refused before it is looked at. -/
inductive RequestError where
  /-- The method is empty, or is not made of the characters of a method. -/
  | invalidMethod
  /-- The target is empty. -/
  | emptyTarget
  /-- The target is longer than any target may be. -/
  | targetTooLong
  /-- The scheme is longer than any scheme may be. -/
  | schemeTooLong
  /-- A character may not stand where it does. -/
  | invalidCharacter
  /-- Brackets, colons, at signs or percent signs of the authority do not fit together. -/
  | invalidAuthority
  /-- The parts of the target do not fit together. -/
  | invalidFormat
  deriving Repr, DecidableEq

/-- The wording of an error. -/
def RequestError.message : RequestError → String
  | .invalidMethod => "invalid HTTP method"
  | .emptyTarget => "empty string"
  | .targetTooLong => "uri too long"
  | .schemeTooLong => "scheme too long"
  | .invalidCharacter => "invalid uri character"
  | .invalidAuthority => "invalid authority"
  | .invalidFormat => "invalid format"

/-- What a request asks for. -/
structure Target where
  /-- The path. -/
  path : Text
  /-- The query without its question mark; empty when there is none. -/
  query : Text
  deriving Repr, DecidableEq

namespace Target

/-! ### Characters -/

/-- The characters beyond letters and digits that a path and a query may hold. -/
def commonMarks : List Char := "!$%&'()*+,-./:;=@[\\]^_|~".toList

/-- Whether a character may stand both in a path and in a query. -/
def isCommonChar (c : Char) : Bool :=
  c.isAlphanum || 0x7F ≤ c.toNat || commonMarks.contains c

/-- Whether a character may stand in a path. -/
def isPathChar (c : Char) : Bool := isCommonChar c || ['"', '\x7b', '\x7d'].contains c

/-- Whether a character may stand in a query. -/
def isQueryChar (c : Char) : Bool := isCommonChar c || ['?', '\x60', '\x7b', '\x7d'].contains c

/-- Whether a character may stand in a scheme. -/
def isSchemeChar (c : Char) : Bool := c.isAlphanum || ['+', '-', '.', '~'].contains c

/-- Whether a character may stand in an authority, unlike the percent sign, at any place. -/
def isAuthorityChar (c : Char) : Bool :=
  c.isAlphanum || "!$&'()*+,-.:;=@[]_~".toList.contains c

/-- Whether a character ends an authority. -/
def endsAuthority (c : Char) : Bool := c = '/' || c = '?' || c = '#'

/-! ### Authorities -/

/-- The marks of an authority, as far as it has been read. -/
structure Marks where
  /-- The colons that may stand in front of a port. -/
  colons : Nat := 0
  /-- Whether a bracket has been opened. -/
  opened : Bool := false
  /-- Whether a bracket has been closed. -/
  closed : Bool := false
  /-- Whether there is a percent sign that may belong to a host. -/
  percent : Bool := false
  deriving Repr, DecidableEq

/-- More colons than an address with a port has. -/
def maxColons : Nat := 8

/-- Reads a character of an authority. Colons and percent signs in front of an at sign belong
to a user, and those between brackets to an address, so neither count for a port or a name. -/
def Marks.add (m : Marks) (c : Char) : Except RequestError Marks :=
  match c with
  | ':' =>
    if maxColons ≤ m.colons then .error .invalidAuthority
    else .ok { m with colons := m.colons + 1 }
  | '[' =>
    if m.percent || m.opened then .error .invalidAuthority else .ok { m with opened := true }
  | ']' =>
    if !m.opened || m.closed then .error .invalidAuthority
    else .ok { m with closed := true, colons := 0, percent := false }
  | '@' => .ok { m with colons := 0, percent := false }
  | '%' => .ok { m with percent := true }
  | c => if isAuthorityChar c then .ok m else .error .invalidCharacter

/-- Whether the marks of a whole authority fit together. -/
def Marks.fit (m : Marks) : Bool := m.opened == m.closed && m.colons ≤ 1 && !m.percent

/-- Checks an authority, which may be empty. -/
def checkAuthority (t : Text) : Except RequestError Unit := do
  let marks ← t.foldlM Marks.add {}
  if marks.fit && t.getLast? ≠ some '@' then return () else throw .invalidAuthority

/-! ### Targets -/

/-- The longest target, in bytes. -/
def maxSize : Nat := 65534

/-- The longest scheme. -/
def maxSchemeSize : Nat := 64

/-- The scheme of a target and what follows its colon and slashes. A target of these three
characters alone has no scheme. -/
def cutScheme? (t : Text) : Option (Text × Text) :=
  let scheme := t.takeWhile isSchemeChar
  match t.dropWhile isSchemeChar with
  | ':' :: '/' :: '/' :: rest =>
    if scheme.isEmpty && rest.isEmpty then none else some (scheme, rest)
  | _ => none

/-- Reads a path and what follows it. An empty path is the root. -/
def readPath (t : Text) : Except RequestError Target := do
  let endsPath (c : Char) : Bool := c = '?' || c = '#'
  let path := t.takeWhile fun c => !endsPath c
  let query :=
    match t.dropWhile fun c => !endsPath c with
    | '?' :: rest => rest.takeWhile (· ≠ '#')
    | _ => []
  if path.all isPathChar && query.all isQueryChar then
    return { path := if path.isEmpty then ['/'] else path, query }
  else throw .invalidCharacter

/-- Reads a target that does not begin with a slash. Without a scheme there must be an
authority and nothing else. -/
def readAbsolute (t : Text) : Except RequestError Target := do
  match cutScheme? t with
  | none =>
    let authority := t.takeWhile fun c => !endsAuthority c
    checkAuthority authority
    if authority = t then return { path := [], query := [] }
    else if t.length = 1 then throw .invalidCharacter
    else throw .invalidFormat
  | some (scheme, rest) =>
    if maxSchemeSize < scheme.length then throw .schemeTooLong
    let authority := rest.takeWhile fun c => !endsAuthority c
    checkAuthority authority
    if authority.isEmpty then throw .invalidFormat
    readPath (rest.drop authority.length)

/-- Reads the target of a request. -/
def parse (t : Text) : Except RequestError Target :=
  if maxSize < t.utf8Size then .error .targetTooLong
  else
    match t with
    | [] => .error .emptyTarget
    | ['*'] => .ok { path := ['*'], query := [] }
    | '/' :: _ => readPath t
    | _ => readAbsolute t

end Target

end SearchLink.Http
