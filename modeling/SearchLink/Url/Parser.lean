import SearchLink.Text.Basic
import SearchLink.Text.Percent
import SearchLink.Url.Basic
import SearchLink.Url.Path

/-!
# `SearchLink.Url.Parser`: reading URLs

`Url.parse` reads an absolute URL the way browsers do: blanks at the ends are dropped, line
breaks and tabs anywhere; a special scheme may be followed by any number of slashes; and what
is not allowed to show is percent-encoded. There is an error for each kind of broken host, for
a broken port, and for a text without a scheme.

The text is cut first: the fragment from the first hash sign on, the query from the first
question mark on, the scheme up to its colon, the authority up to the first slash. Each piece
is then read on its own.
-/

set_option autoImplicit false

namespace SearchLink.Url

/-! ### Cutting -/

/-- A text cut at the first character of a class; the second part is `none` when there is no
such character. -/
def cut (mark : Char) (t : Text) : Text × Option Text :=
  match t.dropWhile (· ≠ mark) with
  | [] => (t, none)
  | _ :: rest => (t.takeWhile (· ≠ mark), some rest)

/-- A text without the blanks at its ends, and without tabs and line breaks. -/
def clean (t : Text) : Text :=
  (Text.trimWhere (fun c => c.toNat ≤ 0x20) t).filter fun c =>
    !(c = '\t' || c = '\n' || c = '\r')

/-- Whether a character may stand in a scheme. -/
def isSchemeChar (c : Char) : Bool := c.isAlphanum || c = '+' || c = '-' || c = '.'

/-- The scheme in lower case, and what follows its colon. -/
def cutScheme? (t : Text) : Option (Text × Text) :=
  match t, t.dropWhile isSchemeChar with
  | first :: _, ':' :: rest =>
    if first.isAlpha then some ((t.takeWhile isSchemeChar).map Char.toLower, rest) else none
  | _, _ => none

/-! ### Authorities -/

/-- The text in front of the first colon that is not inside brackets, and what follows from
the colon on. -/
def cutHost (inBrackets : Bool) : Text → Text × Text
  | [] => ([], [])
  | c :: r =>
    if c = ':' && !inBrackets then ([], c :: r)
    else
      let (host, rest) := cutHost (c = '[' || (inBrackets && c ≠ ']')) r
      (c :: host, rest)

/-- The user name and the password in front of a host. -/
def readCredentials (t : Text) : Text × Text :=
  let (username, password) := cut ':' t
  (Text.encodeWhere isCredentialEscaped username,
    Text.encodeWhere isCredentialEscaped (password.getD []))

/-- The largest port. -/
def maxPort : Nat := 65535

/-- Reads what follows a host: a port behind a colon, up to the end or a backslash, which is
left for the path. A port that the scheme implies is dropped. -/
def readPort (scheme : Text) : Text → Except UrlError (Option Nat × Text)
  | ':' :: t =>
    let digits := t.takeWhile Char.isDigit
    let rest := t.dropWhile Char.isDigit
    let value := (Text.natural? digits).getD 0
    if maxPort < value || (rest.head?.any (· ≠ '\\')) then .error .invalidPort
    else if digits.isEmpty || defaultPort? scheme = some value then .ok (none, rest)
    else .ok (some value, rest)
  | t => .ok (none, t)

/-- Reads a host and what follows it. A host may be left empty only under a scheme that is
not special, and then without a port. -/
def readHost (scheme : Text) (t : Text) :
    Except UrlError (Option Host × Option Nat × Text) := do
  let special := (SchemeKind.ofScheme scheme).isSpecial
  let (text, rest) := cutHost false t
  if text.isEmpty && (special || rest.head? = some ':') then throw .emptyHost
  let host ← if special then Host.parseSpecial text else Host.parseOther text
  let (port, rest) ← readPort scheme rest
  return (if host = .registered [] then none else some host, port, rest)

/-- Reads an authority and returns it with what is left for the path. `goesOn` says whether a
slash, a query or a fragment follows the authority: an at sign right in front of one is an
error. -/
def readAuthority (scheme : Text) (goesOn : Bool) (t : Text) :
    Except UrlError (Authority × Text) := do
  let hostText := (t.reverse.takeWhile (· ≠ '@')).reverse
  let credentials := t.take (t.length - hostText.length - 1)
  if t.head? = some '@' && credentials.isEmpty && hostText.isEmpty && goesOn then
    throw .emptyHost
  let (username, password) := readCredentials credentials
  let (host, port, rest) ← readHost scheme hostText
  if host.isNone && !(username.isEmpty && password.isEmpty) then throw .emptyHost
  return ({ username, password, host, port }, rest)

/-! ### What follows the scheme

Each function returns the authority and the path. -/

/-- Reads what follows the two slashes of a scheme other than `file`. -/
def readHierarchy (scheme : Text) (hasTail : Bool) (t : Text) :
    Except UrlError (Option Authority × Text) := do
  let kind := SchemeKind.ofScheme scheme
  let authorityText := t.takeWhile fun c => !kind.isSlash c
  let rest := t.dropWhile fun c => !kind.isSlash c
  let (authority, left) ← readAuthority scheme (hasTail || !rest.isEmpty) authorityText
  match left ++ rest with
  | [] => return (some authority, if kind.isSpecial then ['/'] else [])
  | c :: r =>
    let behindRoot := if kind.isSlash c then r else c :: r
    return (some authority, (Path.read kind true behindRoot).write)

/-- Reads what follows a scheme that is not special. Without a slash, the path is a text of
its own. -/
def readOther (scheme : Text) (hasTail : Bool) :
    Text → Except UrlError (Option Authority × Text)
  | '/' :: '/' :: t => readHierarchy scheme hasTail t
  | '/' :: t => .ok (none, (Path.read .other true t).write)
  | t => .ok (none, Text.encodeWhere Host.isControl t)

/-- The host of a file, where `localhost` is as good as none. -/
def readFileHost (t : Text) : Except UrlError (Option Host) :=
  if t.isEmpty then .ok none
  else (Host.parseSpecial t).map fun host =>
    if host = .registered "localhost".toList then none else some host

/-- Reads what follows the scheme `file`. -/
def readFile (t : Text) : Except UrlError (Option Authority × Text) := do
  let isSlash := SchemeKind.file.isSlash
  let finish (host : Option Host) (r : Path.Reading) : Option Authority × Text :=
    (some { host := if r.replacesHost then none else host }, Path.oneSlash r.write)
  match t.span isSlash with
  | ([], t) => return finish none (Path.read .file true t)
  | ([_], t) => return finish none (Path.read .file false t)
  | (_ :: _ :: slashes, t) =>
    let hostText := if slashes.isEmpty then t.takeWhile fun c => !isSlash c else []
    let rest := slashes ++ t.drop hostText.length
    if Path.isDrive hostText then
      return finish none (Path.read .file true (slashes ++ t))
    let host ← readFileHost hostText
    return finish host (Path.read .file host.isSome (rest.drop 1))

/-- Reads what follows a scheme. -/
def readBody (scheme : Text) (hasTail : Bool) (t : Text) :
    Except UrlError (Option Authority × Text) :=
  let kind := SchemeKind.ofScheme scheme
  match kind with
  | .file => readFile t
  | .special => readHierarchy scheme hasTail (t.dropWhile kind.isSlash)
  | .other => readOther scheme hasTail t

/-- Reads an absolute URL. -/
def parse (t : Text) : Except UrlError Url := do
  match cutScheme? (clean t) with
  | none => throw .noScheme
  | some (scheme, t) =>
    let (t, fragment) := cut '#' t
    let (t, query) := cut '?' t
    let (authority, path) ← readBody scheme (query.isSome || fragment.isSome) t
    return {
      scheme, authority, path
      query := query.map (Text.encodeWhere (isQueryEscaped (SchemeKind.ofScheme scheme)))
      fragment := fragment.map (Text.encodeWhere isFragmentEscaped) }

/-! ### Origins -/

/-- The origin of a URL, following the paths of nested ones at most `depth` times. -/
def originWithin : (depth : Nat) → Url → Text
  | depth, u =>
    match u.authority, defaultPort? u.scheme with
    | some a, some _ => u.scheme ++ ':' :: '/' :: '/' :: a.writeHost ++ a.writePort
    | _, _ =>
      match depth with
      | 0 => "null".toList
      | depth + 1 =>
        if String.ofList u.scheme = "blob" then
          match parse u.path with
          | .ok inner => originWithin depth inner
          | .error _ => "null".toList
        else "null".toList

/-- The origin of a URL: its scheme, host and port for the special schemes other than `file`,
the origin of the URL inside for `blob`, and nothing that could be compared for all others.
Every URL inside another is shorter, so the length of the path bounds the nesting. -/
def origin (u : Url) : Text := originWithin u.path.length u

end SearchLink.Url
