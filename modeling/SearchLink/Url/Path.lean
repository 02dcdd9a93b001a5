import SearchLink.Text.Percent
import SearchLink.Url.Basic

/-!
# `SearchLink.Url.Path`: paths without dots

A path is read segment by segment. `.` names the place where it stands and `..` the one above,
so neither is kept; each may be written with its dots percent-encoded. A drive letter is not
left by going up, and one at the root of a file path takes the place of a host.
-/

set_option autoImplicit false

namespace SearchLink.Path

/-! ### Segments -/

/-- Splits a path at its slashes. -/
def split (k : SchemeKind) (t : Text) : List Text := t.splitOnP k.isSlash

/-- What is left of a segment when its first dot is taken off. -/
def dropDot? : Text → Option Text
  | '.' :: r => some r
  | '%' :: '2' :: 'e' :: r => some r
  | '%' :: '2' :: 'E' :: r => some r
  | _ => none

/-- Whether a segment is a single dot. -/
def isDot (segment : Text) : Bool := dropDot? segment = some []

/-- Whether a segment is two dots. -/
def isDotDot (segment : Text) : Bool := (dropDot? segment).any isDot

/-- Whether a segment begins with a drive letter, and nothing else follows it up to a slash
of either kind. -/
def startsWithDrive : Text → Bool
  | a :: b :: r => a.isAlpha && (b = ':' || b = '|') && (r.isEmpty || r.head? = some '\\')
  | _ => false

/-- Whether a segment is a drive letter. -/
def isDrive (segment : Text) : Bool := segment.length = 2 && startsWithDrive segment

/-- A drive letter with a colon. -/
def normalDrive (segment : Text) : Text := segment.take 1 ++ [':']

/-- Leaves the innermost of the segments, unless it is a drive letter. -/
def goUp : List Text → List Text
  | [] => []
  | s :: outer => if startsWithDrive s then s :: outer else outer

/-! ### Reading -/

/-- A path that has been read in part. -/
structure Reading where
  /-- The segments that stay, innermost first. -/
  outer : List Text := []
  /-- Whether a drive letter at the root has taken the place of the host. -/
  replacesHost : Bool := false
  deriving Repr, DecidableEq

/-- The text of a segment that is kept. A drive letter at the root of a file path is written
with a colon when `hasRoot` says that the root has been supplied. -/
def Reading.keep (k : SchemeKind) (hasRoot : Bool) (r : Reading) (segment : Text) :
    Text × Bool :=
  let text := Text.encodeWhere isPathEscaped segment
  if k = .file && hasRoot && r.outer.isEmpty && isDrive text then (normalDrive text, true)
  else (text, r.replacesHost)

/-- Passes a segment that a slash follows. -/
def Reading.pass (k : SchemeKind) (hasRoot : Bool) (r : Reading) (segment : Text) : Reading :=
  if isDotDot segment then { r with outer := goUp r.outer }
  else if isDot segment then r
  else
    let (text, replacesHost) := r.keep k hasRoot segment
    ⟨text :: r.outer, replacesHost⟩

/-- Passes the last segment. -/
def Reading.last (k : SchemeKind) (hasRoot : Bool) (r : Reading) (segment : Text) : Reading :=
  if isDotDot segment then { r with outer := [] :: goUp r.outer }
  else if isDot segment then { r with outer := [] :: r.outer }
  else
    let (text, replacesHost) := r.keep k hasRoot segment
    ⟨text :: r.outer, replacesHost⟩

/-- Reads the segments behind the root. -/
def Reading.run (k : SchemeKind) (hasRoot : Bool) (r : Reading) : List Text → Reading
  | [] => r
  | [segment] => r.last k hasRoot segment
  | segment :: segments => Reading.run k hasRoot (r.pass k hasRoot segment) segments

/-- A path as written: a slash in front of every segment. -/
def Reading.write (r : Reading) : Text := r.outer.reverse.flatMap ('/' :: ·)

/-- Reads the part of a path behind its first slash. -/
def read (k : SchemeKind) (hasRoot : Bool) (t : Text) : Reading :=
  Reading.run k hasRoot {} (split k t)

/-- A file path with a single slash at its root. -/
def oneSlash (path : Text) : Text := '/' :: path.dropWhile (· = '/')

end SearchLink.Path
