import SearchLink.Text.Basic

/-!
# `SearchLink.Yaml.Source`: a YAML text and the place that has been reached in it

Before it is read, a text is checked for characters that YAML does not allow, and its line
ends are made alike. A `Cursor` is the rest of the text with the line and column where it
begins; the indentation of YAML makes columns part of the grammar.
-/

set_option autoImplicit false

namespace SearchLink.Yaml

/-! ### Characters -/

/-- Whether a character may occur in a YAML text. -/
def isAllowed (c : Char) : Bool :=
  let n := c.toNat
  n = 0x09 || n = 0x0A || n = 0x0D || (0x20 ≤ n && n ≤ 0x7E) || n = 0x85 ||
    (0xA0 ≤ n && n ≤ 0xFFFD) || 0x10000 ≤ n

/-- A text in which every line that ends in a carriage return, a carriage return and a line
feed, or a next-line character ends in a line feed alone. -/
def normalLines : Text → Text
  | [] => []
  | '\r' :: '\n' :: r => '\n' :: normalLines r
  | c :: r => (if c = '\r' || c.toNat = 0x85 then '\n' else c) :: normalLines r

/-- Space or tab. -/
def isBlank (c : Char) : Bool := c = ' ' || c = '\t'

/-- A character that ends a line. -/
def isBreak (c : Char) : Bool := c = '\n' || c.toNat = 0x2028 || c.toNat = 0x2029

/-- A letter, a digit, a hyphen or an underscore. -/
def isWordChar (c : Char) : Bool := c.isAlphanum || c = '-' || c = '_'

/-! ### What a text begins with -/

/-- Whether a text is at an end or begins with a line end. -/
def atLineEnd (t : Text) : Bool := t.head?.all isBreak

/-- Whether a text is at an end or begins with a blank or a line end. -/
def atBlank (t : Text) : Bool := t.head?.all fun c => isBlank c || isBreak c

/-- Whether a text begins with a character. -/
def headIs (c : Char) (t : Text) : Bool := t.head? = some c

/-- Whether a text begins with the mark of a document's start or end. -/
def atDocumentMark (t : Text) : Bool :=
  (Text.startsWith ['-', '-', '-'] t || Text.startsWith ['.', '.', '.'] t) && atBlank (t.drop 3)

/-! ### Cursors -/

/-- A place in a text. -/
structure Cursor where
  /-- What stands behind the place. -/
  rest : Text
  /-- The number of lines in front of it. -/
  line : Nat
  /-- The number of characters in front of it in its line. -/
  column : Nat
  deriving Repr, DecidableEq

namespace Cursor

/-- The beginning of a text. -/
def ofText (t : Text) : Cursor := ⟨t, 0, 0⟩

/-- The place `n` characters on, within a line. -/
def skip (c : Cursor) (n : Nat) : Cursor := ⟨c.rest.drop n, c.line, c.column + n⟩

/-- The place behind all characters of a class, within a line. -/
def skipWhile (c : Cursor) (p : Char → Bool) : Cursor := c.skip (c.rest.takeWhile p).length

/-- The place behind a line end. -/
def skipBreak (c : Cursor) : Cursor :=
  if c.rest.head?.any isBreak then ⟨c.rest.drop 1, c.line + 1, 0⟩ else c

/-- The place behind blanks and a comment. -/
def skipComment (c : Cursor) : Cursor :=
  let c := c.skipWhile isBlank
  if headIs '#' c.rest then c.skipWhile fun d => !isBreak d else c

/-- The line end at a place, if there is one, and the place behind it. -/
def readBreak (c : Cursor) : Text × Cursor :=
  match c.rest with
  | d :: _ => if isBreak d then ([d], c.skipBreak) else ([], c)
  | [] => ([], c)

end Cursor

end SearchLink.Yaml
