import SearchLink.Text.Decimal
import SearchLink.Text.Percent
import SearchLink.Text.Utf8
import SearchLink.Yaml.Source

/-!
# `SearchLink.Yaml.Tag`: tags, anchors and directives

A tag says what kind of value a node is. It is written with a handle, which a directive at
the head of the document may expand, and a suffix; or in full between angle brackets. Anchors
name a node so that it can be referred to later.
-/

set_option autoImplicit false

namespace SearchLink.Yaml

/-- A tag as written: an empty handle stands in front of a tag that is written in full. -/
structure Tag where
  /-- The handle, from one exclamation mark to another. -/
  handle : Text
  /-- What follows it. -/
  suffix : Text
  deriving Repr, DecidableEq

/-- A line about the document as a whole. -/
inductive Directive where
  /-- The version of YAML. -/
  | version (major minor : Nat)
  /-- What the handle of a tag stands for. -/
  | tag (handle expansion : Text)
  deriving Repr, DecidableEq

/-! ### Tags -/

/-- Whether a character may stand in a tag. Brackets and commas may only in a tag that is
written in full, or in the expansion of a handle. -/
def isTagChar (inFull : Bool) (c : Char) : Bool :=
  isWordChar c ||
    [';', '/', '?', ':', '@', '&', '=', '+', '$', '.', '%', '!', '~', '*', '\x27', '(',
      ')'].contains c ||
    (inFull && (c = ',' || c = '[' || c = ']'))

/-- Whether every percent sign is followed by two hexadecimal digits. -/
def escapesWell : Text → Bool
  | [] => true
  | '%' :: h :: l :: r => (Text.hexValue? h).isSome && (Text.hexValue? l).isSome && escapesWell r
  | '%' :: _ => false
  | _ :: r => escapesWell r

/-- Reads the characters of a tag, and undoes percent-encoding. -/
def readTagText (inFull : Bool) (c : Cursor) : Option (Text × Cursor) :=
  let written := c.rest.takeWhile (isTagChar inFull)
  if escapesWell written then
    (Text.ofUtf8? (Text.decodeBytes written)).map fun t => (t, c.skip written.length)
  else none

/-- Reads a handle: an exclamation mark, a word, and possibly another mark. -/
def readHandle (c : Cursor) : Option (Text × Cursor) :=
  if headIs '!' c.rest then
    let word := (c.rest.drop 1).takeWhile isWordChar
    let after := c.skip (word.length + 1)
    if headIs '!' after.rest then some ('!' :: word ++ ['!'], after.skip 1)
    else some ('!' :: word, after)
  else none

/-- Whether a handle ends in an exclamation mark of its own. -/
def isClosed (handle : Text) : Bool := 1 < handle.length && handle.getLast? = some '!'

/-- Reads a tag. -/
def readTag (inFlow : Bool) (c : Cursor) : Option (Tag × Cursor) := do
  let (tag, after) ←
    if headIs '<' (c.rest.drop 1) then do
      let (suffix, after) ← readTagText true (c.skip 2)
      if suffix.isEmpty || !headIs '>' after.rest then none
      else some (Tag.mk [] suffix, after.skip 1)
    else do
      let (handle, after) ← readHandle c
      let (rest, after) ← readTagText false after
      if isClosed handle then
        if rest.isEmpty then none else some (Tag.mk handle rest, after)
      else
        let suffix := handle.drop 1 ++ rest
        some (if suffix.isEmpty then Tag.mk [] ['!'] else Tag.mk ['!'] suffix, after)
  if atBlank after.rest || (inFlow && headIs ',' after.rest) then some (tag, after) else none

/-! ### Anchors -/

/-- Reads the name of an anchor, or of a reference to one, behind its mark. -/
def readAnchor (c : Cursor) : Option (Text × Cursor) :=
  let c := c.skip 1
  let name := c.rest.takeWhile isWordChar
  let after := c.skip name.length
  if !name.isEmpty &&
      (atBlank after.rest || after.rest.head?.any
        ['?', ':', ',', ']', '\x7d', '%', '@', '\x60'].contains) then
    some (name, after)
  else none

/-! ### Directives -/

/-- The most digits that a number of a version has. -/
def maxVersionDigits : Nat := 9

/-- Reads a number of a version. -/
def readVersionNumber (c : Cursor) : Option (Nat × Cursor) :=
  let digits := c.rest.takeWhile Char.isDigit
  if maxVersionDigits < digits.length then none
  else (Text.natural? digits).map fun n => (n, c.skip digits.length)

/-- Reads what follows the name of a directive. -/
def readDirectiveBody (name : String) (c : Cursor) : Option (Directive × Cursor) := do
  let c := c.skipWhile isBlank
  match name with
  | "YAML" =>
    let (major, c) ← readVersionNumber c
    if !headIs '.' c.rest then none
    else
      let (minor, c) ← readVersionNumber (c.skip 1)
      some (.version major minor, c)
  | "TAG" =>
    let (handle, c) ← readHandle c
    if !(isClosed handle || handle = ['!']) || !c.rest.head?.any isBlank then none
    else
      let (expansion, c) ← readTagText true (c.skipWhile isBlank)
      if expansion.isEmpty || !atBlank c.rest then none
      else some (.tag handle expansion, c)
  | _ => none

/-- Reads a directive and the rest of its line. -/
def readDirective (c : Cursor) : Option (Directive × Cursor) := do
  let c := c.skip 1
  let name := c.rest.takeWhile isWordChar
  let after := c.skip name.length
  if !atBlank after.rest then none
  else
    let (directive, after) ← readDirectiveBody (String.ofList name) after
    let after := after.skipComment
    if atLineEnd after.rest then some (directive, after.skipBreak) else none

end SearchLink.Yaml
