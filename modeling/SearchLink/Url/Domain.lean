import SearchLink.Text.Basic
import SearchLink.Unicode.CategoryTable
import SearchLink.Unicode.CodeSet
import SearchLink.Unicode.DirectionTable
import SearchLink.Unicode.DomainTable
import SearchLink.Unicode.Normal
import SearchLink.Unicode.Mapping
import SearchLink.Url.Punycode

/-!
# `SearchLink.Url.Domain`: domain names of any script

`Domain.toAscii?` brings a domain name to the form that is looked up: lower case, composed,
and every label that is not ASCII written in Punycode behind `xn--`. It refuses names with
characters that may not occur, labels that only look like Punycode, labels that begin with a
mark, joiners without letters to join, and names whose writing directions are mixed.

The steps are functions of their own: `prepare` replaces characters, `readLabel?` undoes
Punycode, `isWellFormed` and `hasOneDirection` check, and `writeLabel` writes.
-/

set_option autoImplicit false

namespace SearchLink.Domain

open SearchLink.Unicode

/-! ### Single characters -/

/-- Characters that may not occur, whatever stands around them. -/
def disallowedSet : CodeSet := CodeSet.ofHex domainDisallowed

/-- Characters that are dropped. -/
def ignoredSet : CodeSet := CodeSet.ofHex domainIgnored

/-- Characters that are replaced. -/
def mappingRules : List Mapping := Mapping.tableOfHex domainMapping

/-- What becomes of a character: nothing, itself or others. `none` when it may not occur. -/
def prepareChar? (c : Char) : Option Text :=
  if disallowedSet.contains c then none
  else if ignoredSet.contains c then some []
  else some (((Mapping.lookup? mappingRules c.toNat).map fun ns => ns.map Char.ofNat).getD [c])

/-- The ASCII characters that no domain name has. -/
def isForbidden (c : Char) : Bool :=
  c.toNat ≤ 0x20 || c.toNat = 0x7F || ['%', '#', '/', ':', '<', '>', '?', '@', '[', '\\', ']',
    '^', '|'].contains c

/-- A name with every character replaced and everything composed. -/
def prepare? (name : Text) : Option Text := do
  let prepared := Unicode.compose (← name.mapM prepareChar?).flatten
  if prepared.any isForbidden then none else some prepared

/-! ### Labels -/

/-- What a label in Punycode begins with. -/
def punycodeMark : Text := ['x', 'n', '-', '-']

/-- The longest label that is read from Punycode. -/
def maxPunycode : Nat := 2000

/-- The longest label that is written in Punycode. -/
def maxLabel : Nat := 1000

/-- Splits a name at its full stops. -/
def splitLabels (name : Text) : List Text := name.splitOn '.'

/-- Whether a label is as preparation would leave it. -/
def isPrepared (label : Text) : Bool := prepare? label = some label && !label.contains '.'

/-- Reads a label, undoing Punycode. Punycode that is empty, or in which nothing follows the
last hyphen, would only repeat ASCII characters and is refused. -/
def readLabel? (label : Text) : Option Text :=
  match Text.stripStart? punycodeMark label with
  | none => some label
  | some written =>
    if written.getLast?.getD '-' = '-' || !written.all Punycode.isAscii ||
        maxPunycode < written.length then none
    else (Punycode.decode? written).bind fun l => if isPrepared l then some l else none

/-- Writes a label, in Punycode if it is not ASCII. -/
def writeLabel (label : Text) : Text :=
  if label.all Punycode.isAscii then label else punycodeMark ++ Punycode.encode label

/-! ### Marks and joiners -/

/-- The marks, which need a character in front of them. -/
def markSet : CodeSet :=
  (categoryTable.filter fun row => ["Mn", "Mc", "Me"].any (row.1.splitOn " ").contains).flatMap
    fun row => CodeSet.ofHex row.2

/-- The sign that binds two consonants, or takes the vowel from one. -/
def isVirama (c : Char) : Bool := combiningClass c = 9

/-- The kinds of joining, with their members. -/
def joiningSets : List (Joining × CodeSet) :=
  joinings.map fun row => (row.1, CodeSet.ofHex row.2)

/-- How a character joins its neighbours. -/
def joining (c : Char) : Joining :=
  ((joiningSets.find? fun row => row.2.contains c).map (·.1)).getD .none

/-- Whether the first character that others do not join across joins in one of the given
ways. -/
def meetsJoining (ways : List Joining) : Text → Bool
  | [] => false
  | c :: r =>
    let j := joining c
    ways.contains j || (j = .transparent && meetsJoining ways r)

/-- Whether every joiner has letters that it can join; `before` holds what stands in front,
nearest first. A joiner may follow a virama; the one that keeps letters apart may also stand
between two letters that would join. -/
def joinersFit (before : Text) : Text → Bool
  | [] => true
  | c :: r =>
    (if c.toNat = 0x200C then
      before.head?.any isVirama ||
        (meetsJoining [.left, .dual] before && meetsJoining [.right, .dual] r)
    else if c.toNat = 0x200D then before.head?.any isVirama
    else true) && joinersFit (c :: before) r

/-- The checks on a single label. -/
def isWellFormed (label : Text) : Bool :=
  !label.head?.any markSet.contains && joinersFit [] label &&
    (label.all Punycode.isAscii || label.length ≤ maxLabel)

/-! ### Writing direction -/

/-- The directions, with their members. -/
def directionSets : List (Direction × CodeSet) :=
  directions.map fun row => (row.1, CodeSet.ofHex row.2)

/-- How a character takes part in bidirectional text. -/
def direction (c : Char) : Direction :=
  ((directionSets.find? fun row => row.2.contains c).map (·.1)).getD .leftToRight

/-- Whether a character makes a name one that is written from right to left. -/
def runsLeft (c : Char) : Bool :=
  [Direction.rightToLeft, .arabicLetter, .arabicNumber].contains (direction c)

/-- The directions that fit both ways of writing. -/
def sharedDirections : List Direction :=
  [.europeanNumber, .europeanSeparator, .commonSeparator, .europeanTerminator, .otherNeutral,
    .boundaryNeutral, .nonspacingMark]

/-- Whether a label of a name that is written from right to left can be read one way only:
by the direction of its first letter, what may follow, and what may come last. -/
def hasOneDirection (label : Text) : Bool :=
  match label.map direction with
  | [] => true
  | first :: rest =>
    let body := (rest.reverse.dropWhile (· = .nonspacingMark)).reverse
    if first = .leftToRight then
      body.all (.leftToRight :: sharedDirections).contains &&
        [.leftToRight, .europeanNumber].contains (body.getLast?.getD .leftToRight)
    else if first = .rightToLeft || first = .arabicLetter then
      body.all
          (.rightToLeft :: .arabicLetter :: .arabicNumber :: sharedDirections).contains &&
        [.rightToLeft, .arabicLetter, .europeanNumber, .arabicNumber].contains
          (body.getLast?.getD .rightToLeft) &&
        !(body.contains .europeanNumber && body.contains .arabicNumber)
    else false

/-! ### Names -/

/-- The labels of a name, prepared, read and checked. -/
def labels? (name : Text) : Option (List Text) := do
  let labels ← (splitLabels (← prepare? name)).mapM readLabel?
  if labels.all isWellFormed && (!labels.flatten.any runsLeft || labels.all hasOneDirection) then
    some labels
  else none

/-- The form of a name that is looked up. -/
def toAscii? (name : Text) : Option Text :=
  (labels? name).map fun labels => ['.'].intercalate (labels.map writeLabel)

end SearchLink.Domain
