import SearchLink.Text.Basic
import SearchLink.Unicode.CaseTable
import SearchLink.Unicode.CodeSet
import SearchLink.Unicode.PropertyTable

/-!
# `SearchLink.Unicode.Casing`: letter case

Lower and upper case of characters and texts, equality of characters up to case, and the
closure of a code set under simple case folding.

A character's lower or upper case may be several characters. In a text one letter depends
on its neighbours: a capital sigma at the end of a word becomes a final sigma.
-/

set_option autoImplicit false

namespace SearchLink.Unicode

/-- The image of a code point under the first run that covers it. -/
def imageIn? (runs : List CaseRun) (n : Nat) : Option Nat := runs.findSome? (·.image? n)

/-- The image of a character under a table of runs and of longer forms. -/
def mapCase (runs : List CaseRun) (expansions : List (Nat × List Nat)) (c : Char) : Text :=
  match imageIn? runs c.toNat with
  | some m => [Char.ofNat m]
  | none =>
    match expansions.lookup c.toNat with
    | some ms => ms.map Char.ofNat
    | none => [c]

/-- The lower-case form of a character, whatever stands around it. -/
def lower (c : Char) : Text := mapCase lowerRuns lowerExpansions c

/-- The upper-case form of a character. -/
def upper (c : Char) : Text := mapCase upperRuns upperExpansions c

/-- Whether two characters are the same letter up to case: equal, or with equal
lower-case forms. -/
def sameLetter (a b : Char) : Bool := a = b || lower a = lower b

/-- The code points of a binary property, by one of its names. -/
def binaryProperty (name : String) : CodeSet :=
  match propertyTable.find? fun row => (row.1.splitOn " ").contains name with
  | some row => CodeSet.ofHex row.2
  | none => []

/-- The characters that have an upper, lower or title case. -/
def casedSet : CodeSet := binaryProperty "Cased"

/-- The characters that are passed over when a letter's neighbours are looked at. -/
def caseIgnorableSet : CodeSet := binaryProperty "Case_Ignorable"

/-- Whether the first character that is not passed over has case. -/
def meetsCased (t : Text) : Bool :=
  match t.dropWhile caseIgnorableSet.contains with
  | c :: _ => casedSet.contains c
  | [] => false

/-- Lower case of a text; `before` holds the characters in front of it, nearest first. -/
def lowerFrom (before : Text) : Text → Text
  | [] => []
  | c :: r =>
    (if c = 'Σ' then
      (if meetsCased before && !meetsCased r then ['ς'] else ['σ'])
    else lower c) ++ lowerFrom (c :: before) r

/-- The lower-case form of a text. -/
def lowerText (t : Text) : Text := lowerFrom [] t

/-- The upper-case form of a text. -/
def upperText (t : Text) : Text := t.flatMap upper

/-- Lower case of the letters of ASCII alone. -/
def asciiLower (t : Text) : Text := t.map Char.toLower

/-! ### Simple case folding of code sets -/

/-- The part of a run's source that lies in a range, shifted to the run's target. -/
def CaseRun.imageOfRange (r : CaseRun) (lo hi : Nat) : CodeSet :=
  let first := max r.first lo
  let last := min r.last hi
  if first ≤ last then
    if r.step = 1 then [(r.target + (first - r.first), r.target + (last - r.first))]
    else
      (List.range (last + 1 - first)).filterMap fun k =>
        (r.image? (first + k)).map fun m => (m, m)
  else []

/-- The run that goes from the targets of a run back to its sources. -/
def CaseRun.inverse (r : CaseRun) : CaseRun :=
  ⟨r.target, r.target + (r.last - r.first), r.step, r.first⟩

/-- All images of a set under the runs. -/
def imagesUnder (runs : List CaseRun) (s : CodeSet) : CodeSet :=
  runs.flatMap fun r => s.flatMap fun range => r.imageOfRange range.1 range.2

/-- A set together with every code point that has the same simple case folding as one of
its members. -/
def foldClosure (s : CodeSet) : CodeSet :=
  let withFolded := s.union (imagesUnder foldRuns s)
  withFolded.union (imagesUnder (foldRuns.map CaseRun.inverse) withFolded)

end SearchLink.Unicode
