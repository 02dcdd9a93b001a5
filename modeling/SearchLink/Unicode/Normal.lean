import SearchLink.Text.Basic
import SearchLink.Unicode.CodeSet
import SearchLink.Unicode.NormalTable
import SearchLink.Unicode.Mapping

/-!
# `SearchLink.Unicode.Normal`: canonical composition

Texts that look alike can be written in several ways: a letter with its accents as one
character, or as a letter and marks in some order. `compose` brings a text to the form in
which everything is composed that can be. It works in three steps: `decompose` takes every
character apart, `sortMarks` orders the marks that follow one letter by their classes, and
`recompose` puts letters and marks together again.
-/

set_option autoImplicit false

namespace SearchLink.Unicode

/-! ### The tables -/

/-- The combining classes other than zero, with their members. -/
def classSets : List (Nat × CodeSet) :=
  combiningClasses.map fun row => (row.1, CodeSet.ofHex row.2)

/-- The combining class of a character: zero for letters, and for a mark the place that it
takes on its letter. -/
def combiningClass (c : Char) : Nat :=
  ((classSets.find? fun row => row.2.contains c).map (·.1)).getD 0

/-- The characters that two others compose to. -/
def compositeRules : List Mapping := Mapping.tableOfHex composites

/-- The characters that are taken apart for good. -/
def replacementRules : List Mapping := Mapping.tableOfHex replacements

/-! ### Syllables of the Korean alphabet

Every syllable is composed of a leading consonant, a vowel and possibly a trailing
consonant, and stands at the place in its block that the three numbers give. -/

/-- The first leading consonant. -/
def leadingBase : Nat := 0x1100

/-- The number of leading consonants. -/
def leadingCount : Nat := 19

/-- The first vowel. -/
def vowelBase : Nat := 0x1161

/-- The number of vowels. -/
def vowelCount : Nat := 21

/-- One less than the first trailing consonant, so that zero can mean none. -/
def trailingBase : Nat := 0x11A7

/-- The number of trailing consonants, and one for none. -/
def trailingCount : Nat := 28

/-- The first syllable. -/
def syllableBase : Nat := 0xAC00

/-- The number of syllables. -/
def syllableCount : Nat := leadingCount * vowelCount * trailingCount

/-- The letters of a syllable, if a code point is one. -/
def syllableParts? (n : Nat) : Option (List Nat) :=
  if syllableBase ≤ n && n < syllableBase + syllableCount then
    let i := n - syllableBase
    let leading := leadingBase + i / (vowelCount * trailingCount)
    let vowel := vowelBase + i % (vowelCount * trailingCount) / trailingCount
    if i % trailingCount = 0 then some [leading, vowel]
    else some [leading, vowel, trailingBase + i % trailingCount]
  else none

/-- The syllable of a consonant and a vowel, or of a syllable and one more consonant. -/
def syllable? (a b : Nat) : Option Nat :=
  if leadingBase ≤ a && a < leadingBase + leadingCount &&
      vowelBase ≤ b && b < vowelBase + vowelCount then
    some (syllableBase + ((a - leadingBase) * vowelCount + (b - vowelBase)) * trailingCount)
  else if syllableBase ≤ a && a < syllableBase + syllableCount &&
      (a - syllableBase) % trailingCount = 0 &&
      trailingBase < b && b < trailingBase + trailingCount then
    some (a + (b - trailingBase))
  else none

/-! ### Taking apart -/

/-- The parts of a code point. A composite has a first part that may be a composite again,
so a bound says how often that is followed. -/
def partsWithin : (depth n : Nat) → List Nat
  | 0, n => [n]
  | depth + 1, n =>
    match syllableParts? n with
    | some parts => parts
    | none =>
      match Mapping.lookup? replacementRules n with
      | some parts => parts
      | none =>
        match Mapping.lookup? compositeRules n with
        | some (first :: rest) => partsWithin depth first ++ rest
        | _ => [n]

/-- No character has more marks than this. -/
def partsDepth : Nat := 4

/-- A text with every character taken apart. -/
def decompose (t : Text) : Text :=
  t.flatMap fun c =>
    if c.toNat < 0xC0 then [c] else (partsWithin partsDepth c.toNat).map Char.ofNat

/-! ### The order of marks -/

/-- Adds a character to a text that is held back to front, in front of the marks of higher
class that it follows. -/
def insertMark (k : Nat) (c : Char) : Text → Text
  | [] => [c]
  | d :: r => if k < combiningClass d then d :: insertMark k c r else c :: d :: r

/-- A text in which the marks after each letter stand in the order of their classes. Marks
of one class keep their order. -/
def sortMarks (t : Text) : Text :=
  (t.foldl
    (fun back c =>
      let k := combiningClass c
      if k = 0 then c :: back else insertMark k c back) []).reverse

/-! ### Putting together -/

/-- The character that two others compose to. -/
def compositeOf? (a b : Char) : Option Char :=
  match syllable? a.toNat b.toNat with
  | some n => some (Char.ofNat n)
  | none =>
    (compositeRules.find? fun r => r.target == [a.toNat, b.toNat]).map fun r =>
      Char.ofNat r.first

/-- Composes a letter with what follows it. `marks` holds the marks that have not composed,
back to front. A character composes with the letter unless a mark of its own class or a
higher one stands between them. -/
def recomposeFrom (letter : Char) (marks : Text) : Text → Text
  | [] => letter :: marks.reverse
  | c :: r =>
    let k := combiningClass c
    let free :=
      match marks with
      | [] => true
      | m :: _ => combiningClass m < k
    match if free then compositeOf? letter c else none with
    | some composite => recomposeFrom composite marks r
    | none =>
      if k = 0 then letter :: marks.reverse ++ recomposeFrom c [] r
      else recomposeFrom letter (c :: marks) r

/-- Composes a text whose marks are in order. Marks in front of the first letter stay. -/
def recompose : Text → Text
  | [] => []
  | c :: r => if combiningClass c = 0 then recomposeFrom c [] r else c :: recompose r

/-- The composed form of a text. -/
def compose (t : Text) : Text :=
  if t.all fun c => c.toNat < 0x300 then t else recompose (sortMarks (decompose t))

end SearchLink.Unicode
