import SearchLink.Text.Basic
import SearchLink.Unicode.AgeTable
import SearchLink.Unicode.CategoryTable
import SearchLink.Unicode.CodeSet
import SearchLink.Unicode.PropertyTable
import SearchLink.Unicode.ScriptExtensionTable
import SearchLink.Unicode.ScriptTable

/-!
# `SearchLink.Regex.Property`: naming character properties in a pattern

A pattern names a property as `\p{Greek}` or as `\p{Script=Greek}`. Names are compared
loosely: case, blanks, hyphens, underscores and a leading `is` do not count.

A bare name is looked for among the binary properties, then among the general categories,
then among the scripts. A property with a value is the general category, the script, the
script extensions or the age.

Three properties of segmentation are left out, as the library has no tables for them:
`Grapheme_Cluster_Break` (`gcb`), `Word_Break` (`wb`) and `Sentence_Break` (`sb`). A pattern
that names one of them is refused like one with an unknown property, although an engine with
these tables compiles it.
-/

set_option autoImplicit false

namespace SearchLink.Regex

open SearchLink.Unicode (CodeSet)

/-- A property as a pattern names it. -/
inductive PropertyName where
  /-- A single name. -/
  | bare (name : Text)
  /-- A property and the value that it is to have. -/
  | valued (property value : Text)
  deriving Repr, DecidableEq

/-- A name in the form in which names are compared. -/
def looseName (name : Text) : Text :=
  let folded := name.map Char.toLower
  let hasIs := Text.startsWith ['i', 's'] folded
  let body := if hasIs then folded.drop 2 else folded
  let kept := body.filter fun c => c.toNat < 0x80 && c ≠ ' ' && c ≠ '_' && c ≠ '-'
  if hasIs && kept = ['c'] then ['i', 's', 'c'] else kept

/-- The row of a table one of whose names is the given loose name. -/
def findRow? (table : List (String × List String)) (name : Text) : Option CodeSet :=
  (table.find? fun row => (row.1.splitOn " ").any fun known => looseName known.toList = name).map
    fun row => CodeSet.ofHex row.2

/-- The general categories, each with its names and the two-letter categories in it. -/
def categoryNames : List (String × List String) := [
  ("L Letter", ["Lu", "Ll", "Lt", "Lm", "Lo"]),
  ("LC Cased_Letter", ["Lu", "Ll", "Lt"]),
  ("Lu Uppercase_Letter", ["Lu"]),
  ("Ll Lowercase_Letter", ["Ll"]),
  ("Lt Titlecase_Letter", ["Lt"]),
  ("Lm Modifier_Letter", ["Lm"]),
  ("Lo Other_Letter", ["Lo"]),
  ("M Mark Combining_Mark", ["Mn", "Mc", "Me"]),
  ("Mn Nonspacing_Mark", ["Mn"]),
  ("Mc Spacing_Mark", ["Mc"]),
  ("Me Enclosing_Mark", ["Me"]),
  ("N Number", ["Nd", "Nl", "No"]),
  ("Nd Decimal_Number digit", ["Nd"]),
  ("Nl Letter_Number", ["Nl"]),
  ("No Other_Number", ["No"]),
  ("P Punctuation punct", ["Pc", "Pd", "Ps", "Pe", "Pi", "Pf", "Po"]),
  ("Pc Connector_Punctuation", ["Pc"]),
  ("Pd Dash_Punctuation", ["Pd"]),
  ("Ps Open_Punctuation", ["Ps"]),
  ("Pe Close_Punctuation", ["Pe"]),
  ("Pi Initial_Punctuation", ["Pi"]),
  ("Pf Final_Punctuation", ["Pf"]),
  ("Po Other_Punctuation", ["Po"]),
  ("S Symbol", ["Sm", "Sc", "Sk", "So"]),
  ("Sm Math_Symbol", ["Sm"]),
  ("Sc Currency_Symbol", ["Sc"]),
  ("Sk Modifier_Symbol", ["Sk"]),
  ("So Other_Symbol", ["So"]),
  ("Z Separator", ["Zs", "Zl", "Zp"]),
  ("Zs Space_Separator", ["Zs"]),
  ("Zl Line_Separator", ["Zl"]),
  ("Zp Paragraph_Separator", ["Zp"]),
  ("C Other", ["Cc", "Cf", "Co", "Cn"]),
  ("Cc Control cntrl", ["Cc"]),
  ("Cf Format", ["Cf"]),
  ("Co Private_Use", ["Co"]),
  ("Cn Unassigned", ["Cn"])]

/-- The code points of a two-letter general category. -/
def categorySet (code : String) : CodeSet :=
  match Unicode.categoryTable.find? fun row => row.1 = code with
  | some row => CodeSet.ofHex row.2
  | none => []

/-- The code points of a general category, or of one of three classes that are named like
one. -/
def category? (name : Text) : Option CodeSet :=
  if name = "any".toList then some [(0, CodeSet.maxCode)]
  else if name = "ascii".toList then some [(0, 0x7F)]
  else if name = "assigned".toList then some (CodeSet.complement (categorySet "Cn"))
  else
    (categoryNames.find? fun row =>
        (row.1.splitOn " ").any fun known => looseName known.toList = name).map
      fun row => (row.2.map categorySet).foldl CodeSet.union []

/-- The code points that were assigned in a version of Unicode or before. -/
def age? (name : Text) : Option CodeSet :=
  let named (row : String × List String) : Bool :=
    (row.1.splitOn " ").any fun known => looseName known.toList = name
  if Unicode.ageTable.any named then
    let older := Unicode.ageTable.takeWhile fun row => !named row
    let last := (Unicode.ageTable.find? named).toList
    some (((older ++ last).map fun row => CodeSet.ofHex row.2).foldl CodeSet.union [])
  else none

/-- Whether a loose name is one of the given names of a property. -/
def isOneOf (names : List String) (name : Text) : Bool :=
  names.any fun n => n.toList = name

/-- The code points that a property name stands for; `none` for a name that is unknown, and for
the properties of segmentation. -/
def PropertyName.resolve? : PropertyName → Option CodeSet
  | .bare name =>
    let n := looseName name
    if isOneOf ["cf", "sc", "lc"] n then category? n
    else
      findRow? Unicode.propertyTable n <|> category? n <|> findRow? Unicode.scriptTable n
  | .valued property value =>
    let p := looseName property
    let v := looseName value
    if isOneOf ["gc", "generalcategory"] p then category? v
    else if isOneOf ["sc", "script"] p then findRow? Unicode.scriptTable v
    else if isOneOf ["scx", "scriptextensions"] p then findRow? Unicode.scriptExtensionTable v
    else if isOneOf ["age"] p then age? v
    else none

/-- White space of all scripts. -/
def spaceSet : CodeSet :=
  [(0x9, 0xD), (0x20, 0x20), (0x85, 0x85), (0xA0, 0xA0), (0x1680, 0x1680), (0x2000, 0x200A),
   (0x2028, 0x2029), (0x202F, 0x202F), (0x205F, 0x205F), (0x3000, 0x3000)]

/-- Decimal digits of all scripts. -/
def digitSet : CodeSet := categorySet "Nd"

/-- Word characters of all scripts: letters, marks, decimal digits, connectors and the two
characters that control joining. -/
def wordSet : CodeSet :=
  ([(findRow? Unicode.propertyTable "alphabetic".toList).getD [],
    (category? "m".toList).getD [], categorySet "Nd", categorySet "Pc",
    [(0x200C, 0x200D)]]).foldl CodeSet.union []

/-- Alphabetic characters, which may begin the name of a group. -/
def alphabeticSet : CodeSet := (findRow? Unicode.propertyTable "alphabetic".toList).getD []

/-- Alphabetic characters and numbers, which may go on with the name of a group. -/
def alphanumericSet : CodeSet := alphabeticSet.union ((category? "n".toList).getD [])

end SearchLink.Regex
