import SearchLink.Text.Basic

/-!
# `SearchLink.Text.Blank`: blank characters and trimming

Two classes of blanks. `isWhiteSpace` is the Unicode property `White_Space`. A selection
is trimmed of those and of the byte order mark, which a browser also takes off.
-/

set_option autoImplicit false

namespace SearchLink.Text

/-- The Unicode property `White_Space`. -/
def isWhiteSpace (c : Char) : Bool :=
  let n := c.toNat
  (0x09 ≤ n && n ≤ 0x0D) || n = 0x20 || n = 0x85 || n = 0xA0 || n = 0x1680 ||
    (0x2000 ≤ n && n ≤ 0x200A) || n = 0x2028 || n = 0x2029 || n = 0x202F || n = 0x205F ||
    n = 0x3000

/-- What is taken off both ends of a selection: white space and the byte order mark. -/
def isSelectionBlank (c : Char) : Bool := isWhiteSpace c || c.toNat = 0xFEFF

/-- A text without white space at its ends. -/
def trim (t : Text) : Text := trimWhere isWhiteSpace t

/-- A selection without blanks at its ends. -/
def trimSelection (t : Text) : Text := trimWhere isSelectionBlank t

end SearchLink.Text
