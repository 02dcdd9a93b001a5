import SearchLink.Text.Replace

/-!
# `SearchLink.Http.Markup`: texts in HTML

Two ways to keep a text from being read as markup. In the cells of a table five characters are
written as numeric references; in a message four characters are written as named entities, by
one replacement after another.
-/

set_option autoImplicit false

namespace SearchLink.Http.Markup

/-- The numeric reference of a character that has to be kept from being read as markup. -/
def numericReference? (c : Char) : Option String :=
  match c with
  | '&' => some "&#38;"
  | '<' => some "&#60;"
  | '>' => some "&#62;"
  | '"' => some "&#34;"
  | '\x27' => some "&#39;"
  | _ => none

/-- A text with numeric references. -/
def escapeNumeric (t : Text) : Text :=
  t.flatMap fun c => ((numericReference? c).map String.toList).getD [c]

/-- The named entities, in the order in which they are put in. The ampersand comes first, so
that the one in front of an entity stays as it is. -/
def namedEntities : List (Char × String) :=
  [('&', "&amp;"), ('<', "&lt;"), ('>', "&gt;"), ('"', "&quot;")]

/-- A text with named entities. -/
def escapeNamed (t : Text) : Text :=
  namedEntities.foldl (fun t entity => Text.replaceAll [entity.1] entity.2.toList t) t

/-- Lines with a line break between each two. -/
def joinLines (lines : List String) : Text :=
  ['\n'].intercalate (lines.map String.toList)

end SearchLink.Http.Markup
