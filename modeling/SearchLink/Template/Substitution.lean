import SearchLink.Template.Apply
import SearchLink.Template.Plan

/-!
# `SearchLink.Template.Substitution`: filling in a template

`substituteAll` splits a template into pieces by the names of its variables and then fills
in the values. Each value is trimmed once, and every place for it runs its own chain.
-/

set_option autoImplicit false

namespace SearchLink.Template

/-- The text of a piece, given the trimmed values. -/
def fillPiece (registry : Registry) (encode : Bool) (texts : List Text) : Piece → Text
  | .literal t => t
  | .value index chain => render registry encode chain (texts.getD index [])

/-- A template with the values of some variables, given as names and texts, filled in. -/
def substituteAll (registry : Registry) (template : Text) (values : List (Text × Text))
    (encode : Bool) : Text :=
  let texts := values.map fun v => Text.trimSelection v.2
  (plan template (values.map Prod.fst)).flatMap (fillPiece registry encode texts)

/-- A template with the value of one variable filled in. -/
def substitute (registry : Registry) (template name t : Text) (encode : Bool) : Text :=
  substituteAll registry template [(name, t)] encode

end SearchLink.Template
