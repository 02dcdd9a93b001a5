import SearchLink.Text.Percent
import SearchLink.Unicode.Casing

/-!
# `SearchLink.Template.Function`: named functions on texts

A registry holds functions under the names they give themselves. A look-up turns the name
it is asked for to lower case first, so a function whose own name has an upper-case letter
is never found.
-/

set_option autoImplicit false

namespace SearchLink.Template

/-- A function on texts and the name it goes by. -/
structure TextFunction where
  /-- The name under which the function is registered. -/
  name : Text
  /-- What the function does to a text. -/
  apply : Text → Text

/-- Functions with pairwise different names, the latest first. -/
abbrev Registry := List TextFunction

namespace Registry

/-- Adds a function, in place of an earlier one with the same name. -/
def register (registry : Registry) (f : TextFunction) : Registry :=
  f :: registry.filter fun g => g.name ≠ f.name

/-- The function whose name is the lower-case form of `name`. -/
def get? (registry : Registry) (name : Text) : Option TextFunction :=
  registry.find? fun f => f.name = Unicode.asciiLower name

/-- Applies the named function; an unknown name leaves the text as it is. -/
def apply (registry : Registry) (name t : Text) : Text :=
  match registry.get? name with
  | some f => f.apply t
  | none => t

/-- Lower case of the whole text. -/
def lowercase : TextFunction := ⟨"lowercase".toList, Unicode.lowerText⟩

/-- Upper case of the whole text. -/
def uppercase : TextFunction := ⟨"uppercase".toList, Unicode.upperText⟩

/-- Percent-encoding as a component of a URL. -/
def encodeUriComponent : TextFunction := ⟨"encodeuricomponent".toList, Text.encodeComponent⟩

/-- Leaves the text alone; its presence in a chain switches the final encoding off. -/
def disableUriEncoding : TextFunction := ⟨"disableuriencoding".toList, id⟩

/-- The functions that are always there. -/
def standard : Registry :=
  [lowercase, uppercase, encodeUriComponent, disableUriEncoding].foldl register []

end Registry

end SearchLink.Template
