import SearchLink.Page
import SearchLink.Template.Substitution

/-!
# `SearchLink.Engine`: search engines

An engine is a template for URLs with a name for people and a short name, its alias, to ask
for it by.
-/

set_option autoImplicit false

namespace SearchLink

/-- An engine as a configuration gives it. -/
structure EngineSettings where
  /-- The alias: what the engine is asked for by. -/
  key : Text
  /-- What the engine is called. -/
  name : Text
  /-- The template of its URLs. -/
  template : Text
  /-- What it is good for. -/
  description : Option Text := none
  /-- Whether values are percent-encoded. -/
  encode : Option Bool := none
  deriving Repr, DecidableEq

/-- A search engine. -/
structure Engine where
  /-- The alias: what the engine is asked for by. -/
  key : Text
  /-- What the engine is called. -/
  name : Text
  /-- The template of its URLs. -/
  template : Text
  /-- What it is good for. -/
  description : Option Text
  /-- Whether values are percent-encoded. -/
  encode : Bool
  deriving Repr, DecidableEq

namespace Engine

/-- The engine that settings describe. Values are encoded unless the settings say not to. -/
def ofSettings (s : EngineSettings) : Engine :=
  { key := s.key
    name := s.name
    template := s.template
    description := s.description
    encode := s.encode.getD true }

/-- The values that a template is filled in with. Without a page its variables are left as
they are written. -/
def values (selection : Text) (page : Option Page) : List (Text × Text) :=
  (page.map Page.variables).getD [] ++ [(Template.searchTerms, selection)]

/-- The URL of a search for a selection made on a page. -/
def buildUrl (e : Engine) (selection : Text) (page : Option Page) : Text :=
  Template.substituteAll Template.Registry.standard e.template (values selection page) e.encode

end Engine

end SearchLink
