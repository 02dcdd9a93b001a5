import SearchLink.Engine
import SearchLink.Text.Blank

/-!
# `SearchLink.Catalog`: the engines to choose from

A catalog holds engines in the order of their aliases, by code point. It is built from
settings one by one; the first whose alias is blank, or was there before, is an error.
-/

set_option autoImplicit false

namespace SearchLink

/-- What can be wrong with the engines of a configuration. -/
inductive CatalogError where
  /-- The configuration does not read. -/
  | invalidConfiguration
  /-- The engine of this name has a blank alias. -/
  | blankKey (name : Text)
  /-- Two engines have this alias. -/
  | duplicateKey (key : Text)
  deriving Repr, DecidableEq

/-- The wording of an error. -/
def CatalogError.message : CatalogError → Text
  | .invalidConfiguration => "Invalid engine configuration".toList
  | .blankKey name => "Engine '".toList ++ name ++ "' has an empty alias".toList
  | .duplicateKey key => "Duplicate alias: ".toList ++ key

/-- Engines with different aliases. -/
structure Catalog where
  /-- The engines, in the order of their aliases. -/
  engines : List Engine
  deriving Repr, DecidableEq

namespace Catalog

/-- The catalog without engines. -/
def empty : Catalog := ⟨[]⟩

/-- The engine with an alias. -/
def get? (c : Catalog) (key : Text) : Option Engine := c.engines.find? fun e => e.key = key

/-- The number of engines. -/
def size (c : Catalog) : Nat := c.engines.length

/-- Engines in order with one more, at its place. -/
def insertInOrder (e : Engine) : List Engine → List Engine
  | [] => [e]
  | f :: r => if e.key < f.key then e :: f :: r else f :: insertInOrder e r

/-- Adds an engine. -/
def insert (c : Catalog) (e : Engine) : Catalog := ⟨insertInOrder e c.engines⟩

/-- Adds the engine that settings describe, unless its alias is blank or taken. -/
def add (c : Catalog) (s : EngineSettings) : Except CatalogError Catalog :=
  if (Text.trim s.key).isEmpty then .error (.blankKey s.name)
  else if (c.get? s.key).isSome then .error (.duplicateKey s.key)
  else .ok (c.insert (Engine.ofSettings s))

/-- The catalog of some settings. -/
def ofSettings (settings : List EngineSettings) : Except CatalogError Catalog :=
  settings.foldlM add empty

end Catalog

end SearchLink
