import SearchLink.Catalog
import SearchLink.Yaml.Node

/-!
# `SearchLink.Catalog.Configuration`: engines in a YAML text

A configuration is a sequence of mappings, one for each engine. An empty text is an empty
sequence. Every text counts as a text, whatever its style or tag; where an entry may be left
out, a plain null counts as left out. Entries that are not known are passed over, but one that
is known may be given once only.
-/

set_option autoImplicit false

namespace SearchLink

open Yaml

/-- The anchored nodes that references may stand for. -/
abbrev Anchors := List (Nat × Node)

/-- The tag of null. -/
def nullTag : Text := "tag:yaml.org,2002:null".toList

/-- The tag of truth values. -/
def boolTag : Text := "tag:yaml.org,2002:bool".toList

/-- Whether a text is a spelling of null. -/
def isNull (t : Text) : Bool := ["null", "Null", "NULL", "~"].contains (String.ofList t)

/-- The truth value that a text spells. -/
def bool? (t : Text) : Option Bool :=
  if ["true", "True", "TRUE"].contains (String.ofList t) then some true
  else if ["false", "False", "FALSE"].contains (String.ofList t) then some false
  else none

namespace Yaml.Node

/-- The text of a node, if it is a text. -/
def text? (anchors : Anchors) (n : Node) : Option Text :=
  match n.resolve? anchors with
  | some (.scalar _ _ t) => some t
  | _ => none

/-- The truth value of a node: a plain text, or one in a block that is tagged as a truth
value. -/
def truth? (anchors : Anchors) (n : Node) : Option Bool :=
  match n.resolve? anchors with
  | some (.scalar _ .plain t) => bool? t
  | some (.scalar (some tag) .literal t) => if tag = boolTag then bool? t else none
  | _ => none

/-- Whether a node leaves its entry out. `none` when it is tagged as null, but is not. -/
def isLeftOut? (anchors : Anchors) (n : Node) : Option Bool :=
  match n.resolve? anchors with
  | some (.scalar tag .plain t) =>
    match tag with
    | none => some (t.isEmpty || isNull t)
    | some tag => if tag = nullTag then (if isNull t then some true else none) else some false
  | _ => some false

/-- Reads a node that may leave its entry out. -/
def optional? {α : Type} (anchors : Anchors) (read : Node → Option α) (n : Node) :
    Option (Option α) := do
  if ← n.isLeftOut? anchors then return none else return some (← read n)

/-- The items of a sequence. An empty plain text is an empty one. -/
def items? (anchors : Anchors) (n : Node) : Option (List Node) :=
  match n.resolve? anchors with
  | some (.sequence items) => some items
  | some (.scalar _ .plain []) => some []
  | _ => none

/-- The entries of a mapping. An empty plain text is an empty one. -/
def entries? (anchors : Anchors) (n : Node) : Option (List (Node × Node)) :=
  match n.resolve? anchors with
  | some (.mapping entries) => some entries
  | some (.scalar _ .plain []) => some []
  | _ => none

end Yaml.Node

/-- The entries of an engine, as far as they have been read. -/
structure EngineFields where
  /-- The alias. -/
  key : Option Text := none
  /-- The name. -/
  name : Option Text := none
  /-- The template. -/
  template : Option Text := none
  /-- The description, which may be left out. -/
  description : Option (Option Text) := none
  /-- Whether values are encoded, which may be left out. -/
  encode : Option (Option Bool) := none
  deriving Repr, DecidableEq

namespace EngineFields

/-- Sets an entry that has not been set. -/
def once {α : Type} (old : Option α) (new : Option α) : Option (Option α) :=
  if old.isSome then none else new.map some

/-- Reads an entry. -/
def add (anchors : Anchors) (f : EngineFields) (entry : Node × Node) : Option EngineFields := do
  let value := entry.2
  match String.ofList (← entry.1.text? anchors) with
  | "alias" => return { f with key := ← once f.key (value.text? anchors) }
  | "name" => return { f with name := ← once f.name (value.text? anchors) }
  | "url" => return { f with template := ← once f.template (value.text? anchors) }
  | "description" =>
    return { f with
      description := ← once f.description (value.optional? anchors (·.text? anchors)) }
  | "encode" =>
    return { f with encode := ← once f.encode (value.optional? anchors (·.truth? anchors)) }
  | _ => return f

/-- The settings, if nothing is missing. -/
def settings? (f : EngineFields) : Option EngineSettings := do
  return {
    key := ← f.key, name := ← f.name, template := ← f.template
    description := f.description.getD none, encode := f.encode.getD none }

end EngineFields

namespace EngineSettings

/-- Reads the settings of an engine. -/
def ofNode? (anchors : Anchors) (n : Node) : Option EngineSettings := do
  (← (← n.entries? anchors).foldlM (EngineFields.add anchors) {}).settings?

/-- Reads the settings of the engines in a YAML text. -/
def ofYaml? (t : Text) : Option (List EngineSettings) := do
  match ← Node.ofText? t with
  | none => return []
  | some n =>
    let anchors := n.anchors
    (← n.items? anchors).mapM (ofNode? anchors)

end EngineSettings

/-- The catalog of the engines in a YAML text. -/
def Catalog.ofYaml (t : Text) : Except CatalogError Catalog :=
  match EngineSettings.ofYaml? t with
  | some settings => ofSettings settings
  | none => .error .invalidConfiguration

end SearchLink
