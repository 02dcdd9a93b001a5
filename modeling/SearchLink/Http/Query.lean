import SearchLink.Template.Lint
import SearchLink.Text.Percent
import SearchLink.Text.Utf8

/-!
# `SearchLink.Http.Query`: queries

A query is a list of named fields, written the way a browser writes a form: fields are
separated by `&`, a name ends at the first `=`, a plus sign is a blank, and bytes may be
percent-encoded. Bytes that are not UTF-8 read as replacement characters.

A field that is not known is passed over; one that is known may be given once only.
-/

set_option autoImplicit false

namespace SearchLink.Http

/-! ### Fields -/

/-- Reads a name or a value of a query. -/
def decodeField (t : Text) : Text :=
  Text.ofUtf8 (Text.decodeBytes (t.map fun c => if c = '+' then ' ' else c))

/-- Reads the name and the value of a field. Without an equals sign there is no value. -/
def readField (t : Text) : Text × Text :=
  (decodeField (t.takeWhile (· ≠ '=')), decodeField ((t.dropWhile (· ≠ '=')).drop 1))

/-- The fields of a query, in order. -/
def readFields (query : Text) : List (Text × Text) :=
  ((query.splitOn '&').filter fun t => !t.isEmpty).map readField

/-- What can be wrong with the fields of a query. -/
inductive QueryError where
  /-- The field is given twice. -/
  | duplicateField (name : Text)
  /-- The field is not given. -/
  | missingField (name : Text)
  /-- The field is neither `true` nor `false`. -/
  | notTruth (name : Text)
  deriving Repr, DecidableEq

/-- The wording of an error. -/
def QueryError.message : QueryError → Text
  | .duplicateField name => "duplicate field \x60".toList ++ name ++ ['\x60']
  | .missingField name => "missing field \x60".toList ++ name ++ ['\x60']
  | .notTruth name => name ++ ": provided string was not \x60true\x60 or \x60false\x60".toList

/-- Sets a field that has not been set. -/
def setOnce {α : Type} (name : Text) (old : Option α) (new : Except QueryError α) :
    Except QueryError (Option α) :=
  if old.isSome then .error (.duplicateField name) else new.map some

/-- The value of a field that must be given. -/
def required {α : Type} (name : String) : Option α → Except QueryError α
  | some value => .ok value
  | none => .error (.missingField name.toList)

/-- Reads a truth value. -/
def readTruth (name t : Text) : Except QueryError Bool :=
  match String.ofList t with
  | "true" => .ok true
  | "false" => .ok false
  | _ => .error (.notTruth name)

/-! ### Searches -/

/-- A search: where, what for, and from which page. -/
structure SearchQuery where
  /-- The alias of the engine. -/
  engine : Text
  /-- The selection. -/
  selection : Text
  /-- The URL of the page. -/
  page : Option Text
  deriving Repr, DecidableEq

namespace SearchQuery

/-- The fields of a search, as far as they have been read. -/
structure Fields where
  /-- The alias of the engine. -/
  engine : Option Text := none
  /-- The selection. -/
  selection : Option Text := none
  /-- The URL of the page. -/
  page : Option Text := none
  deriving Repr, DecidableEq

/-- Reads a field. -/
def Fields.add (f : Fields) (field : Text × Text) : Except QueryError Fields := do
  let (name, value) := field
  match String.ofList name with
  | "engine" => return { f with engine := ← setOnce name f.engine (.ok value) }
  | "text" => return { f with selection := ← setOnce name f.selection (.ok value) }
  | "page" => return { f with page := ← setOnce name f.page (.ok value) }
  | _ => return f

/-- Reads a search from a query. -/
def parse (query : Text) : Except QueryError SearchQuery := do
  let f ← (readFields query).foldlM Fields.add {}
  return {
    engine := ← required "engine" f.engine, selection := f.selection.getD [], page := f.page }

end SearchQuery

/-! ### Expansions -/

/-- A template to fill in with the value of one variable. -/
structure ExpandQuery where
  /-- The template. -/
  template : Text
  /-- The value. -/
  value : Text
  /-- The name of the variable. -/
  variableName : Text
  /-- Whether the value is percent-encoded. -/
  encode : Bool
  deriving Repr, DecidableEq

namespace ExpandQuery

/-- The fields of an expansion, as far as they have been read. -/
structure Fields where
  /-- The template. -/
  template : Option Text := none
  /-- The value. -/
  value : Option Text := none
  /-- The name of the variable. -/
  variableName : Option Text := none
  /-- Whether the value is percent-encoded. -/
  encode : Option Bool := none
  deriving Repr, DecidableEq

/-- Reads a field. -/
def Fields.add (f : Fields) (field : Text × Text) : Except QueryError Fields := do
  let (name, value) := field
  match String.ofList name with
  | "template" => return { f with template := ← setOnce name f.template (.ok value) }
  | "text" => return { f with value := ← setOnce name f.value (.ok value) }
  | "variable" => return { f with variableName := ← setOnce name f.variableName (.ok value) }
  | "encode" => return { f with encode := ← setOnce name f.encode (readTruth name value) }
  | _ => return f

/-- Reads an expansion from a query. -/
def parse (query : Text) : Except QueryError ExpandQuery := do
  let f ← (readFields query).foldlM Fields.add {}
  return {
    template := ← required "template" f.template, value := f.value.getD []
    variableName := f.variableName.getD Template.searchTerms, encode := f.encode.getD true }

end ExpandQuery

end SearchLink.Http
