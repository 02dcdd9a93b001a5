import SearchLink.Http.IndexPage
import SearchLink.Http.Query
import SearchLink.Http.Request
import SearchLink.Http.Response

/-!
# `SearchLink.Http.Service`: answering requests

The service has four places.

* `/` lists the engines for people, `/engines` for programs.
* `/search` sends a selection to an engine.
* `/expand` fills in any template and shows how its first token was read.

A path is compared as it is written. Every place takes `GET`, and `HEAD` for the same answer
without its body.
-/

set_option autoImplicit false

namespace SearchLink.Http

/-- The places of the service. -/
inductive Route where
  /-- The list of engines for people. -/
  | index
  /-- The list of engines for programs. -/
  | engines
  /-- A search. -/
  | search
  /-- An expansion. -/
  | expand
  deriving Repr, DecidableEq

/-- The place at a path. -/
def Route.ofPath? (path : Text) : Option Route :=
  match String.ofList path with
  | "/" => some .index
  | "/engines" => some .engines
  | "/search" => some .search
  | "/expand" => some .expand
  | _ => none

namespace Service

/-! ### Values as JSON -/

/-- An engine as JSON. -/
def engineJson (e : Engine) : Json :=
  .object [
    ("alias".toList, .text e.key), ("name".toList, .text e.name),
    ("url".toList, .text e.template), ("description".toList, .option .text e.description),
    ("encode".toList, .bool e.encode)]

/-- A bound of a slice as JSON. -/
def boundJson (bound : Option Int64) : Json := .option (fun i => .integer i.toInt) bound

/-- A modification as JSON. -/
def modificationJson (m : Template.Modification) : Json :=
  let kind (name : String) : Text × Json := ("kind".toList, .text name.toList)
  match m with
  | .slice start stop =>
    .object [kind "slice", ("start".toList, boundJson start), ("end".toList, boundJson stop)]
  | .replacement source target =>
    .object [kind "replacement", ("source".toList, .text source), ("target".toList, .text target)]
  | .regexReplacement source flags target =>
    .object [
      kind "regex_replacement", ("source".toList, .text source), ("flags".toList, .text flags),
      ("target".toList, .text target)]
  | .regexMatch source flags =>
    .object [kind "regex_match", ("source".toList, .text source), ("flags".toList, .text flags)]
  | .function name => .object [kind "function", ("name".toList, .text name)]

/-- A span as JSON. -/
def spanJson (s : Template.Span) : Json :=
  .object [("start".toList, .integer s.start), ("end".toList, .integer s.stop)]

/-- The first token of a template as JSON; without one, there is no span and no modification. -/
def occurrenceJson (o : Option Template.Occurrence) : Json :=
  .object [
    ("span".toList, .option (fun o => spanJson o.span) o),
    ("modifications".toList, .array (((o.map (·.chain)).getD []).map modificationJson))]

/-! ### Answers -/

/-- The answer to a query that does not read. -/
def refuse (e : QueryError) : Response :=
  .plain 400 ("Failed to deserialize query string: ".toList ++ e.message)

/-- The page that a search is made from. An empty URL is as good as none. -/
def pageOf (q : SearchQuery) : Except UrlError (Option Page) :=
  match q.page with
  | none | some [] => .ok none
  | some url => (Page.parse url).map some

/-- The URL that a search leads to. An unknown engine is noticed before a bad page. -/
def searchUrl (c : Catalog) (q : SearchQuery) : Except Failure Text :=
  match c.get? q.engine with
  | none => .error (.notFound ("Unknown engine: '".toList ++ q.engine ++ ['\x27']))
  | some engine =>
    match pageOf q with
    | .error e => .error (.badRequest ("Invalid page URL: ".toList ++ e.message.toList))
    | .ok page => .ok (engine.buildUrl q.selection page)

/-- Answers a search. -/
def search (c : Catalog) (query : Text) : Response :=
  match SearchQuery.parse query with
  | .error e => refuse e
  | .ok q =>
    match searchUrl c q with
    | .ok url => .redirect url
    | .error failure => failure.response

/-- The template of an expansion, filled in. -/
def expandedUrl (q : ExpandQuery) : Text :=
  Template.substitute Template.Registry.standard q.template q.variableName q.value q.encode

/-- Answers an expansion. -/
def expand (query : Text) : Response :=
  match ExpandQuery.parse query with
  | .error e => refuse e
  | .ok q =>
    .json (.object [
      ("url".toList, .text (expandedUrl q)),
      ("first_occurrence".toList,
        occurrenceJson (Template.locate? q.template q.variableName 0))])

/-- The answer of a place to `GET`. -/
def get (c : Catalog) (route : Route) (query : Text) : Response :=
  match route with
  | .index => .html 200 (IndexPage.write c)
  | .engines => .json (.array (c.engines.map engineJson))
  | .search => search c query
  | .expand => expand query

/-- Answers a request. -/
def respond (c : Catalog) (r : Request) : Response :=
  match Route.ofPath? r.target.path with
  | none => .notFound
  | some route =>
    match String.ofList r.method with
    | "GET" => get c route r.target.query
    | "HEAD" => { get c route r.target.query with body := [] }
    | _ => .methodNotAllowed

end Service

end SearchLink.Http
