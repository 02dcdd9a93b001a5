import SearchLink.Text.Decimal
import SearchLink.Template.Token

/-!
# `SearchLink.Template.Lint`: problems that a template shows before it is used

A template is in order when its scheme is safe, every token of a known variable is
well-formed and it asks for the selection somewhere. `lint` lists what is wrong.

An opening of a short name inside a well-formed token of a longer name, such as `{host` in
`{hostname}`, is no problem of the short name.
-/

set_option autoImplicit false

namespace SearchLink.Template

/-- The name of the variable that stands for the selection. -/
def searchTerms : Text := "searchTerms".toList

/-- The names of the variables that a page fills in. -/
def pageVariables : List Text :=
  ["href", "origin", "protocol", "hostname", "host", "port", "pathname", "hash"].map
    String.toList

/-- Every variable that a template may use. -/
def knownVariables : List Text := pageVariables ++ [searchTerms]

/-- A problem of a template. -/
inductive Issue where
  /-- The template names a scheme other than `http` and `https`. -/
  | unsafeScheme
  /-- The token at this offset does not read. -/
  | malformedVariable (variableName : Text) (offset : Nat)
  /-- The selection is never asked for. -/
  | missingSearchTerms
  deriving Repr, DecidableEq

/-- A problem in words. -/
def Issue.message : Issue → Text
  | .unsafeScheme => "Only http:// and https:// URLs are allowed".toList
  | .malformedVariable variableName offset =>
    "Malformed \x7b".toList ++ variableName ++ "\x7d at offset ".toList ++
      Text.ofNatural offset ++
      ": it and the rest of the template will not be substituted".toList
  | .missingSearchTerms => "Template does not contain \x7bsearchTerms\x7d".toList

/-- Whether a template is free of schemes other than `http` and `https`. It names a scheme
when it holds `://` anywhere or begins with one of three schemes that need no slashes. -/
def hasSafeScheme (template : Text) : Bool :=
  let t := Unicode.lowerText template
  if Text.occursIn "://".toList t || Text.startsWith "javascript:".toList t ||
      Text.startsWith "data:".toList t || Text.startsWith "file:".toList t then
    Text.startsWith "http://".toList t || Text.startsWith "https://".toList t
  else true

/-- Whether a well-formed token of a longer known name stands at the start of a text. -/
def isShadowed (known : List Text) (name t : Text) : Bool :=
  known.any fun other =>
    name.utf8Size < other.utf8Size &&
      Text.startsWith (Unicode.asciiLower name) (Unicode.asciiLower other) &&
      (match firstToken? other t with
        | some k => k.before.isEmpty
        | none => false)

/-- The offset of the first malformed token of a name in the rest of a template, which
stands at byte `offset`. -/
def firstMalformedFrom (known : List Text) (name : Text) (t : Text) (offset : Nat) :
    Option Nat :=
  match _found : findOpening? name t with
  | none => none
  | some opening =>
    let start := offset + opening.before.utf8Size
    match _read : readChain opening.after with
    | some (_, rest) =>
      firstMalformedFrom known name rest (offset + (t.utf8Size - rest.utf8Size))
    | none =>
      if isShadowed known name (t.drop opening.before.length) then
        firstMalformedFrom known name (t.drop (opening.before.length + 1)) (start + 1)
      else some start
termination_by t.length
decreasing_by
  · have h₁ := findOpening?_length _found
    have h₂ := readChain_length _read
    omega
  · have h₁ := findOpening?_length _found
    simp only [List.length_drop]
    omega

/-- The offset of the first malformed token of a known variable. -/
def firstMalformed? (template name : Text) : Option Nat :=
  firstMalformedFrom knownVariables name template 0

/-- Everything that is wrong with a template. -/
def lint (template : Text) : List Issue :=
  (if hasSafeScheme template then [] else [.unsafeScheme]) ++
    (knownVariables.filterMap fun name =>
      (firstMalformed? template name).map (Issue.malformedVariable name)) ++
    (if (findOpening? searchTerms template).isNone then [.missingSearchTerms] else [])

end SearchLink.Template
