import SearchLink.Template.Dialect
import SearchLink.Template.Function
import SearchLink.Template.Modification
import SearchLink.Template.Slice
import SearchLink.Text.Blank
import SearchLink.Text.Replace

/-!
# `SearchLink.Template.Apply`: what modifications do to a text

A modification never fails. A pattern that does not compile, a name that is not registered
and an empty source leave the text as it is.

`render` runs a chain and then percent-encodes the result, unless encoding is off for the
whole template or a step of the chain switches it off.
-/

set_option autoImplicit false

namespace SearchLink.Template

/-- The result of replacing every match of a pattern. -/
def replacePattern (source flags target t : Text) : Text :=
  match compilePattern? source flags with
  | some re =>
    Regex.replaceMatches re (expandTarget re.groupCount re.hasNamedGroup target) t
  | none => t

/-- The result of keeping the matches of a pattern alone. -/
def matchPattern (source flags t : Text) : Text :=
  match compilePattern? source flags with
  | some re => Regex.keepMatches re t
  | none => t

/-- The result of a modification. -/
def Modification.apply (registry : Registry) (t : Text) : Modification → Text
  | .slice start stop => Template.slice t start stop
  | .replacement source target => Text.replaceAll source target t
  | .regexReplacement source flags target => replacePattern source flags target t
  | .regexMatch source flags => matchPattern source flags t
  | .function name => registry.apply name t

/-- The result of all modifications of a chain in order. -/
def Chain.apply (registry : Registry) (chain : Chain) (t : Text) : Text :=
  chain.foldl (fun t m => m.apply registry t) t

/-- The text that a token is replaced by. -/
def render (registry : Registry) (encode : Bool) (chain : Chain) (t : Text) : Text :=
  let result := chain.apply registry t
  if encode && !chain.disablesEncoding then Text.encodeComponent result else result

end SearchLink.Template
