import SearchLink.Http.Target

/-!
# `SearchLink.Http.Request`: requests

A request is a method and a target. Any word made of the characters of a method is one, also
if nobody has heard of it; case matters.
-/

set_option autoImplicit false

namespace SearchLink.Http

/-- A request without headers and with an empty body. -/
structure Request where
  /-- The method. -/
  method : Text
  /-- What is asked for. -/
  target : Target
  deriving Repr, DecidableEq

namespace Request

/-- Whether a character may stand in a method. -/
def isMethodChar (c : Char) : Bool :=
  c.isAlphanum || "!#$%&'*+-.^_\x60|~".toList.contains c

/-- Reads a request. -/
def parse (method target : Text) : Except RequestError Request := do
  if method.isEmpty || !method.all isMethodChar then throw .invalidMethod
  return { method, target := ← Target.parse target }

end Request

end SearchLink.Http
