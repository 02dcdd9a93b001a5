import SearchLink.Http.Json
import SearchLink.Http.Markup
import SearchLink.Text.Decimal
import SearchLink.Url.Host

/-!
# `SearchLink.Http.Response`: responses

A response is a status, a body, and the three headers that this service ever sets. A failure
answers with a page that tells what went wrong.
-/

set_option autoImplicit false

namespace SearchLink.Http

/-- A response. -/
structure Response where
  /-- The status. -/
  status : Nat
  /-- The body. -/
  body : Text := []
  /-- The header that says where to go. -/
  location : Option Text := none
  /-- The header that says what the body is. -/
  contentType : Option Text := none
  /-- The header that says which methods are allowed. -/
  allow : Option Text := none
  deriving Repr, DecidableEq

namespace Response

/-- A page. -/
def html (status : Nat) (body : Text) : Response :=
  { status, body, contentType := some "text/html; charset=utf-8".toList }

/-- A plain text. -/
def plain (status : Nat) (body : Text) : Response :=
  { status, body, contentType := some "text/plain; charset=utf-8".toList }

/-- A JSON value. -/
def json (value : Json) : Response :=
  { status := 200, body := value.write, contentType := some "application/json".toList }

/-- Whether a character cannot stand in a header as it is. -/
def isUnsafeInHeader (c : Char) : Bool := Host.isControl c || c = ' '

/-- A URL that fits into a header. -/
def headerUrl (url : Text) : Text := Text.encodeWhere isUnsafeInHeader url

/-- Whether a character may stand in the value of a header: a tab, or anything but the control
characters of ASCII. -/
def isHeaderChar (c : Char) : Bool := c = '\t' || (0x20 ≤ c.toNat && c.toNat ≠ 0x7F)

/-- Sends the reader on to a URL. A value that is none of a header is a failure of the
service. -/
def redirect (url : Text) : Response :=
  let value := headerUrl url
  if value.all isHeaderChar then { status := 303, location := some value }
  else plain 500 "failed to parse header value".toList

/-- There is nothing here. -/
def notFound : Response := { status := 404 }

/-- Nothing here takes this method. -/
def methodNotAllowed : Response := { status := 405, allow := some "GET,HEAD".toList }

end Response

/-! ### Failures -/

/-- What can go wrong with a request that has been understood. -/
inductive Failure where
  /-- A page could not be written. -/
  | templateRender (message : Text)
  /-- What is asked for does not exist. -/
  | notFound (message : Text)
  /-- What is asked makes no sense. -/
  | badRequest (message : Text)
  deriving Repr, DecidableEq

namespace Failure

/-- The wording of a failure. -/
def message : Failure → Text
  | .templateRender m => "Template rendering error: ".toList ++ m
  | .notFound m => "Not found: ".toList ++ m
  | .badRequest m => "Bad request: ".toList ++ m

/-- The status of a failure. -/
def status : Failure → Nat
  | .templateRender _ => 500
  | .notFound _ => 404
  | .badRequest _ => 400

/-- The part of an error page in front of the status. -/
def pageHead : Text :=
  Markup.joinLines [
    "<!DOCTYPE html>",
    "<html>",
    "<head>",
    "    <title>Error - selsearch</title>",
    "    <style>",
    "        body \x7b",
    "            font-family: Arial, sans-serif;",
    "            max-width: 600px;",
    "            margin: 100px auto;",
    "            text-align: center;",
    "        \x7d",
    "        h1 \x7b color: #d32f2f; \x7d",
    "        p \x7b color: #666; \x7d",
    "    </style>",
    "</head>",
    "<body>",
    "    <h1>"]

/-- The part of an error page between the status and the message. -/
def pageMiddle : Text := Markup.joinLines ["</h1>", "    <p>"]

/-- The part of an error page behind the message. -/
def pageTail : Text :=
  Markup.joinLines [
    "</p>",
    "    <p><a href=\"/\">Return to home</a></p>",
    "</body>",
    "</html>"]

/-- The page that tells of a failure. -/
def page (f : Failure) : Text :=
  pageHead ++ Text.ofNatural f.status ++ pageMiddle ++ Markup.escapeNamed f.message ++ pageTail

/-- The response to a request that failed. -/
def response (f : Failure) : Response := .html f.status f.page

end Failure

end SearchLink.Http
