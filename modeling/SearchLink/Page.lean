import SearchLink.Template.Lint
import SearchLink.Url.Parser

/-!
# `SearchLink.Page`: the page that a selection was made on

What a template can say about a page: the parts of its URL, under the names that scripts in
a browser know them by.
-/

set_option autoImplicit false

namespace SearchLink

/-- The parts of a page's URL. -/
structure Page where
  /-- The whole URL. -/
  href : Text
  /-- Scheme, host and port, or `null` where pages have no origin. -/
  origin : Text
  /-- The scheme with its colon. -/
  protocol : Text
  /-- The host with its port. -/
  host : Text
  /-- The host alone. -/
  hostname : Text
  /-- The port; empty when the scheme implies it. -/
  port : Text
  /-- The path. -/
  pathname : Text
  /-- The fragment with its hash sign; empty when nothing follows the sign. -/
  hash : Text
  deriving Repr, DecidableEq

namespace Page

/-- The parts of a URL. -/
def ofUrl (u : Url) : Page :=
  let port := (u.port?.map Text.ofNatural).getD []
  { href := u.href
    origin := u.origin
    protocol := u.scheme ++ [':']
    host := if port.isEmpty then u.hostname else u.hostname ++ ':' :: port
    hostname := u.hostname
    port := port
    pathname := u.path
    hash :=
      match u.fragment with
      | some (c :: r) => '#' :: c :: r
      | _ => [] }

/-- The page at a URL. -/
def parse (t : Text) : Except UrlError Page := (Url.parse t).map ofUrl

/-- The values of the variables that a page fills in, in the order of their names. -/
def values (p : Page) : List Text :=
  [p.href, p.origin, p.protocol, p.hostname, p.host, p.port, p.pathname, p.hash]

/-- The variables that a page fills in, with their values. -/
def «variables» (p : Page) : List (Text × Text) := Template.pageVariables.zip p.values

end Page

end SearchLink
