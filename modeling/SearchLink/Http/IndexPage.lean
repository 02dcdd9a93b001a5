import SearchLink.Catalog
import SearchLink.Http.Markup

/-!
# `SearchLink.Http.IndexPage`: the page that lists the engines

The page is a table with a row for each engine of a catalog, in the order of the aliases.
-/

set_option autoImplicit false

namespace SearchLink.Http.IndexPage

/-- The part of the page in front of the rows. -/
def head : Text :=
  Markup.joinLines [
    "<!DOCTYPE html>",
    "<html>",
    "<head>",
    "    <meta charset=\"utf-8\">",
    "    <title>selsearch</title>",
    "    <style>",
    "        body \x7b font-family: Arial, sans-serif; max-width: 900px; margin: 40px auto; \x7d",
    "        table \x7b border-collapse: collapse; width: 100%; \x7d",
    "        td, th \x7b border-bottom: 1px solid #ddd; padding: 6px; text-align: left; \x7d",
    "        code \x7b font-size: 0.9em; word-break: break-all; \x7d",
    "    </style>",
    "</head>",
    "<body>",
    "    <h1>Search engines</h1>",
    "    <p>Use <code>/search?engine=ALIAS&amp;text=SELECTION&amp;page=PAGE_URL</code> to open a search.</p>",
    "    <table>",
    "        <tr><th>Alias</th><th>Name</th><th>Template</th><th>Description</th></tr>",
    "        "]

/-- The part of the page behind the rows. -/
def tail : Text := Markup.joinLines ["", "    </table>", "</body>", "</html>"]

/-- A cell of the table. -/
def cell (before : String) (t : Text) (after : String) : Text :=
  before.toList ++ Markup.escapeNumeric t ++ after.toList

/-- The row of an engine. -/
def row (e : Engine) : Text :=
  cell "\n        <tr>\n            <td>" e.key "</td>\n" ++
    cell "            <td>" e.name "</td>\n" ++
    cell "            <td><code>" e.template "</code></td>\n" ++
    cell "            <td>" (e.description.getD []) "</td>\n        </tr>\n        "

/-- The page for a catalog. -/
def write (c : Catalog) : Text := head ++ c.engines.flatMap row ++ tail

end SearchLink.Http.IndexPage
