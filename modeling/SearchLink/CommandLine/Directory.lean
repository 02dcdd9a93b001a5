import SearchLink.Text.Basic

/-!
# `SearchLink.CommandLine.Directory`: files under names

A directory in which nothing but some files is known. A path to one of them may go through the
directory itself any number of times.
-/

set_option autoImplicit false

namespace SearchLink.CommandLine

/-- A directory. -/
structure Directory where
  /-- The files by their names. -/
  files : List (Text × Text)
  deriving Repr, DecidableEq

namespace Directory

/-- A path without the steps that lead nowhere. `none` for a path that begins elsewhere, or
that ends at a directory. -/
def simplify? (path : Text) : Option Text :=
  let isIdle (step : Text) : Bool := step.isEmpty || step = ['.']
  let steps := path.splitOn '/'
  if path.head? = some '/' || steps.getLast?.any isIdle then none
  else some (['/'].intercalate (steps.filter fun step => !isIdle step))

/-- The content of the file at a path. -/
def content? (d : Directory) (path : Text) : Option Text :=
  (simplify? path).bind fun name => d.files.lookup name

end Directory

end SearchLink.CommandLine
