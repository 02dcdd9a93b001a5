import SearchLink.Template.Modification

/-!
# `SearchLink.Template.Written`: tokens as they are written

`writeToken` writes a name and a chain as a token of a template. It puts a backslash wherever
`readChain` would otherwise see a mark: in front of braces, bars and backslashes of plain parts,
in front of a plain source that looks like a pattern, and in front of a slash of a pattern. A
backslash of a pattern keeps its successor and is copied with it.
-/

set_option autoImplicit false

namespace SearchLink.Template

/-- A character of a plain part. -/
def writePlainChar (c : Char) : Text := if c = '\\' || isBraceOrBar c then ['\\', c] else [c]

/-- A plain part. -/
def writePlain (t : Text) : Text := t.flatMap writePlainChar

/-- The source of a literal replacement. -/
def writeSource (t : Text) : Text :=
  if Text.startsWith "re/".toList t then '\\' :: writePlain t else writePlain t

/-- The source of a pattern. -/
def writePattern : Text → Text
  | [] => []
  | '\\' :: c :: r => '\\' :: c :: writePattern r
  | '/' :: r => '\\' :: '/' :: writePattern r
  | c :: r => c :: writePattern r

/-- A bound of a slice; an open one is empty. -/
def writeBound : Option Int64 → Text
  | some i => Text.ofInteger i.toInt
  | none => []

/-- A block. -/
def writeBlock : Modification → Text
  | .slice start stop => '[' :: writeBound start ++ ':' :: writeBound stop ++ [']']
  | .replacement source target =>
    '\x7b' :: writeSource source ++ '|' :: writePlain target ++ ['\x7d']
  | .regexReplacement source flags target =>
    "\x7bre/".toList ++ writePattern source ++ '/' :: flags ++ '|' :: writePlain target ++
      ['\x7d']
  | .regexMatch source flags =>
    "\x7bre/".toList ++ writePattern source ++ '/' :: flags ++ ['\x7d']
  | .function name => '(' :: name ++ [')']

/-- A chain with the brace that closes it. -/
def writeChain (chain : Chain) : Text := chain.flatMap writeBlock ++ ['\x7d']

/-- A token. -/
def writeToken (name : Text) (chain : Chain) : Text := '\x7b' :: name ++ writeChain chain

end SearchLink.Template
