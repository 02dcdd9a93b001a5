import SearchLink.Yaml.Scalar
import SearchLink.Yaml.Tag

/-!
# `SearchLink.Yaml.Token`: the tokens of a YAML text

`Token.ofText?` cuts a text into tokens. Indentation becomes tokens of its own: one where a
block sequence or mapping begins, and one where it ends.

Only the colon behind it shows that something was the key of a mapping. So while a key is
possible its place among the tokens is kept, and the tokens that begin a mapping and a key are
put in there when the colon comes. A key must stand on one line and be no longer than 1024
characters. Where the indentation leaves nothing else possible, a key is required.
-/

set_option autoImplicit false

namespace SearchLink.Yaml

/-- A piece of a YAML text. -/
inductive Token where
  /-- A line about the document. -/
  | directive (d : Directive)
  /-- `---` -/
  | documentStart
  /-- `...` -/
  | documentEnd
  /-- The indentation of a sequence begins. -/
  | blockSequenceStart
  /-- The indentation of a mapping begins. -/
  | blockMappingStart
  /-- The indentation of a sequence or a mapping ends. -/
  | blockEnd
  /-- `[` -/
  | flowSequenceStart
  /-- `]` -/
  | flowSequenceEnd
  /-- An opening brace. -/
  | flowMappingStart
  /-- A closing brace. -/
  | flowMappingEnd
  /-- `-` in front of an item. -/
  | blockEntry
  /-- `,` -/
  | flowEntry
  /-- A key follows. -/
  | key
  /-- A value follows. -/
  | value
  /-- A reference to an anchor. -/
  | reference (name : Text)
  /-- The anchor of the node that follows. -/
  | anchor (name : Text)
  /-- The tag of the node that follows. -/
  | tag (t : Tag)
  /-- A text. -/
  | scalar (style : Style) (text : Text)
  deriving Repr, DecidableEq

/-- A key that a colon may yet show to be one. -/
structure PossibleKey where
  /-- Whether nothing else is possible here. -/
  isRequired : Bool
  /-- The number of tokens in front of it. -/
  position : Nat
  /-- The line it begins on. -/
  line : Nat
  /-- The column it begins at. -/
  column : Nat
  deriving Repr, DecidableEq

/-- How far the cutting has come. -/
structure Lexer where
  /-- The place that has been reached. -/
  cursor : Cursor
  /-- The tokens, last first. -/
  tokens : List Token := []
  /-- The number of tokens. -/
  count : Nat := 0
  /-- The columns of the open blocks, innermost first. -/
  indents : List Nat := []
  /-- Whether a key may begin here. -/
  keyAllowed : Bool := true
  /-- The possible key outside all brackets. -/
  blockKey : Option PossibleKey := none
  /-- The possible keys inside the open brackets, innermost first. -/
  flowKeys : List (Option PossibleKey) := []
  deriving Repr, DecidableEq

namespace Lexer

/-! ### State -/

/-- The longest distance from the beginning of a key to its colon. -/
def maxKeyLength : Nat := 1024

/-- Whether brackets are open. -/
def inFlow (l : Lexer) : Bool := !l.flowKeys.isEmpty

/-- One more than the column of the innermost block, or zero outside all blocks. -/
def parent (l : Lexer) : Nat :=
  match l.indents with
  | [] => 0
  | i :: _ => i + 1

/-- Adds a token. -/
def push (l : Lexer) (t : Token) : Lexer :=
  { l with tokens := t :: l.tokens, count := l.count + 1 }

/-- Adds a token and goes on behind it. -/
def pushAt (l : Lexer) (t : Token) (c : Cursor) : Lexer := { l.push t with cursor := c }

/-- Puts a token in behind the first `position` tokens. -/
def insertAt (l : Lexer) (position : Nat) (t : Token) : Lexer :=
  { l with tokens := l.tokens.insertIdx (l.count - position) t, count := l.count + 1 }

/-- The possible key of the innermost brackets. -/
def possibleKey (l : Lexer) : Option PossibleKey :=
  match l.flowKeys with
  | [] => l.blockKey
  | k :: _ => k

/-- Sets the possible key of the innermost brackets. -/
def setKey (l : Lexer) (k : Option PossibleKey) : Lexer :=
  match l.flowKeys with
  | [] => { l with blockKey := k }
  | _ :: ks => { l with flowKeys := k :: ks }

/-- Gives up the possible key of the innermost brackets; a required one is an error. -/
def dropKey (l : Lexer) : Option Lexer :=
  if l.possibleKey.any (·.isRequired) then none else some (l.setKey none)

/-- Notes that a key may begin here, if it may. -/
def noteKey (l : Lexer) : Option Lexer :=
  if l.keyAllowed then do
    let isRequired := !l.inFlow && l.indents.head? = some l.cursor.column
    return (← l.dropKey).setKey
      (some ⟨isRequired, l.count, l.cursor.line, l.cursor.column⟩)
  else some l

/-- A possible key, unless it has been left: it is on another line or too far away. A required
one is then an error. -/
def keepKey (c : Cursor) (k : PossibleKey) : Option (Option PossibleKey) :=
  if k.line < c.line || k.column + maxKeyLength < c.column then
    if k.isRequired then none else some none
  else some (some k)

/-- Gives up the possible keys that have been left. -/
def dropStale (l : Lexer) : Option Lexer := do
  let keep (k : Option PossibleKey) : Option (Option PossibleKey) :=
    match k with
    | some k => keepKey l.cursor k
    | none => some none
  return { l with blockKey := ← keep l.blockKey, flowKeys := ← l.flowKeys.mapM keep }

/-- Begins a block at a column, if it lies further in than all open blocks. -/
def openBlock (l : Lexer) (column position : Nat) (t : Token) : Lexer :=
  if !l.inFlow && l.parent ≤ column then
    { l.insertAt position t with indents := column :: l.indents }
  else l

/-- Ends the blocks further in than a column; `outside` is one more than the column. -/
def closeBlocks (outside : Nat) (l : Lexer) : Lexer :=
  if l.inFlow then l
  else
    let closed := l.indents.takeWhile (outside ≤ ·)
    { l with
      tokens := closed.map (fun _ => Token.blockEnd) ++ l.tokens
      count := l.count + closed.length
      indents := l.indents.drop closed.length }

/-! ### From token to token -/

/-- Passes blanks, comments and empty lines. A tab may not stand where a key may begin,
except inside brackets. A byte order mark may begin a line. -/
def skipToToken (inFlow : Bool) : (fuel : Nat) → (keyAllowed : Bool) → Cursor → Bool × Cursor
  | 0, keyAllowed, c => (keyAllowed, c)
  | fuel + 1, keyAllowed, c =>
    let c := if c.column = 0 && headIs '\uFEFF' c.rest then c.skip 1 else c
    let c := c.skipWhile fun d => d = ' ' || ((inFlow || !keyAllowed) && d = '\t')
    let c := if headIs '#' c.rest then c.skipWhile fun d => !isBreak d else c
    if c.rest.head?.any isBreak then skipToToken inFlow fuel (keyAllowed || !inFlow) c.skipBreak
    else (keyAllowed, c)

/-- Goes to the next token. -/
def toToken (l : Lexer) : Lexer :=
  let (keyAllowed, cursor) := skipToToken l.inFlow (l.cursor.rest.length + 1) l.keyAllowed l.cursor
  { l with keyAllowed, cursor }

/-! ### One function for each kind of token -/

/-- A directive, or the start or end of a document. -/
def documentToken (l : Lexer) (t : Token) (after : Cursor) : Option Lexer := do
  let l ← (closeBlocks 0 l).dropKey
  return { l.pushAt t after with keyAllowed := false }

/-- An opening bracket. -/
def flowStart (l : Lexer) (t : Token) : Option Lexer := do
  let l ← l.noteKey
  let l := { l with flowKeys := none :: l.flowKeys, keyAllowed := true }
  return l.pushAt t (l.cursor.skip 1)

/-- A closing bracket. -/
def flowEnd (l : Lexer) (t : Token) : Option Lexer := do
  let l ← l.dropKey
  let l := { l with flowKeys := l.flowKeys.drop 1, keyAllowed := false }
  return l.pushAt t (l.cursor.skip 1)

/-- A comma inside brackets. -/
def flowEntry (l : Lexer) : Option Lexer := do
  let l := { ← l.dropKey with keyAllowed := true }
  return l.pushAt .flowEntry (l.cursor.skip 1)

/-- A hyphen in front of an item. -/
def blockEntry (l : Lexer) : Option Lexer := do
  if !l.inFlow && !l.keyAllowed then none
  else
    let l := l.openBlock l.cursor.column l.count .blockSequenceStart
    let l := { ← l.dropKey with keyAllowed := true }
    return l.pushAt .blockEntry (l.cursor.skip 1)

/-- A question mark in front of a key. -/
def explicitKey (l : Lexer) : Option Lexer := do
  if !l.inFlow && !l.keyAllowed then none
  else
    let l := l.openBlock l.cursor.column l.count .blockMappingStart
    let l := { ← l.dropKey with keyAllowed := !l.inFlow }
    return l.pushAt .key (l.cursor.skip 1)

/-- A colon. It turns what stands in front of it into a key, if that was possible. -/
def value (l : Lexer) : Option Lexer :=
  match l.possibleKey with
  | some k =>
    let l := (l.insertAt k.position .key).openBlock k.column k.position .blockMappingStart
    let l := { l.setKey none with keyAllowed := false }
    some (l.pushAt .value (l.cursor.skip 1))
  | none =>
    if !l.inFlow && !l.keyAllowed then none
    else
      let l := l.openBlock l.cursor.column l.count .blockMappingStart
      let l := { l with keyAllowed := !l.inFlow }
      some (l.pushAt .value (l.cursor.skip 1))

/-- An anchor, a reference, a tag or a quoted text: a key may begin with it. -/
def content (l : Lexer) (read : Cursor → Option (Token × Cursor)) : Option Lexer := do
  let l := { ← l.noteKey with keyAllowed := false }
  let (t, after) ← read l.cursor
  return l.pushAt t after

/-- A plain text. A key may begin behind it if it has gone on to another line. -/
def plain (l : Lexer) : Option Lexer := do
  let l ← l.noteKey
  let (text, moved, after) ← readPlain l.inFlow l.parent l.cursor
  return { l.pushAt (.scalar .plain text) after with keyAllowed := moved }

/-- A block text. -/
def block (l : Lexer) (style : Style) : Option Lexer := do
  let l := { ← l.dropKey with keyAllowed := true }
  let (text, after) ← readBlock style l.parent l.cursor
  return l.pushAt (.scalar style text) after

/-- Whether a plain text may begin with a character, given what follows it. -/
def startsPlain (inFlow : Bool) (c : Char) (r : Text) : Bool :=
  if c = '-' then !r.head?.any isBlank
  else if c = '?' || c = ':' then !inFlow && !atBlank r
  else
    !(isBlank c || isBreak c || isFlowMark c ||
      ['#', '&', '*', '!', '|', '>', '\x27', '"', '%', '@', '\x60'].contains c)

/-- Reads one token that begins with a character. -/
def readToken (l : Lexer) (c : Char) (r : Text) : Option Lexer :=
  let here := l.cursor
  let atStart := here.column = 0
  let mayMark := l.inFlow || atBlank r
  if atStart && c = '%' then do
    let (d, after) ← readDirective here
    l.documentToken (.directive d) after
  else if atStart && atDocumentMark (c :: r) then
    l.documentToken (if c = '-' then .documentStart else .documentEnd) (here.skip 3)
  else if c = '[' then l.flowStart .flowSequenceStart
  else if c = '{' then l.flowStart .flowMappingStart
  else if c = ']' then l.flowEnd .flowSequenceEnd
  else if c = '}' then l.flowEnd .flowMappingEnd
  else if c = ',' then l.flowEntry
  else if c = '-' && atBlank r then l.blockEntry
  else if c = '?' && mayMark then l.explicitKey
  else if c = ':' && mayMark then l.value
  else if c = '*' then l.content fun c => (readAnchor c).map fun a => (.reference a.1, a.2)
  else if c = '&' then l.content fun c => (readAnchor c).map fun a => (.anchor a.1, a.2)
  else if c = '!' then l.content fun c => (readTag l.inFlow c).map fun t => (.tag t.1, t.2)
  else if c = '|' && !l.inFlow then l.block .literal
  else if c = '>' && !l.inFlow then l.block .folded
  else if c = '\x27' then
    l.content fun c => (readQuoted '\x27' c).map fun t => (.scalar .single t.1, t.2)
  else if c = '"' then
    l.content fun c => (readQuoted '"' c).map fun t => (.scalar .double t.1, t.2)
  else if startsPlain l.inFlow c r then l.plain
  else none

/-- Cuts the rest of the text. Every token takes at least one character. -/
def run : (fuel : Nat) → Lexer → Option (List Token)
  | 0, _ => none
  | fuel + 1, l => do
    let l ← l.toToken.dropStale
    let l := closeBlocks (l.cursor.column + 1) l
    match l.cursor.rest with
    | [] => return ((← (closeBlocks 0 l).dropKey).tokens.reverse)
    | c :: r => run fuel (← l.readToken c r)

end Lexer

/-- The tokens of a text. -/
def Token.ofText? (t : Text) : Option (List Token) :=
  if t.all isAllowed then
    let lines := normalLines t
    Lexer.run (lines.length + 1) { cursor := Cursor.ofText lines }
  else none

end SearchLink.Yaml
