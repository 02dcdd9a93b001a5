import SearchLink.Text.Percent
import SearchLink.Yaml.Source

/-!
# `SearchLink.Yaml.Scalar`: the texts of a YAML document

A text is written in one of five styles. Plain and quoted texts may run over several lines;
a line end with the blanks around it then stands for one space, or for the line ends that
follow it. Block texts keep the lines under a header, as they are or folded.

Each reader takes the place where the text begins and returns it with the place behind.
-/

set_option autoImplicit false

namespace SearchLink.Yaml

/-- How a text is written. -/
inductive Style where
  /-- As it is. -/
  | plain
  /-- In single quotes. -/
  | single
  /-- In double quotes, with escapes. -/
  | double
  /-- As a block whose lines are kept. -/
  | literal
  /-- As a block whose lines are folded. -/
  | folded
  deriving Repr, DecidableEq

/-! ### Gaps between words -/

/-- Blanks and line ends between the words of a text. -/
structure Gap where
  /-- The blanks in front of the first line end. -/
  blanks : Text := []
  /-- The line ends. -/
  breaks : Text := []
  /-- Whether an escaped line end, which stands for nothing, came first. -/
  isEscaped : Bool := false
  deriving Repr, DecidableEq

namespace Gap

/-- Whether the gap has reached another line. -/
def hasBreak (g : Gap) : Bool := g.isEscaped || !g.breaks.isEmpty

/-- Whether there is anything in the gap. -/
def isOpen (g : Gap) : Bool := g.hasBreak || !g.blanks.isEmpty

/-- The gap with one more blank. Blanks behind a line end do not count. -/
def addBlank (g : Gap) (c : Char) : Gap :=
  if g.hasBreak then g else { g with blanks := g.blanks ++ [c] }

/-- The gap with one more line end. -/
def addBreak (g : Gap) (c : Char) : Gap := { g with breaks := g.breaks ++ [c] }

/-- What the gap stands for: a single line feed for a space, and further line ends for
themselves. -/
def text (g : Gap) : Text :=
  if g.isEscaped then g.breaks
  else
    match g.breaks with
    | [] => g.blanks
    | [b] => if b = '\n' then [' '] else [b]
    | b :: bs => if b = '\n' then bs else b :: bs

end Gap

/-! ### Plain texts -/

/-- Whether a character has a meaning of its own inside brackets. -/
def isFlowMark (c : Char) : Bool := c = ',' || c = '[' || c = ']' || c = '{' || c = '}'

/-- Whether a plain text ends in front of these characters. -/
def endsPlain (inFlow : Bool) (c : Char) (r : Text) : Bool :=
  (c = ':' && atBlank r) || (inFlow && isFlowMark c)

/-- Reads a plain text from a place on. `indent` is the column that its further lines must
reach outside brackets. Also says whether the reading has gone on to another line. -/
def plainFrom (inFlow : Bool) (indent line column : Nat) (gap : Gap) :
    Text → Option (Text × Bool × Cursor)
  | [] => some ([], gap.hasBreak, ⟨[], line, column⟩)
  | c :: r =>
    if isBlank c then
      if gap.hasBreak && column < indent && c = '\t' then none
      else plainFrom inFlow indent line (column + 1) (gap.addBlank c) r
    else if isBreak c then plainFrom inFlow indent (line + 1) 0 (gap.addBreak c) r
    else if (gap.isOpen && (c = '#' || (!inFlow && column < indent))) ||
        (column = 0 && atDocumentMark (c :: r)) then
      some ([], gap.hasBreak, ⟨c :: r, line, column⟩)
    else if inFlow && c = ':' && r.head?.any (fun d => isFlowMark d || d = '?') then none
    else if endsPlain inFlow c r then some ([], gap.hasBreak, ⟨c :: r, line, column⟩)
    else do
      let (text, moved, after) ← plainFrom inFlow indent line (column + 1) {} r
      return (gap.text ++ c :: text, moved, after)

/-- Reads a plain text. -/
def readPlain (inFlow : Bool) (indent : Nat) (c : Cursor) : Option (Text × Bool × Cursor) :=
  plainFrom inFlow indent c.line c.column {} c.rest

/-! ### Quoted texts -/

/-- What a single character stands for behind a backslash. -/
def escapedChar? (c : Char) : Option Char :=
  match c with
  | '0' => some '\x00'
  | 'a' => some '\x07'
  | 'b' => some '\x08'
  | 't' => some '\t'
  | '\t' => some '\t'
  | 'n' => some '\n'
  | 'v' => some '\x0B'
  | 'f' => some '\x0C'
  | 'r' => some '\r'
  | 'e' => some '\x1B'
  | ' ' => some ' '
  | '"' => some '"'
  | '/' => some '/'
  | '\\' => some '\\'
  | 'N' => some '\u0085'
  | '_' => some '\u00A0'
  | 'L' => some '\u2028'
  | 'P' => some '\u2029'
  | _ => none

/-- The number of hexadecimal digits that an escape announces. -/
def escapeLength? (c : Char) : Option Nat :=
  match c with
  | 'x' => some 2
  | 'u' => some 4
  | 'U' => some 8
  | _ => none

/-- The character whose code point is written in hexadecimal digits. -/
def charOfHex? (digits : Text) : Option Char := do
  let n := (← digits.mapM Text.hexValue?).foldl (fun n d => 16 * n + d) 0
  if n.isValidChar then some (Char.ofNat n) else none

/-- Reads a text in quotes from a place behind the first quote on. -/
def quotedFrom (quote : Char) (line column : Nat) (gap : Gap) (t : Text) :
    Option (Text × Cursor) :=
  match t with
  | [] => none
  | c :: r =>
    if isBlank c then quotedFrom quote line (column + 1) (gap.addBlank c) r
    else if isBreak c then quotedFrom quote (line + 1) 0 (gap.addBreak c) r
    else if column = 0 && atDocumentMark (c :: r) then none
    else
      let goOn (written : Text) (n : Nat) (next : Gap) (line column : Nat) :
          Option (Text × Cursor) := do
        let (text, after) ← quotedFrom quote line column next (r.drop n)
        return (gap.text ++ written ++ text, after)
      if c = quote then
        if quote = '\x27' && headIs quote r then goOn [quote] 1 {} line (column + 2)
        else some (gap.text, ⟨r, line, column + 1⟩)
      else if quote = '"' && c = '\\' then
        match r with
        | [] => none
        | e :: digits =>
          if isBreak e then goOn [] 1 { isEscaped := true } (line + 1) 0
          else
            match escapedChar? e, escapeLength? e with
            | some d, _ => goOn [d] 1 {} line (column + 2)
            | none, some n =>
              if digits.length < n then none
              else do
                let d ← charOfHex? (digits.take n)
                goOn [d] (n + 1) {} line (column + n + 2)
            | none, none => none
      else goOn [c] 0 {} line (column + 1)
termination_by t.length
decreasing_by all_goals simp only [List.length_cons, List.length_drop]; omega

/-- Reads a text in quotes. -/
def readQuoted (quote : Char) (c : Cursor) : Option (Text × Cursor) :=
  quotedFrom quote c.line (c.column + 1) {} (c.rest.drop 1)

/-! ### Block texts -/

/-- What becomes of the line ends at the end of a block. -/
inductive Chomping where
  /-- All are dropped. -/
  | strip
  /-- The first is kept. -/
  | clip
  /-- All are kept. -/
  | keep
  deriving Repr, DecidableEq

/-- What is kept behind the last line: of its line end, and of those of the empty lines
behind it. -/
def Chomping.tail (c : Chomping) (lineEnd breaks : Text) : Text :=
  match c with
  | .strip => []
  | .clip => lineEnd
  | .keep => lineEnd ++ breaks

/-- The header of a block. -/
structure BlockHeader where
  /-- What becomes of the line ends at its end. -/
  chomping : Chomping
  /-- How far its lines are indented, if that is said. -/
  increment : Option Nat
  deriving Repr, DecidableEq

/-- The chomping that a sign stands for. -/
def chomping? (c : Char) : Option Chomping :=
  if c = '+' then some .keep else if c = '-' then some .strip else none

/-- Reads the header of a block, behind its mark: a sign and a digit, each at most once and
in either order. -/
def readHeader (t : Text) : Option (BlockHeader × Nat) :=
  let sign (t : Text) : Option Chomping := t.head?.bind chomping?
  let digit (t : Text) : Option Nat :=
    t.head?.bind fun c => if c.isDigit then some (c.toNat - 48) else none
  let result :=
    match sign t, digit t with
    | some s, _ =>
      match digit (t.drop 1) with
      | some d => (⟨s, some d⟩, 2)
      | none => (⟨s, none⟩, 1)
    | none, some d =>
      match sign (t.drop 1) with
      | some s => (⟨s, some d⟩, 2)
      | none => (⟨.clip, some d⟩, 1)
    | none, none => (⟨.clip, none⟩, 0)
  if result.1.increment = some 0 then none else some result

/-- Empty lines of a block that have been passed. -/
structure Margin where
  /-- Their line ends. -/
  breaks : Text
  /-- The largest column that was reached in them and in front of the next line. -/
  widest : Nat
  /-- The place that was reached. -/
  place : Cursor
  deriving Repr, DecidableEq

/-- Passes the indentation of a line of a block, and all lines that have nothing else.
`indent` is zero while the indentation is not known. A tab may not stand in it. -/
def passMargin (indent : Nat) : (fuel : Nat) → Margin → Option Margin
  | 0, m => some m
  | fuel + 1, m =>
    let spaces := (m.place.rest.takeWhile (· = ' ')).length
    let inside := if indent = 0 then spaces else min spaces (indent - m.place.column)
    let place := m.place.skip inside
    let widest := max m.widest place.column
    if (indent = 0 || place.column < indent) && headIs '\t' place.rest then none
    else
      match place.readBreak with
      | ([], _) => some { m with widest := widest, place := place }
      | (b, next) => passMargin indent fuel ⟨m.breaks ++ b, widest, next⟩

/-- Passes the margin at a place. -/
def margin (indent : Nat) (c : Cursor) : Option Margin :=
  passMargin indent (c.rest.length + 1) ⟨[], 0, c⟩

/-- What stands between two lines of a block: the line end of the first and those of the
empty lines behind it. Folding makes a space of a single line feed between lines that do not
begin with a blank. -/
def joinLines (style : Style) (bothFull : Bool) (lineEnd breaks : Text) : Text :=
  if style = .folded && bothFull && lineEnd = ['\n'] then
    if breaks.isEmpty then [' '] else breaks
  else lineEnd ++ breaks

/-- Reads the lines of a block. `fullBefore` says whether the line before began with no blank,
and `lineEnd` and `breaks` are what has been read behind it. -/
def blockLines (style : Style) (chomping : Chomping) (indent : Nat) :
    (fuel : Nat) → (fullBefore : Bool) → (lineEnd breaks : Text) → Cursor →
      Option (Text × Cursor)
  | 0, _, _, _, _ => none
  | fuel + 1, fullBefore, lineEnd, breaks, c =>
    match c.rest with
    | d :: _ =>
      if c.column = indent then do
        let isFull := !isBlank d
        let line := c.rest.takeWhile fun d => !isBreak d
        let (nextEnd, next) := (c.skip line.length).readBreak
        let m ← margin indent next
        let (text, after) ← blockLines style chomping indent fuel isFull nextEnd m.breaks m.place
        return (joinLines style (fullBefore && isFull) lineEnd breaks ++ line ++ text, after)
      else some (chomping.tail lineEnd breaks, c)
    | [] => some (chomping.tail lineEnd breaks, c)

/-- Reads a block. `parent` is the column that the block must be indented beyond, counted from
one; the first line that is not empty sets the indentation if the header does not. -/
def readBlock (style : Style) (parent : Nat) (c : Cursor) : Option (Text × Cursor) := do
  let (header, length) ← readHeader (c.rest.drop 1)
  let c := (c.skip (length + 1)).skipComment
  if !atLineEnd c.rest then none
  else
    let c := c.skipBreak
    let given := header.increment.map fun n => n + (parent - 1)
    let m ← margin (given.getD 0) c
    let indent := given.getD (max m.widest (max parent 1))
    blockLines style header.chomping indent (m.place.rest.length + 1) true [] m.breaks m.place

end SearchLink.Yaml
