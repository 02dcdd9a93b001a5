import SearchLink.Regex.Bracket
import SearchLink.Text.Decimal

/-!
# `SearchLink.Regex.Parser`: from a pattern to an expression

`parse?` reads a pattern under some flags. It keeps the groups that are still open on a
stack; one step takes one item of the pattern: a character, a class, a bar, a bracket of a
group or a repetition of the item before.

A pattern is refused when it is malformed, when it asks for look-around, for a
back-reference or for something else that is not part of the language, when two groups
share a name, or when its brackets, choices and repetitions nest deeper than `maxDepth`.
-/

set_option autoImplicit false

namespace SearchLink.Regex

/-- How deep a pattern may nest. -/
def maxDepth : Nat := 250

/-- An item of a pattern: what it means, how deep it nests, and whether a repetition may
follow. Only a bare flag setting cannot be repeated. -/
structure Item where
  /-- What the item matches. -/
  expr : Expr
  /-- How deep the item nests. -/
  depth : Nat := 0
  /-- Whether a repetition may follow. -/
  repeatable : Bool := true
  deriving Repr

/-- An open group: what surrounds it, the flags to go back to, and what it captures. -/
structure GroupFrame where
  /-- The number and name under which the group is remembered, if it is. -/
  capture : Option (Nat × Option Text)
  /-- The flags in force before the group. -/
  flags : Flags
  /-- The items in front of the group, latest first. -/
  items : List Item
  /-- The finished branches in front of the group, latest first. -/
  branches : List Item
  deriving Repr

/-- The state of the reader. -/
structure ParseState where
  /-- The flags in force. -/
  flags : Flags
  /-- The items of the current branch, latest first. -/
  items : List Item := []
  /-- The finished branches of the current group, latest first. -/
  branches : List Item := []
  /-- The groups that are open, innermost first. -/
  frames : List GroupFrame := []
  /-- How many groups have been numbered. -/
  captures : Nat := 0
  /-- The names of groups so far. -/
  names : List Text := []
  /-- The text that is still to be read. -/
  rest : Text
  deriving Repr

/-- The greatest depth of some items. -/
def maxItemDepth (items : List Item) : Nat := (items.map Item.depth).foldl max 0

/-- Items in a row as one item; two or more make one more level. -/
def sequenceItem (items : List Item) : Item :=
  { expr := .sequence (items.map Item.expr)
    depth := maxItemDepth items + (if 1 < items.length then 1 else 0) }

/-- Branches as one item; two or more make one more level. -/
def choiceItem (branches : List Item) : Item :=
  { expr := .choice (branches.map Item.expr)
    depth := maxItemDepth branches + (if 1 < branches.length then 1 else 0) }

/-- What the current group amounts to when it closes here. -/
def ParseState.close (s : ParseState) : Item :=
  choiceItem ((sequenceItem s.items.reverse :: s.branches).reverse)

/-- Adds an item to the current branch. -/
def ParseState.push (s : ParseState) (item : Item) (rest : Text) : ParseState :=
  { s with items := item :: s.items, rest := rest }

/-! ### Groups -/

/-- Whether a character may stand in the name of a group. -/
def isNameChar (isFirst : Bool) (c : Char) : Bool :=
  if isFirst then c = '_' || alphabeticSet.contains c
  else c = '_' || c = '.' || c = '[' || c = ']' || alphanumericSet.contains c

/-- Reads the name of a group up to its closing angle. -/
def readGroupName (isFirst : Bool) : Text → Option (Text × Text)
  | [] => none
  | c :: r =>
    if c = '>' then if isFirst then none else some ([], r)
    else if isNameChar isFirst c then
      (readGroupName false r).map fun part => (c :: part.1, part.2)
    else none

/-- One change of a flag. -/
def setFlag? (flags : Flags) (letter : Char) (value : Bool) : Option Flags :=
  if letter = 'i' then some { flags with caseInsensitive := value }
  else if letter = 'm' then some { flags with multiLine := value }
  else if letter = 's' then some { flags with dotAll := value }
  else if letter = 'U' then some { flags with swapGreed := value }
  else if letter = 'u' then some { flags with unicode := value }
  else if letter = 'R' then some { flags with crlf := value }
  else if letter = 'x' then some { flags with verbose := value }
  else none

/-- Reads flags up to `:` or `)`. `seen` holds the letters so far and the hyphen behind
which flags are switched off. Gives the flags, whether any letter stood there, what ended
them and the rest. -/
def readFlags (flags : Flags) (seen : Text) : Text → Option (Flags × Bool × Char × Text)
  | [] => none
  | c :: r =>
    if c = ':' || c = ')' then
      if seen.head? = some '-' then none else some (flags, !seen.isEmpty, c, r)
    else if seen.contains c then none
    else if c = '-' then readFlags flags (c :: seen) r
    else
      match setFlag? flags c (!seen.contains '-') with
      | some flags => readFlags flags (c :: seen) r
      | none => none

/-- Opens a group that is remembered under the next number. -/
def openCapture (s : ParseState) (name : Option Text) (rest : Text) : Option ParseState :=
  if (name.map s.names.contains).getD false then none
  else
    some
      { s with
        frames := ⟨some (s.captures + 1, name), s.flags, s.items, s.branches⟩ :: s.frames
        captures := s.captures + 1
        names := name.toList ++ s.names
        items := []
        branches := []
        rest := rest }

/-- Opens a group, or sets flags, behind an opening bracket. -/
def openGroup (s : ParseState) (t : Text) : Option ParseState :=
  let t := s.flags.skip t
  let begins (start : String) : Bool := Text.startsWith start.toList t
  if begins "?=" || begins "?!" || begins "?<=" || begins "?<!" then none
  else if begins "?P<" then do
    let (name, r) ← readGroupName true (t.drop 3)
    openCapture s (some name) r
  else if begins "?<" then do
    let (name, r) ← readGroupName true (t.drop 2)
    openCapture s (some name) r
  else if begins "?" then do
    let (flags, anySet, mark, r) ← readFlags s.flags [] (t.drop 1)
    if mark = ')' then
      if anySet then
        some ({ s with flags := flags }.push { expr := .empty, repeatable := false } r)
      else none
    else
      some
        { s with
          frames := ⟨none, s.flags, s.items, s.branches⟩ :: s.frames
          flags := flags
          items := []
          branches := []
          rest := r }
  else openCapture s none t

/-- Closes the innermost group. -/
def closeGroup (s : ParseState) (rest : Text) : Option ParseState :=
  match s.frames with
  | [] => none
  | frame :: frames =>
    let body := s.close
    let expr := match frame.capture with
      | some (index, name) => .group index name body.expr
      | none => body.expr
    some
      { s with
        flags := frame.flags
        items := { expr := expr, depth := body.depth + 1 } :: frame.items
        branches := frame.branches
        frames := frames
        rest := rest }

/-! ### Repetitions -/

/-- Replaces the latest item by its repetition. -/
def repeatLast (s : ParseState) (least : Nat) (most : Option Nat) (greedy : Bool)
    (rest : Text) : Option ParseState :=
  match s.items with
  | item :: items =>
    if item.repeatable then
      some
        { s with
          items :=
            { expr := .repeated least most (greedy != s.flags.swapGreed) item.expr
              depth := item.depth + 1 } :: items
          rest := rest }
    else none
  | [] => none

/-- Reads the `?` that makes a repetition lazy. -/
def readLazy (t : Text) : Bool × Text :=
  match t with
  | '?' :: r => (false, r)
  | _ => (true, t)

/-- Reads the digits of a count, passing over blanks. -/
def readDigits (flags : Flags) : (fuel : Nat) → Text → Text × Text
  | 0, t => ([], t)
  | fuel + 1, t =>
    match t with
    | c :: r =>
      if c.isDigit then
        let part := readDigits flags fuel (flags.skip r)
        (c :: part.1, part.2)
      else ([], t)
    | [] => ([], [])

/-- Reads a count of at most 32 bits with blanks around it; `some none` where there is no
digit. -/
def readCount (flags : Flags) (t : Text) : Option (Option Nat × Text) :=
  let start := t.dropWhile Text.isWhiteSpace
  let (digits, r) := readDigits flags start.length start
  let r := flags.skip (r.dropWhile Text.isWhiteSpace)
  if digits.isEmpty then some (none, r)
  else
    (Text.natural? digits).bind fun n => if n < UInt32.size then some (some n, r) else none

/-- Reads the bounds of a repetition behind its opening brace. -/
def readBounds (flags : Flags) (t : Text) : Option (Nat × Option Nat × Text) := do
  let (first, r) ← readCount flags (flags.skip t)
  match r with
  | ',' :: r =>
    match flags.skip r with
    | [] => none
    | '}' :: r => first.map fun n => (n, none, r)
    | r =>
      let least ← first
      let (second, r) ← readCount flags r
      let most ← second
      match r with
      | '}' :: r => if least ≤ most then some (least, some most, r) else none
      | _ => none
  | '}' :: r => first.map fun n => (n, some n, r)
  | _ => none

/-! ### The pattern -/

/-- Reads one item of a pattern, whose first character is `c`. -/
def parseItem (s : ParseState) (c : Char) (r : Text) : Option ParseState :=
  if c = '(' then openGroup s r
  else if c = ')' then closeGroup s r
  else if c = '|' then
    some
      { s with
        items := []
        branches := sequenceItem s.items.reverse :: s.branches
        rest := r }
  else if c = '[' then
    (readClass s.flags (c :: r)).map fun (part, r) =>
      s.push { expr := .set part.chars, depth := part.depth } r
  else if c = '?' then
    let (greedy, r) := readLazy r
    repeatLast s 0 (some 1) greedy r
  else if c = '*' then
    let (greedy, r) := readLazy r
    repeatLast s 0 none greedy r
  else if c = '+' then
    let (greedy, r) := readLazy r
    repeatLast s 1 none greedy r
  else if c = '{' then
    (readBounds s.flags r).bind fun (least, most, r) =>
      let (greedy, r) := readLazy (s.flags.skip r)
      repeatLast s least most greedy r
  else if c = '\\' then
    (readEscape s.flags r).bind fun (primitive, r) =>
      match primitive with
      | .literal c byte => (s.flags.literal? c byte).map fun e => s.push { expr := e } r
      | .chars set => some (s.push { expr := .set set } r)
      | .look condition => some (s.push { expr := .look condition } r)
  else if c = '.' then (s.flags.dot?).map fun e => s.push { expr := e } r
  else if c = '^' then some (s.push { expr := .look s.flags.caret } r)
  else if c = '$' then some (s.push { expr := .look s.flags.dollar } r)
  else (s.flags.literal? c false).map fun e => s.push { expr := e } r

/-- Reads items up to the end of the pattern. Every item takes up text, so as many steps as
there are characters are enough. -/
def parseLoop : (fuel : Nat) → ParseState → Option ParseState
  | 0, s => if (s.flags.skip s.rest).isEmpty then some s else none
  | fuel + 1, s =>
    match s.flags.skip s.rest with
    | [] => some s
    | c :: r => (parseItem s c r).bind (parseLoop fuel)

/-- Reads a pattern. -/
def parse? (flags : Flags) (pattern : Text) : Option Expr := do
  let s ← parseLoop pattern.length { flags := flags, rest := pattern }
  if s.frames.isEmpty then
    let item := s.close
    if item.depth ≤ maxDepth then some item.expr else none
  else none

end SearchLink.Regex
