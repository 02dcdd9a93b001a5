import SearchLink.Regex.Escape

/-!
# `SearchLink.Regex.Bracket`: classes in square brackets

A class is a union of characters, ranges, escapes, named ASCII classes and further classes
in brackets. `&&`, `--` and `~~` intersect, subtract and take the symmetric difference of
the unions around them, from left to right.

The reader keeps the unions and operands that are still open on a stack, so brackets may
nest. It also counts how deep they nest, since a pattern may not nest without bound.
-/

set_option autoImplicit false

namespace SearchLink.Regex

open SearchLink.Unicode (CodeSet)

/-- A class or a part of one, with the depth to which its brackets nest. -/
structure ClassPart where
  /-- The characters of the part. -/
  chars : CodeSet
  /-- How deep brackets, unions and operations nest in it. -/
  depth : Nat
  deriving Repr

/-- Members collected so far for one union. -/
structure ClassUnion where
  /-- The characters of the members. -/
  chars : CodeSet := []
  /-- How many members there are. -/
  count : Nat := 0
  /-- The greatest depth of a member. -/
  depth : Nat := 0
  deriving Repr

/-- Adds a member to a union. -/
def ClassUnion.push (u : ClassUnion) (part : ClassPart) : ClassUnion :=
  ⟨u.chars.union part.chars, u.count + 1, max u.depth part.depth⟩

/-- A finished union; two members or more make one more level. -/
def ClassUnion.toPart (u : ClassUnion) : ClassPart :=
  ⟨u.chars, if 1 < u.count then u.depth + 1 else u.depth⟩

/-- An operation on two classes. -/
inductive ClassOperation where
  /-- Characters of both. -/
  | inter
  /-- Characters of the first alone. -/
  | diff
  /-- Characters of exactly one. -/
  | symmDiff
  deriving Repr, DecidableEq

/-- Applies an operation to two operands, each closed under case first. -/
def ClassOperation.apply (flags : Flags) (operation : ClassOperation) (a b : ClassPart) :
    ClassPart :=
  let x := flags.fold a.chars
  let y := flags.fold b.chars
  let chars := match operation with
    | .inter => x.inter y
    | .diff => x.diff y
    | .symmDiff => x.symmDiff y
  ⟨chars, max a.depth b.depth + 1⟩

/-- What waits on the stack while a class is read. -/
inductive ClassFrame where
  /-- A bracket is open inside the union `parent`. -/
  | opened (parent : ClassUnion) (negated : Bool)
  /-- An operation waits for its second operand. -/
  | operand (operation : ClassOperation) (left : ClassPart)
  deriving Repr

/-- The state of the reader: the union being collected, what waits, and the rest. -/
structure ClassState where
  /-- The union being collected. -/
  current : ClassUnion
  /-- What waits, the innermost first. -/
  frames : List ClassFrame
  /-- The text that is still to be read. -/
  rest : Text
  deriving Repr

/-- Completes an operation that waits for a finished operand. -/
def closeOperand (flags : Flags) (part : ClassPart) :
    List ClassFrame → ClassPart × List ClassFrame
  | .operand operation left :: frames => (operation.apply flags left part, frames)
  | frames => (part, frames)

/-- Reads hyphens at the start of a class, which stand for themselves. -/
def readHyphens (flags : Flags) : (fuel : Nat) → ClassUnion → Text →
    Option (ClassUnion × Text)
  | 0, _, _ => none
  | fuel + 1, u, t =>
    match t with
    | '-' :: _ => do
      let r ← advance? flags t
      readHyphens flags fuel (u.push ⟨CodeSet.single 45, 0⟩) r
    | _ => some (u, t)

/-- Reads an opening bracket, a `^` behind it, and the hyphens and the closing bracket that
stand for themselves there. -/
def openBracket (flags : Flags) (t : Text) : Option (Bool × ClassUnion × Text) := do
  let r ← advance? flags t
  let (negated, r) ← match r with
    | '^' :: _ => (advance? flags r).map fun r => (true, r)
    | _ => some (false, r)
  let (u, r) ← readHyphens flags (r.length + 1) {} r
  match r with
  | ']' :: _ =>
    if u.count = 0 then
      (advance? flags r).map fun r => (negated, u.push ⟨CodeSet.single 93, 0⟩, r)
    else some (negated, u, r)
  | _ => some (negated, u, r)

/-- Reads a named ASCII class such as `[:alpha:]`, if one stands here. -/
def readAsciiClass (t : Text) : Option (Bool × CodeSet × Text) := do
  let r ← Text.stripStart? ['[', ':'] t
  let (negated, r) := match r with
    | '^' :: r => (true, r)
    | _ => (false, r)
  let name := r.takeWhile (· ≠ ':')
  let r ← Text.stripStart? [':', ']'] (r.dropWhile (· ≠ ':'))
  let s ← asciiClass? name
  some (negated, s, r)

/-- Reads one character or escape of a class. -/
def readMember (flags : Flags) : Text → Option (Primitive × Text)
  | [] => none
  | c :: r => if c = '\\' then readEscape flags r else some (.literal c false, r)

/-- Passes over blanks and one comment sign behind the first character, and gives what
follows, as a reader needs to know that looks one character ahead. -/
def peekBehind (flags : Flags) : Text → Option Char
  | [] => none
  | _ :: r =>
    if flags.verbose then
      let afterBlanks := r.dropWhile Text.isWhiteSpace
      let afterSign := match afterBlanks with
        | '#' :: s => s.dropWhile Text.isWhiteSpace
        | s => s
      match afterSign with
      | c :: _ => some c
      | [] => r.head?
    else r.head?

/-- Reads a member of a union: a range, a character or an escape that is a class. -/
def readRange (flags : Flags) (t : Text) : Option (CodeSet × Text) := do
  let (first, r) ← readMember flags t
  let r := flags.skip r
  let next ← r.head?
  if next ≠ '-' || peekBehind flags r = some ']' || peekBehind flags r = some '-' then
    match first with
    | .literal c _ =>
      let n ← flags.member? c
      some (CodeSet.single n, r)
    | .chars s => some (s, r)
    | .look _ => none
  else
    let r ← advance? flags r
    let (second, r) ← readMember flags r
    match first, second with
    | .literal a _, .literal b _ =>
      let lo ← flags.member? a
      let hi ← flags.member? b
      if lo ≤ hi then some ([(lo, hi)], r) else none
    | _, _ => none

/-- What one step of the reader leads to. -/
inductive ClassStep where
  /-- The class goes on. -/
  | goOn (state : ClassState)
  /-- The outermost bracket has closed. -/
  | done (part : ClassPart) (rest : Text)
  deriving Repr

/-- Begins the second operand of an operation. -/
def startOperand (flags : Flags) (operation : ClassOperation) (s : ClassState) (r : Text) :
    ClassState :=
  let (left, frames) := closeOperand flags s.current.toPart s.frames
  ⟨{}, .operand operation left :: frames, r⟩

/-- Closes the innermost bracket. -/
def closeBracket (flags : Flags) (s : ClassState) (r : Text) : Option ClassStep :=
  let (part, frames) := closeOperand flags s.current.toPart s.frames
  match frames with
  | .opened parent negated :: frames => do
    let chars ← flags.finish? negated part.chars
    let closed : ClassPart := ⟨chars, part.depth + 1⟩
    if frames.isEmpty then some (.done closed r)
    else some (.goOn ⟨parent.push closed, frames, r⟩)
  | _ => none

/-- Reads the next part of a class. -/
def classStep (flags : Flags) (s : ClassState) : Option ClassStep :=
  let t := flags.skip s.rest
  match t with
  | [] => none
  | c :: r =>
    if c = '[' then
      match readAsciiClass t with
      | some (negated, chars, r) =>
        (flags.finish? negated chars).map fun chars =>
          .goOn { s with current := s.current.push ⟨chars, 0⟩, rest := r }
      | none =>
        (openBracket flags t).map fun (negated, u, r) =>
          .goOn ⟨u, .opened s.current negated :: s.frames, r⟩
    else if c = ']' then closeBracket flags s r
    else if c = '&' && r.head? = some '&' then
      some (.goOn (startOperand flags .inter s (r.drop 1)))
    else if c = '-' && r.head? = some '-' then
      some (.goOn (startOperand flags .diff s (r.drop 1)))
    else if c = '~' && r.head? = some '~' then
      some (.goOn (startOperand flags .symmDiff s (r.drop 1)))
    else
      (readRange flags t).map fun part =>
        .goOn { s with current := s.current.push ⟨part.1, 0⟩, rest := part.2 }

/-- Reads parts until the outermost bracket closes. Every part takes up text, so as many
steps as there are characters are enough. -/
def classLoop (flags : Flags) : (fuel : Nat) → ClassState → Option (ClassPart × Text)
  | 0, _ => none
  | fuel + 1, s =>
    match classStep flags s with
    | none => none
    | some (.done part rest) => some (part, rest)
    | some (.goOn s) => classLoop flags fuel s

/-- Reads a class in brackets, from its opening bracket on. -/
def readClass (flags : Flags) (t : Text) : Option (ClassPart × Text) := do
  let (negated, u, r) ← openBracket flags t
  classLoop flags (r.length + 1) ⟨u, [.opened {} negated], r⟩

end SearchLink.Regex
