import SearchLink.Regex.Flags
import SearchLink.Text.Percent

/-!
# `SearchLink.Regex.Escape`: what a backslash introduces

An escape is a literal character, a class or an assertion. `readEscape` takes the text
behind the backslash and gives what it read with the rest, or `none` where the escape is
not one.
-/

set_option autoImplicit false

namespace SearchLink.Regex

open SearchLink.Unicode (CodeSet)

/-- What one character or escape of a pattern stands for. -/
inductive Primitive where
  /-- A character; `byte` marks one written as two hexadecimal digits. -/
  | literal (c : Char) (byte : Bool)
  /-- A class. -/
  | chars (s : CodeSet)
  /-- A condition on the place. -/
  | look (condition : Assertion)
  deriving Repr

/-- The characters that mean something in a pattern. -/
def isMeta (c : Char) : Bool := "\\.+*?()|[]\x7b\x7d^$#&-~".toList.contains c

/-- Whether a backslash in front of a character makes it stand for itself. -/
def isEscapable (c : Char) : Bool :=
  isMeta c || (c.toNat < 0x80 && !c.isAlphanum && c ≠ '<' && c ≠ '>')

/-- Goes past one character and the blanks behind it; something must follow. -/
def advance? (flags : Flags) : Text → Option Text
  | [] => none
  | _ :: r => match flags.skip r with
    | [] => none
    | t => some t

/-- The character with a hexadecimal code point. -/
def charOfHex? (digits : Text) : Option Char := do
  let values ← digits.mapM Text.hexValue?
  let n := values.foldl (fun n d => 16 * n + d) 0
  if n < 0xD800 ∨ (0xDFFF < n ∧ n ≤ 0x10FFFF) then some (Char.ofNat n) else none

/-- Reads exactly `count` hexadecimal digits, from the first one on. -/
def readHexDigits (flags : Flags) : (count : Nat) → Text → Option (Text × Text)
  | 0, t => some ([], t)
  | _ + 1, [] => none
  | n + 1, c :: r =>
    if (Text.hexValue? c).isSome then
      (readHexDigits flags n (flags.skip r)).map fun part => (c :: part.1, part.2)
    else none

/-- Reads up to a closing brace, passing over blanks; the text starts behind the opening
brace. -/
def readBraced (flags : Flags) : (fuel : Nat) → Text → Option (Text × Text)
  | 0, _ => none
  | fuel + 1, t =>
    match flags.skip t with
    | [] => none
    | c :: r =>
      if c = '}' then some ([], r)
      else (readBraced flags fuel r).map fun part => (c :: part.1, part.2)

/-- Reads the code point of `\x`, `\u` or `\U`; `count` is the number of digits without
braces. -/
def readHex (flags : Flags) (count : Nat) (t : Text) : Option (Primitive × Text) :=
  match flags.skip t with
  | '{' :: r => do
    let (digits, r) ← readBraced flags r.length r
    if digits.isEmpty then none
    else
      let c ← charOfHex? digits
      some (.literal c false, flags.skip r)
  | t => do
    let (digits, r) ← readHexDigits flags count t
    let c ← charOfHex? digits
    some (.literal c (count = 2), r)

/-- Splits a property's name at the sign between a property and its value. The flag tells
whether the sign negates. -/
def splitProperty (name : Text) : PropertyName × Bool :=
  let rec atSign (sign : Text) (before : Text) : Text → Option (Text × Text)
    | [] => none
    | c :: r =>
      match Text.stripStart? sign (c :: r) with
      | some rest => some (before.reverse, rest)
      | none => atSign sign (c :: before) r
  match atSign ['!', '='] [] name with
  | some (p, v) => (.valued p v, true)
  | none =>
    match atSign [':'] [] name <|> atSign ['='] [] name with
    | some (p, v) => (.valued p v, false)
    | none => (.bare name, false)

/-- Reads the property behind `\p` or `\P`. -/
def readProperty (flags : Flags) (negated : Bool) (t : Text) : Option (Primitive × Text) :=
  match flags.skip t with
  | [] => none
  | '{' :: r => do
    let (name, r) ← readBraced flags r.length r
    let (property, differs) := splitProperty name
    let s ← flags.property? property (negated != differs)
    some (.chars s, r)
  | c :: r =>
    if c = '\\' then none
    else (flags.property? (.bare [c]) negated).map fun s => (.chars s, flags.skip r)

/-- A letter or a hyphen, of which the names of word boundaries are made. -/
def isBoundaryLetter (c : Char) : Bool := c.isAlpha || c = '-'

/-- Reads the letters of a word boundary's name, passing over blanks. -/
def readBoundaryName (flags : Flags) : (fuel : Nat) → Text → Text × Text
  | 0, t => ([], t)
  | fuel + 1, t =>
    match t with
    | [] => ([], [])
    | c :: r =>
      if isBoundaryLetter c then
        let part := readBoundaryName flags fuel (flags.skip r)
        (c :: part.1, part.2)
      else ([], c :: r)

/-- Reads what follows `\b`: a name in braces such as `{start}`, or nothing. Braces that
hold no name are left for a repetition. -/
def readBoundary (flags : Flags) (t : Text) : Option (Primitive × Text) :=
  let plain : Primitive := .look (.wordBoundary flags.unicode)
  match t with
  | '{' :: r =>
    match flags.skip r with
    | [] => none
    | c :: s =>
      if isBoundaryLetter c then
        match readBoundaryName flags (s.length + 1) (c :: s) with
        | (name, '}' :: r) =>
          if name = "start".toList then some (.look (.wordStart flags.unicode), r)
          else if name = "end".toList then some (.look (.wordStop flags.unicode), r)
          else if name = "start-half".toList then
            some (.look (.wordStartHalf flags.unicode), r)
          else if name = "end-half".toList then
            some (.look (.wordStopHalf flags.unicode), r)
          else none
        | _ => none
      else some (plain, t)
  | _ => some (plain, t)

/-- Reads an escape behind its backslash. -/
def readEscape (flags : Flags) : Text → Option (Primitive × Text)
  | [] => none
  | c :: r =>
    if c.isDigit then none
    else if c = 'x' then readHex flags 2 r
    else if c = 'u' then readHex flags 4 r
    else if c = 'U' then readHex flags 8 r
    else if c = 'p' || c = 'P' then readProperty flags (c = 'P') r
    else if c.toLower = 'd' || c.toLower = 's' || c.toLower = 'w' then
      (flags.shorthand? c.toLower c.isUpper).map fun s => (.chars s, r)
    else if isEscapable c then some (.literal c false, r)
    else if c = 'a' then some (.literal '\x07' false, r)
    else if c = 'f' then some (.literal '\x0c' false, r)
    else if c = 't' then some (.literal '\t' false, r)
    else if c = 'n' then some (.literal '\n' false, r)
    else if c = 'r' then some (.literal '\r' false, r)
    else if c = 'v' then some (.literal '\x0b' false, r)
    else if c = 'A' then some (.look .start, r)
    else if c = 'z' then some (.look .stop, r)
    else if c = 'b' then readBoundary flags r
    else if c = 'B' then some (.look (.notWordBoundary flags.unicode), r)
    else if c = '<' then some (.look (.wordStart flags.unicode), r)
    else if c = '>' then some (.look (.wordStop flags.unicode), r)
    else none

end SearchLink.Regex
