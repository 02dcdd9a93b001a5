import SearchLink.Text.Decimal
import SearchLink.Text.Percent

/-!
# `SearchLink.Http.Json`: JSON values as text

Values are written without blanks, and the entries of an object in the order in which they are
given. Of the characters in a text only the quote, the backslash and the control characters
below the blank are escaped.
-/

set_option autoImplicit false

namespace SearchLink.Http

/-- A JSON value. -/
inductive Json where
  /-- No value. -/
  | null
  /-- A truth value. -/
  | bool (b : Bool)
  /-- An integer. -/
  | integer (i : Int)
  /-- A text. -/
  | text (t : Text)
  /-- Values in order. -/
  | array (items : List Json)
  /-- Values under names, in order. -/
  | object (entries : List (Text × Json))

namespace Json

/-- A value that may be missing. -/
def option {α : Type} (f : α → Json) : Option α → Json
  | some a => f a
  | none => .null

/-- The lower-case hexadecimal digit of a number below 16. -/
def lowerHexDigit (n : Nat) : Char := (Text.hexDigit n).toLower

/-- A character as it stands in a text. -/
def writeChar (c : Char) : Text :=
  match c with
  | '"' => ['\\', '"']
  | '\\' => ['\\', '\\']
  | '\x08' => ['\\', 'b']
  | '\t' => ['\\', 't']
  | '\n' => ['\\', 'n']
  | '\x0c' => ['\\', 'f']
  | '\r' => ['\\', 'r']
  | c =>
    if c.toNat < 0x20 then
      ['\\', 'u', '0', '0', lowerHexDigit (c.toNat / 16), lowerHexDigit (c.toNat % 16)]
    else [c]

/-- A text between quotes. -/
def writeText (t : Text) : Text := '"' :: t.flatMap writeChar ++ ['"']

mutual

/-- A value as text. -/
def write : Json → Text
  | .null => "null".toList
  | .bool b => (if b then "true" else "false").toList
  | .integer i => Text.ofInteger i
  | .text t => writeText t
  | .array [] => ['[', ']']
  | .array (j :: r) => '[' :: write j ++ writeItems r
  | .object [] => ['\x7b', '\x7d']
  | .object (e :: r) => '\x7b' :: writeEntry e ++ writeEntries r

/-- What follows an item of an array. -/
def writeItems : List Json → Text
  | [] => [']']
  | j :: r => ',' :: write j ++ writeItems r

/-- An entry of an object. -/
def writeEntry : Text × Json → Text
  | (name, value) => writeText name ++ ':' :: write value

/-- What follows an entry of an object. -/
def writeEntries : List (Text × Json) → Text
  | [] => ['\x7d']
  | e :: r => ',' :: writeEntry e ++ writeEntries r

end

end Json

end SearchLink.Http
