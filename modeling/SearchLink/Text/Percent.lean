import SearchLink.Text.Basic

/-!
# `SearchLink.Text.Percent`: percent-encoding

`encodeWhere` writes each character of a class as `%XX` for every byte of its
UTF-8 form and copies the rest. `encodeComponent` is the instance for a component of a
URL: it leaves ASCII letters, digits and nine marks.

`decodeBytes` goes back from a text to bytes, and leaves a `%` that is not followed by
two hexadecimal digits as it stands.
-/

set_option autoImplicit false

namespace SearchLink.Text

/-- The upper-case hexadecimal digit of a number below 16. -/
def hexDigit (n : Nat) : Char :=
  if n < 10 then Char.ofNat (48 + n) else Char.ofNat (55 + n)

/-- The value of a hexadecimal digit of either case. -/
def hexValue? (c : Char) : Option Nat :=
  let n := c.toNat
  if 48 ≤ n && n ≤ 57 then some (n - 48)
  else if 65 ≤ n && n ≤ 70 then some (n - 55)
  else if 97 ≤ n && n ≤ 102 then some (n - 87)
  else none

/-- A byte written as `%XX`. -/
def percentByte (b : UInt8) : Text :=
  ['%', hexDigit (b.toNat / 16), hexDigit (b.toNat % 16)]

/-- A character written as `%XX` for each byte of its UTF-8 form. -/
def percentChar (c : Char) : Text := (String.utf8EncodeChar c).flatMap percentByte

/-- Percent-encodes the characters of a class and copies all others. -/
def encodeWhere (escaped : Char → Bool) (t : Text) : Text :=
  t.flatMap fun c => if escaped c then percentChar c else [c]

/-- The characters that need no encoding inside a component of a URL. -/
def isUnreserved (c : Char) : Bool :=
  c.isAlphanum || c = '-' || c = '_' || c = '.' || c = '!' || c = '~' || c = '*' ||
    c = '\x27' || c = '(' || c = ')'

/-- Percent-encodes a text for use as one component of a URL. -/
def encodeComponent (t : Text) : Text := encodeWhere (fun c => !isUnreserved c) t

/-- The bytes a text stands for when each `%XX` in it is read as one byte. -/
def decodeBytes : Text → List UInt8
  | [] => []
  | '%' :: h :: l :: r =>
    match hexValue? h, hexValue? l with
    | some a, some b => UInt8.ofNat (16 * a + b) :: decodeBytes r
    | _, _ => String.utf8EncodeChar '%' ++ decodeBytes (h :: l :: r)
  | c :: r => String.utf8EncodeChar c ++ decodeBytes r

end SearchLink.Text
