import SearchLink.Text.Basic

/-!
# `SearchLink.Text.Utf8`: texts as bytes

`utf8` writes a text as bytes. `characters` reads bytes, one entry for each character and
one `none` for each piece that is no character: a byte that begins none, or the longest
beginning of a character that does not go on. `ofUtf8?` wants every piece to be a character;
`ofUtf8` puts the replacement character for each that is not.
-/

set_option autoImplicit false

namespace SearchLink.Text

/-- The bytes of the UTF-8 form of a text. -/
def utf8 (t : Text) : List UInt8 := t.flatMap String.utf8EncodeChar

/-- A character of which some bytes have been read. -/
structure Unfinished where
  /-- The bits read so far. -/
  value : Nat
  /-- How many bytes are owed after the next one. -/
  owed : Nat
  /-- The smallest byte that may come next. -/
  low : Nat
  /-- The largest byte that may come next. -/
  high : Nat
  deriving Repr, DecidableEq

/-- What a byte begins. -/
inductive Start where
  /-- It is a character of its own. -/
  | whole (c : Char)
  /-- It is the first byte of a longer character. -/
  | more (u : Unfinished)
  /-- It begins no character. -/
  | stray
  deriving Repr, DecidableEq

/-- What a byte begins. Of the longer characters the second byte is bounded so that there is
one form for each, none is a surrogate, and none lies beyond the last code point. -/
def Start.ofByte (b : UInt8) : Start :=
  let n := b.toNat
  if n < 0x80 then .whole (Char.ofNat n)
  else if 0xC2 ≤ n && n ≤ 0xDF then .more ⟨n - 0xC0, 0, 0x80, 0xBF⟩
  else if n = 0xE0 then .more ⟨0, 1, 0xA0, 0xBF⟩
  else if n = 0xED then .more ⟨0xD, 1, 0x80, 0x9F⟩
  else if 0xE1 ≤ n && n ≤ 0xEF then .more ⟨n - 0xE0, 1, 0x80, 0xBF⟩
  else if n = 0xF0 then .more ⟨0, 2, 0x90, 0xBF⟩
  else if n = 0xF4 then .more ⟨4, 2, 0x80, 0x8F⟩
  else if 0xF1 ≤ n && n ≤ 0xF3 then .more ⟨n - 0xF0, 2, 0x80, 0xBF⟩
  else .stray

/-- Reads bytes, after the beginning of a character if there is one. -/
def charactersFrom : Option Unfinished → List UInt8 → List (Option Char)
  | none, [] => []
  | some _, [] => [none]
  | unfinished, b :: bs =>
    let fresh (before : List (Option Char)) : List (Option Char) :=
      match Start.ofByte b with
      | .whole c => before ++ some c :: charactersFrom none bs
      | .more u => before ++ charactersFrom (some u) bs
      | .stray => before ++ none :: charactersFrom none bs
    match unfinished with
    | none => fresh []
    | some u =>
      if u.low ≤ b.toNat && b.toNat ≤ u.high then
        let value := u.value * 64 + (b.toNat - 0x80)
        match u.owed with
        | 0 => some (Char.ofNat value) :: charactersFrom none bs
        | owed + 1 => charactersFrom (some ⟨value, owed, 0x80, 0xBF⟩) bs
      else fresh [none]

/-- The characters that bytes stand for, and `none` for each piece that is no character. -/
def characters (bytes : List UInt8) : List (Option Char) := charactersFrom none bytes

/-- The text that bytes stand for, if all of them are UTF-8. -/
def ofUtf8? (bytes : List UInt8) : Option Text := (characters bytes).mapM id

/-- The text that bytes stand for, with U+FFFD for each piece that is not UTF-8. -/
def ofUtf8 (bytes : List UInt8) : Text := (characters bytes).map (·.getD '\uFFFD')

end SearchLink.Text
