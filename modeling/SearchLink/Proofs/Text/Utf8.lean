import SearchLink.Text.Utf8

/-!
# `SearchLink.Proofs.Text.Utf8`: reading back what was written

The reader of bytes is a machine: a first byte says how many more are owed and where the next
one may lie, and each further byte adds six bits. `charactersFrom_utf8EncodeChar` runs it over
the form of one character, which has one to four bytes. Of the forms with three and four bytes
some first bytes leave the second one less room, and no character needs more: a longer form is never
written, and code points of surrogates are no characters.

So `ofUtf8` is a left inverse of `utf8` (`ofUtf8_utf8`).
-/

set_option autoImplicit false

namespace SearchLink.Text

/-! ### One byte -/

section
variable {b : UInt8} {u : Unfinished} {bytes : List UInt8}

/-- A byte that is a character of its own. -/
theorem charactersFrom_whole {c : Char} (h : Start.ofByte b = .whole c) :
    charactersFrom none (b :: bytes) = some c :: charactersFrom none bytes := by
  simp [charactersFrom, h]

/-- A byte that begins a longer character. -/
theorem charactersFrom_more (h : Start.ofByte b = .more u) :
    charactersFrom none (b :: bytes) = charactersFrom (some u) bytes := by
  simp [charactersFrom, h]

/-- A byte that goes on. -/
theorem charactersFrom_next {owed : Nat} (howed : u.owed = owed + 1) (hlow : u.low ≤ b.toNat)
    (hhigh : b.toNat ≤ u.high) :
    charactersFrom (some u) (b :: bytes)
      = charactersFrom (some ⟨u.value * 64 + (b.toNat - 0x80), owed, 0x80, 0xBF⟩) bytes := by
  simp [charactersFrom, howed, hlow, hhigh]

/-- A byte that completes a character. -/
theorem charactersFrom_last (howed : u.owed = 0) (hlow : u.low ≤ b.toNat)
    (hhigh : b.toNat ≤ u.high) :
    charactersFrom (some u) (b :: bytes)
      = some (Char.ofNat (u.value * 64 + (b.toNat - 0x80))) :: charactersFrom none bytes := by
  simp [charactersFrom, howed, hlow, hhigh]

end

/-! ### The first byte -/

section
variable {b : UInt8}

/-- The first of two bytes. -/
theorem ofByte_of_two (hlow : 0xC2 ≤ b.toNat) (hhigh : b.toNat ≤ 0xDF) :
    Start.ofByte b = .more ⟨b.toNat - 0xC0, 0, 0x80, 0xBF⟩ := by
  simp only [Start.ofByte, Bool.and_eq_true, decide_eq_true_eq]
  rw [if_neg (by omega), if_pos ⟨hlow, hhigh⟩]

/-- The first of three bytes. -/
theorem ofByte_of_three (hlow : 0xE0 ≤ b.toNat) (hhigh : b.toNat ≤ 0xEF) :
    Start.ofByte b = .more ⟨b.toNat - 0xE0, 1, if b.toNat = 0xE0 then 0xA0 else 0x80,
      if b.toNat = 0xED then 0x9F else 0xBF⟩ := by
  simp only [Start.ofByte, Bool.and_eq_true, decide_eq_true_eq]
  rw [if_neg (by omega), if_neg (by omega)]
  by_cases h₀ : b.toNat = 0xE0
  · simp [h₀]
  · by_cases h₁ : b.toNat = 0xED
    · simp [h₁]
    · rw [if_neg h₀, if_neg h₁, if_pos ⟨by omega, hhigh⟩, if_neg h₀, if_neg h₁]

/-- The first of four bytes. -/
theorem ofByte_of_four (hlow : 0xF0 ≤ b.toNat) (hhigh : b.toNat ≤ 0xF4) :
    Start.ofByte b = .more ⟨b.toNat - 0xF0, 2, if b.toNat = 0xF0 then 0x90 else 0x80,
      if b.toNat = 0xF4 then 0x8F else 0xBF⟩ := by
  simp only [Start.ofByte, Bool.and_eq_true, decide_eq_true_eq]
  rw [if_neg (by omega), if_neg (by omega), if_neg (by omega), if_neg (by omega),
    if_neg (by omega)]
  by_cases h₀ : b.toNat = 0xF0
  · simp [h₀]
  · by_cases h₁ : b.toNat = 0xF4
    · simp [h₁]
    · rw [if_neg h₀, if_neg h₁, if_pos ⟨by omega, by omega⟩, if_neg h₀, if_neg h₁]

end

/-! ### One character -/

/-- A byte behind the first one holds six bits of the code point. -/
theorem toNat_laterByte (n : Nat) : (UInt8.ofNat (n % 64 + 128)).toNat = n % 64 + 0x80 := by
  rw [UInt8.toNat_ofNat']
  omega

section
variable {v : Nat} (bytes : List UInt8)

/-- Two bytes are read as the code point that they are made of. -/
theorem charactersFrom_two (hlow : 0x80 ≤ v) (hhigh : v ≤ 0x7FF) :
    charactersFrom none (UInt8.ofNat (v / 64 % 32 + 192) :: UInt8.ofNat (v % 64 + 128) :: bytes)
      = some (Char.ofNat v) :: charactersFrom none bytes := by
  have h₀ : (UInt8.ofNat (v / 64 % 32 + 192)).toNat = v / 64 + 0xC0 := by
    rw [UInt8.toNat_ofNat']
    omega
  have h₁ := toNat_laterByte v
  rw [charactersFrom_more (ofByte_of_two (by omega) (by omega)),
    charactersFrom_last rfl (by rw [h₁]; dsimp only; omega) (by rw [h₁]; dsimp only; omega)]
  have hvalue : (v / 64 + 0xC0 - 0xC0) * 64 + (v % 64 + 0x80 - 0x80) = v := by omega
  simp only [h₀, h₁, hvalue]

/-- Three bytes are read as the code point that they are made of. -/
theorem charactersFrom_three (hlow : 0x800 ≤ v) (hhigh : v ≤ 0xFFFF)
    (hvalid : v < 0xD800 ∨ 0xDFFF < v) :
    charactersFrom none (UInt8.ofNat (v / 4096 % 16 + 224) :: UInt8.ofNat (v / 64 % 64 + 128) ::
        UInt8.ofNat (v % 64 + 128) :: bytes)
      = some (Char.ofNat v) :: charactersFrom none bytes := by
  have h₀ : (UInt8.ofNat (v / 4096 % 16 + 224)).toNat = v / 4096 + 0xE0 := by
    rw [UInt8.toNat_ofNat']
    omega
  have h₁ := toNat_laterByte (v / 64)
  have h₂ := toNat_laterByte v
  -- After 0xE0 a shorter form would do, after 0xED a surrogate would come.
  have hsecond : (if v / 4096 + 0xE0 = 0xE0 then 0xA0 else 0x80)
        ≤ (UInt8.ofNat (v / 64 % 64 + 128)).toNat ∧
      (UInt8.ofNat (v / 64 % 64 + 128)).toNat
        ≤ (if v / 4096 + 0xE0 = 0xED then 0x9F else 0xBF) := by
    rw [h₁]
    constructor <;> split <;> omega
  rw [charactersFrom_more (ofByte_of_three (by omega) (by omega)), h₀,
    charactersFrom_next rfl hsecond.1 hsecond.2, h₁,
    charactersFrom_last rfl (by rw [h₂]; dsimp only; omega) (by rw [h₂]; dsimp only; omega), h₂]
  have hvalue : ((v / 4096 + 0xE0 - 0xE0) * 64 + (v / 64 % 64 + 0x80 - 0x80)) * 64
      + (v % 64 + 0x80 - 0x80) = v := by omega
  simp only [hvalue]

/-- Four bytes are read as the code point that they are made of. -/
theorem charactersFrom_four (hlow : 0x10000 ≤ v) (hhigh : v < 0x110000) :
    charactersFrom none (UInt8.ofNat (v / 262144 % 8 + 240) ::
        UInt8.ofNat (v / 4096 % 64 + 128) :: UInt8.ofNat (v / 64 % 64 + 128) ::
        UInt8.ofNat (v % 64 + 128) :: bytes)
      = some (Char.ofNat v) :: charactersFrom none bytes := by
  have h₀ : (UInt8.ofNat (v / 262144 % 8 + 240)).toNat = v / 262144 + 0xF0 := by
    rw [UInt8.toNat_ofNat']
    omega
  have h₁ := toNat_laterByte (v / 4096)
  have h₂ := toNat_laterByte (v / 64)
  have h₃ := toNat_laterByte v
  -- After 0xF0 a shorter form would do, after 0xF4 the code points end.
  have hsecond : (if v / 262144 + 0xF0 = 0xF0 then 0x90 else 0x80)
        ≤ (UInt8.ofNat (v / 4096 % 64 + 128)).toNat ∧
      (UInt8.ofNat (v / 4096 % 64 + 128)).toNat
        ≤ (if v / 262144 + 0xF0 = 0xF4 then 0x8F else 0xBF) := by
    rw [h₁]
    constructor <;> split <;> omega
  rw [charactersFrom_more (ofByte_of_four (by omega) (by omega)), h₀,
    charactersFrom_next rfl hsecond.1 hsecond.2, h₁,
    charactersFrom_next rfl (by rw [h₂]; dsimp only; omega) (by rw [h₂]; dsimp only; omega), h₂,
    charactersFrom_last rfl (by rw [h₃]; dsimp only; omega) (by rw [h₃]; dsimp only; omega), h₃]
  have hvalue : (((v / 262144 + 0xF0 - 0xF0) * 64 + (v / 4096 % 64 + 0x80 - 0x80)) * 64
      + (v / 64 % 64 + 0x80 - 0x80)) * 64 + (v % 64 + 0x80 - 0x80) = v := by omega
  simp only [hvalue]

end

/-- The form of a character is read as that character. -/
theorem charactersFrom_utf8EncodeChar (c : Char) (bytes : List UInt8) :
    charactersFrom none (String.utf8EncodeChar c ++ bytes)
      = some c :: charactersFrom none bytes := by
  have hvalid : c.toNat < 0xD800 ∨ (0xDFFF < c.toNat ∧ c.toNat < 0x110000) := c.valid
  have hchar : Char.ofNat c.toNat = c := Char.ofNat_toNat c
  have hcode : c.val.toNat = c.toNat := rfl
  simp only [String.utf8EncodeChar, hcode]
  split
  · rename_i hascii
    have hbyte : (UInt8.ofNat c.toNat).toNat = c.toNat :=
      UInt8.toNat_ofNat_of_lt' (Nat.lt_of_le_of_lt hascii (by decide))
    refine charactersFrom_whole ?_
    rw [Start.ofByte, hbyte, if_pos (by omega), hchar]
  · split
    · exact (charactersFrom_two bytes (by omega) (by omega)).trans (by rw [hchar])
    · split
      · exact (charactersFrom_three bytes (by omega) (by omega) (by omega)).trans (by rw [hchar])
      · exact (charactersFrom_four bytes (by omega) (by omega)).trans (by rw [hchar])

/-! ### Texts -/

/-- The bytes of a text are read as its characters. -/
theorem characters_utf8 (t : Text) : characters (utf8 t) = t.map some := by
  induction t with
  | nil => rfl
  | cons c t ih =>
    rw [utf8, List.flatMap_cons, characters, charactersFrom_utf8EncodeChar, List.map_cons, ← ih]
    rfl

/-- Reading the bytes of a text gives the text. -/
theorem ofUtf8_utf8 (t : Text) : ofUtf8 (utf8 t) = t := by
  rw [ofUtf8, characters_utf8, List.map_map]
  exact List.map_id'' (fun _ => rfl) t

end SearchLink.Text
