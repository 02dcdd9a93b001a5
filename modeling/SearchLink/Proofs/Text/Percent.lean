import SearchLink.Text.Percent

/-!
# `SearchLink.Proofs.Text.Percent`: what percent-encoding writes

An encoder copies the characters outside its class and writes `%XX` for the bytes of all
others.

* `mem_encodeWhere` and `mem_encodeComponent`: which characters the result is made of.
* `encodeWhere_eq_self_iff`: only a text without characters of the class is copied as a whole, since
  an escape is longer than its character.
* `decodeBytes_encodeComponent`: an encoder that escapes the percent sign is undone by the
  decoder.
* `decodeBytes_encodeWhere`: one that copies percent signs and hexadecimal digits changes
  nothing for the decoder. No escape that it writes can complete a `%` that stands in the text.
-/

set_option autoImplicit false

namespace SearchLink.Text

/-! ### Hexadecimal digits -/

/-- What is written for a number below 16 is a letter or a digit. -/
theorem isAlphanum_hexDigit : ∀ {n : Nat}, n < 16 → (hexDigit n).isAlphanum = true := by
  decide

/-- The digit of a number below 16 is read as that number. -/
theorem hexValue?_hexDigit : ∀ {n : Nat}, n < 16 → hexValue? (hexDigit n) = some n := by
  decide

/-- The code points of ASCII capitals. -/
theorem isUpper_iff_toNat {c : Char} : c.isUpper = true ↔ 65 ≤ c.toNat ∧ c.toNat ≤ 90 :=
  decide_eq_true_iff

/-- The code points of small letters of ASCII. -/
theorem isLower_iff_toNat {c : Char} : c.isLower = true ↔ 97 ≤ c.toNat ∧ c.toNat ≤ 122 := by
  change (decide (c.val ≥ 'a'.val) && decide (c.val ≤ 'z'.val)) = true ↔ _
  rw [Bool.and_eq_true, decide_eq_true_eq, decide_eq_true_eq]
  exact Iff.rfl

/-- The code points of ASCII letters and digits. -/
theorem isAlphanum_iff_toNat {c : Char} :
    c.isAlphanum = true ↔
      (65 ≤ c.toNat ∧ c.toNat ≤ 90) ∨ (97 ≤ c.toNat ∧ c.toNat ≤ 122) ∨
        (48 ≤ c.toNat ∧ c.toNat ≤ 57) := by
  have hdigit : c.isDigit = true ↔ 48 ≤ c.toNat ∧ c.toNat ≤ 57 := Char.isDigit_iff_toNat
  change (c.isUpper || c.isLower || c.isDigit) = true ↔ _
  rw [Bool.or_eq_true, Bool.or_eq_true, isUpper_iff_toNat, isLower_iff_toNat, hdigit, or_assoc]

theorem toNat_of_isAlphanum {c : Char} (h : c.isAlphanum = true) :
    48 ≤ c.toNat ∧ c.toNat ≤ 122 := by
  have := isAlphanum_iff_toNat.1 h
  omega

/-! ### The characters that are written -/

section
variable {escaped : Char → Bool} {t : Text} {c : Char}

/-- A byte is written with a percent sign and digits. -/
theorem mem_percentByte {b : UInt8} (h : c ∈ percentByte b) : c = '%' ∨ c.isAlphanum = true := by
  have hb : b.toNat < 256 := b.toNat_lt
  simp only [percentByte, List.mem_cons, List.not_mem_nil, or_false] at h
  rcases h with rfl | rfl | rfl
  · exact .inl rfl
  · exact .inr (isAlphanum_hexDigit (by omega))
  · exact .inr (isAlphanum_hexDigit (by omega))

/-- For a character of its class an encoder writes the escape. -/
theorem encodeWhere_cons_of_escaped (hc : escaped c = true) (t : Text) :
    encodeWhere escaped (c :: t) = percentChar c ++ encodeWhere escaped t := by
  simp [encodeWhere, hc]

/-- Any other character it copies. -/
theorem encodeWhere_cons_of_not_escaped (hc : escaped c = false) (t : Text) :
    encodeWhere escaped (c :: t) = c :: encodeWhere escaped t := by
  simp [encodeWhere, hc]

/-- What an encoder writes is copied, or belongs to an escape. -/
theorem mem_encodeWhere (h : c ∈ encodeWhere escaped t) :
    (c ∈ t ∧ escaped c = false) ∨ c = '%' ∨ c.isAlphanum = true := by
  obtain ⟨d, hd, hc⟩ := List.mem_flatMap.1 h
  split at hc
  · obtain ⟨b, -, hb⟩ := List.mem_flatMap.1 hc
    exact .inr (mem_percentByte hb)
  · rename_i hcopied
    obtain rfl := List.mem_singleton.1 hc
    exact .inl ⟨hd, Bool.not_eq_true _ ▸ hcopied⟩

/-- A mark of the class is not written, unless escapes are made of it. -/
theorem notMem_encodeWhere (hescaped : escaped c = true)
    (hmark : (c = '%' || c.isAlphanum) = false) : c ∉ encodeWhere escaped t := by
  intro h
  rw [Bool.or_eq_false_iff, decide_eq_false_iff_not] at hmark
  rcases mem_encodeWhere h with ⟨-, hcopied⟩ | hpercent | halnum
  · rw [hescaped] at hcopied
    simp at hcopied
  · exact hmark.1 hpercent
  · rw [hmark.2] at halnum
    simp at halnum

/-- An encoder goes through a text piece by piece. -/
theorem encodeWhere_append (escaped : Char → Bool) (s t : Text) :
    encodeWhere escaped (s ++ t) = encodeWhere escaped s ++ encodeWhere escaped t :=
  List.flatMap_append

/-- The escape for a character begins with a percent sign. -/
theorem exists_percentChar_eq (c : Char) : ∃ r, percentChar c = '%' :: r := by
  cases hc : String.utf8EncodeChar c with
  | nil => exact absurd hc String.utf8EncodeChar_ne_nil
  | cons b bytes => exact ⟨_, by rw [percentChar, hc, List.flatMap_cons]; rfl⟩

/-- Digits stand behind the percent sign. -/
theorem two_le_length_percentChar (c : Char) : 2 ≤ (percentChar c).length := by
  cases hc : String.utf8EncodeChar c with
  | nil => exact absurd hc String.utf8EncodeChar_ne_nil
  | cons b bytes =>
    rw [percentChar, hc, List.flatMap_cons, List.length_append, percentByte]
    simp only [List.length_cons]
    omega

/-- What is written is not shorter than the text. -/
theorem length_le_length_encodeWhere (escaped : Char → Bool) (t : Text) :
    t.length ≤ (encodeWhere escaped t).length := by
  induction t with
  | nil => exact Nat.le_refl _
  | cons c t ih =>
    cases hc : escaped c with
    | true =>
      have hescape := two_le_length_percentChar c
      rw [encodeWhere_cons_of_escaped hc, List.length_append, List.length_cons]
      omega
    | false =>
      rw [encodeWhere_cons_of_not_escaped hc]
      exact Nat.succ_le_succ ih

/-- A text without characters of the class is copied. -/
theorem encodeWhere_eq_self (h : ∀ c ∈ t, escaped c = false) : encodeWhere escaped t = t := by
  induction t with
  | nil => rfl
  | cons c t ih =>
    obtain ⟨hc, ht⟩ := List.forall_mem_cons.1 h
    rw [encodeWhere_cons_of_not_escaped hc, ih ht]

/-- Only such a text stays as it is. -/
theorem encodeWhere_eq_self_iff :
    encodeWhere escaped t = t ↔ ∀ c ∈ t, escaped c = false := by
  refine ⟨fun h => ?_, encodeWhere_eq_self⟩
  induction t with
  | nil => exact fun c hc => absurd hc List.not_mem_nil
  | cons c t ih =>
    cases hc : escaped c with
    | true =>
      -- Every character takes up room, and an escape takes up more than one.
      have hlength := congrArg List.length h
      have hescape := two_le_length_percentChar c
      have hrest := length_le_length_encodeWhere escaped t
      rw [encodeWhere_cons_of_escaped hc, List.length_append, List.length_cons] at hlength
      omega
    | false =>
      rw [encodeWhere_cons_of_not_escaped hc] at h
      exact List.forall_mem_cons.2 ⟨hc, ih (List.cons.inj h).2⟩

/-- The characters of an encoded component: those that need no encoding, and the percent
sign. -/
def isComponentChar (c : Char) : Bool := isUnreserved c || c = '%'

/-- An encoded component is made of these characters. -/
theorem mem_encodeComponent (h : c ∈ encodeComponent t) : isComponentChar c = true := by
  rcases mem_encodeWhere h with ⟨-, hcopied⟩ | rfl | halnum
  · have hunreserved : isUnreserved c = true := by simpa using hcopied
    simp [isComponentChar, hunreserved]
  · decide
  · simp [isComponentChar, isUnreserved, halnum]

/-- None of them is a plus sign, so an encoded component reads the same where a plus sign stands
for a blank. -/
theorem map_plus_encodeComponent (t : Text) :
    (encodeComponent t).map (fun c => if c = '+' then ' ' else c) = encodeComponent t := by
  refine (List.map_congr_left fun c hc => if_neg ?_).trans (List.map_id _)
  rintro rfl
  exact absurd (mem_encodeComponent hc) (by decide)

end

/-! ### Decoding -/

/-- Reads a hexadecimal digit at the start of a text. -/
def readHexDigit? : Text → Option (Nat × Text)
  | [] => none
  | c :: r => (hexValue? c).map fun a => (a, r)

/-- Reads two hexadecimal digits at the start of a text as a byte. -/
def readHexPair? (t : Text) : Option (UInt8 × Text) :=
  (readHexDigit? t).bind fun high =>
    (readHexDigit? high.2).map fun low => (UInt8.ofNat (16 * high.1 + low.1), low.2)

/-- A percent sign in front of two digits stands for their byte, any other for itself. -/
theorem decodeBytes_percent (t : Text) :
    decodeBytes ('%' :: t)
      = match readHexPair? t with
        | some (b, r) => b :: decodeBytes r
        | none => String.utf8EncodeChar '%' ++ decodeBytes t := by
  match t with
  | [] => simp [decodeBytes, readHexPair?, readHexDigit?]
  | [h] => cases hh : hexValue? h <;> simp [decodeBytes, readHexPair?, readHexDigit?, hh]
  | h :: l :: r =>
    rw [decodeBytes]
    cases hh : hexValue? h with
    | none => simp [readHexPair?, readHexDigit?, hh]
    | some a => cases hl : hexValue? l <;> simp [readHexPair?, readHexDigit?, hh, hl]

/-- Any other character stands for itself. -/
theorem decodeBytes_cons {c : Char} (hc : c ≠ '%') (t : Text) :
    decodeBytes (c :: t) = String.utf8EncodeChar c ++ decodeBytes t := by
  rw [decodeBytes.eq_def]
  split
  · rename_i heq
    simp at heq
  · rename_i heq
    exact absurd (List.cons.inj heq).1 hc
  · rename_i heq
    obtain ⟨rfl, rfl⟩ := List.cons.inj heq
    rfl

/-- Written bytes are read back. -/
theorem decodeBytes_flatMap_percentByte (bytes : List UInt8) (t : Text) :
    decodeBytes (bytes.flatMap percentByte ++ t) = bytes ++ decodeBytes t := by
  induction bytes with
  | nil => rfl
  | cons b bytes ih =>
    have hb : b.toNat < 256 := b.toNat_lt
    have hpair : readHexPair? (hexDigit (b.toNat / 16) :: hexDigit (b.toNat % 16) ::
        (bytes.flatMap percentByte ++ t)) = some (b, bytes.flatMap percentByte ++ t) := by
      have hsum : 16 * (b.toNat / 16) + b.toNat % 16 = b.toNat := Nat.div_add_mod _ _
      simp only [readHexPair?, readHexDigit?, hexValue?_hexDigit (show b.toNat / 16 < 16 by omega),
        hexValue?_hexDigit (show b.toNat % 16 < 16 by omega), Option.map_some, Option.bind_some,
        hsum, UInt8.ofNat_toNat]
    rw [List.flatMap_cons, List.append_assoc, percentByte]
    simp only [List.cons_append, List.nil_append]
    rw [decodeBytes_percent, hpair]
    simp only [ih]

/-- A character that is written in escapes is read back as its bytes. -/
theorem decodeBytes_percentChar (c : Char) (t : Text) :
    decodeBytes (percentChar c ++ t) = String.utf8EncodeChar c ++ decodeBytes t :=
  decodeBytes_flatMap_percentByte _ t

section
variable {escaped : Char → Bool}

/-- An encoder that escapes the percent sign is undone by the decoder. -/
theorem decodeBytes_encodeWhere_of_percent (hpercent : escaped '%' = true) (t : Text) :
    decodeBytes (encodeWhere escaped t) = t.flatMap String.utf8EncodeChar := by
  induction t with
  | nil => rfl
  | cons c t ih =>
    rw [List.flatMap_cons, ← ih]
    cases hc : escaped c with
    | true => rw [encodeWhere_cons_of_escaped hc, decodeBytes_percentChar]
    | false =>
      have hne : c ≠ '%' := by
        rintro rfl
        rw [hpercent] at hc
        simp at hc
      rw [encodeWhere_cons_of_not_escaped hc, decodeBytes_cons hne]

/-- An encoded component is decoded to the bytes of the text. -/
theorem decodeBytes_encodeComponent (t : Text) :
    decodeBytes (encodeComponent t) = t.flatMap String.utf8EncodeChar :=
  decodeBytes_encodeWhere_of_percent (by decide) t

/-- An encoder that copies hexadecimal digits leaves one at the start where it is, and puts
none there. -/
theorem readHexDigit?_encodeWhere (hdigits : ∀ c, (hexValue? c).isSome → escaped c = false)
    (t : Text) :
    readHexDigit? (encodeWhere escaped t)
      = (readHexDigit? t).map fun digit => (digit.1, encodeWhere escaped digit.2) := by
  cases t with
  | nil => rfl
  | cons c t =>
    cases hc : escaped c with
    | true =>
      -- The escape begins with a percent sign, and `c` is no digit either.
      obtain ⟨r, hr⟩ := exists_percentChar_eq c
      have hpercent : hexValue? '%' = none := rfl
      have hnone : hexValue? c = none := by
        rw [← Option.not_isSome_iff_eq_none]
        intro hsome
        rw [hdigits c hsome] at hc
        simp at hc
      rw [encodeWhere_cons_of_escaped hc, hr]
      simp [readHexDigit?, hpercent, hnone]
    | false =>
      rw [encodeWhere_cons_of_not_escaped hc, readHexDigit?, readHexDigit?]
      cases hexValue? c <;> rfl

/-- The same holds of two digits. -/
theorem readHexPair?_encodeWhere (hdigits : ∀ c, (hexValue? c).isSome → escaped c = false)
    (t : Text) :
    readHexPair? (encodeWhere escaped t)
      = (readHexPair? t).map fun pair => (pair.1, encodeWhere escaped pair.2) := by
  rw [readHexPair?, readHexPair?, readHexDigit?_encodeWhere hdigits]
  cases readHexDigit? t with
  | none => rfl
  | some high =>
    simp only [Option.map_some, Option.bind_some, readHexDigit?_encodeWhere hdigits]
    cases readHexDigit? high.2 <;> rfl

/-- Two digits take up text. -/
theorem readHexPair?_length {t r : Text} {b : UInt8} (h : readHexPair? t = some (b, r)) :
    r.length < t.length := by
  match t with
  | [] => simp [readHexPair?, readHexDigit?] at h
  | [c] => cases hc : hexValue? c <;> simp [readHexPair?, readHexDigit?, hc] at h
  | c :: d :: t =>
    cases hc : hexValue? c <;> cases hd : hexValue? d <;>
      simp [readHexPair?, readHexDigit?, hc, hd] at h
    obtain ⟨-, rfl⟩ := h
    simp only [List.length_cons]
    omega

/-- An encoder that copies percent signs and hexadecimal digits changes nothing for the
decoder. -/
theorem decodeBytes_encodeWhere (hpercent : escaped '%' = false)
    (hdigits : ∀ c, (hexValue? c).isSome → escaped c = false) (t : Text) :
    decodeBytes (encodeWhere escaped t) = decodeBytes t := by
  induction hn : t.length using Nat.strongRecOn generalizing t with
  | _ n ih =>
    subst hn
    cases t with
    | nil => rfl
    | cons c t =>
      have htail := ih t.length (Nat.lt_succ_self _) t rfl
      by_cases hc : c = '%'
      · subst hc
        rw [encodeWhere_cons_of_not_escaped hpercent, decodeBytes_percent, decodeBytes_percent,
          readHexPair?_encodeWhere hdigits]
        cases hpair : readHexPair? t with
        | none => simp only [Option.map_none, htail]
        | some pair =>
          have hlen := readHexPair?_length hpair
          have hrest := ih pair.2.length (Nat.lt_succ_of_lt hlen) pair.2 rfl
          simp only [Option.map_some, hrest]
      · rw [decodeBytes_cons hc]
        cases hescaped : escaped c with
        | true => rw [encodeWhere_cons_of_escaped hescaped, decodeBytes_percentChar, htail]
        | false =>
          rw [encodeWhere_cons_of_not_escaped hescaped, decodeBytes_cons hc, htail]

end

end SearchLink.Text
