import Mathlib.Logic.Function.Basic
import SearchLink.Proofs.Text.Percent
import SearchLink.Proofs.Text.Utf8

/-!
# `SearchLink.Proofs.Text.Component`: a component of a URL keeps its text

`ComponentText` is the form of what is written for a component of a URL: characters that need no
encoding, and bytes in escapes of two capital digits. `isUnreserved_iff` lists these characters
one by one, and `componentText_encodeComponent` says that the encoder writes nothing else.

A component is written character by character and read back as the bytes of its text, so no two
texts are written alike (`encodeComponent_injective`). `encodeComponent_lossless` puts this
together.
-/

set_option autoImplicit false

namespace SearchLink.Text

/-! ### What a component is made of -/

/-- The characters that stand for themselves in a component. -/
def unreservedCharacters : Text :=
  "ABCDEFGHIJKLMNOPQRSTUVWXYZabcdefghijklmnopqrstuvwxyz0123456789-_.!~*\x27()".toList

/-- The digits of an escape. -/
def escapeDigits : Text := "0123456789ABCDEF".toList

/-- The form of a component of a URL. -/
inductive ComponentText : Text → Prop
  /-- Nothing at all. -/
  | nil : ComponentText []
  /-- A character that stands for itself. -/
  | copied {c : Char} {t : Text} (hc : c ∈ unreservedCharacters) (ht : ComponentText t) :
    ComponentText (c :: t)
  /-- A percent sign and two digits. -/
  | escaped {high low : Char} {t : Text} (hhigh : high ∈ escapeDigits) (hlow : low ∈ escapeDigits)
    (ht : ComponentText t) : ComponentText ('%' :: high :: low :: t)

/-- A number below 16 is written with such a digit. -/
theorem hexDigit_mem_escapeDigits : ∀ {n : Nat}, n < 16 → hexDigit n ∈ escapeDigits := by
  decide

/-- All unreserved characters belong to ASCII. -/
theorem toNat_lt_of_isUnreserved {c : Char} (h : isUnreserved c = true) : c.toNat < 128 := by
  simp only [isUnreserved, Bool.or_eq_true, decide_eq_true_eq] at h
  rcases h with ((((((((h | h) | h) | h) | h) | h) | h) | h) | h) | h
  · have := toNat_of_isAlphanum h
    omega
  all_goals
    subst h
    decide

/-- The unreserved characters, one by one. -/
theorem isUnreserved_iff {c : Char} : isUnreserved c = true ↔ c ∈ unreservedCharacters := by
  have hlisted : ∀ n < 128,
      isUnreserved (Char.ofNat n) = true → Char.ofNat n ∈ unreservedCharacters := by
    decide +kernel
  have hunreserved : unreservedCharacters.all isUnreserved = true := by decide +kernel
  constructor
  · intro h
    have hc := hlisted c.toNat (toNat_lt_of_isUnreserved h)
    rw [Char.ofNat_toNat] at hc
    exact hc h
  · exact List.all_eq_true.1 hunreserved c

/-- Bytes in escapes may stand in front of a component. -/
theorem ComponentText.append_bytes (bytes : List UInt8) {t : Text} (ht : ComponentText t) :
    ComponentText (bytes.flatMap percentByte ++ t) := by
  induction bytes with
  | nil => exact ht
  | cons b bytes ih =>
    have hb : b.toNat < 256 := b.toNat_lt
    exact .escaped (hexDigit_mem_escapeDigits (by omega)) (hexDigit_mem_escapeDigits (by omega)) ih

/-- What is written for a component has its form. -/
theorem componentText_encodeComponent (t : Text) : ComponentText (encodeComponent t) := by
  induction t with
  | nil => exact .nil
  | cons c t ih =>
    cases hc : isUnreserved c with
    | true =>
      rw [encodeComponent, encodeWhere_cons_of_not_escaped (by simp [hc])]
      exact .copied (isUnreserved_iff.1 hc) ih
    | false =>
      rw [encodeComponent, encodeWhere_cons_of_escaped (by simp [hc])]
      exact ih.append_bytes _

/-! ### What a component stands for -/

/-- Reading a component gives its text. -/
theorem ofUtf8_decodeBytes_encodeComponent (t : Text) :
    ofUtf8 (decodeBytes (encodeComponent t)) = t := by
  rw [decodeBytes_encodeComponent]
  exact ofUtf8_utf8 t

/-- So different texts are written differently. -/
theorem encodeComponent_injective : Function.Injective encodeComponent :=
  Function.LeftInverse.injective (g := fun t => ofUtf8 (decodeBytes t))
    ofUtf8_decodeBytes_encodeComponent

/-- **A component keeps its text.** It is made of unreserved characters and escapes alone. Read
back, with plus signs for blanks or without, it gives the bytes of the text, and two texts are
written one behind the other as each of them alone. No two texts are written alike, and those of
unreserved characters are the ones that stay as they are. -/
theorem encodeComponent_lossless (t : Text) :
    ComponentText (encodeComponent t) ∧
      decodeBytes (encodeComponent t) = utf8 t ∧
      decodeBytes ((encodeComponent t).map fun c => if c = '+' then ' ' else c) = utf8 t ∧
      (∀ s, encodeComponent (s ++ t) = encodeComponent s ++ encodeComponent t) ∧
      Function.Injective encodeComponent ∧
      (encodeComponent t = t ↔ ∀ c ∈ t, c ∈ unreservedCharacters) := by
  have hself : encodeComponent t = t ↔ ∀ c ∈ t, c ∈ unreservedCharacters := by
    rw [encodeComponent, encodeWhere_eq_self_iff]
    simp only [Bool.not_eq_false', isUnreserved_iff]
  refine ⟨componentText_encodeComponent t, decodeBytes_encodeComponent t, ?_,
    fun s => encodeWhere_append _ s t, encodeComponent_injective, hself⟩
  rw [map_plus_encodeComponent]
  exact decodeBytes_encodeComponent t

end SearchLink.Text
