import SearchLink.Text.Decimal

/-!
# `SearchLink.Proofs.Text.Numeral`: what a decimal numeral is

`NumeralText w i` says that `w` is a numeral for the integer `i`: an optional sign followed
by at least one ASCII digit. The statements:

* `integer?_eq_some_iff` and `int64?_eq_some_iff`: the readers accept the numerals and
  nothing else. For 64 bits the value has to fit, which it does when it is the value of an
  `Int64`.
* `numeralText_ofInteger`: what `ofInteger` writes is a numeral for the integer it was given.
* `NumeralText.isNumeralChar`: a numeral holds digits and signs alone.
-/

set_option autoImplicit false

namespace SearchLink.Text

/-- At least one ASCII digit, and nothing else. -/
def IsDigits (ds : Text) : Prop := ds ≠ [] ∧ ∀ c ∈ ds, c.isDigit = true

/-- A text is a numeral for an integer. -/
inductive NumeralText : Text → Int → Prop
  | unsigned {ds : Text} : IsDigits ds → NumeralText ds (Nat.ofDigitChars 10 ds 0)
  | positive {ds : Text} : IsDigits ds → NumeralText ('+' :: ds) (Nat.ofDigitChars 10 ds 0)
  | negative {ds : Text} : IsDigits ds → NumeralText ('-' :: ds) (-(Nat.ofDigitChars 10 ds 0 : Nat))

/-- A digit and a sign are the characters that a numeral may hold. -/
def isNumeralChar (c : Char) : Bool := c.isDigit || c = '+' || c = '-'

/-- A numeral holds digits and signs alone. -/
theorem NumeralText.isNumeralChar {w : Text} {i : Int} (h : NumeralText w i) :
    ∀ c ∈ w, isNumeralChar c = true := by
  cases h with
  | unsigned hds =>
    intro c hc
    simp [Text.isNumeralChar, hds.2 c hc]
  | positive hds =>
    intro c hc
    rcases List.mem_cons.1 hc with rfl | hc
    · rfl
    · simp [Text.isNumeralChar, hds.2 c hc]
  | negative hds =>
    intro c hc
    rcases List.mem_cons.1 hc with rfl | hc
    · rfl
    · simp [Text.isNumeralChar, hds.2 c hc]

/-! ### Reading -/

/-- The value of a digit is its distance from zero. Other characters have none. -/
theorem digitValue?_eq (c : Char) :
    digitValue? c = if c.isDigit then some (c.toNat - '0'.toNat) else none := by
  have hiff : ('0' ≤ c ∧ c ≤ '9') ↔ c.isDigit = true := by
    rw [Char.isDigit, Bool.and_eq_true, decide_eq_true_eq, decide_eq_true_eq]
    exact Iff.rfl
  by_cases h : c.isDigit = true
  · rw [if_pos h, digitValue?, if_pos (hiff.2 h)]
    rfl
  · rw [if_neg h, digitValue?, if_neg (fun hd => h (hiff.1 hd))]

/-- Digits continue a numeral to its positional value. -/
theorem naturalFrom_eq_some_iff {n m : Nat} {t : Text} :
    naturalFrom n t = some m ↔ (∀ c ∈ t, c.isDigit = true) ∧ m = Nat.ofDigitChars 10 t n := by
  -- `n` is the value of the digits in front of `t`.
  induction t generalizing n with
  | nil =>
    simp only [naturalFrom, Option.some.injEq, List.not_mem_nil, false_implies, implies_true,
      true_and, Nat.ofDigitChars_nil]
    exact eq_comm
  | cons c r ih =>
    simp only [naturalFrom, digitValue?_eq, List.forall_mem_cons, Nat.ofDigitChars_cons]
    cases hc : c.isDigit with
    | false => simp
    | true => simp only [if_true, Option.bind_some, true_and, ih]

/-- A natural number is read off digits. -/
theorem natural?_eq_some_iff {t : Text} {n : Nat} :
    natural? t = some n ↔ IsDigits t ∧ n = Nat.ofDigitChars 10 t 0 := by
  cases t with
  | nil => simp [natural?, IsDigits]
  | cons c r =>
    simp only [natural?, naturalFrom_eq_some_iff, IsDigits, ne_eq, reduceCtorEq,
      not_false_eq_true, true_and]

/-- An integer is read off a numeral, and off nothing else. -/
theorem integer?_eq_some_iff {t : Text} {i : Int} : integer? t = some i ↔ NumeralText t i := by
  constructor
  · intro h
    unfold integer? at h
    split at h
    -- All three branches end in digits. The sign decides which numeral they make.
    all_goals
      obtain ⟨_, hcast, rfl⟩ := Option.map_eq_some_iff.1 h
      obtain ⟨n, hn, hvalue⟩ := Option.bind_eq_some_iff.1 hcast
      obtain rfl := Option.some.inj hvalue
      obtain ⟨hds, rfl⟩ := natural?_eq_some_iff.1 hn
    · exact .negative hds
    · exact .positive hds
    · exact .unsigned hds
  · intro h
    cases h with
    | @unsigned ds hds =>
      have hread : natural? t = some (Nat.ofDigitChars 10 t 0) :=
        natural?_eq_some_iff.2 ⟨hds, rfl⟩
      -- The first character is a digit, so it is taken for no sign.
      unfold integer?
      split
      · exact absurd (hds.2 '-' List.mem_cons_self) (by decide)
      · exact absurd (hds.2 '+' List.mem_cons_self) (by decide)
      · rw [hread]
        rfl
    | @positive ds hds =>
      simp only [integer?, natural?_eq_some_iff.2 ⟨hds, rfl⟩]
      rfl
    | @negative ds hds =>
      simp only [integer?, natural?_eq_some_iff.2 ⟨hds, rfl⟩]
      rfl

/-- A 64-bit integer is read off the numerals for it. -/
theorem int64?_eq_some_iff {t : Text} {i : Int64} :
    int64? t = some i ↔ NumeralText t i.toInt := by
  unfold int64?
  rw [Option.bind_eq_some_iff]
  constructor
  · rintro ⟨n, hn, h⟩
    split at h
    · rename_i hrange
      obtain rfl := Option.some.inj h
      -- In range nothing wraps around.
      rw [Int64.toInt_ofInt_of_le hrange.1 hrange.2]
      exact integer?_eq_some_iff.1 hn
    · simp at h
  · intro h
    refine ⟨i.toInt, integer?_eq_some_iff.2 h, ?_⟩
    rw [if_pos ⟨i.le_toInt, i.toInt_lt⟩, Int64.ofInt_toInt]

/-! ### Writing -/

/-- The decimal digits of a natural number. -/
theorem isDigits_ofNatural (n : Nat) : IsDigits (ofNatural n) :=
  ⟨Nat.toDigits_ne_nil, fun _ hc => Nat.isDigit_of_mem_toDigits (by decide) (by decide) hc⟩

/-- No two natural numbers have the same digits. -/
theorem ofNatural_inj {n m : Nat} (h : ofNatural n = ofNatural m) : n = m := by
  have hvalue : ∀ k, Nat.ofDigitChars 10 (ofNatural k) 0 = k := fun _ =>
    Nat.ofDigitChars_ten_toDigits
  rw [← hvalue n, h, hvalue m]

/-- What is written for an integer is a numeral for it. -/
theorem numeralText_ofInteger (i : Int) : NumeralText (ofInteger i) i := by
  have hvalue : Nat.ofDigitChars 10 (ofNatural i.natAbs) 0 = i.natAbs :=
    Nat.ofDigitChars_ten_toDigits
  unfold ofInteger
  split
  · have h := NumeralText.negative (isDigits_ofNatural i.natAbs)
    rwa [hvalue, show -(i.natAbs : Int) = i by omega] at h
  · have h := NumeralText.unsigned (isDigits_ofNatural i.natAbs)
    rwa [hvalue, show (i.natAbs : Int) = i by omega] at h

end SearchLink.Text
