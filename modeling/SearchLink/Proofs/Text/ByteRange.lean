import SearchLink.Text.Basic

/-!
# `SearchLink.Proofs.Text.ByteRange`: the text between two byte offsets

`dropBytes?` gives the text behind an offset. This module adds `takeBytes?`, the text in
front of one, and `sliceBytes?`, the text between two, and says what each of them finds in
terms of concatenation:

* `dropBytes?_eq_some_iff`: the text behind offset `n` is `r` exactly when the text is
  `p ++ r` for a `p` of `n` bytes.
* `isBoundary_iff`: there is a text behind an offset exactly when the text can be cut there.
* `sliceBytes?_eq_some_iff`: the text between two offsets is `w` exactly when the text is
  `p ++ w ++ r` with both cuts at those offsets. An offset inside a character, past the end
  or in the wrong order finds nothing.

`behind` is the text behind an offset at which the text is known to be cut. Of two such offsets,
what stands behind the first is what is between them and what stands behind the second
(`behind_eq_append`).

A text is also cut at the first place of a mark: `takeWhile_append_mark` and
`dropWhile_append_mark` say what stands in front and what is left.
-/

set_option autoImplicit false

namespace SearchLink.Text

/-- The first `n` bytes of a text. `none` when the text is shorter, or when the offset falls
inside a character. -/
def takeBytes? : Text → Nat → Option Text
  | _, 0 => some []
  | [], _ + 1 => none
  | c :: r, n + 1 =>
    if c.utf8Size ≤ n + 1 then (takeBytes? r (n + 1 - c.utf8Size)).map (c :: ·) else none

/-- The text between two byte offsets, when both fall between characters and are in order. -/
def sliceBytes? (t : Text) (start stop : Nat) : Option Text :=
  if start ≤ stop then (t.dropBytes? start).bind fun r => takeBytes? r (stop - start) else none

/-- A text can be cut at a byte offset: between two characters or at one of its ends. -/
def IsBoundary (t : Text) (n : Nat) : Prop := ∃ front rest, t = front ++ rest ∧ utf8Size front = n

/-- Only the empty text takes up no bytes. -/
theorem utf8Size_eq_zero_iff {t : Text} : utf8Size t = 0 ↔ t = [] := by
  cases t with
  | nil => simp [utf8Size]
  | cons c r =>
    have hc : 0 < c.utf8Size := c.utf8Size_pos
    simp only [utf8Size, reduceCtorEq, iff_false]
    omega

/-- The text behind an offset: the offset is the size of what stands in front. -/
theorem dropBytes?_eq_some_iff {t r : Text} {n : Nat} :
    dropBytes? t n = some r ↔ ∃ p, t = p ++ r ∧ utf8Size p = n := by
  constructor
  · intro h
    -- Each step drops one character and as many bytes as it takes up.
    fun_induction dropBytes? t n with
    | case1 t =>
      obtain rfl := Option.some.inj h
      exact ⟨[], rfl, rfl⟩
    | case2 => simp at h
    | case3 c t n hle ih =>
      obtain ⟨p, rfl, hp⟩ := ih h
      refine ⟨c :: p, rfl, ?_⟩
      simp only [utf8Size, hp]
      omega
    | case4 => simp at h
  · rintro ⟨p, rfl, rfl⟩
    exact dropBytes?_append p r

/-- A text can be cut exactly where there is a text behind the cut. -/
theorem isBoundary_iff {t : Text} {n : Nat} : IsBoundary t n ↔ (dropBytes? t n).isSome := by
  rw [Option.isSome_iff_exists]
  simp only [dropBytes?_eq_some_iff]
  exact exists_comm

instance (t : Text) (n : Nat) : Decidable (IsBoundary t n) :=
  decidable_of_iff _ isBoundary_iff.symm

/-- Behind each of its beginnings a text can be cut. -/
theorem isBoundary_of_append {t front rest : Text} (h : t = front ++ rest) :
    IsBoundary t (utf8Size front) :=
  ⟨front, rest, h, rfl⟩

/-- A text can be cut up to its end. -/
theorem IsBoundary.le_utf8Size {t : Text} {n : Nat} (h : IsBoundary t n) : n ≤ utf8Size t := by
  obtain ⟨front, rest, rfl, rfl⟩ := h
  rw [utf8Size_append]
  exact Nat.le_add_right _ _

/-- The text behind an offset, and nothing where the text cannot be cut. -/
def behind (t : Text) (n : Nat) : Text := (dropBytes? t n).getD []

/-- Behind no bytes stands all of the text. -/
theorem behind_zero (t : Text) : behind t 0 = t := by cases t <;> rfl

/-- Behind a beginning stands the rest. -/
theorem behind_append (front t : Text) : behind (front ++ t) (utf8Size front) = t := by
  rw [behind, dropBytes?_append, Option.getD_some]

/-- The same of a text that is cut there. -/
theorem behind_of_append {t front rest : Text} (h : t = front ++ rest) :
    behind t (utf8Size front) = rest := by
  rw [h, behind_append]

/-- A character more takes up its bytes. -/
theorem utf8Size_append_singleton (front : Text) (c : Char) :
    utf8Size (front ++ [c]) = utf8Size front + c.utf8Size :=
  utf8Size_append front [c]

/-- No bytes are the empty beginning. -/
theorem takeBytes?_zero (t : Text) : takeBytes? t 0 = some [] := by cases t <;> rfl

/-- Taking as many bytes as a beginning has gives that beginning. -/
theorem takeBytes?_append (a b : Text) : takeBytes? (a ++ b) (utf8Size a) = some a := by
  induction a with
  | nil => exact takeBytes?_zero b
  | cons c r ih =>
    have hc : 0 < c.utf8Size := c.utf8Size_pos
    -- A character takes up at least one byte, so the count is a successor.
    obtain ⟨n, hn⟩ : ∃ n, c.utf8Size + utf8Size r = n + 1 :=
      ⟨c.utf8Size + utf8Size r - 1, by omega⟩
    simp only [List.cons_append, utf8Size, hn, takeBytes?]
    rw [if_pos (by omega), ← hn, Nat.add_sub_cancel_left, ih]
    rfl

/-- The text in front of an offset is a beginning of that many bytes. -/
theorem takeBytes?_eq_some_iff {t p : Text} {n : Nat} :
    takeBytes? t n = some p ↔ ∃ r, t = p ++ r ∧ utf8Size p = n := by
  constructor
  · intro h
    induction t generalizing n p with
    | nil =>
      cases n with
      | zero =>
        rw [takeBytes?_zero] at h
        obtain rfl := Option.some.inj h
        exact ⟨[], rfl, rfl⟩
      | succ n => simp [takeBytes?] at h
    | cons c t ih =>
      cases n with
      | zero =>
        rw [takeBytes?_zero] at h
        obtain rfl := Option.some.inj h
        exact ⟨c :: t, rfl, rfl⟩
      | succ n =>
        -- The first character has to fit, and what it leaves of the count goes to the rest.
        rw [takeBytes?] at h
        split at h
        · rename_i hle
          obtain ⟨q, hq, rfl⟩ := Option.map_eq_some_iff.1 h
          obtain ⟨r, rfl, hsize⟩ := ih hq
          refine ⟨r, rfl, ?_⟩
          rw [utf8Size, hsize]
          omega
        · simp at h
  · rintro ⟨r, rfl, rfl⟩
    exact takeBytes?_append p r

/-- The text between two offsets: one cut in front of it and one behind it. -/
theorem sliceBytes?_eq_some_iff {t w : Text} {start stop : Nat} :
    sliceBytes? t start stop = some w ↔
      ∃ p r, t = p ++ w ++ r ∧ utf8Size p = start ∧ start + utf8Size w = stop := by
  unfold sliceBytes?
  constructor
  · intro h
    split at h
    · rename_i hle
      obtain ⟨u, hu, hw⟩ := Option.bind_eq_some_iff.1 h
      obtain ⟨p, rfl, hp⟩ := dropBytes?_eq_some_iff.1 hu
      obtain ⟨r, rfl, hr⟩ := takeBytes?_eq_some_iff.1 hw
      exact ⟨p, r, (List.append_assoc p w r).symm, hp, by omega⟩
    · simp at h
  · rintro ⟨p, r, rfl, rfl, rfl⟩
    rw [if_pos (Nat.le_add_right _ _), List.append_assoc, dropBytes?_append,
      Option.bind_some, Nat.add_sub_cancel_left, takeBytes?_append]

/-- A part of a text lies between the end of what stands in front and its own end. -/
theorem sliceBytes?_append (front part rest : Text) :
    sliceBytes? (front ++ part ++ rest) (utf8Size front) (utf8Size (front ++ part)) = some part :=
  sliceBytes?_eq_some_iff.2 ⟨front, rest, rfl, rfl, (utf8Size_append front part).symm⟩

/-- A text cut in three behind a front, cut behind the second part. -/
theorem append_cut (front : Text) {t before token rest : Text}
    (h : t = before ++ token ++ rest) : front ++ t = (front ++ before ++ token) ++ rest := by
  rw [h]
  simp only [List.append_assoc]

/-- Two texts that begin alike and are cut at the same offset are cut into the same parts. -/
theorem append_inj_of_utf8Size {a b c d : Text} (h : a ++ b = c ++ d)
    (hsize : utf8Size a = utf8Size c) : a = c ∧ b = d := by
  -- What stands behind an offset is found by one function, so it is the same on both sides.
  have hb : dropBytes? (a ++ b) (utf8Size a) = some b := dropBytes?_append a b
  rw [h, hsize, dropBytes?_append] at hb
  obtain rfl := Option.some.inj hb
  exact ⟨List.append_cancel_right h, rfl⟩

/-- Of two beginnings of a text the shorter in bytes is a beginning of the other. -/
theorem exists_append_of_utf8Size_le {a b c d : Text} (h : a ++ b = c ++ d)
    (hsize : utf8Size a ≤ utf8Size c) : ∃ m, c = a ++ m ∧ b = m ++ d := by
  rcases List.append_eq_append_iff.1 h with ⟨m, hc, hb⟩ | ⟨m, ha, hd⟩
  · exact ⟨m, hc, hb⟩
  · -- `c` is the shorter one, so what `a` has beyond it takes up no bytes.
    rw [ha, utf8Size_append] at hsize
    have hm : utf8Size m = 0 := by omega
    obtain rfl := utf8Size_eq_zero_iff.1 hm
    exact ⟨[], by simpa using ha.symm, by simpa using hd.symm⟩

/-- Behind the first of two cuts stands what is between them, and what is behind the second. -/
theorem behind_eq_append {t : Text} {m n : Nat} (hm : IsBoundary t m) (hn : IsBoundary t n)
    (hle : m ≤ n) : ∃ between, behind t m = between ++ behind t n ∧ m + utf8Size between = n := by
  obtain ⟨front, rest, rfl, rfl⟩ := hm
  obtain ⟨front', rest', hsplit, rfl⟩ := hn
  obtain ⟨between, rfl, rfl⟩ := exists_append_of_utf8Size_le hsplit hle
  refine ⟨between, ?_, (utf8Size_append front between).symm⟩
  rw [behind_append, behind_of_append hsplit]

/-- Of two beginnings of a text the one with fewer characters has fewer bytes. -/
theorem utf8Size_le_of_length_le {a b c d : Text} (h : a ++ b = c ++ d)
    (hlen : a.length ≤ c.length) : utf8Size a ≤ utf8Size c := by
  have hprefix : a <+: c :=
    List.prefix_of_prefix_length_le (List.prefix_append a b) (h ▸ List.prefix_append c d) hlen
  obtain ⟨m, rfl⟩ := hprefix
  rw [utf8Size_append]
  exact Nat.le_add_right _ _

/-- Of two beginnings of a text the one with strictly fewer characters has strictly fewer
bytes. -/
theorem utf8Size_lt_of_length_lt {a b c d : Text} (h : a ++ b = c ++ d)
    (hlen : a.length < c.length) : utf8Size a < utf8Size c := by
  refine Nat.lt_of_not_le fun hle => ?_
  -- As many bytes mean at least as many characters, since one beginning continues the other.
  obtain ⟨m, rfl, -⟩ := exists_append_of_utf8Size_le h.symm hle
  rw [List.length_append] at hlen
  omega

/-- Two beginnings of a text compare in bytes as they do in characters. -/
theorem utf8Size_lt_iff {a b c d : Text} (h : a ++ b = c ++ d) :
    utf8Size a < utf8Size c ↔ a.length < c.length := by
  refine ⟨fun hlt => Nat.lt_of_not_le fun hlen => ?_, utf8Size_lt_of_length_lt h⟩
  exact Nat.not_le.2 hlt (utf8Size_le_of_length_le h.symm hlen)

/-! ### Cuts at a mark -/

section
variable {mark : Char} {front : Text} (rest : Text)

/-- Up to the first place of a mark stands what stands in front of it. -/
theorem takeWhile_append_mark (h : mark ∉ front) :
    (front ++ mark :: rest).takeWhile (· ≠ mark) = front := by
  have hfront : ∀ c ∈ front, decide (c ≠ mark) = true := by
    intro c hc
    have hne : c ≠ mark := by
      rintro rfl
      exact h hc
    simpa using hne
  rw [List.takeWhile_append_of_pos hfront]
  simp

/-- From the first place of a mark on, the mark and what stands behind it is left. -/
theorem dropWhile_append_mark (h : mark ∉ front) :
    (front ++ mark :: rest).dropWhile (· ≠ mark) = mark :: rest := by
  have hfront : ∀ c ∈ front, decide (c ≠ mark) = true := by
    intro c hc
    have hne : c ≠ mark := by
      rintro rfl
      exact h hc
    simpa using hne
  rw [List.dropWhile_append_of_pos hfront]
  simp

/-- Two texts that are cut at their first mark are the same only if both parts are. -/
theorem append_mark_inj {front' rest' : Text} (h : mark ∉ front) (h' : mark ∉ front')
    (heq : front ++ mark :: rest = front' ++ mark :: rest') : front = front' ∧ rest = rest' := by
  have hfront := takeWhile_append_mark rest h
  rw [heq, takeWhile_append_mark rest' h'] at hfront
  subst hfront
  exact ⟨rfl, (List.cons.inj (List.append_cancel_left heq)).2⟩

end

end SearchLink.Text
