import SearchLink.Text.Decimal

/-!
# `SearchLink.Template.Modification`: the blocks that may follow a variable's name

A token of a template is `{name`, a chain of blocks, and `}`. This module holds the type
of a block and the way from text to blocks; the way back is
`SearchLink.Template.Written`.

* `{source|target}` replaces a literal text.
* `{re/source/flags|target}` replaces every match of a regular expression.
* `{re/source/flags}` keeps the matches alone.
* `(name)` applies a named function.
* `[index]` and `[start:end]` cut out a slice.

Each reader below takes the text behind the opening mark of its block and gives back what
it read together with the rest, or `none` when the block is malformed or does not end.
`readChain` reads blocks and blanks up to the closing brace.
-/

set_option autoImplicit false

namespace SearchLink.Template

/-- One transformation of a text, as written behind a variable's name. -/
inductive Modification where
  /-- The characters from `start` up to `stop`; a negative bound counts from the end. -/
  | slice (start stop : Option Int64)
  /-- Every occurrence of `source` becomes `target`. -/
  | replacement (source target : Text)
  /-- Every match of the pattern becomes the expansion of `target`. -/
  | regexReplacement (source flags target : Text)
  /-- The matches of the pattern, one behind the other. -/
  | regexMatch (source flags : Text)
  /-- The function registered under `name`. -/
  | function (name : Text)
  deriving Repr, DecidableEq

/-- Modifications in the order in which they apply. -/
abbrev Chain := List Modification

/-- The name of the function that switches off the encoding of a result. -/
def disableEncodingName : Text := "disableuriencoding".toList

/-- Whether two texts are equal up to the case of ASCII letters. -/
def sameAsciiLetters (s t : Text) : Bool := s.map Char.toLower = t.map Char.toLower

/-- Whether a modification switches off the encoding of the result. -/
def Modification.disablesEncoding : Modification → Bool
  | .function name => sameAsciiLetters name disableEncodingName
  | _ => false

/-- Whether some step of a chain switches off the encoding of the result. -/
def Chain.disablesEncoding (chain : Chain) : Bool := chain.any Modification.disablesEncoding

/-! ### Reading blocks -/

/-- The three marks that a plain part may hold only behind a backslash. -/
def isBraceOrBar (c : Char) : Bool := c = '{' || c = '|' || c = '}'

/-- Reads a part up to an unescaped `stop`. A backslash takes the next character as it
stands; an unescaped brace or bar other than `stop` is refused. -/
def readPlain (stop : Char) : Text → Option (Text × Text)
  | [] => none
  | c :: r =>
    if c = '\\' then
      match r with
      | [] => none
      | d :: r' => (readPlain stop r').map fun part => (d :: part.1, part.2)
    else if c = stop then some ([], r)
    else if isBraceOrBar c then none
    else (readPlain stop r).map fun part => (c :: part.1, part.2)

/-- Reads the source of a pattern up to the first `/` that no backslash precedes. A
backslash and its successor stay together, except that `\/` reads as `/`. -/
def readPattern : Text → Option (Text × Text)
  | [] => none
  | c :: r =>
    if c = '\\' then
      match r with
      | [] => none
      | d :: r' =>
        (readPattern r').map fun part =>
          (if d = '/' then '/' :: part.1 else '\\' :: d :: part.1, part.2)
    else if c = '/' then some ([], r)
    else (readPattern r).map fun part => (c :: part.1, part.2)

/-- Reads characters up to the first one in a class. Gives what it read, the character
that ended it, and the rest. -/
def readUntil (stops : Char → Bool) : Text → Option (Text × Char × Text)
  | [] => none
  | c :: r =>
    if stops c then some ([], c, r)
    else (readUntil stops r).map fun part => (c :: part.1, part.2)

/-- Reads what follows `{`. -/
def readBraces (t : Text) : Option (Modification × Text) :=
  match Text.stripStart? "re/".toList t with
  | some r => do
    let (source, r) ← readPattern r
    let (flags, mark, r) ← readUntil isBraceOrBar r
    if mark = '}' then some (.regexMatch source flags, r)
    else if mark = '|' then do
      let (target, r) ← readPlain '}' r
      some (.regexReplacement source flags target, r)
    else none
  | none => do
    let (source, r) ← readPlain '|' t
    let (target, r) ← readPlain '}' r
    some (.replacement source target, r)

/-- Reads what follows `(`. -/
def readFunction (t : Text) : Option (Modification × Text) :=
  (readUntil (· = ')') t).map fun part => (.function part.1, part.2.2)

/-- Reads one bound of a slice; an empty bound is open. -/
def readBound (t : Text) : Option (Option Int64) :=
  if t.isEmpty then some none else (Text.int64? t).map some

/-- The slice that holds the one character at an index. The largest index has no
successor and is refused. -/
def singleIndex (i : Int64) : Option Modification :=
  if i = Int64.maxValue then none else some (.slice (some i) (some (i + 1)))

/-- Reads what follows `[`. -/
def readBrackets (t : Text) : Option (Modification × Text) := do
  let (first, mark, r) ← readUntil (fun c => c = ']' || c = ':') t
  if mark = ']' then
    let index ← Text.int64? first
    let slice ← singleIndex index
    some (slice, r)
  else
    let (second, _, r) ← readUntil (· = ']') r
    let start ← readBound first
    let stop ← readBound second
    some (.slice start stop, r)

/-- Reads one block with its opening mark. -/
def readBlock : Text → Option (Modification × Text)
  | [] => none
  | c :: r =>
    if c = '{' then readBraces r
    else if c = '(' then readFunction r
    else if c = '[' then readBrackets r
    else none

/-! ### What a reader leaves is shorter -/

theorem readPlain_length {stop : Char} {t part r : Text}
    (h : readPlain stop t = some (part, r)) : r.length < t.length := by
  fun_induction readPlain stop t generalizing part r with
  | case1 => simp at h
  | case2 => simp at h
  | case3 d r' ih =>
    obtain ⟨⟨p, q⟩, hp, hq⟩ := Option.map_eq_some_iff.1 h
    obtain ⟨rfl, rfl⟩ := Prod.mk.inj hq
    have := ih hp
    simp only [List.length_cons]
    omega
  | case4 => simp at h; simp [h]
  | case5 => simp at h
  | case6 c r _ _ _ ih =>
    obtain ⟨⟨p, q⟩, hp, hq⟩ := Option.map_eq_some_iff.1 h
    obtain ⟨rfl, rfl⟩ := Prod.mk.inj hq
    have := ih hp
    simp only [List.length_cons]
    omega

theorem readPattern_length {t part r : Text} (h : readPattern t = some (part, r)) :
    r.length < t.length := by
  fun_induction readPattern t generalizing part r with
  | case1 => simp at h
  | case2 => simp at h
  | case3 d r' ih =>
    obtain ⟨⟨p, q⟩, hp, hq⟩ := Option.map_eq_some_iff.1 h
    obtain ⟨rfl, rfl⟩ := Prod.mk.inj hq
    have := ih hp
    simp only [List.length_cons]
    omega
  | case4 => simp at h; simp [h]
  | case5 c r _ _ ih =>
    obtain ⟨⟨p, q⟩, hp, hq⟩ := Option.map_eq_some_iff.1 h
    obtain ⟨rfl, rfl⟩ := Prod.mk.inj hq
    have := ih hp
    simp only [List.length_cons]
    omega

theorem readUntil_length {stops : Char → Bool} {t part r : Text} {mark : Char}
    (h : readUntil stops t = some (part, mark, r)) : r.length < t.length := by
  fun_induction readUntil stops t generalizing part mark r with
  | case1 => simp at h
  | case2 => simp at h; simp [h]
  | case3 c r _ ih =>
    obtain ⟨⟨p, m, q⟩, hp, hq⟩ := Option.map_eq_some_iff.1 h
    simp only [Prod.mk.injEq] at hq
    obtain ⟨rfl, rfl, rfl⟩ := hq
    have := ih hp
    simp only [List.length_cons]
    omega

theorem readBraces_length {t r : Text} {m : Modification} (h : readBraces t = some (m, r)) :
    r.length < t.length := by
  unfold readBraces at h
  split at h
  · rename_i r₀ hr₀
    rw [Text.stripStart?_eq_some_iff] at hr₀
    subst hr₀
    simp only [Option.bind_eq_bind, Option.bind_eq_some_iff, Prod.exists] at h
    obtain ⟨source, r₁, h₁, flags, mark, r₂, h₂, h₃⟩ := h
    have l₁ := readPattern_length h₁
    have l₂ := readUntil_length h₂
    rw [List.length_append]
    split at h₃
    · simp only [Option.some.injEq, Prod.mk.injEq] at h₃
      obtain ⟨-, rfl⟩ := h₃
      omega
    · split at h₃
      · simp only [Option.bind_eq_some_iff, Prod.exists] at h₃
        obtain ⟨target, r₃, h₃, h₄⟩ := h₃
        have l₃ := readPlain_length h₃
        simp only [Option.some.injEq, Prod.mk.injEq] at h₄
        obtain ⟨-, rfl⟩ := h₄
        omega
      · simp at h₃
  · simp only [Option.bind_eq_bind, Option.bind_eq_some_iff, Prod.exists] at h
    obtain ⟨source, r₁, h₁, target, r₂, h₂, h₃⟩ := h
    have l₁ := readPlain_length h₁
    have l₂ := readPlain_length h₂
    simp only [Option.some.injEq, Prod.mk.injEq] at h₃
    obtain ⟨-, rfl⟩ := h₃
    omega

theorem readFunction_length {t r : Text} {m : Modification}
    (h : readFunction t = some (m, r)) : r.length < t.length := by
  obtain ⟨⟨part, mark, r'⟩, h₁, h₂⟩ := Option.map_eq_some_iff.1 h
  obtain ⟨-, rfl⟩ := Prod.mk.inj h₂
  exact readUntil_length h₁

theorem readBrackets_length {t r : Text} {m : Modification}
    (h : readBrackets t = some (m, r)) : r.length < t.length := by
  unfold readBrackets at h
  simp only [Option.bind_eq_bind, Option.bind_eq_some_iff, Prod.exists] at h
  obtain ⟨first, mark, r₁, h₁, h₂⟩ := h
  have l₁ := readUntil_length h₁
  split at h₂
  · simp only [Option.bind_eq_some_iff, Option.some.injEq, Prod.mk.injEq] at h₂
    obtain ⟨_, _, _, _, _, rfl⟩ := h₂
    exact l₁
  · simp only [Option.bind_eq_some_iff, Prod.exists] at h₂
    obtain ⟨second, mark₂, r₂, h₃, _, _, _, _, h₄⟩ := h₂
    have l₂ := readUntil_length h₃
    simp only [Option.some.injEq, Prod.mk.injEq] at h₄
    obtain ⟨-, rfl⟩ := h₄
    omega

theorem readBlock_length {t r : Text} {m : Modification} (h : readBlock t = some (m, r)) :
    r.length < t.length := by
  cases t with
  | nil => simp [readBlock] at h
  | cons c t =>
    simp only [readBlock] at h
    rw [List.length_cons]
    split at h
    · exact Nat.lt_succ_of_lt (readBraces_length h)
    · split at h
      · exact Nat.lt_succ_of_lt (readFunction_length h)
      · split at h
        · exact Nat.lt_succ_of_lt (readBrackets_length h)
        · simp at h

/-- Reads blocks and blanks up to the closing brace. Gives the chain and the text behind
the brace. -/
def readChain : Text → Option (Chain × Text)
  | [] => none
  | c :: r =>
    if c = '}' then some ([], r)
    else if c = ' ' then readChain r
    else
      match _block : readBlock (c :: r) with
      | none => none
      | some (m, rest) => (readChain rest).map fun part => (m :: part.1, part.2)
termination_by t => t.length
decreasing_by
  · simp
  · exact readBlock_length _block

end SearchLink.Template
