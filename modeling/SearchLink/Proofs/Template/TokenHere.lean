import SearchLink.Proofs.Template.Grammar

/-!
# `SearchLink.Proofs.Template.TokenHere`: the token at the start of a text

`opensHere` asks whether the letters of `{name` stand at the start of a text, and
`tokenHere?` reads the well-formed token that starts there. Searching for a name comes down
to these two, one character at a time:

* `firstToken?_of_opensHere` and `firstToken?_cons_of_not_opensHere`: the first token of a
  name is the one at the start where the name opens there, else that of the rest.
* `firstToken?_split`: a token found further on stands at the start of what is left.
* `locate?_of_tokenHere?`: it is located at the offset of what is left.

Of several entries with names, `firstHere?` takes the first one with a token at the start.
-/

set_option autoImplicit false

namespace SearchLink.Template

/-- Whether the letters of `{name` stand at the start of a text. -/
def opensHere (name t : Text) : Bool := (readName? ('{' :: name) t).isSome

/-- The chain of the well-formed token of a name that stands at the start of a text, and
the text behind the token. -/
def tokenHere? (name t : Text) : Option (Chain × Text) :=
  (readName? ('{' :: name) t).bind readChain

/-- Whether the letters of `{name` stand anywhere in a text. -/
def opensIn (name t : Text) : Bool := (findOpening? name t).isSome

/-- A name with a token at the start opens there. -/
theorem opensHere_of_tokenHere? {name t : Text} {p : Chain × Text}
    (h : tokenHere? name t = some p) : opensHere name t = true := by
  obtain ⟨after, hafter, -⟩ := Option.bind_eq_some_iff.1 h
  simp [opensHere, hafter]

/-- A token at the start takes up text. -/
theorem tokenHere?_length {name t rest : Text} {chain : Chain}
    (h : tokenHere? name t = some (chain, rest)) : rest.length < t.length := by
  obtain ⟨after, hafter, hchain⟩ := Option.bind_eq_some_iff.1 h
  have h₁ := readName?_length hafter
  have h₂ := readChain_length hchain
  omega

/-- What a token at the start leaves is an end of the text. -/
theorem tokenHere?_suffix {name t rest : Text} {chain : Chain}
    (h : tokenHere? name t = some (chain, rest)) : rest <:+ t := by
  obtain ⟨after, hafter, hchain⟩ := Option.bind_eq_some_iff.1 h
  obtain ⟨word, rfl, -⟩ := readName?_eq_some_iff.1 hafter
  exact (readChain_suffix hchain).trans (List.suffix_append word after)

/-- Where a name opens at the start, its first token is the one that stands there. -/
theorem firstToken?_of_opensHere {name t : Text} (h : opensHere name t = true) :
    firstToken? name t = (tokenHere? name t).map fun p => ⟨[], p.1, p.2⟩ := by
  obtain ⟨after, hafter⟩ := Option.isSome_iff_exists.1 h
  simp only [firstToken?, tokenHere?, findOpening?_of_readName? hafter, hafter,
    Option.bind_eq_bind, Option.bind_some]
  cases readChain after <;> rfl

/-- Where a name does not open at the start, its first opening is that of the rest. -/
theorem findOpening?_cons_of_not_opensHere {name r : Text} {c : Char}
    (h : opensHere name (c :: r) = false) :
    findOpening? name (c :: r)
      = (findOpening? name r).map fun o => { o with before := c :: o.before } :=
  findOpening?_cons_of_readName?_eq_none (by simpa [opensHere] using h)

/-- Where a name does not open at the start, its first token is that of the rest. -/
theorem firstToken?_cons_of_not_opensHere {name r : Text} {c : Char}
    (h : opensHere name (c :: r) = false) :
    firstToken? name (c :: r)
      = (firstToken? name r).map fun k => { k with before := c :: k.before } := by
  simp only [firstToken?, findOpening?_cons_of_not_opensHere h, Option.bind_eq_bind]
  cases findOpening? name r with
  | none => rfl
  | some o =>
    simp only [Option.map_some, Option.bind_some]
    cases readChain o.after <;> rfl

/-- A name that opens somewhere in an end of a text opens somewhere in the text. -/
theorem opensIn_of_suffix {name t r : Text} (hsuffix : r <:+ t) (h : opensIn name r = true) :
    opensIn name t = true := by
  obtain ⟨front, rfl⟩ := hsuffix
  obtain ⟨o, ho⟩ := Option.isSome_iff_exists.1 h
  obtain ⟨word, rfl, hword⟩ := findOpening?_split ho
  obtain ⟨o', ho', -⟩ := exists_findOpening?_le (front ++ o.before) o.after hword
  rw [opensIn, ← List.append_assoc, ← List.append_assoc, ho', Option.isSome_some]

/-- A token that is not at the start stands behind at least one character. -/
theorem firstToken?_before_pos {name t : Text} {k : Token} (h : firstToken? name t = some k)
    (hhere : tokenHere? name t = none) : 0 < k.before.length := by
  cases t with
  | nil => simp [firstToken?, findOpening?] at h
  | cons c r =>
    cases hopens : opensHere name (c :: r) with
    | true =>
      rw [firstToken?_of_opensHere hopens, hhere] at h
      simp at h
    | false =>
      rw [firstToken?_cons_of_not_opensHere hopens] at h
      obtain ⟨k', -, rfl⟩ := Option.map_eq_some_iff.1 h
      exact Nat.succ_pos _

/-- The first token of a name cuts the text into what stands in front, the token and the
rest. The token is the one at the start of what is left without the front. -/
theorem firstToken?_split {name t : Text} {k : Token} (h : firstToken? name t = some k) :
    ∃ token, t = k.before ++ token ++ k.rest ∧ token ≠ [] ∧
      tokenHere? name (token ++ k.rest) = some (k.chain, k.rest) := by
  simp only [firstToken?, Option.bind_eq_bind, Option.bind_eq_some_iff, Prod.exists] at h
  obtain ⟨o, ho, chain, rest, hchain, hk⟩ := h
  obtain rfl := Option.some.inj hk
  obtain ⟨word, rfl, hword⟩ := findOpening?_split ho
  obtain ⟨w, hafter, -⟩ := readChain_eq_some_iff.1 hchain
  refine ⟨word ++ w, ?_, ?_, ?_⟩
  · rw [hafter]
    simp only [List.append_assoc]
  -- The brace in front of the name makes the token non-empty.
  · have hlen := hword.length_eq
    intro hnil
    obtain ⟨rfl, -⟩ := List.append_eq_nil_iff.1 hnil
    simp at hlen
  · have hread : readName? ('{' :: name) (word ++ o.after) = some o.after :=
      readName?_eq_some_iff.2 ⟨word, rfl, hword⟩
    rw [List.append_assoc, ← hafter, tokenHere?, hread, Option.bind_some, hchain]

/-- A token at the start of the rest of a template is located at the offset of that rest. -/
theorem locate?_of_tokenHere? {name t rest : Text} {chain : Chain} (front : Text)
    (h : tokenHere? name t = some (chain, rest)) :
    locate? (front ++ t) name front.utf8Size
      = some ⟨⟨front.utf8Size, (front ++ t).utf8Size - rest.utf8Size⟩, chain⟩ := by
  have hfirst := firstToken?_of_opensHere (opensHere_of_tokenHere? h)
  rw [h, Option.map_some] at hfirst
  simp only [locate?, Text.dropBytes?_append, hfirst, Option.bind_eq_bind, Option.bind_some,
    Text.utf8Size, Nat.add_zero]

/-! ### The first of several names -/

section
variable {α : Type} (name : α → Text) (t : Text)

/-- The first entry whose name has a well-formed token at the start of a text, with the
chain of the token and the text behind it. -/
def firstHere? : List α → Option (α × Chain × Text)
  | [] => none
  | entry :: entries =>
    match tokenHere? (name entry) t with
    | some token => some (entry, token)
    | none => firstHere? entries

variable {name t}

/-- The entry that is found is one of the entries, and its token stands at the start. -/
theorem mem_of_firstHere? {entries : List α} {entry : α} {token : Chain × Text}
    (h : firstHere? name t entries = some (entry, token)) :
    entry ∈ entries ∧ tokenHere? (name entry) t = some token := by
  induction entries with
  | nil => simp [firstHere?] at h
  | cons e entries ih =>
    rw [firstHere?] at h
    split at h
    · rename_i token' htoken
      obtain ⟨rfl, rfl⟩ := Prod.mk.inj (Option.some.inj h)
      exact ⟨List.mem_cons_self, htoken⟩
    · obtain ⟨hmem, htoken⟩ := ih h
      exact ⟨List.mem_cons_of_mem e hmem, htoken⟩

/-- Nothing is found when no entry has a token at the start. -/
theorem firstHere?_eq_none_iff {entries : List α} :
    firstHere? name t entries = none ↔ ∀ e ∈ entries, tokenHere? (name e) t = none := by
  induction entries with
  | nil => simp [firstHere?]
  | cons e entries ih =>
    rw [firstHere?, List.forall_mem_cons, ← ih]
    cases tokenHere? (name e) t with
    | some token => simp
    | none => simp

variable (name t)

/-- Entries without a token at the start can be left out. -/
theorem firstHere?_filter {p : α → Bool} {entries : List α}
    (hp : ∀ e ∈ entries, (tokenHere? (name e) t).isSome → p e = true) :
    firstHere? name t (entries.filter p) = firstHere? name t entries := by
  induction entries with
  | nil => rfl
  | cons e entries ih =>
    obtain ⟨he, hrest⟩ := List.forall_mem_cons.1 hp
    cases hkeep : p e with
    | true => simp only [List.filter_cons, hkeep, if_true, firstHere?, ih hrest]
    | false =>
      have hnone : tokenHere? (name e) t = none := by
        rw [← Option.not_isSome_iff_eq_none]
        intro htoken
        rw [he htoken] at hkeep
        simp at hkeep
      simp only [List.filter_cons, hkeep, Bool.false_eq_true, if_false, ih hrest, firstHere?,
        hnone]

/-- Only entries that open at the start can have a token there. -/
theorem firstHere?_filter_opensHere (entries : List α) :
    firstHere? name t (entries.filter fun e => opensHere (name e) t)
      = firstHere? name t entries := by
  refine firstHere?_filter name t fun e _ htoken => ?_
  obtain ⟨token, htoken⟩ := Option.isSome_iff_exists.1 htoken
  exact opensHere_of_tokenHere? htoken

/-- What is found among the images of entries is the image of what is found among them. -/
theorem firstHere?_map {β : Type} (f : β → α) (entries : List β) :
    firstHere? name t (entries.map f)
      = (firstHere? (fun e => name (f e)) t entries).map fun found => (f found.1, found.2) := by
  induction entries with
  | nil => rfl
  | cons e entries ih =>
    rw [List.map_cons, firstHere?, firstHere?]
    cases tokenHere? (name (f e)) t with
    | some token => rfl
    | none => exact ih

end

end SearchLink.Template
