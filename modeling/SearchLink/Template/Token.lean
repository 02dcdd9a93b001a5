import SearchLink.Template.Modification
import SearchLink.Unicode.Casing

/-!
# `SearchLink.Template.Token`: finding tokens in a template

A token opens with `{` and a variable's name, matched letter by letter up to case. The
name may go on: `{host` also opens in `{hostname}`, and only the chain behind it shows
whether a token is well-formed.

`findOpening?` finds the first opening, `firstToken?` the token that starts there, if it is
well-formed. `locate?` and `findOffset?` say the same in byte offsets of a whole template.
-/

set_option autoImplicit false

namespace SearchLink.Template

/-- Where a token opens: the text in front of it and the text behind the name. -/
structure Opening where
  /-- The text in front of the brace. -/
  before : Text
  /-- The text behind the variable's name. -/
  after : Text
  deriving Repr, DecidableEq

/-- Reads the letters of `name` up to case and gives the text behind them. -/
def readName? : (name t : Text) → Option Text
  | [], t => some t
  | _ :: _, [] => none
  | n :: ns, c :: cs => if Unicode.sameLetter c n then readName? ns cs else none

/-- The first place where `{name` stands. -/
def findOpening? (name : Text) : Text → Option Opening
  | [] => none
  | c :: r =>
    match readName? ('{' :: name) (c :: r) with
    | some after => some ⟨[], after⟩
    | none => (findOpening? name r).map fun o => { o with before := c :: o.before }

/-- A well-formed token: the text in front of it, its chain and the text behind it. -/
structure Token where
  /-- The text in front of the token. -/
  before : Text
  /-- The modifications that the token asks for. -/
  chain : Chain
  /-- The text behind the closing brace. -/
  rest : Text
  deriving Repr, DecidableEq

/-- The token at the first place where `{name` stands, if it is well-formed. -/
def firstToken? (name t : Text) : Option Token := do
  let opening ← findOpening? name t
  let (chain, rest) ← readChain opening.after
  some ⟨opening.before, chain, rest⟩

/-! ### Offsets -/

/-- The byte offsets of a token, `stop` pointing just past its closing brace. -/
structure Span where
  /-- Offset of the opening brace. -/
  start : Nat
  /-- Offset behind the closing brace. -/
  stop : Nat
  deriving Repr, DecidableEq

/-- A token of a template: where it stands and what it asks for. -/
structure Occurrence where
  /-- The bytes that the token takes up. -/
  span : Span
  /-- The modifications that it asks for. -/
  chain : Chain
  deriving Repr, DecidableEq

/-- The token at the first `{name` from an offset on, if it is well-formed. -/
def locate? (template name : Text) (start : Nat) : Option Occurrence := do
  let t ← template.dropBytes? start
  let token ← firstToken? name t
  some
    { span := ⟨start + token.before.utf8Size, template.utf8Size - token.rest.utf8Size⟩
      chain := token.chain }

/-- The offset of the first `{name` from an offset on, well-formed or not. -/
def findOffset? (template name : Text) (start : Nat) : Option Nat := do
  let t ← template.dropBytes? start
  let opening ← findOpening? name t
  some (start + opening.before.utf8Size)

/-! ### A token takes up text -/

theorem readName?_length {name t r : Text} (h : readName? name t = some r) :
    r.length + name.length = t.length := by
  fun_induction readName? name t with
  | case1 => simp at h; simp [h]
  | case2 => simp at h
  | case3 n ns c cs _ ih =>
    have := ih h
    simp only [List.length_cons]
    omega
  | case4 => simp at h

theorem findOpening?_length {name t : Text} {o : Opening} (h : findOpening? name t = some o) :
    o.before.length + o.after.length < t.length := by
  induction t generalizing o with
  | nil => simp [findOpening?] at h
  | cons c r ih =>
    simp only [findOpening?] at h
    split at h
    · rename_i after hafter
      have := readName?_length hafter
      simp only [Option.some.injEq] at h
      subst h
      simp only [List.length_cons, List.length_nil] at *
      omega
    · obtain ⟨o', ho', rfl⟩ := Option.map_eq_some_iff.1 h
      have := ih ho'
      simp only [List.length_cons]
      omega

theorem readChain_length {t r : Text} {chain : Chain} (h : readChain t = some (chain, r)) :
    r.length < t.length := by
  induction hn : t.length using Nat.strongRecOn generalizing t r chain with
  | _ n ih =>
    subst hn
    cases t with
    | nil => simp [readChain] at h
    | cons c t =>
      unfold readChain at h
      split at h
      · simp at h; simp [h]
      · split at h
        · have := ih t.length (by simp) h rfl
          simp only [List.length_cons]
          omega
        · split at h
          · simp at h
          · rename_i m rest hblock
            have hlen := readBlock_length hblock
            obtain ⟨⟨p, q⟩, hp, hq⟩ := Option.map_eq_some_iff.1 h
            obtain ⟨-, rfl⟩ := Prod.mk.inj hq
            exact Nat.lt_trans (ih rest.length hlen hp rfl) hlen

theorem firstToken?_length {name t : Text} {k : Token} (h : firstToken? name t = some k) :
    k.rest.length < t.length := by
  unfold firstToken? at h
  simp only [Option.bind_eq_bind, Option.bind_eq_some_iff, Prod.exists] at h
  obtain ⟨o, ho, chain, rest, hc, hk⟩ := h
  have h₁ := findOpening?_length ho
  have h₂ := readChain_length hc
  simp only [Option.some.injEq] at hk
  subst hk
  simp only
  omega

end SearchLink.Template
