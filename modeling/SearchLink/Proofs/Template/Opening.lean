import SearchLink.Proofs.Text.ByteRange
import SearchLink.Template.Token
import Mathlib.Data.List.Forall2

/-!
# `SearchLink.Proofs.Template.Opening`: where the name of a variable stands

`SameLetters` compares two texts letter by letter up to case. With it the search for a token
is said without the search:

* `readName?_eq_some_iff`: a name is read off a text that begins with the same letters.
* `findOpening?_eq_some_iff`: the opening found is the first place where the letters of
  `{name` stand.
* `locate?_eq_some_iff`: the occurrence located from an offset on lies at the first opening
  behind that offset, and its chain is what `readChain` reads there.

`OpensAt` and `FirstOpensAt` say the same in byte offsets of a whole template.
-/

set_option autoImplicit false

namespace SearchLink.Template

/-- Two texts of one length with the same letters up to case. -/
def SameLetters (word name : Text) : Prop :=
  List.Forall₂ (fun c n => Unicode.sameLetter c n = true) word name

instance (word name : Text) : Decidable (SameLetters word name) :=
  inferInstanceAs (Decidable (List.Forall₂ _ word name))

/-- A character is the same letter as itself. -/
theorem sameLetter_self (c : Char) : Unicode.sameLetter c c = true := by
  simp [Unicode.sameLetter]

/-- A text has the same letters as itself. -/
theorem SameLetters.refl (t : Text) : SameLetters t t := by
  induction t with
  | nil => exact .nil
  | cons c r ih => exact .cons (sameLetter_self c) ih

/-- A name is read off a text when the text begins with the letters of the name. -/
theorem readName?_eq_some_iff {name t r : Text} :
    readName? name t = some r ↔ ∃ word, t = word ++ r ∧ SameLetters word name := by
  constructor
  · intro h
    fun_induction readName? name t with
    | case1 t =>
      obtain rfl := Option.some.inj h
      exact ⟨[], rfl, .nil⟩
    | case2 => simp at h
    | case3 n ns c cs hsame ih =>
      obtain ⟨word, rfl, hword⟩ := ih h
      exact ⟨c :: word, rfl, .cons hsame hword⟩
    | case4 => simp at h
  · rintro ⟨word, rfl, hword⟩
    induction hword with
    | nil => rfl
    | cons hsame _ ih => simpa only [List.cons_append, readName?, hsame, if_true] using ih

/-- Each letter of a word is the same as some letter of the name. -/
theorem SameLetters.exists_of_mem {word name : Text} {c : Char} (h : SameLetters word name)
    (hc : c ∈ word) : ∃ n ∈ name, Unicode.sameLetter c n = true := by
  induction h with
  | nil => simp at hc
  | @cons d n _ _ hsame _ ih =>
    rcases List.mem_cons.1 hc with rfl | hc
    · exact ⟨n, List.mem_cons_self, hsame⟩
    · obtain ⟨m, hm, hsame⟩ := ih hc
      exact ⟨m, List.mem_cons_of_mem n hm, hsame⟩

/-- Two words with the letters of one name at the same place are the same word. -/
theorem SameLetters.eq_of_append {name word word' r r' : Text} (h : SameLetters word name)
    (h' : SameLetters word' name) (heq : word ++ r = word' ++ r') : word = word' ∧ r = r' := by
  have hlen : word.length = word'.length := h.length_eq.trans h'.length_eq.symm
  exact List.append_inj heq hlen

/-! ### The first opening -/

/-- Where the letters of `{name` stand at the start of a text, they are found there. -/
theorem findOpening?_of_readName? {name t after : Text}
    (h : readName? ('{' :: name) t = some after) :
    findOpening? name t = some ⟨[], after⟩ := by
  cases t with
  | nil => simp [readName?] at h
  | cons c r => simp only [findOpening?, h]

/-- Where they do not, the search goes on behind the first character. -/
theorem findOpening?_cons_of_readName?_eq_none {name r : Text} {c : Char}
    (h : readName? ('{' :: name) (c :: r) = none) :
    findOpening? name (c :: r)
      = (findOpening? name r).map fun o => { o with before := c :: o.before } := by
  simp only [findOpening?, h]

/-- An opening cuts the text into what stands in front, the letters of `{name` and what
stands behind. -/
theorem findOpening?_split {name t : Text} {o : Opening} (h : findOpening? name t = some o) :
    ∃ word, t = o.before ++ word ++ o.after ∧ SameLetters word ('{' :: name) := by
  induction t generalizing o with
  | nil => simp [findOpening?] at h
  | cons c r ih =>
    cases hread : readName? ('{' :: name) (c :: r) with
    | some after =>
      rw [findOpening?_of_readName? hread] at h
      obtain rfl := Option.some.inj h
      exact readName?_eq_some_iff.1 hread
    | none =>
      -- The opening is that of the rest, with `c` in front of it.
      rw [findOpening?_cons_of_readName?_eq_none hread] at h
      obtain ⟨o', ho', rfl⟩ := Option.map_eq_some_iff.1 h
      obtain ⟨word, rfl, hword⟩ := ih ho'
      exact ⟨word, rfl, hword⟩

/-- Wherever the letters of `{name` stand, an opening is found, and it lies no later. -/
theorem exists_findOpening?_le {name word : Text} (before after : Text)
    (hword : SameLetters word ('{' :: name)) :
    ∃ o, findOpening? name (before ++ word ++ after) = some o ∧
      o.before.length ≤ before.length := by
  induction before with
  | nil =>
    have hread : readName? ('{' :: name) (word ++ after) = some after :=
      readName?_eq_some_iff.2 ⟨word, rfl, hword⟩
    exact ⟨⟨[], after⟩, findOpening?_of_readName? hread, Nat.le_refl _⟩
  | cons c before ih =>
    obtain ⟨o, ho, hle⟩ := ih
    -- The name opens at `c` already, or the opening of the rest moves by one character.
    cases hread : readName? ('{' :: name) (c :: before ++ word ++ after) with
    | some rest =>
      exact ⟨⟨[], rest⟩, findOpening?_of_readName? hread, Nat.zero_le _⟩
    | none =>
      refine ⟨{ o with before := c :: o.before }, ?_, Nat.succ_le_succ hle⟩
      rw [List.cons_append, List.cons_append] at hread ⊢
      rw [findOpening?_cons_of_readName?_eq_none hread, ho]
      rfl

/-- The opening that is found is the first place where the letters of `{name` stand. -/
theorem findOpening?_eq_some_iff {name t : Text} {o : Opening} :
    findOpening? name t = some o ↔
      (∃ word, t = o.before ++ word ++ o.after ∧ SameLetters word ('{' :: name)) ∧
      ∀ before word after, t = before ++ word ++ after → SameLetters word ('{' :: name) →
        o.before.length ≤ before.length := by
  constructor
  · intro h
    refine ⟨findOpening?_split h, ?_⟩
    rintro before word after rfl hword
    obtain ⟨o', ho', hle⟩ := exists_findOpening?_le before after hword
    rw [h] at ho'
    obtain rfl := Option.some.inj ho'
    exact hle
  · rintro ⟨⟨word, rfl, hword⟩, hfirst⟩
    obtain ⟨o', ho', hle⟩ :=
      exists_findOpening?_le o.before o.after hword
    obtain ⟨word', hsplit, hword'⟩ := findOpening?_split ho'
    -- Both openings are first, so they cut the text at the same place.
    have hge := hfirst o'.before word' o'.after hsplit hword'
    rw [List.append_assoc, List.append_assoc] at hsplit
    obtain ⟨hbefore, htail⟩ := List.append_inj hsplit (Nat.le_antisymm hge hle)
    obtain ⟨-, hafter⟩ := hword.eq_of_append hword' htail
    rw [ho']
    cases o
    cases o'
    simp_all

/-! ### Openings in byte offsets -/

/-- The letters of `{name` stand in a template from byte `s` up to byte `a`. -/
def OpensAt (template name : Text) (s a : Nat) : Prop :=
  ∃ word, template.sliceBytes? s a = some word ∧ SameLetters word ('{' :: name)

/-- The first letters of `{name` at or behind byte `start`, itself an offset between two
characters, stand from byte `s` up to byte `a`. -/
structure FirstOpensAt (template name : Text) (start s a : Nat) : Prop where
  boundary : (template.dropBytes? start).isSome
  start_le : start ≤ s
  opens : OpensAt template name s a
  first : ∀ s' a', start ≤ s' → OpensAt template name s' a' → s ≤ s'

/-- The first opening in the text behind an offset, said in offsets. -/
theorem firstOpensAt_iff {template name : Text} {start s a : Nat} :
    FirstOpensAt template name start s a ↔
      ∃ front t word o, template = front ++ t ∧ front.utf8Size = start ∧
        findOpening? name t = some o ∧ t = o.before ++ word ++ o.after ∧
        SameLetters word ('{' :: name) ∧
        s = start + o.before.utf8Size ∧ a = s + word.utf8Size := by
  constructor
  · rintro ⟨hboundary, hle, ⟨word, hslice, hword⟩, hfirst⟩
    obtain ⟨t, ht⟩ := Option.isSome_iff_exists.1 hboundary
    obtain ⟨front, rfl, rfl⟩ := Text.dropBytes?_eq_some_iff.1 ht
    obtain ⟨p, r, hsplit, rfl, rfl⟩ := Text.sliceBytes?_eq_some_iff.1 hslice
    rw [List.append_assoc] at hsplit
    obtain ⟨before, rfl, rfl⟩ := Text.exists_append_of_utf8Size_le hsplit hle
    obtain ⟨o, ho, hlen⟩ := exists_findOpening?_le before r hword
    rw [List.append_assoc] at ho
    obtain ⟨word', ht', hword'⟩ := findOpening?_split ho
    -- The opening found stands no later in characters, and by `hfirst` no earlier in bytes.
    have hopens : OpensAt (front ++ (before ++ (word ++ r))) name
        (front ++ o.before).utf8Size ((front ++ o.before).utf8Size + word'.utf8Size) := by
      refine ⟨word', Text.sliceBytes?_eq_some_iff.2 ⟨front ++ o.before, o.after, ?_, rfl, rfl⟩,
        hword'⟩
      rw [ht']
      simp only [List.append_assoc]
    have hge := hfirst _ _ (by rw [Text.utf8Size_append]; exact Nat.le_add_right _ _) hopens
    have hcut : before ++ (word ++ r) = o.before ++ (word' ++ o.after) := by
      rw [ht', List.append_assoc]
    have hle' := Text.utf8Size_le_of_length_le hcut.symm hlen
    rw [Text.utf8Size_append, Text.utf8Size_append] at hge
    obtain ⟨hbefore, htail⟩ := Text.append_inj_of_utf8Size hcut (by omega)
    obtain ⟨hsame, -⟩ := hword.eq_of_append hword' htail
    refine ⟨front, before ++ (word ++ r), word', o, rfl, rfl, ho, ht', hword', ?_, ?_⟩
    · rw [Text.utf8Size_append, hbefore]
    · rw [hsame]
  · rintro ⟨front, t, word, o, rfl, rfl, ho, ht, hword, rfl, rfl⟩
    refine ⟨?_, Nat.le_add_right _ _, ⟨word, ?_, hword⟩, ?_⟩
    · rw [Text.dropBytes?_append]
      rfl
    · refine Text.sliceBytes?_eq_some_iff.2 ⟨front ++ o.before, o.after, ?_, ?_, rfl⟩
      · rw [ht]
        simp only [List.append_assoc]
      · rw [Text.utf8Size_append]
    -- Any other place behind the offset lies in `t`, where `o` is the first.
    · rintro s' a' hle ⟨word', hslice, hword'⟩
      obtain ⟨p, r, hsplit, rfl, rfl⟩ := Text.sliceBytes?_eq_some_iff.1 hslice
      rw [List.append_assoc] at hsplit
      obtain ⟨before, rfl, hcut⟩ := Text.exists_append_of_utf8Size_le hsplit hle
      have hlen := (findOpening?_eq_some_iff.1 ho).2 before word' r
        (by rw [hcut, List.append_assoc]) hword'
      have hcut' : o.before ++ (word ++ o.after) = before ++ (word' ++ r) := by
        rw [← List.append_assoc, ← ht, hcut]
      have := Text.utf8Size_le_of_length_le hcut' hlen
      rw [Text.utf8Size_append]
      omega

/-- An occurrence is located at the first opening behind the offset. It ends where
`readChain` stops, and asks for what `readChain` reads. -/
theorem locate?_eq_some_iff {template name : Text} {start : Nat} {k : Occurrence} :
    locate? template name start = some k ↔
      ∃ t o rest, template.dropBytes? start = some t ∧ findOpening? name t = some o ∧
        readChain o.after = some (k.chain, rest) ∧
        k.span = ⟨start + o.before.utf8Size, template.utf8Size - rest.utf8Size⟩ := by
  simp only [locate?, firstToken?, Option.bind_eq_bind, Option.bind_eq_some_iff, Prod.exists]
  constructor
  · rintro ⟨t, ht, token, ⟨o, ho, chain, rest, hchain, htoken⟩, hk⟩
    obtain rfl := Option.some.inj htoken
    obtain rfl := Option.some.inj hk
    exact ⟨t, o, rest, ht, ho, hchain, rfl⟩
  · rintro ⟨t, o, rest, ht, ho, hchain, hspan⟩
    refine ⟨t, ht, ⟨o.before, k.chain, rest⟩, ⟨o, ho, k.chain, rest, hchain, rfl⟩, ?_⟩
    rw [← hspan]

end SearchLink.Template
