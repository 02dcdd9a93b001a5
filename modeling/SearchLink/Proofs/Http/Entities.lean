import Mathlib.Data.List.Basic
import Mathlib.Data.List.Pairwise
import SearchLink.Http.Markup

/-!
# `SearchLink.Proofs.Http.Entities`: texts with entities in them

`Entities` is a table of characters that a page does not show as they are, each with the entity
that is written for it. Its fields say what makes such a table sound: the ampersand is one of the
characters, an entity has none of them behind its ampersand, and no entity begins with another.

`Entities.escape` writes a text by the table in one pass, and `Entities.unescape` reads it in one
pass from left to right. For every table:

* `not_mem_escape`: an escaped text holds none of the characters but the ampersand.
* `exists_entity_of_escape_eq`: each ampersand in it begins an entity.
* `unescape_escape`: reading gives back the text, so that no two texts are escaped alike.

The two ways to keep a text from being read as markup are escapes by such tables. One of them is
written as a replacement after another; `foldl_replaceAll` says when that is a single pass.
-/

set_option autoImplicit false

namespace SearchLink.Http.Markup

/-- Characters that are not shown as they are, with their entities. -/
structure Entities where
  /-- The characters, each with its entity. -/
  entries : List (Char × Text)
  /-- The ampersand is one of the characters. -/
  ampersand : entries.any (fun e => e.1 = '&') = true
  /-- An entity begins with an ampersand and holds none of the characters behind it. -/
  form : entries.all (fun e => e.2.head? = some '&' &&
    e.2.tail.all fun c => !entries.any fun f => f.1 = c) = true
  /-- No entity begins with another. -/
  apart : entries.Pairwise fun e f => ¬ e.2 <+: f.2 ∧ ¬ f.2 <+: e.2

namespace Entities

/-- The entity of a character. -/
def entity? (E : Entities) (c : Char) : Option Text :=
  (E.entries.find? fun e => e.1 = c).map Prod.snd

/-- A text with the entities of its characters, in one pass. -/
def escape (E : Entities) (t : Text) : Text := t.flatMap fun c => (E.entity? c).getD [c]

/-- The character whose entity stands at the start of a text, and the text behind it. -/
def readEntity? (E : Entities) (t : Text) : Option (Char × Text) :=
  E.entries.findSome? fun e => (Text.stripStart? e.2 t).map fun rest => (e.1, rest)

variable {E : Entities} {c d : Char} {t r entity : Text}

/-! ### The table -/

/-- An entity stands in the table. -/
theorem mem_entries_of_entity? (h : E.entity? c = some entity) : (c, entity) ∈ E.entries := by
  obtain ⟨e, he, rfl⟩ := Option.map_eq_some_iff.1 h
  have hc : e.1 = c := by simpa using List.find?_some he
  exact hc ▸ List.mem_of_find?_eq_some he

/-- A character without an entity is none of the table. -/
theorem entity?_eq_none_iff : E.entity? c = none ↔ (E.entries.any fun e => e.1 = c) = false := by
  simp [entity?]

/-- The ampersand has an entity. -/
theorem ne_ampersand_of_entity?_eq_none (h : E.entity? c = none) : c ≠ '&' := by
  rintro rfl
  rw [entity?_eq_none_iff, E.ampersand] at h
  simp at h

/-- An entity is an ampersand and characters that need none. -/
theorem exists_eq_of_mem_entries (h : (c, entity) ∈ E.entries) :
    ∃ word, entity = '&' :: word ∧ ∀ d ∈ word, E.entity? d = none := by
  have hform := List.all_eq_true.1 E.form _ h
  simp only [Bool.and_eq_true, decide_eq_true_eq, List.all_eq_true, Bool.not_eq_true'] at hform
  obtain ⟨hhead, htail⟩ := hform
  obtain ⟨word, rfl⟩ := List.head?_eq_some_iff.1 hhead
  exact ⟨word, rfl, fun d hd => entity?_eq_none_iff.2 (htail d hd)⟩

/-! ### Escaped texts -/

/-- A text is escaped character by character. -/
theorem escape_cons (E : Entities) (c : Char) (t : Text) :
    E.escape (c :: t) = (E.entity? c).getD [c] ++ E.escape t := rfl

/-- What is written for a character holds no character of the table but the ampersand. -/
theorem eq_ampersand_or_of_mem_getD (h : d ∈ (E.entity? c).getD [c]) :
    d = '&' ∨ E.entity? d = none := by
  cases hc : E.entity? c with
  | none =>
    rw [hc, Option.getD_none, List.mem_singleton] at h
    exact .inr (h ▸ hc)
  | some entity =>
    obtain ⟨word, rfl, hword⟩ := exists_eq_of_mem_entries (mem_entries_of_entity? hc)
    rw [hc, Option.getD_some] at h
    rcases List.mem_cons.1 h with rfl | hd
    · exact .inl rfl
    · exact .inr (hword d hd)

section
variable {marks : List Char}
  (hmarks : marks.all (fun c => (E.entity? c).isSome && c ≠ '&') = true)
include hmarks

/-- An escaped text holds no character of the table but the ampersand. -/
theorem not_mem_escape (hc : c ∈ marks) : c ∉ E.escape t := by
  intro h
  have hboth := List.all_eq_true.1 hmarks c hc
  rw [Bool.and_eq_true, decide_eq_true_eq] at hboth
  obtain ⟨d, -, hd⟩ := List.mem_flatMap.1 h
  rcases eq_ampersand_or_of_mem_getD hd with rfl | hnone
  · exact hboth.2 rfl
  · rw [hnone] at hboth
    simp at hboth

/-- So it adds none of these characters to a page. -/
theorem filter_escape (t : Text) : (E.escape t).filter marks.contains = [] := by
  rw [List.filter_eq_nil_iff]
  intro c hc hmark
  exact not_mem_escape hmarks (List.contains_iff_mem.1 hmark) hc

end

/-- Each ampersand in an escaped text begins an entity. -/
theorem exists_entity_of_escape_eq {before after : Text}
    (h : E.escape t = before ++ '&' :: after) :
    ∃ e ∈ E.entries, e.2 <+: '&' :: after := by
  induction t generalizing before with
  | nil => simp [escape] at h
  | cons c t ih =>
    rw [escape_cons] at h
    cases hc : E.entity? c with
    | none =>
      -- The character is copied and no ampersand, so the ampersand stands further on.
      rw [hc, Option.getD_none, List.singleton_append] at h
      cases before with
      | nil => exact absurd (List.cons.inj h).1 (ne_ampersand_of_entity?_eq_none hc)
      | cons b before => exact ih (List.cons.inj h).2
    | some entity =>
      have hmem := mem_entries_of_entity? hc
      rw [hc, Option.getD_some] at h
      rcases List.append_eq_append_iff.1 h with ⟨before', -, hrest⟩ | ⟨word, hentity, hafter⟩
      · exact ih hrest
      · cases word with
        | nil =>
          have hrest : E.escape t = [] ++ '&' :: after := hafter.symm
          exact ih hrest
        | cons w word =>
          -- The ampersand stands in the entity itself, and there it can only be the first one.
          obtain ⟨rfl, -⟩ := List.cons.inj hafter
          obtain ⟨tail, hform, htail⟩ := exists_eq_of_mem_entries hmem
          cases before with
          | nil => exact ⟨_, hmem, by rw [hafter, hentity]; exact List.prefix_append _ _⟩
          | cons b before =>
            rw [hform, List.cons_append] at hentity
            have hampersand : '&' ∈ tail := by
              rw [(List.cons.inj hentity).2]
              exact List.mem_append_right _ List.mem_cons_self
            exact absurd rfl (ne_ampersand_of_entity?_eq_none (htail _ hampersand))

/-! ### Reading -/

/-- An entity is read where it stands. -/
theorem readEntity?_append (h : (c, entity) ∈ E.entries) (r : Text) :
    E.readEntity? (entity ++ r) = some (c, r) := by
  -- No other entry of the table fits: its entity and this one would begin the same text.
  have hother : ∀ e ∈ E.entries, ∀ rest, entity ++ r = e.2 ++ rest → e = (c, entity) := by
    intro e he rest heq
    by_contra hne
    have hsymm : Std.Symm fun e f : Char × Text => ¬ e.2 <+: f.2 ∧ ¬ f.2 <+: e.2 :=
      ⟨fun _ _ h => h.symm⟩
    obtain ⟨hno, hno'⟩ := E.apart.forall he h hne
    rcases List.prefix_or_prefix_of_prefix (List.prefix_append e.2 rest)
        (heq ▸ List.prefix_append entity r) with hprefix | hprefix
    · exact hno hprefix
    · exact hno' hprefix
  have hstrip : Text.stripStart? entity (entity ++ r) = some r :=
    Text.stripStart?_eq_some_iff.2 rfl
  cases hread : E.readEntity? (entity ++ r) with
  | none =>
    have hnone := List.findSome?_eq_none_iff.1 hread _ h
    rw [hstrip] at hnone
    simp at hnone
  | some found =>
    obtain ⟨e, he, hfound⟩ := List.exists_of_findSome?_eq_some hread
    obtain ⟨rest, hrest, rfl⟩ := Option.map_eq_some_iff.1 hfound
    have heq := Text.stripStart?_eq_some_iff.1 hrest
    obtain rfl := hother e he rest heq
    rw [List.append_cancel_left heq]

/-- Where no ampersand stands, no entity is read. -/
theorem readEntity?_cons_of_ne (h : c ≠ '&') : E.readEntity? (c :: r) = none := by
  refine List.findSome?_eq_none_iff.2 fun e he => ?_
  obtain ⟨word, hword, -⟩ := exists_eq_of_mem_entries (show (e.1, e.2) ∈ E.entries from he)
  rw [hword, Text.stripStart?, if_neg (Ne.symm h)]
  rfl

/-- An entity takes up text. -/
theorem readEntity?_length (h : E.readEntity? t = some (c, r)) : r.length < t.length := by
  obtain ⟨e, he, hfound⟩ := List.exists_of_findSome?_eq_some h
  obtain ⟨rest, hrest, hpair⟩ := Option.map_eq_some_iff.1 hfound
  obtain ⟨-, rfl⟩ := Prod.mk.inj hpair
  obtain ⟨word, hword, -⟩ := exists_eq_of_mem_entries (show (e.1, e.2) ∈ E.entries from he)
  rw [Text.stripStart?_eq_some_iff.1 hrest, hword, List.length_append, List.length_cons]
  omega

/-- A text with the characters that its entities stand for, in one pass from left to right. -/
def unescape (E : Entities) : Text → Text
  | [] => []
  | c :: r =>
    match _read : E.readEntity? (c :: r) with
    | some (d, rest) => d :: unescape E rest
    | none => c :: unescape E r
termination_by t => t.length
decreasing_by
  · exact readEntity?_length _read
  · exact Nat.lt_succ_self r.length

/-- Behind an entity the pass goes on. -/
theorem unescape_of_readEntity? (h : E.readEntity? t = some (c, r)) :
    E.unescape t = c :: E.unescape r := by
  cases t with
  | nil => exact absurd (readEntity?_length h) (Nat.not_lt_zero _)
  | cons d t =>
    rw [unescape]
    split
    · rename_i hread
      rw [h] at hread
      obtain ⟨rfl, rfl⟩ := Prod.mk.inj (Option.some.inj hread)
      rfl
    · rename_i hread
      rw [h] at hread
      simp at hread

/-- A character that begins no entity is copied. -/
theorem unescape_cons (h : E.readEntity? (c :: r) = none) :
    E.unescape (c :: r) = c :: E.unescape r := by
  rw [unescape]
  split
  · rename_i hread
    rw [h] at hread
    simp at hread
  · rfl

/-- Reading an escaped text gives back the text. -/
theorem unescape_escape (E : Entities) (t : Text) : E.unescape (E.escape t) = t := by
  induction t with
  | nil => rw [escape, List.flatMap_nil, unescape]
  | cons c t ih =>
    rw [escape_cons]
    cases hc : E.entity? c with
    | none =>
      have hread : E.readEntity? (c :: E.escape t) = none :=
        readEntity?_cons_of_ne (ne_ampersand_of_entity?_eq_none hc)
      rw [Option.getD_none, List.singleton_append, unescape_cons hread, ih]
    | some entity =>
      rw [Option.getD_some,
        unescape_of_readEntity? (readEntity?_append (mem_entries_of_entity? hc) _), ih]

/-- No two texts are escaped alike. -/
theorem escape_inj {s t : Text} (h : E.escape s = E.escape t) : s = t := by
  rw [← unescape_escape E s, h, unescape_escape]

end Entities

/-! ### One replacement after another -/

/-- Replacing a character replaces each of its occurrences. -/
theorem replaceAll_singleton (c : Char) (target t : Text) :
    Text.replaceAll [c] target t = t.flatMap fun d => if d = c then target else [d] := by
  induction t with
  | nil => rw [Text.replaceAll]; rfl
  | cons d r ih =>
    rw [Text.replaceAll, List.flatMap_cons, ← ih]
    by_cases h : c = d
    · simp [Text.stripStart?, h]
    · simp [Text.stripStart?, h, Ne.symm h]

/-- Replacements one after another are a single pass when none finds what an earlier one has
put in. -/
theorem foldl_replaceAll {entries : List (Char × Text)}
    (h : entries.Pairwise fun e f => f.1 ≠ e.1 ∧ f.1 ∉ e.2) (t : Text) :
    entries.foldl (fun t e => Text.replaceAll [e.1] e.2 t) t
      = t.flatMap fun c => ((entries.find? fun e => e.1 = c).map Prod.snd).getD [c] := by
  induction entries generalizing t with
  | nil => exact (List.flatMap_singleton' t).symm
  | cons e es ih =>
    obtain ⟨hfirst, hrest⟩ := List.pairwise_cons.1 h
    rw [List.foldl_cons, ih hrest, replaceAll_singleton, List.flatMap_assoc]
    refine List.flatMap_congr fun c _ => ?_
    by_cases hc : c = e.1
    · -- What the first replacement puts in is left alone by all others.
      have hcopied : ∀ d ∈ e.2, (((es.find? fun f => f.1 = d).map Prod.snd).getD [d]) = [d] := by
        intro d hd
        have hnone : (es.find? fun f => f.1 = d) = none := by
          refine List.find?_eq_none.2 fun f hf hfd => ?_
          have hd' : f.1 = d := by simpa using hfd
          exact (hfirst f hf).2 (hd' ▸ hd)
        rw [hnone]
        rfl
      rw [if_pos hc, List.flatMap_congr hcopied, List.flatMap_singleton']
      simp [hc]
    · rw [if_neg hc, List.flatMap_singleton]
      simp [Ne.symm hc]

end SearchLink.Http.Markup
