import SearchLink.Proofs.Template.TokenHere
import SearchLink.Template.Written

/-!
# `SearchLink.Proofs.Template.RoundTrip`: writing a token and finding it again

`writeToken` writes a chain as a token. Not every chain can be written: a name of a function
ends at the first `)`, flags end at the first brace or bar, and a backslash of a pattern
takes its successor along. `Chain.isPrintable` decides what is left: function names without
`)`, flags without braces and bars, and patterns in which every backslash makes a pair with a
next character other than a slash. Literal sources, targets and bounds are free.

* `chainText_writeChain`: a printable chain is written as a text of the grammar for it.
* `ChainText.isPrintable`: every text of the grammar stands for a printable chain.
* `locate?_writeToken`: what is written for a printable chain is located as one token with
  that chain.

`printable_iff_located` joins the two directions: the printable chains are those that can
be located, and each of them is located in its own token.
-/

set_option autoImplicit false

namespace SearchLink.Template

/-- Whether every backslash of a text, read from the left, makes a pair with a next character
other than a slash. -/
def pairsBackslashes : Text → Bool
  | [] => true
  | ['\\'] => false
  | '\\' :: c :: r => c ≠ '/' && pairsBackslashes r
  | _ :: r => pairsBackslashes r

/-- Whether a modification can be written as a block. -/
def Modification.isPrintable : Modification → Bool
  | .slice _ _ => true
  | .replacement _ _ => true
  | .regexReplacement source flags _ => pairsBackslashes source && !flags.any isBraceOrBar
  | .regexMatch source flags => pairsBackslashes source && !flags.any isBraceOrBar
  | .function name => !name.contains ')'

/-- Whether all modifications of a chain can be written. -/
def Chain.isPrintable (chain : Chain) : Bool := chain.all Modification.isPrintable

/-- A character that is no backslash makes no pair. -/
theorem pairsBackslashes_cons_of_ne {c : Char} {r : Text} (hc : c ≠ '\\') :
    pairsBackslashes (c :: r) = pairsBackslashes r := by
  rw [pairsBackslashes.eq_def]
  split
  · rename_i h
    simp at h
  · rename_i h
    exact absurd (List.cons.inj h).1 hc
  · rename_i h
    exact absurd (List.cons.inj h).1 hc
  · rename_i h
    rw [(List.cons.inj h).2]

/-! ### Writing the parts of a block -/

/-- A plain part is written as a text for it. -/
theorem plainText_writePlain (t : Text) : PlainText (writePlain t) t := by
  induction t with
  | nil => exact .nil
  | cons c r ih =>
    have hwrite : writePlain (c :: r) = writePlainChar c ++ writePlain r := List.flatMap_cons
    rw [hwrite, writePlainChar]
    -- The marks are written behind a backslash, all other characters as they are.
    split
    · exact .escaped c ih
    · rename_i hc
      simp only [Bool.or_eq_true, decide_eq_true_eq, not_or, Bool.not_eq_true] at hc
      exact .plain hc.1 hc.2 ih

/-- A character other than a backslash at the start of a written plain part stands for
itself. -/
theorem eq_cons_of_prefix_writePlain {x : Char} {xs t : Text} (hx : x ≠ '\\')
    (h : x :: xs <+: writePlain t) : ∃ r, t = x :: r ∧ xs <+: writePlain r := by
  cases t with
  | nil => simp [writePlain] at h
  | cons c r =>
    have hwrite : writePlain (c :: r) = writePlainChar c ++ writePlain r := List.flatMap_cons
    rw [hwrite, writePlainChar] at h
    split at h
    · exact absurd (List.cons_prefix_cons.1 h).1 hx
    · obtain ⟨rfl, hxs⟩ := List.cons_prefix_cons.1 h
      exact ⟨r, rfl, hxs⟩

/-- A written plain part looks like a pattern only when the part itself does. -/
theorem startsWith_of_prefix_writePlain {t : Text} (h : "re/".toList <+: writePlain t) :
    Text.startsWith "re/".toList t = true := by
  change ['r', 'e', '/'] <+: writePlain t at h
  obtain ⟨t₁, rfl, h₁⟩ := eq_cons_of_prefix_writePlain (x := 'r') (by decide) h
  obtain ⟨t₂, rfl, h₂⟩ := eq_cons_of_prefix_writePlain (x := 'e') (by decide) h₁
  obtain ⟨t₃, rfl, -⟩ := eq_cons_of_prefix_writePlain (x := '/') (by decide) h₂
  rfl

/-- The source of a literal replacement is written as a text for it that does not look like
a pattern. -/
theorem plainText_writeSource (t : Text) :
    PlainText (writeSource t) t ∧ ¬ "re/".toList <+: writeSource t := by
  unfold writeSource
  split
  · rename_i h
    obtain ⟨r, hr⟩ := Option.isSome_iff_exists.1 h
    obtain rfl := Text.stripStart?_eq_some_iff.1 hr
    -- The backslash takes the `r` along, and the rest is written as it is.
    refine ⟨.escaped 'r' (plainText_writePlain ('e' :: '/' :: r)), ?_⟩
    intro hprefix
    exact absurd (List.cons_prefix_cons.1 hprefix).1 (by decide)
  · rename_i h
    exact ⟨plainText_writePlain t, fun hprefix => h (startsWith_of_prefix_writePlain hprefix)⟩

/-- The source of a pattern is written as a text for it. -/
theorem patternText_writePattern {t : Text} (h : pairsBackslashes t = true) :
    PatternText (writePattern t) t := by
  fun_induction writePattern t with
  | case1 => exact .nil
  | case2 c r ih =>
    simp only [pairsBackslashes, Bool.and_eq_true, decide_eq_true_eq] at h
    exact .pair h.1 (ih h.2)
  | case3 r ih =>
    rw [pairsBackslashes_cons_of_ne (by decide)] at h
    exact .slash (ih h)
  | case4 c r hpair hslash ih =>
    -- A backslash without a successor is no pair, so `c` is none.
    have hc : c ≠ '\\' := by
      rintro rfl
      cases r with
      | nil => simp [pairsBackslashes] at h
      | cons d r => exact hpair d r rfl rfl
    rw [pairsBackslashes_cons_of_ne hc] at h
    exact .plain hc hslash (ih h)

/-- A bound is written as a text for it. -/
theorem boundText_writeBound (b : Option Int64) : BoundText (writeBound b) b := by
  cases b with
  | none => exact .unbounded
  | some i => exact .numeral (Text.numeralText_ofInteger i.toInt)

/-- Flags that hold no brace and no bar. -/
theorem isFlagsText_of_any_eq_false {flags : Text} (h : (!flags.any isBraceOrBar) = true) :
    IsFlagsText flags := by
  intro c hc
  rw [Bool.not_eq_true', List.any_eq_false] at h
  simpa using h c hc

/-! ### Writing blocks and chains -/

/-- A brace comes before the letters of a pattern. -/
theorem toList_patternOpen : "\x7bre/".toList = '{' :: "re/".toList := rfl

/-- A printable modification is written as a block for it. -/
theorem blockText_writeBlock {m : Modification} (h : m.isPrintable = true) :
    BlockText (writeBlock m) m := by
  cases m with
  | slice start stop =>
    have hstart := boundText_writeBound start
    have hblock : BlockText ('[' :: (writeBound start ++ ':' :: (writeBound stop ++ [']'])))
        (.slice start stop) :=
      .slice (fun hmem => by simpa using hstart.no_mark _ hmem)
        (fun hmem => by simpa using hstart.no_mark _ hmem) hstart (boundText_writeBound stop)
    -- What is written and the text of the grammar differ in how they are bracketed alone.
    show BlockText ('[' :: writeBound start ++ ':' :: writeBound stop ++ [']']) _
    simpa only [List.cons_append, List.append_assoc] using hblock
  | replacement source target =>
    obtain ⟨hsource, hre⟩ := plainText_writeSource source
    have hblock := BlockText.replacement hsource hre (plainText_writePlain target)
    show BlockText ('{' :: writeSource source ++ '|' :: writePlain target ++ ['}']) _
    simpa only [List.cons_append, List.append_assoc] using hblock
  | regexReplacement source flags target =>
    obtain ⟨hpairs, hany⟩ := Bool.and_eq_true_iff.1 h
    have hblock := BlockText.regexReplacement (patternText_writePattern hpairs)
      (isFlagsText_of_any_eq_false hany) (plainText_writePlain target)
    show BlockText ("\x7bre/".toList ++ writePattern source ++ '/' :: flags ++
      '|' :: writePlain target ++ ['}']) _
    simpa only [toList_patternOpen, List.cons_append, List.append_assoc] using hblock
  | regexMatch source flags =>
    obtain ⟨hpairs, hany⟩ := Bool.and_eq_true_iff.1 h
    have hblock := BlockText.regexMatch (patternText_writePattern hpairs)
      (isFlagsText_of_any_eq_false hany)
    show BlockText ("\x7bre/".toList ++ writePattern source ++ '/' :: flags ++ ['}']) _
    simpa only [toList_patternOpen, List.cons_append, List.append_assoc] using hblock
  | function name =>
    have hname : ')' ∉ name := by simpa [Modification.isPrintable] using h
    exact .function hname

/-- A printable chain is written as a text of the grammar for it. -/
theorem chainText_writeChain {chain : Chain} (h : chain.isPrintable = true) :
    ChainText (writeChain chain) chain := by
  induction chain with
  | nil => exact .close
  | cons m chain ih =>
    obtain ⟨hm, hrest⟩ := Bool.and_eq_true_iff.1 h
    have hwrite : writeChain (m :: chain) = writeBlock m ++ writeChain chain := by
      simp only [writeChain, List.flatMap_cons, List.append_assoc]
    rw [hwrite]
    exact .block (blockText_writeBlock hm) (ih hrest)

/-! ### What the grammar stands for -/

/-- The source of a pattern pairs its backslashes. -/
theorem PatternText.pairsBackslashes {w t : Text} (h : PatternText w t) :
    pairsBackslashes t = true := by
  induction h with
  | nil => rfl
  | slash _ ih => rw [pairsBackslashes_cons_of_ne (by decide), ih]
  | pair hc _ ih => simp [Template.pairsBackslashes, hc, ih]
  | plain hc _ _ ih => rw [pairsBackslashes_cons_of_ne hc, ih]

/-- Flags of the grammar hold no brace and no bar. -/
theorem IsFlagsText.any_eq_false {flags : Text} (h : IsFlagsText flags) :
    (!flags.any isBraceOrBar) = true := by
  rw [Bool.not_eq_true', List.any_eq_false]
  intro c hc
  simp [h c hc]

/-- Every block stands for a printable modification. -/
theorem BlockText.isPrintable {w : Text} {m : Modification} (h : BlockText w m) :
    m.isPrintable = true := by
  cases h with
  | replacement _ _ _ => rfl
  | regexMatch hw hflags => exact Bool.and_eq_true_iff.2 ⟨hw.pairsBackslashes, hflags.any_eq_false⟩
  | regexReplacement hw hflags _ =>
    exact Bool.and_eq_true_iff.2 ⟨hw.pairsBackslashes, hflags.any_eq_false⟩
  | function hname => simpa [Modification.isPrintable] using hname
  | index _ _ => rfl
  | slice _ _ _ _ => rfl

/-- Every text of the grammar stands for a printable chain. -/
theorem ChainText.isPrintable {w : Text} {chain : Chain} (h : ChainText w chain) :
    chain.isPrintable = true := by
  induction h with
  | close => rfl
  | blank _ ih => exact ih
  | block hb _ ih => exact Bool.and_eq_true_iff.2 ⟨hb.isPrintable, ih⟩

/-! ### Tokens -/

/-- The token that is written for a printable chain is located as a whole, with that
chain. -/
theorem locate?_writeToken (name : Text) {chain : Chain} (h : chain.isPrintable = true) :
    locate? (writeToken name chain) name 0
      = some ⟨⟨0, (writeToken name chain).utf8Size⟩, chain⟩ := by
  -- The name is read off its own letters, and the chain takes up all the rest.
  have hname : readName? ('{' :: name) (writeToken name chain) = some (writeChain chain) :=
    readName?_eq_some_iff.2 ⟨'{' :: name, rfl, SameLetters.refl _⟩
  have hchain : readChain (writeChain chain) = some (chain, []) := by
    have hread := readChain_append (chainText_writeChain h) []
    rwa [List.append_nil] at hread
  have hhere : tokenHere? name (writeToken name chain) = some (chain, []) := by
    rw [tokenHere?, hname, Option.bind_some, hchain]
  exact locate?_of_tokenHere? [] hhere

/-- Whatever is located has a printable chain. -/
theorem isPrintable_of_locate? {template name : Text} {start : Nat} {k : Occurrence}
    (h : locate? template name start = some k) : k.chain.isPrintable = true := by
  obtain ⟨t, o, rest, -, -, hchain, -⟩ := locate?_eq_some_iff.1 h
  obtain ⟨w, -, hw⟩ := readChain_eq_some_iff.1 hchain
  exact hw.isPrintable

/-- **Writing and locating are inverse.** Under every name, what is written for a printable
chain is a template on which that chain is located, with the whole template as its span. And
every chain that is located in any template is printable, so that writing and locating it
again gives it back. -/
theorem printable_iff_located :
    (∀ name chain, Chain.isPrintable chain = true →
      locate? (writeToken name chain) name 0
        = some ⟨⟨0, (writeToken name chain).utf8Size⟩, chain⟩) ∧
    (∀ template name start k, locate? template name start = some k →
      k.chain.isPrintable = true ∧ ∀ name',
        locate? (writeToken name' k.chain) name' 0
          = some ⟨⟨0, (writeToken name' k.chain).utf8Size⟩, k.chain⟩) :=
  ⟨fun name _ h => locate?_writeToken name h, fun _ _ _ _ h =>
    ⟨isPrintable_of_locate? h, fun name' => locate?_writeToken name' (isPrintable_of_locate? h)⟩⟩

/-- A source that looks like a pattern, a backslash as target, a pattern with a pair and a
slash, and the least bound of a slice, under one name and then under another one. -/
theorem printable_iff_located_escapes :
    Chain.isPrintable [.replacement "re/|".toList ['\\'], .regexMatch "\\d/".toList ['i'],
        .slice (some Int64.minValue) none] = true ∧
      locate? "\x7bq\x7b\\re/\\||\\\\\x7d\x7bre/\\d\\//i\x7d[-9223372036854775808:]\x7d".toList
          "q".toList 0
        = some ⟨⟨0, 48⟩, [.replacement "re/|".toList ['\\'], .regexMatch "\\d/".toList ['i'],
            .slice (some Int64.minValue) none]⟩ ∧
      locate? "\x7bß\x7b\\re/\\||\\\\\x7d\x7bre/\\d\\//i\x7d[-9223372036854775808:]\x7d".toList
          "ß".toList 0
        = some ⟨⟨0, 49⟩, [.replacement "re/|".toList ['\\'], .regexMatch "\\d/".toList ['i'],
            .slice (some Int64.minValue) none]⟩ := by
  have hprintable : Chain.isPrintable [.replacement "re/|".toList ['\\'],
      .regexMatch "\\d/".toList ['i'], .slice (some Int64.minValue) none] = true := by decide
  have hlocated := printable_iff_located.1 "q".toList _ hprintable
  exact ⟨hprintable, hlocated, (printable_iff_located.2 _ _ _ _ hlocated).2 "ß".toList⟩

end SearchLink.Template
