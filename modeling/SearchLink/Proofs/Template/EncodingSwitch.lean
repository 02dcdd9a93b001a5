import SearchLink.Proofs.Template.RegistryRun

/-!
# `SearchLink.Proofs.Template.EncodingSwitch`: the step that switches the encoding off

The result of a chain is percent-encoded unless a step of the chain switches that off. Whether a
step does is read off its name, and what the step does to the text is looked up in the registry.
The two are told apart nowhere else, so they have to agree on every spelling of the name:

* `disablesEncoding_function_iff`: a name switches the encoding off exactly if the standard
  registry finds the function for it.
* `apply_of_disablesEncoding`: such a step gives back every text, so it can be left out of a chain
  once its switch has been taken note of.

`encoding_switch` says what follows for the text that is rendered.
-/

set_option autoImplicit false

namespace SearchLink.Template

open SearchLink.Unicode (asciiLower)

/-! ### Names of functions -/

/-- A registry finds the same function for all spellings of a name. -/
theorem Registry.get?_of_sameAsciiLetters (registry : Registry) {name other : Text}
    (h : sameAsciiLetters name other = true) : registry.get? name = registry.get? other := by
  rw [get?, get?, sameAsciiLetters_iff.1 h]

/-- The standard registry finds the function that switches the encoding off under its own name. -/
theorem get?_eq_disableUriEncoding_iff {name : Text} :
    Registry.standard.get? name = some Registry.disableUriEncoding ↔
      asciiLower name = disableEncodingName := by
  constructor
  · intro h
    have hname := List.find?_some h
    rw [decide_eq_true_iff] at hname
    exact hname.symm
  · intro h
    -- It is the last one to be registered.
    have hlast : Registry.standard = Registry.register
        ([Registry.lowercase, Registry.uppercase, Registry.encodeUriComponent].foldl
          Registry.register []) Registry.disableUriEncoding := rfl
    rw [hlast, Registry.get?_register]
    exact if_pos h.symm

/-- A step switches the encoding off exactly if the registry finds that function for its name. -/
theorem disablesEncoding_function_iff {name : Text} :
    Modification.disablesEncoding (.function name) = true ↔
      Registry.standard.get? name = some Registry.disableUriEncoding := by
  have hlower : asciiLower disableEncodingName = disableEncodingName := by decide
  rw [Modification.disablesEncoding, sameAsciiLetters_iff, hlower, get?_eq_disableUriEncoding_iff]

/-- Only the name of a function can switch the encoding off. -/
theorem exists_of_disablesEncoding {m : Modification} (h : m.disablesEncoding = true) :
    ∃ name, m = .function name ∧
      Registry.standard.get? name = some Registry.disableUriEncoding := by
  cases m with
  | function name => exact ⟨name, rfl, disablesEncoding_function_iff.1 h⟩
  | _ => simp [Modification.disablesEncoding] at h

/-- A step that switches the encoding off gives back every text. -/
theorem apply_of_disablesEncoding {m : Modification} (h : m.disablesEncoding = true) (t : Text) :
    m.apply Registry.standard t = t := by
  obtain ⟨name, rfl, hname⟩ := exists_of_disablesEncoding h
  rw [Modification.apply, Registry.apply, hname]
  rfl

/-- A step for the encoding encodes. -/
theorem apply_encodeUriComponent {name : Text}
    (h : sameAsciiLetters name Registry.encodeUriComponent.name = true) (t : Text) :
    Modification.apply Registry.standard t (.function name) = Text.encodeComponent t := by
  rw [Modification.apply, Registry.apply, Registry.get?_of_sameAsciiLetters _ h]
  rfl

/-- It does not switch the encoding off. -/
theorem disablesEncoding_encodeUriComponent {name : Text}
    (h : sameAsciiLetters name Registry.encodeUriComponent.name = true) :
    Modification.disablesEncoding (.function name) = false := by
  rw [← Bool.not_eq_true, disablesEncoding_function_iff, get?_eq_disableUriEncoding_iff,
    sameAsciiLetters_iff.1 h]
  decide

/-! ### Rendered texts -/

/-- A chain switches the encoding off if the registry finds that function for one of its names. -/
theorem Chain.disablesEncoding_iff {chain : Chain} :
    chain.disablesEncoding = true ↔ ∃ name, .function name ∈ chain ∧
      Registry.standard.get? name = some Registry.disableUriEncoding := by
  rw [Chain.disablesEncoding, List.any_eq_true]
  constructor
  · rintro ⟨m, hm, hdisables⟩
    obtain ⟨name, rfl, hname⟩ := exists_of_disablesEncoding hdisables
    exact ⟨name, hm, hname⟩
  · rintro ⟨name, hm, hname⟩
    exact ⟨_, hm, disablesEncoding_function_iff.2 hname⟩

section
variable (registry : Registry) {chain : Chain} (t : Text)

/-- With the encoding switched off, the result of a chain is left as it is. -/
theorem render_of_disablesEncoding (h : chain.disablesEncoding = true) (encode : Bool) :
    render registry encode chain t = chain.apply registry t := by
  rw [render, h, Bool.not_true, Bool.and_false, if_neg Bool.false_ne_true]

/-- Otherwise it is encoded. -/
theorem render_of_not_disablesEncoding (h : chain.disablesEncoding = false) :
    render registry true chain t = Text.encodeComponent (chain.apply registry t) := by
  rw [render, h, Bool.not_false, Bool.and_self, if_pos rfl]

end

section
variable {chain : Chain} {encodes : Text} (t : Text)

/-- Without the steps that switch the encoding off, and without an encoding, a chain gives the
same. -/
theorem render_filter (h : chain.disablesEncoding = true) :
    render Registry.standard true chain t
      = render Registry.standard false (chain.filter fun m => !m.disablesEncoding) t := by
  have hsame : ∀ m ∈ chain, (!m.disablesEncoding) = false →
      ∀ t, m.apply Registry.standard t = t :=
    fun m _ hm => apply_of_disablesEncoding (by simpa using hm)
  rw [render_of_disablesEncoding _ t h, ← Chain.apply_filter hsame t]
  rfl

/-- With an encoding of its own in front of the switch a chain gives what it gives without both. -/
theorem render_append_switched (h : chain.disablesEncoding = false)
    (hencodes : sameAsciiLetters encodes Registry.encodeUriComponent.name = true) {m : Modification}
    (hm : m.disablesEncoding = true) :
    render Registry.standard true (chain ++ [.function encodes, m]) t
      = render Registry.standard true chain t := by
  -- The switch counts for the whole chain, so only the step for the encoding encodes.
  have hoff : Chain.disablesEncoding (chain ++ [.function encodes, m]) = true := by
    simp [Chain.disablesEncoding, hm]
  calc render Registry.standard true (chain ++ [.function encodes, m]) t
      = Chain.apply Registry.standard [.function encodes, m] (chain.apply Registry.standard t) := by
        rw [render_of_disablesEncoding _ t hoff, Chain.apply_append]
    _ = m.apply Registry.standard (Text.encodeComponent (chain.apply Registry.standard t)) := by
        rw [Chain.apply_cons, apply_encodeUriComponent hencodes]
        rfl
    _ = Text.encodeComponent (chain.apply Registry.standard t) := apply_of_disablesEncoding hm _
    _ = render Registry.standard true chain t := (render_of_not_disablesEncoding _ t h).symm

/-- With an encoding of its own and no switch a chain gives a text that is encoded twice. -/
theorem render_append_encoded (h : chain.disablesEncoding = false)
    (hencodes : sameAsciiLetters encodes Registry.encodeUriComponent.name = true) :
    render Registry.standard true (chain ++ [.function encodes]) t
      = Text.encodeComponent (Text.encodeComponent (chain.apply Registry.standard t)) := by
  have hon : Chain.disablesEncoding (chain ++ [.function encodes]) = false := by
    rw [Chain.disablesEncoding, List.any_append, List.any_cons, List.any_nil,
      disablesEncoding_encodeUriComponent hencodes, Bool.or_false, Bool.or_false]
    exact h
  rw [render_of_not_disablesEncoding _ t hon, Chain.apply_append, Chain.apply_cons,
    apply_encodeUriComponent hencodes]
  rfl

end

/-- **The switch for the encoding**, with the standard registry.

* A step switches the encoding off exactly if the registry finds the function of this purpose for
  its name, and a chain does if one of its steps does.
* A chain with such steps gives what it gives without them when nothing is encoded.
* A chain without such steps can encode its own result: with a step for the encoding and one for
  the switch behind it, nothing changes. With the first of them alone, the result is encoded
  twice. -/
theorem encoding_switch (chain : Chain) (t : Text) :
    (∀ name, Modification.disablesEncoding (.function name) = true ↔
      Registry.standard.get? name = some Registry.disableUriEncoding) ∧
    (chain.disablesEncoding = true ↔ ∃ name, .function name ∈ chain ∧
      Registry.standard.get? name = some Registry.disableUriEncoding) ∧
    (chain.disablesEncoding = true →
      render Registry.standard true chain t
        = render Registry.standard false (chain.filter fun m => !m.disablesEncoding) t) ∧
    (chain.disablesEncoding = false → ∀ encodes disables : Text,
      sameAsciiLetters encodes "encodeuricomponent".toList = true →
      sameAsciiLetters disables "disableuriencoding".toList = true →
        render Registry.standard true (chain ++ [.function encodes, .function disables]) t
            = render Registry.standard true chain t ∧
          render Registry.standard true (chain ++ [.function encodes]) t
            = Text.encodeComponent (Text.encodeComponent (chain.apply Registry.standard t))) := by
  refine ⟨fun _ => disablesEncoding_function_iff, Chain.disablesEncoding_iff, render_filter t,
    fun hchain encodes disables hencodes hdisables => ⟨?_, render_append_encoded t hchain hencodes⟩⟩
  have hswitch : Modification.disablesEncoding (.function disables) = true := hdisables
  exact render_append_switched t hchain hencodes hswitch

/-- The switch works in any spelling, at any place and more than once, and an encoding of its own
is one too many without it. -/
theorem encoding_switch_spellings :
    let switched : Chain := [.function "DisableURIEncoding".toList, .function "uppercase".toList,
      .function "disableuriencoding".toList]
    let plain : Chain := [.slice none (some (-1))]
    switched.disablesEncoding = true ∧ plain.disablesEncoding = false ∧
      render Registry.standard true switched "a b".toList = "A B".toList ∧
      render Registry.standard true
          (plain ++ [.function "encodeURIComponent".toList, .function "DISABLEURIENCODING".toList])
          "a b".toList
        = "a%20".toList ∧
      render Registry.standard true (plain ++ [.function "encodeURIComponent".toList]) "a b".toList
        = "a%2520".toList := by
  intro switched plain
  have hswitched : switched.disablesEncoding = true := by decide
  have hplain : plain.disablesEncoding = false := by decide
  obtain ⟨-, -, hremove, -⟩ := encoding_switch switched "a b".toList
  obtain ⟨hown, htwice⟩ := (encoding_switch plain "a b".toList).2.2.2 hplain
    "encodeURIComponent".toList "DISABLEURIENCODING".toList (by decide) (by decide)
  refine ⟨hswitched, hplain, (hremove hswitched).trans ?_, hown.trans ?_, htwice.trans ?_⟩
  · decide +kernel
  · decide +kernel
  · decide +kernel

end SearchLink.Template
