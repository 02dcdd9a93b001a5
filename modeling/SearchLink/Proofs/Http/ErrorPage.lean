import SearchLink.Http.Response
import SearchLink.Proofs.Http.Entities

/-!
# `SearchLink.Proofs.Http.ErrorPage`: what a failure can write into its page

The page of a failure echoes texts of its reader, such as an alias that no engine has. Its
message is escaped by four replacements one after another. `escapeNamed_eq` says that they are a
single pass by the table `namedTable`: the ampersand is replaced first, and none of the others
occurs in an entity.

So all that holds of such tables holds of a message in a page. `errorPage_escaped` puts it
together: the markup of a page is that of its fixed parts, and the message can be read back from
it.
-/

set_option autoImplicit false

namespace SearchLink.Http

/-- The entities of a message. -/
def Markup.namedTable : Markup.Entities where
  entries := [('&', "&amp;".toList), ('<', "&lt;".toList), ('>', "&gt;".toList),
    ('"', "&quot;".toList)]
  ampersand := by decide
  form := by decide +kernel
  apart := by decide +kernel

/-- Four replacements one after another are one pass by the table. -/
theorem Markup.escapeNamed_eq (t : Text) : Markup.escapeNamed t = Markup.namedTable.escape t := by
  have hpairs : Markup.namedTable.entries.Pairwise fun e f => f.1 ≠ e.1 ∧ f.1 ∉ e.2 := by
    decide +kernel
  exact Markup.foldl_replaceAll hpairs t

namespace Failure

/-- The characters that make markup of a text. -/
def markupChars : List Char := ['<', '>', '"']

/-- Each of them has an entity. -/
theorem all_markupChars :
    markupChars.all (fun c => (Markup.namedTable.entity? c).isSome && c ≠ '&') = true := by
  decide +kernel

/-- The first letter of the wording tells the kind of a failure. -/
theorem head?_message (f : Failure) :
    f.message.head? = some (match f with
      | .templateRender _ => 'T'
      | .notFound _ => 'N'
      | .badRequest _ => 'B') := by
  cases f <;> rfl

/-- The wording tells which failure it is. -/
theorem message_inj {f g : Failure} (h : f.message = g.message) : f = g := by
  have hfirst := congrArg List.head? h
  rw [head?_message, head?_message] at hfirst
  cases f <;> cases g
  case templateRender.templateRender => rw [List.append_cancel_left h]
  case notFound.notFound => rw [List.append_cancel_left h]
  case badRequest.badRequest => rw [List.append_cancel_left h]
  all_goals simp at hfirst

/-- A status is written with three digits. -/
theorem ofNatural_status (f : Failure) :
    Text.ofNatural f.status = match f with
      | .templateRender _ => ['5', '0', '0']
      | .notFound _ => ['4', '0', '4']
      | .badRequest _ => ['4', '0', '0'] := by
  have hdigits : [500, 404, 400].map Text.ofNatural
      = [['5', '0', '0'], ['4', '0', '4'], ['4', '0', '0']] := by
    decide +kernel
  simp only [List.map_cons, List.map_nil, List.cons.injEq, and_true] at hdigits
  cases f with
  | templateRender m => exact hdigits.1
  | notFound m => exact hdigits.2.1
  | badRequest m => exact hdigits.2.2

/-- No two failures have the same page. -/
theorem page_inj {f g : Failure} (h : f.page = g.page) : f = g := by
  simp only [page, List.append_assoc] at h
  have hstatus := List.append_cancel_left h
  have hlength : (Text.ofNatural f.status).length = (Text.ofNatural g.status).length := by
    rw [ofNatural_status, ofNatural_status]
    cases f <;> cases g <;> rfl
  obtain ⟨-, hrest⟩ := List.append_inj hstatus hlength
  have hmessage := List.append_cancel_right (List.append_cancel_left hrest)
  rw [Markup.escapeNamed_eq, Markup.escapeNamed_eq] at hmessage
  exact message_inj (Markup.Entities.escape_inj hmessage)

/-- The markup of a page is that of its fixed parts. -/
theorem filter_page (f : Failure) :
    f.page.filter markupChars.contains
      = (pageHead ++ pageMiddle ++ pageTail).filter markupChars.contains := by
  have hstatus : (Text.ofNatural f.status).filter markupChars.contains = [] := by
    rw [ofNatural_status]
    cases f <;> rfl
  have hmessage : (Markup.escapeNamed f.message).filter markupChars.contains = [] := by
    rw [Markup.escapeNamed_eq]
    exact Markup.Entities.filter_escape all_markupChars _
  simp only [page, List.filter_append, hstatus, hmessage, List.append_nil]

/-- **The page of a failure.** Escaping a text is one pass in which the four characters are
replaced by their entities. The result holds none of `<`, `>` and `"`, each ampersand in it begins
one of the entities, and one pass from left to right reads the text back. The response to a
failure is the fixed page with its escaped wording in the paragraph. Each character of markup in
it is one of the fixed parts, and two failures with the same page are the same, so two of one kind
have the same message. -/
theorem errorPage_escaped (t : Text) (f : Failure) :
    Markup.escapeNamed t = Markup.namedTable.escape t ∧
    (∀ c ∈ markupChars, c ∉ Markup.escapeNamed t) ∧
    (∀ before after, Markup.escapeNamed t = before ++ '&' :: after →
      ∃ e ∈ Markup.namedTable.entries, e.2 <+: '&' :: after) ∧
    Markup.namedTable.unescape (Markup.escapeNamed t) = t ∧
    f.response.body
      = pageHead ++ Text.ofNatural f.status ++ pageMiddle ++ Markup.namedTable.escape f.message ++
          pageTail ∧
    f.response.body.filter markupChars.contains
      = (pageHead ++ pageMiddle ++ pageTail).filter markupChars.contains ∧
    ∀ g : Failure, g.response.body = f.response.body → g = f := by
  have hescape := Markup.escapeNamed_eq t
  refine ⟨hescape, ?_, ?_, ?_, ?_, filter_page f, fun g hbody => page_inj hbody⟩
  · intro c hc
    rw [hescape]
    exact Markup.Entities.not_mem_escape all_markupChars hc
  · intro before after heq
    exact Markup.Entities.exists_entity_of_escape_eq (hescape.symm.trans heq)
  · rw [hescape]
    exact Markup.Entities.unescape_escape _ t
  · rw [← Markup.escapeNamed_eq]
    rfl

/-- An entity in a message is not taken for the character that it stands for. -/
theorem errorPage_escaped_entity :
    Markup.escapeNamed "&lt;<\"".toList = "&amp;lt;&lt;&quot;".toList ∧
      Markup.namedTable.unescape "&amp;lt;&lt;&quot;".toList = "&lt;<\"".toList ∧
      (∃ e ∈ Markup.namedTable.entries, e.2 <+: "&lt;&quot;".toList) ∧
      '<' ∉ Markup.escapeNamed "&lt;<\"".toList ∧
      (Failure.notFound "&lt;".toList).response.body
        ≠ (Failure.notFound "<".toList).response.body := by
  have hwritten : Markup.escapeNamed "&lt;<\"".toList = "&amp;lt;&lt;&quot;".toList := by
    rw [Markup.escapeNamed_eq]
    decide +kernel
  obtain ⟨-, hsafe, hentities, hread, -, -, hpages⟩ :=
    errorPage_escaped "&lt;<\"".toList (.notFound "<".toList)
  refine ⟨hwritten, hwritten ▸ hread, hentities "&amp;lt;".toList _ hwritten,
    hsafe '<' (by decide), fun hsame => ?_⟩
  exact absurd (hpages _ hsame) (by decide)

end Failure

end SearchLink.Http
