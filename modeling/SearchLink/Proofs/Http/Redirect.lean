import SearchLink.Http.Service
import SearchLink.Proofs.Http.Query

/-!
# `SearchLink.Proofs.Http.Redirect`: a search from its target to its answer

`searchTarget` is the target of a search as a browser writes it. `respond_searchTarget`
follows it through the service: the target reads, the query gives back the three texts, and
the answer depends on the engine and the page alone. A search that succeeds always answers
with a location. `IsLocationFor` says what that is: the URL with escapes for what a header
cannot hold, and nothing more.
-/

set_option autoImplicit false

namespace SearchLink.Http

/-- The target of a search for a selection made on a page. -/
def searchTarget (key selection page : Text) : Text :=
  "/search?engine=".toList ++ Text.encodeComponent key ++
    "&text=".toList ++ Text.encodeComponent selection ++
    "&page=".toList ++ Text.encodeComponent page

/-- What a header says to send the reader on to a URL. -/
structure IsLocationFor (url location : Text) : Prop where
  /-- Control characters, blanks and all that is not ASCII are written as `%XX` for each of
  their bytes, and nothing else is changed. -/
  escaped : location = url.flatMap fun c =>
    if c.toNat < 0x20 ∨ 0x7F ≤ c.toNat ∨ c = ' ' then
      (String.utf8EncodeChar c).flatMap Text.percentByte
    else [c]
  /-- The result holds visible ASCII characters alone. -/
  visible : ∀ c ∈ location, 0x21 ≤ c.toNat ∧ c.toNat ≤ 0x7E
  /-- It stands for the same bytes as the URL. -/
  decoded : Text.decodeBytes location = Text.decodeBytes url
  /-- Escaping it once more changes nothing. -/
  stable : Response.headerUrl location = location

/-! ### Locations -/

/-- What cannot stand in a header, in terms of code points. -/
theorem isUnsafeInHeader_iff {c : Char} :
    Response.isUnsafeInHeader c = true ↔ c.toNat < 0x20 ∨ 0x7F ≤ c.toNat ∨ c = ' ' := by
  simp only [Response.isUnsafeInHeader, Host.isControl, Bool.or_eq_true, decide_eq_true_eq,
    or_assoc]

/-- What can stand in a header are the visible characters of ASCII. -/
theorem isUnsafeInHeader_eq_false_iff {c : Char} :
    Response.isUnsafeInHeader c = false ↔ 0x21 ≤ c.toNat ∧ c.toNat ≤ 0x7E := by
  have hblank : c = ' ' ↔ c.toNat = 0x20 := by
    constructor
    · rintro rfl
      rfl
    · intro heq
      rw [← Char.ofNat_toNat c, heq]
  rw [← Bool.not_eq_true, isUnsafeInHeader_iff, hblank]
  omega

/-- A hexadecimal digit can stand in a header. -/
theorem isUnsafeInHeader_eq_false_of_hexValue? (c : Char) (h : (Text.hexValue? c).isSome) :
    Response.isUnsafeInHeader c = false := by
  have hrange : 48 ≤ c.toNat ∧ c.toNat ≤ 102 := by
    simp only [Text.hexValue?, Bool.and_eq_true, decide_eq_true_eq] at h
    split at h
    · omega
    · split at h
      · omega
      · split at h
        · omega
        · simp at h
  exact isUnsafeInHeader_eq_false_iff.2 (by omega)

/-- All that is written for a header can stand in one. -/
theorem visible_of_mem_headerUrl {url : Text} {c : Char} (h : c ∈ Response.headerUrl url) :
    0x21 ≤ c.toNat ∧ c.toNat ≤ 0x7E := by
  rcases Text.mem_encodeWhere h with ⟨-, hsafe⟩ | rfl | halnum
  · exact isUnsafeInHeader_eq_false_iff.1 hsafe
  · decide
  · have hrange := Text.toNat_of_isAlphanum halnum
    omega

/-- The location of a redirection is one for its URL. -/
theorem isLocationFor_headerUrl (url : Text) : IsLocationFor url (Response.headerUrl url) where
  escaped := by
    simp only [Response.headerUrl, Text.encodeWhere, isUnsafeInHeader_iff]
    rfl
  visible _ hc := visible_of_mem_headerUrl hc
  decoded := Text.decodeBytes_encodeWhere (by decide) isUnsafeInHeader_eq_false_of_hexValue? url
  stable := Text.encodeWhere_eq_self fun _ hc =>
    isUnsafeInHeader_eq_false_iff.2 (visible_of_mem_headerUrl hc)

/-- A URL can always be redirected to: what is escaped for a header fits into one. -/
theorem redirect_eq (url : Text) :
    Response.redirect url = { status := 303, location := some (Response.headerUrl url) } := by
  have hfits : (Response.headerUrl url).all Response.isHeaderChar = true := by
    rw [List.all_eq_true]
    intro c hc
    have hvisible := visible_of_mem_headerUrl hc
    simp only [Response.isHeaderChar, Bool.or_eq_true, Bool.and_eq_true, decide_eq_true_eq]
    exact .inr ⟨by omega, by omega⟩
  rw [Response.redirect, hfits, if_pos rfl]

/-! ### Targets -/

/-- A path and a query are read off the text of both. -/
theorem readPath_append {path query : Text} (hpath : ∀ c ∈ path, Target.isPathChar c = true)
    (hquery : ∀ c ∈ query, Target.isQueryChar c = true) :
    Target.readPath (path ++ '?' :: query)
      = .ok { path := if path.isEmpty then ['/'] else path, query } := by
  -- Neither mark that ends a part stands in it.
  have hends : ∀ c ∈ path, (!(decide (c = '?') || decide (c = '#'))) = true := by
    intro c hc
    have hquestion : c ≠ '?' := by
      rintro rfl
      exact absurd (hpath _ hc) (by decide)
    have hhash : c ≠ '#' := by
      rintro rfl
      exact absurd (hpath _ hc) (by decide)
    simp [hquestion, hhash]
  have hhash : ∀ c ∈ query, decide (c ≠ '#') = true := by
    intro c hc
    have hne : c ≠ '#' := by
      rintro rfl
      exact absurd (hquery _ hc) (by decide)
    simpa using hne
  have htake : (path ++ '?' :: query).takeWhile (fun c => !(decide (c = '?') || decide (c = '#')))
      = path := by
    rw [List.takeWhile_append_of_pos hends]
    simp
  have hdrop : (path ++ '?' :: query).dropWhile (fun c => !(decide (c = '?') || decide (c = '#')))
      = '?' :: query := by
    rw [List.dropWhile_append_of_pos hends]
    simp
  have hwhole : query.takeWhile (· ≠ '#') = query := by
    have happend : (query ++ []).takeWhile (fun c => decide (c ≠ '#')) = query ++ _ :=
      List.takeWhile_append_of_pos hhash
    simpa using happend
  have hall : (path.all Target.isPathChar && query.all Target.isQueryChar) = true := by
    rw [Bool.and_eq_true, List.all_eq_true, List.all_eq_true]
    exact ⟨hpath, hquery⟩
  simp only [Target.readPath, htake, hdrop, hwhole, hall, if_true]
  rfl

/-- What a component is written with can stand in a query. -/
theorem isQueryChar_of_isComponentChar {c : Char} (h : Text.isComponentChar c = true) :
    Target.isQueryChar c = true := by
  have hmarks : ['-', '_', '.', '!', '~', '*', '\x27', '(', ')', '%'].all Target.isQueryChar
      = true := by
    decide
  have hcases : c.isAlphanum = true ∨
      c ∈ ['-', '_', '.', '!', '~', '*', '\x27', '(', ')', '%'] := by
    simpa [Text.isComponentChar, Text.isUnreserved, or_assoc] using h
  rcases hcases with halnum | hmark
  · simp [Target.isQueryChar, Target.isCommonChar, halnum]
  · exact List.all_eq_true.1 hmarks c hmark

/-- The query of a search. -/
theorem searchTarget_eq (key selection page : Text) :
    searchTarget key selection page
      = "/search".toList ++ '?' :: writeFields [("engine".toList, key),
          ("text".toList, selection), ("page".toList, page)] := by
  have hnames : ["engine".toList, "text".toList, "page".toList].map Text.encodeComponent
      = ["engine".toList, "text".toList, "page".toList] := by
    decide +kernel
  simp only [List.map_cons, List.map_nil, List.cons.injEq, and_true] at hnames
  obtain ⟨hengine, htext, hpage⟩ := hnames
  -- The marks between the parts, said of any texts: the literals need not be taken apart.
  have hshape : ∀ path e t p a b c : Text,
      (path ++ '?' :: (e ++ ['='])) ++ a ++ ('&' :: (t ++ ['='])) ++ b ++ ('&' :: (p ++ ['='])) ++ c
        = path ++ '?' :: (e ++ '=' :: a ++ '&' :: (t ++ '=' :: b ++ '&' :: (p ++ '=' :: c))) := by
    simp
  simp only [writeFields_cons_cons, writeFields_singleton, writeField, hengine, htext, hpage]
  exact hshape "/search".toList "engine".toList "text".toList "page".toList _ _ _

/-- What fields are written with can stand in a query. -/
theorem isQueryChar_of_mem_writeFields {fields : List (Text × Text)} {c : Char}
    (h : c ∈ writeFields fields) : Target.isQueryChar c = true := by
  have hcomponent : ∀ t, c ∈ Text.encodeComponent t → Target.isQueryChar c = true :=
    fun t hc => isQueryChar_of_isComponentChar (Text.mem_encodeComponent hc)
  have hfield : ∀ field, c ∈ writeField field → Target.isQueryChar c = true := by
    intro field hc
    rcases List.mem_append.1 hc with hc | hc
    · exact hcomponent _ hc
    · rcases List.mem_cons.1 hc with rfl | hc
      · decide
      · exact hcomponent _ hc
  induction fields with
  | nil => simp [writeFields] at h
  | cons field fields ih =>
    cases fields with
    | nil => exact hfield field (writeFields_singleton field ▸ h)
    | cons field' fields =>
      rw [writeFields_cons_cons, List.mem_append, List.mem_cons] at h
      rcases h with h | rfl | h
      · exact hfield field h
      · decide
      · exact ih h

/-! ### Searches -/

/-- The request of a search. -/
def searchRequest (key selection page : Text) : Request :=
  ⟨"GET".toList, "/search".toList,
    writeFields [("engine".toList, key), ("text".toList, selection), ("page".toList, page)]⟩

section
variable {c : Catalog} {key selection page : Text}

/-- A search is read from its target, unless that is too long. -/
theorem parse_searchTarget
    (hsize : (searchTarget key selection page).utf8Size ≤ Target.maxSize) :
    Request.parse "GET".toList (searchTarget key selection page)
      = .ok (searchRequest key selection page) := by
  have hpath : "/search".toList.all Target.isPathChar = true := by decide
  have htarget : Target.parse (searchTarget key selection page)
      = Target.readPath (searchTarget key selection page) := by
    obtain ⟨r, hr⟩ : ∃ r, searchTarget key selection page = '/' :: 's' :: r := ⟨_, rfl⟩
    unfold Target.parse
    rw [if_neg (Nat.not_lt.2 hsize), hr]
    rfl
  have hmethod : ("GET".toList.isEmpty || !"GET".toList.all Request.isMethodChar) = false := by
    decide
  rw [Request.parse, htarget, searchTarget_eq,
    readPath_append (List.all_eq_true.1 hpath) fun c hc => isQueryChar_of_mem_writeFields hc,
    hmethod]
  rfl

/-- The request of a search goes to the search, with the texts that it was written for. -/
theorem respond_searchRequest :
    Service.respond c (searchRequest key selection page)
      = Service.search c (writeFields
          [("engine".toList, key), ("text".toList, selection), ("page".toList, page)]) := rfl

/-- A search that leads to a URL is answered with that URL. -/
theorem respond_of_searchUrl_eq_ok {url : Text}
    (h : Service.searchUrl c ⟨key, selection, some page⟩ = .ok url) :
    Service.respond c (searchRequest key selection page) = .redirect url := by
  simp only [respond_searchRequest, Service.search, SearchQuery.parse_writeFields, h]

/-- A search that fails is answered with its failure. -/
theorem respond_of_searchUrl_eq_error {failure : Failure}
    (h : Service.searchUrl c ⟨key, selection, some page⟩ = .error failure) :
    Service.respond c (searchRequest key selection page) = failure.response := by
  simp only [respond_searchRequest, Service.search, SearchQuery.parse_writeFields, h]

end

/-- An alias that no engine has is not found. -/
theorem get?_eq_none {c : Catalog} {key : Text} (h : key ∉ c.engines.map Engine.key) :
    c.get? key = none := by
  rw [Catalog.get?, List.find?_eq_none]
  intro e he hkey
  exact h (List.mem_map.2 ⟨e, he, by simpa using hkey⟩)

/-- An alias that an engine has leads to such an engine. -/
theorem exists_get?_eq_some {c : Catalog} {key : Text} (h : key ∈ c.engines.map Engine.key) :
    ∃ e ∈ c.engines, e.key = key ∧ c.get? key = some e := by
  obtain ⟨e, he, hkey⟩ := List.mem_map.1 h
  obtain ⟨found, hfound⟩ := Option.isSome_iff_exists.1
    (List.find?_isSome.2 ⟨e, he, by simpa using hkey⟩ : (c.get? key).isSome)
  exact ⟨found, List.mem_of_find?_eq_some hfound, by simpa using List.find?_some hfound, hfound⟩

/-- A page whose URL is not empty is the one that the URL parses as. -/
theorem pageOf_of_ne_nil {key selection page : Text} (h : page ≠ []) :
    Service.pageOf ⟨key, selection, some page⟩ = (Page.parse page).map some := by
  cases page with
  | nil => exact absurd rfl h
  | cons ch r => rfl

/-- **A search from its target to its answer.** For every catalog, alias, selection and page,
`GET` on the target of the search is a request, unless the target is too long for one. An
alias that no engine has is answered with 404, whatever the page. With the alias of an engine,
a page whose URL does not parse is answered with 400, and all else with 303 and a location for
the URL that the engine builds, without a page if its URL is empty. -/
theorem respond_searchTarget (c : Catalog) (key selection page : Text)
    (hsize : (searchTarget key selection page).utf8Size ≤ Target.maxSize) :
    ∃ r, Request.parse "GET".toList (searchTarget key selection page) = .ok r ∧
      (key ∉ c.engines.map Engine.key → (Service.respond c r).status = 404) ∧
      (key ∈ c.engines.map Engine.key →
        ∃ e ∈ c.engines, e.key = key ∧ c.get? key = some e ∧
          (∀ error, page ≠ [] → Page.parse page = .error error →
            (Service.respond c r).status = 400) ∧
          ∀ context : Option Page,
            (page = [] ∧ context = none) ∨
              (page ≠ [] ∧ (Page.parse page).map some = .ok context) →
            (Service.respond c r).status = 303 ∧
              ∃ location, (Service.respond c r).location = some location ∧
                IsLocationFor (e.buildUrl selection context) location) := by
  refine ⟨searchRequest key selection page, parse_searchTarget hsize, fun hunknown => ?_,
    fun hknown => ?_⟩
  · have hfails : ∃ message, Service.searchUrl c ⟨key, selection, some page⟩
        = .error (.notFound message) := by
      simp only [Service.searchUrl, get?_eq_none hunknown]
      exact ⟨_, rfl⟩
    obtain ⟨message, hfails⟩ := hfails
    rw [respond_of_searchUrl_eq_error hfails]
    rfl
  · obtain ⟨e, he, hkey, hget⟩ := exists_get?_eq_some hknown
    refine ⟨e, he, hkey, hget, fun error hpage herror => ?_, fun context hcontext => ?_⟩
    · have hbad : Service.pageOf ⟨key, selection, some page⟩ = .error error := by
        rw [pageOf_of_ne_nil hpage, herror]
        rfl
      have hfails : ∃ message, Service.searchUrl c ⟨key, selection, some page⟩
          = .error (.badRequest message) := by
        simp only [Service.searchUrl, hget, hbad]
        exact ⟨_, rfl⟩
      obtain ⟨message, hfails⟩ := hfails
      rw [respond_of_searchUrl_eq_error hfails]
      rfl
    · have hpage : Service.pageOf ⟨key, selection, some page⟩ = .ok context := by
        rcases hcontext with ⟨rfl, rfl⟩ | ⟨hne, hparse⟩
        · rfl
        · rw [pageOf_of_ne_nil hne, hparse]
      have hurl : Service.searchUrl c ⟨key, selection, some page⟩
          = .ok (e.buildUrl selection context) := by
        simp only [Service.searchUrl, hget, hpage]
      rw [respond_of_searchUrl_eq_ok hurl, redirect_eq]
      exact ⟨rfl, _, rfl, isLocationFor_headerUrl _⟩

/-- A selection with half an escape in front of a letter that is escaped, in a template that
takes it as it is. -/
theorem respond_searchTarget_half_escape :
    let c : Catalog := ⟨[⟨"a&b".toList, ['A'],
      "/?q=\x7bsearchTerms(disableuriencoding)\x7d".toList, none, true⟩]⟩
    let target := searchTarget "a&b".toList "%4é x".toList []
    target = "/search?engine=a%26b&text=%254%C3%A9%20x&page=".toList ∧
      target.utf8Size ≤ Target.maxSize ∧ "a&b".toList ∈ c.engines.map Engine.key ∧
      ∃ r location, Request.parse "GET".toList target = .ok r ∧
        (Service.respond c r).status = 303 ∧ (Service.respond c r).location = some location ∧
        location = "/?q=%4%C3%A9%20x".toList ∧
        Text.decodeBytes location = Text.decodeBytes "/?q=%4é x".toList := by
  intro c target
  have hsize : target.utf8Size ≤ Target.maxSize := by decide +kernel
  have hknown : "a&b".toList ∈ c.engines.map Engine.key := by decide
  obtain ⟨r, hr, -, hanswer⟩ := respond_searchTarget c "a&b".toList "%4é x".toList [] hsize
  obtain ⟨e, he, -, -, -, hredirect⟩ := hanswer hknown
  obtain rfl := List.mem_singleton.1 he
  obtain ⟨hstatus, location, hlocation, hfor⟩ := hredirect none (.inl ⟨rfl, rfl⟩)
  have hurl : Engine.buildUrl ⟨"a&b".toList, ['A'],
      "/?q=\x7bsearchTerms(disableuriencoding)\x7d".toList, none, true⟩ "%4é x".toList none
        = "/?q=%4é x".toList := by
    decide +kernel
  rw [hurl] at hfor
  exact ⟨by decide +kernel, hsize, hknown, r, location, hr, hstatus, hlocation, hfor.escaped.trans
    (by decide +kernel), hfor.decoded⟩

end SearchLink.Http
